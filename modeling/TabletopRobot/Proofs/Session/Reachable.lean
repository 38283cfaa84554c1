import TabletopRobot.Proofs.Session.Execution

/-!
The sessions that calls lead to, in any order and with any number of batches at once.

Whatever happened before the last fresh start is forgotten: the robot, the journal and the
output are those of a new session that executes the lines since then.
-/

namespace TabletopRobot

def Step.isApplied : Step → Bool
  | applied _ => true
  | _ => false

/-- The line that a step takes off a batch, if it applies one. -/
def Session.consumed (s : Session) (b : Batch) : List String :=
  if (s.step b).1.isApplied then b.pending.take 1 else []

/-- A session, the lines executed in it since its last fresh start, and the batches that it ever
began. A batch also stays at hand as it was before a step, as a copy of it would. -/
inductive Reachable : Session → List String → List Batch → Prop
  | new : Reachable {} [] []
  | enter {s ls bs} (raw : String) (h : Reachable s ls bs) :
    Reachable (s.enter raw).2 (ls ++ queued [raw]) bs
  | runAll {s ls bs} (lines : List String) (h : Reachable s ls bs) :
    Reachable (s.runAll lines).2 (queued lines) bs
  | reset {s ls bs} (h : Reachable s ls bs) : Reachable s.reset [] bs
  | begin {s ls bs} (lines : List String) (h : Reachable s ls bs) :
    Reachable (s.begin lines).2 [] ((s.begin lines).1 :: bs)
  | step {s ls bs} {b : Batch} (hb : b ∈ bs) (h : Reachable s ls bs) :
    Reachable (s.step b).2.2 (ls ++ s.consumed b) ((s.step b).2.1 :: bs)
  | finish {s ls bs} {b : Batch} (hb : b ∈ bs) (h : Reachable s ls bs) :
    Reachable (s.finish b).2 ls bs

namespace Session

variable {s : Session} {b : Batch}

lemma consumed_stale (he : b.epoch ≠ s.epoch) : s.consumed b = [] := by
  rw [consumed, step_stale he]
  rfl

lemma consumed_cons (he : b.epoch = s.epoch) {l : String} {ls : List String}
    (hb : b.pending = l :: ls) : s.consumed b = [l] := by
  rw [consumed, step_cons he hb, hb]
  rfl

/-- A step executes the line that it takes, and at most clears the mark of the active batch. -/
lemma step_session (s : Session) (b : Batch) :
    ∃ a, (s.step b).2.2 = { s.executeAll (s.consumed b) with active := a } := by
  rcases step_cases s b with ⟨-, h⟩ | ⟨-, -, h⟩ | ⟨l, ls, he, hb, h⟩
  · exact ⟨s.active, by simp [consumed, h, Step.isApplied]⟩
  · exact ⟨none, by simp [consumed, h, Step.isApplied]⟩
  · rw [consumed_cons he hb, h]
    exact ⟨s.active, rfl⟩

lemma step_pending (s : Session) (b : Batch) :
    b.pending = s.consumed b ++ (s.step b).2.1.pending := by
  rcases step_cases s b with ⟨-, h⟩ | ⟨-, -, h⟩ | ⟨l, ls, he, hb, h⟩
  · simp [consumed, h, Step.isApplied]
  · simp [consumed, h, Step.isApplied]
  · rw [consumed_cons he hb, h, hb]
    rfl

lemma finish_session (s : Session) (b : Batch) :
    ∃ a, (s.finish b).2 = { s with active := a } := by
  rw [finish]
  split
  · exact ⟨none, rfl⟩
  · exact ⟨s.active, rfl⟩

/-- The session has the robot, the journal and the output of a new one after `ls`. -/
def Holds (s : Session) (ls : List String) : Prop :=
  ∃ e a, s = { ({} : Session).executeAll ls with epoch := e, active := a }

lemma Holds.executeAll {ls : List String} (h : s.Holds ls) (ms : List String) :
    (s.executeAll ms).Holds (ls ++ ms) := by
  obtain ⟨e, a, rfl⟩ := h
  exact ⟨e, a, by rw [executeAll_append, executeAll_frame]⟩

lemma Holds.withActive {ls : List String} (h : s.Holds ls) (a : Option Nat) :
    ({ s with active := a } : Session).Holds ls := by
  obtain ⟨e, a', rfl⟩ := h
  exact ⟨e, a, rfl⟩

/-- The lines determine all but the epoch and the active batch. -/
lemma Holds.agree {t : Session} {ls : List String} (hs : s.Holds ls) (ht : t.Holds ls) :
    s.robot = t.robot ∧ s.journal = t.journal ∧ s.output = t.output := by
  obtain ⟨e, a, rfl⟩ := hs
  obtain ⟨e', a', rfl⟩ := ht
  exact ⟨rfl, rfl, rfl⟩

lemma Holds.commands {ls : List String} (h : s.Holds ls) :
    s.journal.map Entry.command = ls.map normalize := by
  obtain ⟨e, a, rfl⟩ := h
  exact executeAll_commands {} ls

/-- What a new session has and a line keeps, all sessions have that came of lines, if the epoch
and the active batch do not matter. -/
lemma Holds.induction {P : Session → Prop} {ls : List String} (h : s.Holds ls) (hnew : P {})
    (hexecute : ∀ t raw, P t → P (t.execute raw))
    (hframe : ∀ t e a, P t → P { t with epoch := e, active := a }) : P s := by
  obtain ⟨e, a, rfl⟩ := h
  exact hframe _ e a (executeAll_induction {} hnew hexecute ls)

lemma holds_reset (s : Session) : s.reset.Holds [] := ⟨s.epoch + 1, none, rfl⟩

lemma holds_runAll (s : Session) (lines : List String) :
    (s.runAll lines).2.Holds (queued lines) := by
  rw [runAll_eq]
  exact (holds_reset s).executeAll _

end Session

open Session

/-- **The lines since the last fresh start make the session**, and no line that was executed or
waits in a batch is blank. -/
theorem Reachable.holds {s : Session} {ls : List String} {bs : List Batch}
    (h : Reachable s ls bs) :
    s.Holds ls ∧ (∀ l ∈ ls, isBlankLine l = false) ∧
      ∀ b ∈ bs, ∀ l ∈ b.pending, isBlankLine l = false := by
  induction h with
  | new => exact ⟨⟨0, none, rfl⟩, by simp, by simp⟩
  | @enter s ls bs raw _ ih =>
    obtain ⟨hs, hls, hbs⟩ := ih
    refine ⟨?_, ?_, hbs⟩
    · rw [enter_session]
      exact hs.executeAll _
    · exact List.forall_mem_append.mpr ⟨hls, fun l hl => (mem_queued.mp hl).2⟩
  | @runAll s ls bs lines _ ih =>
    exact ⟨holds_runAll s lines, fun l hl => (mem_queued.mp hl).2, ih.2.2⟩
  | @reset s ls bs _ ih => exact ⟨holds_reset s, by simp, ih.2.2⟩
  | @begin s ls bs lines _ ih =>
    refine ⟨(holds_reset s).withActive _, by simp, List.forall_mem_cons.mpr ⟨?_, ih.2.2⟩⟩
    exact fun l hl => (mem_queued.mp hl).2
  | @step s ls bs b hb _ ih =>
    obtain ⟨hs, hls, hbs⟩ := ih
    obtain ⟨a, ha⟩ := step_session s b
    have hpending := List.forall_mem_append.mp (step_pending s b ▸ hbs b hb)
    refine ⟨?_, ?_, ?_⟩
    · rw [ha]
      exact (hs.executeAll _).withActive a
    · exact List.forall_mem_append.mpr ⟨hls, hpending.1⟩
    · exact List.forall_mem_cons.mpr ⟨hpending.2, hbs⟩
  | @finish s ls bs b _ _ ih =>
    obtain ⟨a, ha⟩ := finish_session s b
    rw [ha]
    exact ⟨ih.1.withActive a, ih.2⟩

end TabletopRobot

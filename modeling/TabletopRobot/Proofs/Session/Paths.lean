import TabletopRobot.Proofs.Session.Reachable

/-!
Lines can be run as one batch, as a batch that is stepped until nothing is left of it, or one by
one after a reset. All three come to the same session.
-/

namespace TabletopRobot.Session

/-- Stepping the batch `b` until a step applies nothing leaves the session `t` and the batch
`c`. -/
inductive Drains : Session → Batch → Session → Batch → Prop
  | stop {s b} (h : (s.step b).1.isApplied = false) : Drains s b (s.step b).2.2 (s.step b).2.1
  | next {s b t c} (h : (s.step b).1.isApplied = true)
    (hrest : Drains (s.step b).2.2 (s.step b).2.1 t c) : Drains s b t c

/-- Lines entered one after another. -/
def enterAll (s : Session) (ls : List String) : Session := ls.foldl (fun s l => (s.enter l).2) s

variable {s : Session} {b : Batch}

/-! ### Stepping to the end -/

lemma Drains.unique {t t' : Session} {c c' : Batch} (h : Drains s b t c) (h' : Drains s b t' c') :
    t = t' ∧ c = c' := by
  induction h with
  | stop hstop =>
    cases h' with
    | stop => exact ⟨rfl, rfl⟩
    | next happlied => simp [hstop] at happlied
  | next happlied _ ih =>
    cases h' with
    | stop hstop => simp [hstop] at happlied
    | next _ hrest' => exact ih hrest'

/-- A current batch is drained by the execution of its lines. -/
lemma drains_current (h : b.epoch = s.epoch) :
    Drains s b { s.executeAll b.pending with active := none }
      ⟨b.epoch, [], b.applied + b.pending.length⟩ := by
  obtain ⟨e, ls, k⟩ := b
  dsimp only at h ⊢
  induction ls generalizing s k with
  | nil =>
    have hstep : s.step ⟨e, [], k⟩ = (.finished, ⟨e, [], k⟩, { s with active := none }) :=
      step_nil h rfl
    have hdrains := Drains.stop (s := s) (b := ⟨e, [], k⟩) (by rw [hstep]; rfl)
    rw [hstep] at hdrains
    exact hdrains
  | cons l ls ih =>
    have hstep : s.step ⟨e, l :: ls, k⟩ =
        (.applied (s.entryOf l), ⟨e, ls, k + 1⟩, s.execute l) := step_cons h rfl
    have hrest := ih (s := s.execute l) (k + 1) h
    have hcount : k + (l :: ls).length = k + 1 + ls.length := by
      rw [List.length_cons]
      omega
    rw [hcount, executeAll_cons]
    refine Drains.next (by rw [hstep]; rfl) ?_
    rw [hstep]
    exact hrest

/-- A batch that just began is drained to what a whole batch leaves before it is closed. -/
lemma drains_begin (s : Session) (lines : List String) :
    Drains (s.begin lines).2 (s.begin lines).1 (s.reset.executeAll (queued lines))
      ⟨s.epoch + 1, [], (queued lines).length⟩ := by
  have hdrains := drains_current (s := (s.begin lines).2) (b := (s.begin lines).1) rfl
  rw [executeAll_begin, begin_eq, Nat.zero_add] at hdrains
  exact hdrains

/-! ### Line by line -/

@[simp] lemma enterAll_nil (s : Session) : s.enterAll [] = s := rfl
@[simp] lemma enterAll_cons (s : Session) (l : String) (ls : List String) :
    s.enterAll (l :: ls) = (s.enter l).2.enterAll ls := rfl

/-- Blank lines aside, entering lines is executing them. -/
lemma enterAll_eq (s : Session) (ls : List String) : s.enterAll ls = s.executeAll (queued ls) := by
  induction ls generalizing s with
  | nil => rfl
  | cons l ls ih =>
    have hqueued : queued (l :: ls) = queued [l] ++ queued ls := queued_append [l] ls
    rw [enterAll_cons, ih, enter_session, hqueued, executeAll_append]

lemma length_queued (lines : List String) :
    (queued lines).length = lines.countP (!isBlankLine ·) := (List.countP_eq_length_filter).symm

/-- **Three ways to run lines.** From every session, whatever batches are open, running lines as
one batch is the same as a reset and entering them one by one, and the same as a batch that is
stepped until a step applies nothing and then closed. The session is idle afterwards, and its
robot, journal and output depend on the lines only. So lines that follow a batch may as well be
entered. -/
theorem run_paths_agree (s : Session) (lines : List String) :
    let began := s.begin lines
    let done := s.runAll lines
    done = (⟨s.epoch + 1, lines.countP (!isBlankLine ·), 0, false⟩, s.reset.enterAll lines) ∧
      ((∃ t c, Drains began.2 began.1 t c) ∧
        ∀ t c, Drains began.2 began.1 t c → t.finish c = done) ∧
      (done.2.epoch = s.epoch + 1 ∧ done.2.isRunning = false) ∧
      (∀ u : Session, (u.runAll lines).2.robot = done.2.robot ∧
        (u.runAll lines).2.journal = done.2.journal ∧
        (u.runAll lines).2.output = done.2.output) ∧
      ∀ more, (s.runAll (lines ++ more)).2 = done.2.enterAll more := by
  intro began done
  have hdone : done = (⟨s.epoch + 1, (queued lines).length, 0, false⟩,
    s.reset.executeAll (queued lines)) := runAll_eq s lines
  have hdrains := drains_begin s lines
  refine ⟨?_, ⟨⟨_, _, hdrains⟩, fun t c h => ?_⟩, ⟨?_, ?_⟩, fun u => ?_, fun more => ?_⟩
  · rw [hdone, length_queued, enterAll_eq]
  · obtain ⟨rfl, rfl⟩ := h.unique hdrains
    rw [hdone]
    simp [finish, Batch.summary, Batch.remaining, Batch.isDone, reset]
  · rw [hdone, executeAll_epoch]
    rfl
  · rw [hdone, isRunning, executeAll_active]
    rfl
  · exact (holds_runAll u lines).agree (holds_runAll s lines)
  · have hqueued : queued (lines ++ more) = queued lines ++ queued more :=
      List.filter_append lines more
    rw [runAll_eq, hdone, hqueued, executeAll_append, enterAll_eq]

end TabletopRobot.Session

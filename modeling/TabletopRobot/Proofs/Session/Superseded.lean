import TabletopRobot.Proofs.Session.Paths

/-!
One batch, and everything else that happens on its session.

The epoch of the session never falls, and a fresh start raises it. A batch that another epoch has
left behind is therefore out of date for good: no call touches it any more, and it can no longer
touch the session.
-/

namespace TabletopRobot

/-- A call on a session, seen from one batch: a step of that batch, or anything else. The other
batches that are stepped and closed are arbitrary, copies of that batch among them. -/
inductive Call
  | own
  | line (raw : String)
  | batch (lines : List String)
  | reset
  | begin (lines : List String)
  | step (other : Batch)
  | finish (other : Batch)

/-- Whether a call is a fresh start. -/
def Call.startsOver : Call → Bool
  | batch _ | reset | begin _ => true
  | _ => false

namespace Session

variable {s : Session}

/-- A step at most clears the mark. -/
lemma step_frame (s : Session) (b : Batch) :
    (s.step b).2.2.epoch = s.epoch ∧ ∀ e ∈ (s.step b).2.2.active, e ∈ s.active := by
  rcases step_cases s b with ⟨-, h⟩ | ⟨-, -, h⟩ | ⟨l, ls, -, -, h⟩
  · rw [h]
    exact ⟨rfl, fun _ he => he⟩
  · rw [h]
    exact ⟨rfl, fun _ he => by cases he⟩
  · rw [h]
    exact ⟨rfl, fun _ he => he⟩

/-- Closing a batch at most clears the mark. -/
lemma finish_frame (s : Session) (b : Batch) :
    (s.finish b).2.epoch = s.epoch ∧ ∀ e ∈ (s.finish b).2.active, e ∈ s.active := by
  rw [finish]
  split
  · exact ⟨rfl, fun _ he => by cases he⟩
  · exact ⟨rfl, fun _ he => he⟩

/-- Closing a batch that is not marked touches nothing. -/
lemma finish_unmarked {b : Batch} (h : s.active ≠ some b.epoch) : s.finish b = (b.summary, s) := by
  rw [finish, if_neg h]

end Session

/-- A session and one of its batches. -/
structure Watched where
  session : Session
  batch : Batch

namespace Watched

/-- What a call leaves. -/
def perform (w : Watched) : Call → Watched
  | .own => ⟨(w.session.step w.batch).2.2, (w.session.step w.batch).2.1⟩
  | .line raw => ⟨(w.session.enter raw).2, w.batch⟩
  | .batch ls => ⟨(w.session.runAll ls).2, w.batch⟩
  | .reset => ⟨w.session.reset, w.batch⟩
  | .begin ls => ⟨(w.session.begin ls).2, w.batch⟩
  | .step b => ⟨(w.session.step b).2.2, w.batch⟩
  | .finish b => ⟨(w.session.finish b).2, w.batch⟩

def run (w : Watched) (cs : List Call) : Watched := cs.foldl perform w

@[simp] lemma run_nil (w : Watched) : w.run [] = w := rfl
@[simp] lemma run_cons (w : Watched) (c : Call) (cs : List Call) :
    w.run (c :: cs) = (w.perform c).run cs := rfl
lemma run_append (w : Watched) (cs ds : List Call) : w.run (cs ++ ds) = (w.run cs).run ds := by
  simp [run, List.foldl_append]

/-- A batch that just began. -/
def start (s : Session) (lines : List String) : Watched := ⟨(s.begin lines).2, (s.begin lines).1⟩

variable {w : Watched}

/-! ### What every call keeps -/

/-- What is true of the batch of epoch `e` that began with `n` lines. -/
structure Kept (w : Watched) (e n : ℕ) : Prop where
  epoch : w.batch.epoch = e
  lines : w.batch.applied + w.batch.remaining = n
  begun : e ≤ w.session.epoch
  /-- The mark is never that of an older batch. -/
  mark : ∀ a ∈ w.session.active, a = w.session.epoch

lemma kept_start (s : Session) (lines : List String) :
    (start s lines).Kept (s.epoch + 1) (queued lines).length where
  epoch := rfl
  lines := Nat.zero_add _
  begun := le_rfl
  mark _ ha := (Option.some.inj ha).symm

namespace Kept

variable {e n : ℕ}

/-- A call within the epoch. -/
lemma stay (h : w.Kept e n) {s : Session} {b : Batch} (hepoch : s.epoch = w.session.epoch)
    (hactive : ∀ a ∈ s.active, a ∈ w.session.active) (hb : b.epoch = w.batch.epoch)
    (hlines : b.applied + b.remaining = w.batch.applied + w.batch.remaining) :
    Kept ⟨s, b⟩ e n where
  epoch := hb.trans h.epoch
  lines := hlines.trans h.lines
  begun := hepoch ▸ h.begun
  mark a ha := (h.mark a (hactive a ha)).trans hepoch.symm

/-- A fresh start. -/
lemma leave (h : w.Kept e n) {s : Session} (hepoch : s.epoch = w.session.epoch + 1)
    (hactive : ∀ a ∈ s.active, a = s.epoch) : Kept ⟨s, w.batch⟩ e n where
  epoch := h.epoch
  lines := h.lines
  begun := hepoch ▸ h.begun.trans (Nat.le_succ _)
  mark := hactive

lemma own (h : w.Kept e n) : (w.perform .own).Kept e n := by
  obtain ⟨hepoch, hactive⟩ := w.session.step_frame w.batch
  rw [perform]
  rcases w.session.step_cases w.batch with ⟨-, hstep⟩ | ⟨-, -, hstep⟩ | ⟨l, ls, -, hb, hstep⟩
  · exact h.stay hepoch hactive (by rw [hstep]) (by rw [hstep])
  · exact h.stay hepoch hactive (by rw [hstep]) (by rw [hstep])
  · refine h.stay hepoch hactive (by rw [hstep]) ?_
    rw [hstep, Batch.remaining, Batch.remaining, hb, List.length_cons]
    exact Nat.add_right_comm w.batch.applied 1 ls.length

/-- **Every call keeps the count of the lines**, and the mark that of the newest batch. -/
lemma perform (h : w.Kept e n) (c : Call) : (w.perform c).Kept e n := by
  cases c with
  | own => exact h.own
  | line raw =>
    refine h.stay (w.session.enter_epoch raw) (fun a ha => ?_) rfl rfl
    rwa [Session.enter_active] at ha
  | batch ls =>
    refine h.leave (w.session.runAll_epoch ls) fun a ha => ?_
    rw [Session.runAll_active] at ha
    cases ha
  | reset => exact h.leave rfl fun a ha => by cases ha
  | begin ls => exact h.leave rfl fun a ha => (Option.some.inj ha).symm
  | step b =>
    obtain ⟨hepoch, hactive⟩ := w.session.step_frame b
    exact h.stay hepoch hactive rfl rfl
  | finish b =>
    obtain ⟨hepoch, hactive⟩ := w.session.finish_frame b
    exact h.stay hepoch hactive rfl rfl

lemma run (h : w.Kept e n) (cs : List Call) : (w.run cs).Kept e n := by
  induction cs generalizing w with
  | nil => exact h
  | cons c cs ih => exact ih (h.perform c)

end Kept

/-! ### Left behind -/

/-- Another epoch has begun since the batch. -/
def Behind (w : Watched) : Prop := w.batch.epoch < w.session.epoch

lemma epoch_le_perform (w : Watched) (c : Call) :
    w.session.epoch ≤ (w.perform c).session.epoch := by
  cases c with
  | own => exact (w.session.step_frame w.batch).1.ge
  | line raw => exact (w.session.enter_epoch raw).ge
  | batch ls => exact (w.session.runAll_epoch ls).ge.trans' (Nat.le_succ _)
  | reset => exact Nat.le_succ _
  | begin ls => exact Nat.le_succ _
  | step b => exact (w.session.step_frame b).1.ge
  | finish b => exact (w.session.finish_frame b).1.ge

/-- A fresh start leaves the batch behind, and keeps it as it is. -/
lemma Kept.supersede {e n : ℕ} (h : w.Kept e n) {c : Call} (hc : c.startsOver = true) :
    (w.perform c).Behind ∧ (w.perform c).batch = w.batch := by
  have hbegun : w.batch.epoch < w.session.epoch + 1 := Nat.lt_succ_of_le (h.epoch ▸ h.begun)
  cases c with
  | batch ls => exact ⟨hbegun.trans_eq (w.session.runAll_epoch ls).symm, rfl⟩
  | reset => exact ⟨hbegun, rfl⟩
  | begin ls => exact ⟨hbegun, rfl⟩
  | _ => cases hc

namespace Behind

lemma step_eq (h : w.Behind) : w.session.step w.batch = (.cancelled, w.batch, w.session) :=
  Session.step_stale h.ne

/-- No call brings the batch back, or changes it. -/
lemma perform (h : w.Behind) (c : Call) :
    (w.perform c).Behind ∧ (w.perform c).batch = w.batch := by
  have hbatch : (w.perform c).batch = w.batch := by
    cases c with
    | own => rw [Watched.perform, h.step_eq]
    | _ => rfl
  refine ⟨?_, hbatch⟩
  rw [Behind, hbatch]
  exact h.trans_le (w.epoch_le_perform c)

lemma run (h : w.Behind) (cs : List Call) : (w.run cs).Behind ∧ (w.run cs).batch = w.batch := by
  induction cs generalizing w with
  | nil => exact ⟨h, rfl⟩
  | cons c cs ih =>
    obtain ⟨hnext, hbatch⟩ := h.perform c
    obtain ⟨hrest, hrestBatch⟩ := ih hnext
    exact ⟨hrest, hrestBatch.trans hbatch⟩

end Behind

end Watched

open Watched

/-- **A superseded batch is frozen for ever.** Let a batch begin, on any session, and let any calls
follow. The lines that were applied of it and those that it holds are always as many as the lines
it was given that are not blank. Once there has been a fresh start, the batch stays as it was
before, and it is never current again. A step of it is cancelled, closing it reports what had been
applied by then, and neither touches the session. -/
theorem superseded_batch_frozen (s : Session) (lines : List String) (cs : List Call) :
    let given := lines.countP (!isBlankLine ·)
    let w := (start s lines).run cs
    (w.batch.epoch = s.epoch + 1 ∧ w.batch.applied + w.batch.remaining = given) ∧
      ∀ before c after, cs = before ++ c :: after → c.startsOver = true →
        let b := ((start s lines).run before).batch
        w.batch = b ∧ w.session.isCurrent b = false ∧
          w.session.step b = (.cancelled, b, w.session) ∧
          w.session.finish b =
            (⟨s.epoch + 1, b.applied, given - b.applied, decide (0 < given - b.applied)⟩,
              w.session) := by
  intro given w
  have hgiven : (queued lines).length = given := Session.length_queued lines
  have hkept (ds : List Call) : ((start s lines).run ds).Kept (s.epoch + 1) given :=
    hgiven ▸ (kept_start s lines).run ds
  refine ⟨⟨(hkept cs).epoch, (hkept cs).lines⟩, fun before c after hcs hc => ?_⟩
  intro b
  obtain ⟨hbehind, hbatch⟩ := (hkept before).supersede hc
  have hsplit : w = (((start s lines).run before).perform c).run after := by
    rw [show w = (start s lines).run cs from rfl, hcs, run_append, run_cons]
  obtain ⟨hlater, hlaterBatch⟩ := hbehind.run after
  rw [← hsplit] at hlater hlaterBatch
  have hw : w.batch = b := hlaterBatch.trans hbatch
  rw [← hw]
  refine ⟨rfl, ?_, hlater.step_eq, ?_⟩
  · simpa [Session.isCurrent] using hlater.ne
  · have hactive : w.session.active ≠ some w.batch.epoch := fun ha =>
      hlater.ne ((hkept cs).mark _ ha)
    have hremaining : w.batch.remaining = given - w.batch.applied := by
      have hlines : w.batch.applied + w.batch.remaining = given := (hkept cs).lines
      omega
    have hcancelled : (!w.batch.isDone) = decide (0 < w.batch.remaining) := by
      rw [Batch.isDone, Batch.remaining]
      cases w.batch.pending <;> rfl
    rw [Session.finish_unmarked hactive, Batch.summary, hcancelled, hremaining, (hkept cs).epoch]

/-- One line is applied before a newer batch begins and after it a whole one is run. -/
theorem superseded_batch_frozen_twice :
    let w := (start {} ["place 0,0,north", " ", "move", "report"]).run
      [.own, .line "left", .begin ["right"], .own, .batch ["move"], .own]
    w.batch = ⟨1, ["move", "report"], 1⟩ ∧ w.session.epoch = 3 ∧
      w.session.step w.batch = (.cancelled, w.batch, w.session) ∧
      w.session.finish w.batch = (⟨1, 1, 2, true⟩, w.session) := by
  intro w
  have hbatch : w.batch = ⟨1, ["move", "report"], 1⟩ := by decide +kernel
  have hepoch : w.session.epoch = 3 := by decide +kernel
  obtain ⟨-, hfrozen⟩ := superseded_batch_frozen {} ["place 0,0,north", " ", "move", "report"]
    [.own, .line "left", .begin ["right"], .own, .batch ["move"], .own]
  obtain ⟨hsame, -, hstep, hfinish⟩ :=
    hfrozen [.own, .line "left"] (.begin ["right"]) [.own, .batch ["move"], .own] rfl rfl
  rw [← hsame] at hstep hfinish
  refine ⟨hbatch, hepoch, hstep, hfinish.trans ?_⟩
  have happlied : w.batch.applied = 1 := by rw [hbatch]
  rw [happlied]
  decide +kernel

end TabletopRobot

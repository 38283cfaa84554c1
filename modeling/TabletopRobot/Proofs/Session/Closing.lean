import TabletopRobot.Proofs.Session.Superseded

/-!
What closing a batch reports, in terms of the calls since the batch began.

A batch counts as cancelled if lines of it are left. Mostly that is because another epoch has
begun; but whoever steps a batch may also close it early, while it is still current.
-/

namespace TabletopRobot

namespace Watched

/-- The line of the batch that a call applies, if it applies one. -/
def takes (w : Watched) : Call → List String
  | .own => w.session.consumed w.batch
  | _ => []

/-- The lines of the batch that calls apply, in order. -/
def taken (w : Watched) : List Call → List String
  | [] => []
  | c :: cs => w.takes c ++ (w.perform c).taken cs

variable {w : Watched}

/-! ### Lines -/

lemma pending_perform (w : Watched) (c : Call) :
    w.batch.pending = w.takes c ++ (w.perform c).batch.pending := by
  cases c with
  | own => exact w.session.step_pending w.batch
  | _ => rfl

/-- A batch holds what was not applied of it. -/
lemma pending_run (w : Watched) (cs : List Call) :
    w.batch.pending = w.taken cs ++ (w.run cs).batch.pending := by
  induction cs generalizing w with
  | nil => rfl
  | cons c cs ih => rw [taken, List.append_assoc, run_cons, ← ih, ← pending_perform]

/-! ### Epochs -/

/-- Nothing but a fresh start begins another epoch. -/
lemma epoch_perform {c : Call} (h : c.startsOver = false) :
    (w.perform c).session.epoch = w.session.epoch := by
  cases c with
  | own => exact (w.session.step_frame w.batch).1
  | line raw => exact w.session.enter_epoch raw
  | step b => exact (w.session.step_frame b).1
  | finish b => exact (w.session.finish_frame b).1
  | _ => cases h

/-- A current batch is left behind by the first fresh start, and by nothing else. -/
lemma Kept.behind_run_iff {e n : ℕ} (h : w.Kept e n) (hcurrent : w.session.epoch = e)
    (cs : List Call) : (w.run cs).Behind ↔ ∃ c ∈ cs, c.startsOver = true := by
  induction cs generalizing w with
  | nil => simp [Behind, h.epoch, hcurrent]
  | cons c cs ih =>
    rw [run_cons, List.exists_mem_cons_iff]
    cases hc : c.startsOver with
    | true =>
      have hbehind := (h.supersede hc).1
      simpa using (hbehind.run cs).1
    | false => simpa using ih (h.perform c) ((epoch_perform hc).trans hcurrent)

/-- A batch is current unless it is left behind. -/
lemma Kept.isCurrent_eq_false_iff {e n : ℕ} (h : w.Kept e n) :
    w.session.isCurrent w.batch = false ↔ w.Behind := by
  have hbegun : w.batch.epoch ≤ w.session.epoch := h.epoch ▸ h.begun
  rw [Session.isCurrent, beq_eq_false_iff_ne, Behind]
  omega

end Watched

open Watched

/-- **What a closed batch reports.** Let a batch begin, on any session, and let any calls follow.
Closing the batch then reports how many of its lines were applied and how many were not, and that
it was cancelled exactly if there are such lines. So it is reported as cancelled for the reason
that another epoch has begun before all its lines were applied, except that a batch which is
closed while it is current and has lines left is reported as cancelled too. -/
theorem closing_reports_lines_left (s : Session) (lines : List String) (cs : List Call) :
    let w := (start s lines).run cs
    let closed := (w.session.finish w.batch).1
    ∃ left, queued lines = (start s lines).taken cs ++ left ∧
      closed = ⟨s.epoch + 1, ((start s lines).taken cs).length, left.length,
        decide (left ≠ [])⟩ ∧
      (w.session.isCurrent w.batch = false ↔ ∃ c ∈ cs, c.startsOver = true) ∧
      ((closed.cancelled = true ↔ w.session.isCurrent w.batch = false ∧ left ≠ []) ↔
        ¬ (w.session.isCurrent w.batch = true ∧ left ≠ [])) := by
  intro w closed
  have hkept : w.Kept (s.epoch + 1) (queued lines).length := (kept_start s lines).run cs
  have hlines : queued lines = (start s lines).taken cs ++ w.batch.pending :=
    pending_run (start s lines) cs
  have hclosed : closed = ⟨s.epoch + 1, ((start s lines).taken cs).length,
      w.batch.pending.length, decide (w.batch.pending ≠ [])⟩ := by
    have happlied : w.batch.applied = ((start s lines).taken cs).length := by
      have hcount := hkept.lines
      rw [hlines, List.length_append, Batch.remaining] at hcount
      omega
    change w.batch.summary = _
    rw [Batch.summary, hkept.epoch, happlied, Batch.remaining, Batch.isDone]
    cases w.batch.pending <;> rfl
  refine ⟨w.batch.pending, hlines, hclosed, ?_, ?_⟩
  · rw [hkept.isCurrent_eq_false_iff]
    exact (kept_start s lines).behind_run_iff rfl cs
  · rw [hclosed]
    cases w.session.isCurrent w.batch <;> simp

/-- A batch with a line left that is closed at once is reported as cancelled, though no other
epoch has begun. -/
theorem closed_early_counts_as_cancelled :
    let b := (Session.begin {} ["move"]).1
    let s := (Session.begin {} ["move"]).2
    Reachable s [] [b] ∧ (s.finish b).1 = ⟨1, 0, 1, true⟩ ∧
      ¬ ((s.finish b).1.cancelled = true ↔ s.isCurrent b = false ∧ b.pending ≠ []) := by
  intro b s
  refine ⟨.begin ["move"] .new, by decide +kernel, ?_⟩
  have hcancelled : (s.finish b).1.cancelled = true := by decide +kernel
  have hcurrent : s.isCurrent b = true := by decide +kernel
  rw [hcancelled, hcurrent]
  simp

end TabletopRobot

import TabletopRobot.Proofs.Session.Reachable
import TabletopRobot.Snapshot

/-!
The journal of a session is numbered from one, and its output holds a value for each report.
-/

namespace TabletopRobot

lemma gap?_concat {j : Journal} {i : Nat} {e : Entry} (hj : Snapshot.gap? i j = none)
    (he : e.sequence = Journal.numberAt (i + j.length)) : Snapshot.gap? i (j ++ [e]) = none := by
  induction j generalizing i with
  | nil =>
    rw [List.length_nil, Nat.add_zero] at he
    rw [List.nil_append, Snapshot.gap?, if_pos he]
    rfl
  | cons d j ih =>
    rw [Snapshot.gap?] at hj
    split at hj
    · rename_i hd
      rw [List.cons_append, Snapshot.gap?, if_pos hd]
      refine ih hj ?_
      rw [he, List.length_cons]
      congr 1
      omega
    · cases hj

/-- An outcome has a value for the output exactly if it is a report. -/
lemma Outcome.length_report? (o : Outcome) :
    o.report?.toList.length = if o.severity == .report then 1 else 0 := by
  cases o <;> rfl

namespace Session

/-- What a snapshot is checked for. -/
structure Consistent (s : Session) : Prop where
  numbered : Snapshot.gap? 0 s.journal = none
  reports : s.journal.count .report = s.output.length

lemma consistent_new : Consistent {} := ⟨rfl, rfl⟩

lemma Consistent.execute {s : Session} (h : s.Consistent) (raw : String) :
    (s.execute raw).Consistent where
  numbered := by
    rw [execute_journal]
    refine gap?_concat h.numbered ?_
    rw [Nat.zero_add]
    rfl
  reports := by
    have hreport := (s.robot.applyLine raw).2.length_report?
    have hreports := h.reports
    rw [Journal.count] at hreports ⊢
    rw [execute_journal, List.countP_append, hreports, List.countP_singleton, entryOf_severity,
      execute_output, List.length_append, hreport]

lemma Holds.consistent {s : Session} {ls : List String} (h : s.Holds ls) : s.Consistent := by
  refine h.induction consistent_new (fun _ raw ht => ht.execute raw) fun t e a ht => ?_
  exact ⟨ht.numbered, ht.reports⟩

/-- A snapshot of a consistent session passes its check. -/
lemma Consistent.check_snapshot {s : Session} (h : s.Consistent) (u : Uuid) (t : Moment) :
    (s.snapshot u t).check = .ok (s.snapshot u t) := by
  have hnumbered : Snapshot.gap? 0 (s.snapshot u t).journal = none := h.numbered
  rw [Snapshot.check, if_neg (by simp [snapshot]), hnumbered]
  exact if_pos h.reports

end Session

end TabletopRobot

import TabletopRobot.Snapshot
import TabletopRobot.Proofs.Robot.View
import TabletopRobot.Proofs.Session.Consistent

/-!
The snapshot of a session is read back, from either of its texts.
-/

namespace TabletopRobot

open Json (Reads Fills)

/-! ### Documents -/

lemma Severity.reads (s : Severity) : Reads Severity.reader (.str s.name) s :=
  .oneOf (by cases s <;> rfl)

lemma Entry.reads (e : Entry) : Reads Entry.reader e.toValue e := by
  let d : Entry.Draft := ⟨some e.sequence, some e.command, some e.message, some e.severity⟩
  refine Reads.andThen (a := d) (Fills.reads ?_) rfl
  refine .field rfl rfl (.uint64 e.sequence) ?_
  refine .field rfl rfl (.text e.command) ?_
  refine .field rfl rfl (.text e.message) ?_
  refine .field rfl rfl (Severity.reads e.severity) ?_
  exact .nil d

lemma Journal.reads (j : Journal) : Reads Journal.reader j.toValue j :=
  .listOf fun e _ => e.reads

lemma Uuid.reads {u : Uuid} (h : Uuid.parse? u.text = some u) :
    Reads Uuid.reader (.str (.ofList u.text)) u :=
  .parsed (by rw [String.toList_ofList]; exact h)

lemma Moment.reads {t : Moment} (h : Moment.parse? t.text = some t) :
    Reads Moment.reader (.str (.ofList t.text)) t :=
  .parsed (by rw [String.toList_ofList]; exact h)

namespace Snapshot

/-- A snapshot is read back if its identifier and its time are. -/
lemma reads {s : Snapshot} (hid : Uuid.parse? s.sessionId.text = some s.sessionId)
    (htime : Moment.parse? s.takenAt.text = some s.takenAt) : Reads reader s.toValue s := by
  let d : Draft := ⟨some s.version, some s.sessionId, some s.takenAt, some s.epoch,
    some s.running, some s.robot, some s.output, some s.journal⟩
  refine Reads.andThen (a := d) (Fills.reads ?_) rfl
  refine .field rfl rfl (.uint32 s.version) ?_
  refine .field rfl rfl (Uuid.reads hid) ?_
  refine .field rfl rfl (Moment.reads htime) ?_
  refine .field rfl rfl (.uint64 s.epoch) ?_
  refine .field rfl rfl (.boolean s.running) ?_
  refine .field rfl rfl s.robot.reads ?_
  refine .field rfl rfl (.listOf fun t _ => .text t) ?_
  refine .field rfl rfl (Journal.reads s.journal) ?_
  exact .nil d

lemma ofText_text {s : Snapshot} (hid : Uuid.parse? s.sessionId.text = some s.sessionId)
    (htime : Moment.parse? s.takenAt.text = some s.takenAt) (hcheck : s.check = .ok s) :
    ofText s.text = .ok s ∧ ofText s.prettyText = .ok s := by
  obtain ⟨htext, hpretty⟩ := (reads hid htime).decode
  rw [ofText, ofText, text, prettyText, htext, hpretty]
  exact ⟨hcheck, hcheck⟩

end Snapshot

/-- **A snapshot is read back.** In every session that calls lead to, with batches open or not,
both texts of the snapshot decode to the snapshot itself. It has the epoch of the session as
long as 64 bits suffice for that. -/
theorem snapshot_read_back {s : Session} {ls : List String} {bs : List Batch}
    (h : Reachable s ls bs) :
    let t := s.snapshot .zero .epoch
    Snapshot.ofText t.text = .ok t ∧ Snapshot.ofText t.prettyText = .ok t ∧
      (s.epoch < UInt64.size → t.epoch.toNat = s.epoch) := by
  intro t
  have hid : Uuid.parse? Uuid.zero.text = some Uuid.zero := by decide
  have htime : Moment.parse? Moment.epoch.text = some Moment.epoch := by decide
  have hcheck := h.holds.1.consistent.check_snapshot .zero .epoch
  obtain ⟨htext, hpretty⟩ := Snapshot.ofText_text (s := t) hid htime hcheck
  exact ⟨htext, hpretty, fun hlt => UInt64.toNat_ofNat_of_lt' hlt⟩

theorem snapshot_read_back_open_batch :
    let b := (Session.begin {} ["place 1,2,east", "\"\\\t\x01ß🤖"]).1
    let s := (Session.begin {} ["place 1,2,east", "\"\\\t\x01ß🤖"]).2
    Reachable (s.step b).2.2 ["place 1,2,east"] [(s.step b).2.1, b] ∧
      Snapshot.ofText ((s.step b).2.2.snapshot .zero .epoch).prettyText =
        .ok ((s.step b).2.2.snapshot .zero .epoch) ∧
      ((s.step b).2.2.snapshot .zero .epoch).epoch.toNat = 1 := by
  intro b s
  have h : Reachable (s.step b).2.2 ["place 1,2,east"] [(s.step b).2.1, b] :=
    .step (List.mem_singleton_self b) (.begin _ .new)
  have hepoch : (s.step b).2.2.epoch = 1 := by decide +kernel
  obtain ⟨-, hpretty, hsame⟩ := snapshot_read_back h
  exact ⟨h, hpretty, (hsame (by rw [hepoch]; decide)).trans hepoch⟩

end TabletopRobot

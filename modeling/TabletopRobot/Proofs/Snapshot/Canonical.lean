import TabletopRobot.Proofs.Json.Yields
import TabletopRobot.Proofs.Snapshot.RoundTrip
import TabletopRobot.Proofs.Time.Moment
import TabletopRobot.Proofs.Time.Uuid

/-!
The texts that are written of a snapshot are the canonical ones among all texts it can be read
from.
-/

namespace TabletopRobot

open Json (Yields)

lemma Moment.yields : Yields Moment.reader fun t => t.isValid = true :=
  .parsed fun _ _ h => isValid_of_parse? h

namespace Snapshot

/-- A snapshot as it can come out of a document. -/
structure Readable (s : Snapshot) : Prop where
  time : s.takenAt.isValid = true
  check : s.check = .ok s

lemma Readable.ofText_text {s : Snapshot} (h : s.Readable) :
    ofText s.text = .ok s ∧ ofText s.prettyText = .ok s :=
  Snapshot.ofText_text (Uuid.parse?_text s.sessionId) (Moment.parse?_text h.time) h.check

/-- The indented text may be a line of its own. -/
lemma Readable.ofText_line {s : Snapshot} (h : s.Readable) :
    ofText (s.prettyText ++ "\n") = .ok s := by
  have hid := Uuid.parse?_text s.sessionId
  rw [ofText, prettyText, (reads hid (Moment.parse?_text h.time)).decode_line]
  exact h.check

/-! ### Documents that are read -/

/-- The time of a draft, if it is there. -/
def Draft.Timely (d : Draft) : Prop := ∀ t ∈ d.takenAt, t.isValid = true

lemma timely_keeps : shape.Keeps Draft.Timely := by
  intro f hf d hd
  simp only [shape, List.mem_cons, List.not_mem_nil, or_false] at hf
  rcases hf with rfl | rfl | rfl | rfl | rfl | rfl | rfl | rfl
  case inr.inr.inl =>
    refine Moment.yields.field fun t ht u hu => ?_
    rwa [← Option.some_inj.mp hu]
  all_goals exact Yields.any.field fun _ _ => hd

lemma Draft.takenAt_of_finish {d : Draft} {s : Snapshot} (h : d.finish = .ok s) :
    d.takenAt = some s.takenAt := by
  simp only [finish, Json.bind_eq_ok, Json.required_eq_ok] at h
  obtain ⟨_, -, _, -, t, ht, _, -, _, -, _, -, _, -, _, -, h⟩ := h
  rw [ht, ← Except.ok.inj h]

lemma yields : Yields reader fun s => s.takenAt.isValid = true := by
  have hempty : Draft.Timely {} := fun t ht => by cases ht
  exact (timely_keeps.read hempty).andThen fun d s hd hs =>
    hd s.takenAt (Draft.takenAt_of_finish hs)

lemma eq_of_check {s t : Snapshot} (h : s.check = .ok t) : t = s := by
  unfold check at h
  split_ifs at h
  split at h
  · cases h
  · dsimp only at h
    split_ifs at h
    exact (Except.ok.inj h).symm

lemma readable_of_ofText {raw : String} {s : Snapshot} (h : ofText raw = .ok s) : s.Readable := by
  unfold ofText at h
  split at h
  · next t ht =>
    cases eq_of_check h
    exact ⟨yields.decode ht, h⟩
  · cases h

/-- **What documents can hold.** A snapshot comes out of some document exactly if its time is one
of the calendar and its parts agree with each other. -/
theorem exists_ofText_iff {s : Snapshot} : (∃ raw, ofText raw = .ok s) ↔ s.Readable := by
  constructor
  · rintro ⟨raw, h⟩
    exact readable_of_ofText h
  · intro h
    exact ⟨s.text, h.ofText_text.1⟩

/-! ### Documents that are written again -/

/-- **One text for one snapshot.** Documents, whatever their layout, are the same snapshot if and
only if they are written again as the same text. -/
theorem text_eq_iff {raw raw' : String} {s t : Snapshot} (hs : ofText raw = .ok s)
    (ht : ofText raw' = .ok t) : s.text = t.text ↔ s = t := by
  refine ⟨fun h => ?_, fun h => congrArg text h⟩
  have hback := (readable_of_ofText hs).ofText_text.1
  rw [h, (readable_of_ofText ht).ofText_text.1] at hback
  exact (Except.ok.inj hback).symm

/-- A document decoded and written again. -/
def reencode (write : Snapshot → String) (raw : String) : Except Error String :=
  (ofText raw).map write

lemma reencode_eq_ok {write : Snapshot → String} {raw first : String} :
    reencode write raw = .ok first ↔ ∃ s, ofText raw = .ok s ∧ write s = first := Json.map_eq_ok

/-- **Re-encoding is canonical.** Whatever text a snapshot was read from, both texts that are
written of it are read back as that snapshot, and decoding and encoding such a text once more
leaves every character of it as it is. -/
theorem reencode_canonical {raw : String} {s : Snapshot} (h : ofText raw = .ok s) :
    ofText s.text = .ok s ∧ ofText s.prettyText = .ok s ∧
      ∀ write ∈ [text, prettyText], ∀ first,
        reencode write raw = .ok first → reencode write first = .ok first := by
  obtain ⟨htext, hpretty⟩ := (readable_of_ofText h).ofText_text
  refine ⟨htext, hpretty, fun write hwrite first hfirst => ?_⟩
  obtain ⟨t, ht, rfl⟩ := reencode_eq_ok.mp hfirst
  cases h.symm.trans ht
  have hback : ofText (write s) = .ok s := by
    simp only [List.mem_cons, List.not_mem_nil, or_false] at hwrite
    rcases hwrite with rfl | rfl
    · exact htext
    · exact hpretty
  exact reencode_eq_ok.mpr ⟨s, hback, rfl⟩

/-- An array for the whole document, an identifier in capitals without hyphens, a leap second at
another offset, and a robot with a field that nobody reads and without those that may be absent. -/
theorem reencode_canonical_odd_layout :
    let raw := "[1,\"0123456789ABCDEF0123456789ABCDEF\",\"2024-02-29t23:59:60.5-00:30\",3,false,
      \x7b\"z\":[\x7b\x7d],\"placed\":false\x7d,[\"\"],[[1,\"\\u0072\",\"REPORT: \",\"report\"]]]"
    let s : Snapshot := {
      version := 1
      sessionId := ⟨[0, 1, 2, 3, 4, 5, 6, 7, 8, 9, 10, 11, 12, 13, 14, 15,
        0, 1, 2, 3, 4, 5, 6, 7, 8, 9, 10, 11, 12, 13, 14, 15], rfl⟩
      takenAt := ⟨⟨2024, 3, 1⟩, 29, 60, 500000000⟩
      epoch := 3
      running := false
      robot := .unplaced
      output := [""]
      journal := [⟨1, "r", "REPORT: ", .report⟩] }
    ofText raw = .ok s ∧ ofText s.text = .ok s ∧ ofText s.prettyText = .ok s ∧
      reencode text s.text = .ok s.text := by
  intro raw s
  have hread : (ofText raw).toOption = some s := by decide +kernel
  have h : ofText raw = .ok s := Json.toOption_eq_some.mp hread
  obtain ⟨htext, hpretty, hsame⟩ := reencode_canonical h
  have hfirst : reencode text raw = .ok s.text := reencode_eq_ok.mpr ⟨s, h, rfl⟩
  exact ⟨h, htext, hpretty, hsame text List.mem_cons_self s.text hfirst⟩

end Snapshot

end TabletopRobot

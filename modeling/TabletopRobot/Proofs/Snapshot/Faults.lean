import TabletopRobot.Proofs.Command.Placement
import TabletopRobot.Proofs.Snapshot.Canonical

/-!
What a document that decodes is refused for: the first thing that is wrong with it, in the order
of the version, the numbers of the entries from the first on, and the output.
-/

namespace TabletopRobot

/-! ### Numbers -/

/-- The entry at a place, counted from zero, has not the number of its place. -/
def Journal.GapAt (j : Journal) (i : ℕ) : Prop :=
  ∃ e, j[i]? = some e ∧ e.sequence ≠ .ofNat (i + 1)

namespace Snapshot

lemma gap?_cons (k : ℕ) (e : Entry) (j : Journal) :
    gap? k (e :: j) =
      if e.sequence = Journal.numberAt k then gap? (k + 1) j else some (k, e.sequence) := rfl

lemma gap?_eq_none {k : ℕ} {j : Journal} (h : gap? k j = none) {i : ℕ} {e : Entry}
    (he : j[i]? = some e) : e.sequence = Journal.numberAt (k + i) := by
  induction j generalizing k i with
  | nil => simp at he
  | cons d j ih =>
    rw [gap?_cons] at h
    split_ifs at h with hd
    cases i with
    | zero =>
      obtain rfl : d = e := by simpa using he
      simpa using hd
    | succ i =>
      have hrest := ih h (i := i) (by simpa using he)
      rw [hrest]
      congr 1
      omega

/-- The gap that is found is one, and no entry before it has a wrong number. -/
lemma gap?_eq_some {k i : ℕ} {n : UInt64} {j : Journal} (h : gap? k j = some (i, n)) :
    ∃ m e, i = k + m ∧ j[m]? = some e ∧ e.sequence = n ∧ n ≠ Journal.numberAt i ∧
      ∀ l < m, ∀ d, j[l]? = some d → d.sequence = Journal.numberAt (k + l) := by
  induction j generalizing k with
  | nil => cases h
  | cons e j ih =>
    rw [gap?_cons] at h
    split_ifs at h with he
    · obtain ⟨m, d, hi, hd, hn, hne, hbefore⟩ := ih h
      refine ⟨m + 1, d, by omega, by simpa using hd, hn, hne, fun l hl f hf => ?_⟩
      cases l with
      | zero =>
        obtain rfl : e = f := by simpa using hf
        simpa using he
      | succ l =>
        have hrest := hbefore l (by omega) f (by simpa using hf)
        rw [hrest]
        congr 1
        omega
    · obtain ⟨rfl, rfl⟩ := Prod.mk.inj (Option.some.inj h)
      exact ⟨0, e, rfl, rfl, rfl, he, by simp⟩

end Snapshot

namespace Journal

lemma gapAt_of_gap? {i : ℕ} {n : UInt64} {j : Journal} (h : Snapshot.gap? 0 j = some (i, n)) :
    IsLeast {i | j.GapAt i} i ∧ ∃ e, j[i]? = some e ∧ e.sequence = n := by
  obtain ⟨m, e, rfl, he, rfl, hne, hbefore⟩ := Snapshot.gap?_eq_some h
  rw [Nat.zero_add] at hne ⊢
  refine ⟨⟨⟨e, he, hne⟩, fun l hl => ?_⟩, e, he, rfl⟩
  obtain ⟨d, hd, hwrong⟩ := hl
  by_contra hlt
  have hright := hbefore l (by omega) d hd
  rw [Nat.zero_add] at hright
  exact hwrong hright

lemma not_gapAt_of_gap? {j : Journal} (h : Snapshot.gap? 0 j = none) (i : ℕ) : ¬j.GapAt i := by
  rintro ⟨e, he, hwrong⟩
  have hright := Snapshot.gap?_eq_none h he
  rw [Nat.zero_add] at hright
  exact hwrong hright

/-- Without a gap, the numbers are those from one on. -/
lemma sequences_of_no_gap {j : Journal} (h : ∀ i, ¬j.GapAt i) :
    j.map Entry.sequence = (List.range' 1 j.length).map UInt64.ofNat := by
  refine List.ext_getElem (by simp) fun i hi _ => ?_
  have hi' : i < j.length := by simpa using hi
  have hright : j[i].sequence = .ofNat (i + 1) := by
    by_contra hwrong
    exact h i ⟨j[i], List.getElem?_eq_getElem hi', hwrong⟩
  simp [hright, Nat.add_comm]

/-- As long as they fit into 64 bits, they are these numbers themselves. -/
lemma toNat_sequences {j : Journal} (hlength : j.length < UInt64.size)
    (h : j.map Entry.sequence = (List.range' 1 j.length).map UInt64.ofNat) :
    j.map (fun e => e.sequence.toNat) = List.range' 1 j.length := by
  have hnumbers := congrArg (List.map UInt64.toNat) h
  rw [List.map_map, List.map_map] at hnumbers
  refine hnumbers.trans ((List.map_congr_left fun i hi => ?_).trans (List.map_id _))
  rw [List.mem_range'_1] at hi
  exact UInt64.toNat_ofNat_of_lt' (by omega)

end Journal

/-! ### The check -/

namespace Snapshot

variable {s : Snapshot}

lemma ofText_of_decode {raw : String} (h : Json.decode reader raw = .ok s) :
    ofText raw = s.check := by
  rw [ofText, h]

lemma check_of_version (h : s.version ≠ 1) : s.check = .error (.unsupportedVersion s.version) := by
  unfold check
  exact if_pos h

lemma check_of_gap (hversion : s.version = 1) (h : ∃ i, s.journal.GapAt i) :
    ∃ i e, IsLeast {i | s.journal.GapAt i} i ∧ s.journal[i]? = some e ∧
      s.check = .error (.sequenceGap i e.sequence (.ofNat (i + 1))) := by
  have hreadable : ¬s.version ≠ snapshotVersion := not_not.mpr hversion
  cases hgap : gap? 0 s.journal with
  | none =>
    obtain ⟨i, hi⟩ := h
    exact absurd hi (Journal.not_gapAt_of_gap? hgap i)
  | some g =>
    obtain ⟨i, n⟩ := g
    obtain ⟨hleast, e, he, rfl⟩ := Journal.gapAt_of_gap? hgap
    refine ⟨i, e, hleast, he, ?_⟩
    rw [check, if_neg hreadable, hgap]
    rfl

lemma check_of_no_gap (hversion : s.version = 1) (h : ∀ i, ¬s.journal.GapAt i) :
    s.check = if s.journal.count .report = s.output.length then .ok s
      else .error (.outputMismatch (s.journal.count .report) s.output.length) := by
  have hreadable : ¬s.version ≠ snapshotVersion := not_not.mpr hversion
  cases hgap : gap? 0 s.journal with
  | none => rw [check, if_neg hreadable, hgap]
  | some g => exact absurd (Journal.gapAt_of_gap? hgap).1.1 (h g.1)

/-- A snapshot passes the check only if nothing is wrong with it. -/
lemma of_check_eq_ok {t : Snapshot} (h : s.check = .ok t) :
    s.version = 1 ∧ (∀ i, ¬s.journal.GapAt i) ∧ s.journal.count .report = s.output.length := by
  have hversion : s.version = 1 := by
    by_contra hne
    rw [check_of_version hne] at h
    cases h
  have hnone : ∀ i, ¬s.journal.GapAt i := by
    intro i hi
    obtain ⟨_, _, -, -, hrefused⟩ := check_of_gap hversion ⟨i, hi⟩
    rw [hrefused] at h
    cases h
  rw [check_of_no_gap hversion hnone] at h
  split_ifs at h with hreports
  exact ⟨hversion, hnone, hreports⟩

/-- **Decoding names the first fault.** Let a document decode to a snapshot. If its version is not
the one that can be read, that is told, whatever else is wrong. Otherwise, if entries have not the
numbers of their places, the first of them is named, with the number it should have; otherwise, if
there are not as many values in the output as reports in the journal, both are counted. In all
other cases the snapshot is the result. What is accepted has entries that are numbered from one on
and a value for each report, and its robot was read from a view that is empty, or complete and on
the table. -/
theorem decoding_names_first_fault {raw : String} (h : Json.decode reader raw = .ok s) :
    (s.version ≠ 1 → ofText raw = .error (.unsupportedVersion s.version)) ∧
      (s.version = 1 → (∃ i, s.journal.GapAt i) →
        ∃ i e, IsLeast {i | s.journal.GapAt i} i ∧ s.journal[i]? = some e ∧
          ofText raw = .error (.sequenceGap i e.sequence (.ofNat (i + 1)))) ∧
      (s.version = 1 → (∀ i, ¬s.journal.GapAt i) →
        ofText raw = if s.journal.count .report = s.output.length then .ok s
          else .error (.outputMismatch (s.journal.count .report) s.output.length)) ∧
      ∀ t, ofText raw = .ok t → t = s ∧ s.version = 1 ∧
        s.journal.map Entry.sequence = (List.range' 1 s.journal.length).map UInt64.ofNat ∧
        (s.journal.length < UInt64.size →
          s.journal.map (fun e => e.sequence.toNat) = List.range' 1 s.journal.length) ∧
        s.journal.count .report = s.output.length ∧
        (∀ v : RobotView, v.toRobot = .ok s.robot ↔ v = .ofRobot s.robot) ∧
        (RobotView.ofRobot s.robot = ⟨false, none, none, none⟩ ∨
          ∃ x y f, RobotView.ofRobot s.robot = ⟨true, some x, some y, some f⟩ ∧
            (0 ≤ x.toInt ∧ x.toInt ≤ 4) ∧ 0 ≤ y.toInt ∧ y.toInt ≤ 4) := by
  rw [ofText_of_decode h]
  refine ⟨check_of_version, check_of_gap, check_of_no_gap, fun t ht => ?_⟩
  obtain ⟨hversion, hnone, hreports⟩ := of_check_eq_ok ht
  have hsequences := Journal.sequences_of_no_gap hnone
  exact ⟨eq_of_check ht, hversion, hsequences,
    fun hlength => Journal.toNat_sequences hlength hsequences, hreports,
    fun v => RobotView.toRobot_eq_ok_iff, RobotView.ofRobot_whole s.robot⟩

/-- The second entry is misnumbered, and the output has no value for the report. -/
theorem decoding_names_first_fault_misnumbered :
    let raw := "[1,\"0123456789abcdef0123456789abcdef\",\"1970-01-01T00:00:00Z\",0,false,
      \x7b\"placed\":false\x7d,[],[[1,\"\",\"\",\"error\"],[3,\"\",\"\",\"report\"]]]"
    let s : Snapshot := {
      version := 1
      sessionId := ⟨[0, 1, 2, 3, 4, 5, 6, 7, 8, 9, 10, 11, 12, 13, 14, 15,
        0, 1, 2, 3, 4, 5, 6, 7, 8, 9, 10, 11, 12, 13, 14, 15], rfl⟩
      takenAt := .epoch
      epoch := 0
      running := false
      robot := .unplaced
      output := []
      journal := [⟨1, "", "", .error⟩, ⟨3, "", "", .report⟩] }
    Json.decode reader raw = .ok s ∧ ofText raw = .error (.sequenceGap 1 3 2) := by
  intro raw s
  have hread : (Json.decode reader raw).toOption = some s := by decide +kernel
  have h : Json.decode reader raw = .ok s := Json.toOption_eq_some.mp hread
  have hgap : s.journal.GapAt 1 := ⟨⟨3, "", "", .report⟩, rfl, by decide⟩
  obtain ⟨-, hgaps, -⟩ := decoding_names_first_fault h
  obtain ⟨i, e, ⟨⟨d, hd, hwrong⟩, hleast⟩, he, hrefused⟩ := hgaps rfl ⟨1, hgap⟩
  have hi : i ≤ 1 := hleast hgap
  interval_cases i
  · obtain rfl : (⟨1, "", "", .error⟩ : Entry) = d := Option.some.inj hd
    exact absurd rfl hwrong
  · obtain rfl : (⟨3, "", "", .report⟩ : Entry) = e := Option.some.inj he
    exact ⟨h, hrefused⟩

end Snapshot

end TabletopRobot

import TabletopRobot.Proofs.Text.Normalize
import TabletopRobot.Proofs.Text.Numeral
import TabletopRobot.Text.Layout

/-!
The pieces of a text: what follows a word, the fields between separators, and a text apart from
the blanks around it.
-/

namespace TabletopRobot.Text

/-! ### Words and separators -/

lemma after?_eq_some_iff {w s r : List Char} : after? w s = some r ↔ s = w ++ r := by
  induction w generalizing s with
  | nil => exact Option.some_inj
  | cons c w ih =>
    cases s with
    | nil => simp [after?]
    | cons d s =>
      by_cases h : c = d
      · subst h
        simp [after?, ih]
      · simp [after?, h, Ne.symm h]

lemma splitAt_eq_splitOn (sep : Char) (s : List Char) : splitAt sep s = s.splitOn sep := by
  induction s with
  | nil => rfl
  | cons c s ih =>
    simp only [splitAt, ih, List.splitOn, List.splitOnP_cons_eq_if_modifyHead, beq_iff_eq]
    by_cases h : c = sep
    · rw [if_pos h, if_pos h]
    · obtain ⟨p, ps, hsplit⟩ := List.exists_cons_of_ne_nil (List.splitOnP_ne_nil (· == sep) s)
      rw [if_neg h, if_neg h, hsplit]
      rfl

lemma splitAt_three {sep : Char} {a b c : List Char} (ha : sep ∉ a) (hb : sep ∉ b) (hc : sep ∉ c) :
    splitAt sep (a ++ sep :: (b ++ sep :: c)) = [a, b, c] := by
  have hfields : ∀ l ∈ [a, b, c], sep ∉ l := by simp [ha, hb, hc]
  have hsplit := List.splitOn_intercalate sep hfields (by simp)
  rw [splitAt_eq_splitOn]
  simpa [List.intercalate] using hsplit

lemma eq_of_splitAt_three {sep : Char} {s a b c : List Char} (h : splitAt sep s = [a, b, c]) :
    s = a ++ sep :: (b ++ sep :: c) := by
  rw [splitAt_eq_splitOn] at h
  have hjoin : [sep].intercalate (s.splitOn sep) = s := List.intercalate_splitOn sep
  rw [h] at hjoin
  simpa [List.intercalate] using hjoin.symm

/-- The pieces before a separator and those after it. -/
lemma splitAt_append_cons (sep : Char) (s t : List Char) :
    splitAt sep (s ++ sep :: t) = splitAt sep s ++ splitAt sep t := by
  simp only [splitAt_eq_splitOn, List.splitOn]
  exact List.splitOnP_append_cons s t (beq_self_eq_true sep)

/-- A text without separators is one piece. -/
lemma splitAt_of_not_mem {sep : Char} {s : List Char} (h : sep ∉ s) : splitAt sep s = [s] := by
  rw [splitAt_eq_splitOn, List.splitOn]
  refine List.splitOnP_eq_singleton fun c hc => beq_eq_false_iff_ne.mpr ?_
  rintro rfl
  exact h hc

/-- There is one piece more than there are separators. -/
lemma length_splitAt (sep : Char) (s : List Char) :
    (splitAt sep s).length = s.count sep + 1 := by
  induction s with
  | nil => rfl
  | cons c s ih =>
    by_cases h : c = sep
    · simp [splitAt, h, ih]
    · unfold splitAt
      rw [if_neg h, List.count_cons_of_ne h, ← ih]
      split <;> simp_all

lemma not_mem_of_mem_splitAt {sep : Char} {s p : List Char} (h : p ∈ splitAt sep s) : sep ∉ p := by
  induction s generalizing p with
  | nil => simp_all [splitAt]
  | cons c s ih =>
    unfold splitAt at h
    split_ifs at h with hc
    · rcases List.mem_cons.mp h with rfl | h
      · simp
      · exact ih h
    · have hsep : sep ≠ c := fun heq => hc heq.symm
      split at h
      · simp_all
      · next q ps hsplit =>
        rw [hsplit] at ih
        rcases List.mem_cons.mp h with rfl | h
        · simpa [hsep] using ih (p := q) List.mem_cons_self
        · exact ih (List.mem_cons_of_mem _ h)

lemma mem_of_mem_splitAt {sep c : Char} {s p : List Char} (h : p ∈ splitAt sep s) (hc : c ∈ p) :
    c ∈ s := by
  induction s generalizing p with
  | nil => simp_all [splitAt]
  | cons d s ih =>
    unfold splitAt at h
    split_ifs at h with hd
    · rcases List.mem_cons.mp h with rfl | h
      · cases hc
      · exact List.mem_cons_of_mem d (ih h hc)
    · split at h
      · simp_all
      · next q ps hsplit =>
        rw [hsplit] at ih
        rcases List.mem_cons.mp h with rfl | h
        · exact (List.mem_cons.mp hc).elim (fun hcd => hcd ▸ List.mem_cons_self)
            fun hcq => List.mem_cons_of_mem d (ih List.mem_cons_self hcq)
        · exact List.mem_cons_of_mem d (ih (List.mem_cons_of_mem q h) hc)

/-! ### Blanks around a text -/

lemma trimStart_append {u : List Char} (hu : blank u = true) (s : List Char) :
    trimStart (u ++ s) = trimStart s := by
  rw [trimStart, List.dropWhile_append_of_pos (blank_iff.mp hu), trimStart]

lemma trimEnd_append {v : List Char} (hv : blank v = true) (s : List Char) :
    trimEnd (s ++ v) = trimEnd s := by
  have hreverse : ∀ c ∈ v.reverse, isBlank c = true := fun c hc =>
    blank_iff.mp hv c (List.mem_reverse.mp hc)
  rw [trimEnd, List.reverse_append, List.dropWhile_append_of_pos hreverse, trimEnd]

/-- A text is trimmed of what is blank around it. -/
lemma trim_surround {u v : List Char} (hu : blank u = true) (hv : blank v = true) (s : List Char) :
    trim (u ++ s ++ v) = trim s := by
  rw [trim, trim, List.append_assoc, trimStart_append hu]
  by_cases hs : trimStart s = []
  · have hblank : blank s = true := blank_iff.mpr (List.dropWhile_eq_nil_iff.mp hs)
    have hv' : trimStart v = [] := List.dropWhile_eq_nil_iff.mpr (blank_iff.mp hv)
    rw [trimStart_append hblank, hs, hv']
  · have hstart : trimStart (s ++ v) = trimStart s ++ v := by
      rw [trimStart] at hs
      rw [trimStart, trimStart, List.dropWhile_append, if_neg (by rwa [List.isEmpty_iff])]
    rw [hstart, trimEnd_append hv]

lemma trim_of_solid {s : List Char} (h : ∀ c ∈ s, isBlank c = false) : trim s = s :=
  trim_of_trimmed ⟨fun c hc => h c (List.mem_of_mem_head? hc),
    fun c hc => h c (List.mem_of_mem_getLast? hc)⟩

/-- Between two words, anything is trimmed. -/
lemma trimmed_between {s m t : List Char} (hs : ∀ c ∈ s, isBlank c = false) (hsne : s ≠ [])
    (ht : ∀ c ∈ t, isBlank c = false) (htne : t ≠ []) : Trimmed (s ++ m ++ t) := by
  constructor
  · intro c hc
    rw [List.append_assoc, List.head?_append_of_ne_nil _ hsne] at hc
    exact hs c (List.mem_of_mem_head? hc)
  · intro c hc
    rw [List.getLast?_append_of_ne_nil _ htne] at hc
    exact ht c (List.mem_of_mem_getLast? hc)

lemma mem_of_mem_trim {s : List Char} {c : Char} (h : c ∈ trim s) : c ∈ s := by
  obtain ⟨u, v, -, -, hs⟩ := exists_surround s
  rw [hs]
  simp [h]

lemma eq_nil_of_blank_end {s v : List Char} (hv : blank v = true)
    (h : ∀ c ∈ (s ++ v).getLast?, isBlank c = false) : v = [] := by
  by_contra hne
  have hlast : v.getLast hne ∈ (s ++ v).getLast? := by
    rw [List.getLast?_append_of_ne_nil _ hne]
    exact List.getLast?_eq_some_getLast hne
  have hblank := blank_iff.mp hv _ (List.getLast_mem hne)
  rw [h _ hlast] at hblank
  cases hblank

lemma ne_nil_of_blank_head {u s t : List Char} (hs : ∀ c ∈ s, isBlank c = false) (hne : s ≠ [])
    (h : ∃ c ∈ (u ++ s ++ t).head?, isBlank c = true) : u ≠ [] := by
  rintro rfl
  obtain ⟨d, r, rfl⟩ := List.exists_cons_of_ne_nil hne
  obtain ⟨c, hc, hblank⟩ := h
  have hd : isBlank d = false := hs d List.mem_cons_self
  rw [Option.some.inj hc, hblank] at hd
  cases hd

end TabletopRobot.Text

import TabletopRobot.Proofs.Text.CaseMapping
import TabletopRobot.Session

/-!
A line is in normal form if it has no blank at either end and nothing in it to raise. Normalizing
makes such lines and leaves them as they are, so a line that was kept in normal form is read as
the line it was made from.
-/

namespace TabletopRobot

namespace Text

/-- No blank at either end. -/
def Trimmed (s : List Char) : Prop :=
  (∀ c ∈ s.head?, isBlank c = false) ∧ ∀ c ∈ s.getLast?, isBlank c = false

lemma trimEnd_eq (s : List Char) : trimEnd s = s.rdropWhile isBlank := rfl

lemma trim_of_trimmed {s : List Char} (h : Trimmed s) : trim s = s := by
  have hstart : trimStart s = s := by
    cases s with
    | nil => rfl
    | cons c s => rw [trimStart, List.dropWhile_cons_of_neg (by simpa using h.1 c rfl)]
  rw [trim, hstart, trimEnd_eq, List.rdropWhile_eq_self_iff]
  intro hne
  simpa using h.2 _ (List.getLast?_eq_some_getLast hne)

lemma trimmed_trim (s : List Char) : Trimmed (trim s) := by
  constructor
  · intro c hc
    obtain ⟨t, ht⟩ := List.rdropWhile_prefix isBlank (l := trimStart s)
    rw [← trimEnd_eq, ← trim] at ht
    have hhead : (trimStart s).head? = some c := by
      rw [← ht, List.head?_append, Option.mem_def.mp hc, Option.some_or]
    have := List.head?_dropWhile_not isBlank s
    rw [← trimStart, hhead] at this
    exact this
  · intro c hc
    have hne : trim s ≠ [] := fun h => by rw [h] at hc; simp at hc
    rw [← Option.some_inj.mp ((List.getLast?_eq_some_getLast hne).symm.trans hc)]
    exact Bool.eq_false_iff.mpr (List.rdropWhile_last_not isBlank (trimStart s) hne)

lemma trimmed_upper {s : List Char} (h : Trimmed s) : Trimmed (upper s) := by
  constructor
  · intro c hc
    cases s with
    | nil => simp at hc
    | cons d s =>
      rw [upper_cons, List.head?_append_of_ne_nil _ (upperChar_ne_nil d)] at hc
      rw [isBlank_of_mem_upperChar (List.mem_of_mem_head? hc)]
      exact h.1 d rfl
  · intro c hc
    rcases List.eq_nil_or_concat s with rfl | ⟨t, d, rfl⟩
    · simp at hc
    · rw [List.concat_eq_append, upper_append, upper_cons, upper_nil, List.append_nil,
        List.getLast?_append_of_ne_nil _ (upperChar_ne_nil d)] at hc
      rw [isBlank_of_mem_upperChar (List.mem_of_mem_getLast? hc)]
      exact h.2 d (by simp)

lemma blank_iff {s : List Char} : blank s = true ↔ ∀ c ∈ s, isBlank c = true := List.all_eq_true

/-- Only blanks are trimmed off. -/
lemma exists_surround (s : List Char) :
    ∃ u v, blank u = true ∧ blank v = true ∧ s = u ++ trim s ++ v := by
  have hend : trimStart s = trim s ++ ((trimStart s).reverse.takeWhile isBlank).reverse := by
    rw [trim, trimEnd, ← List.reverse_append, List.takeWhile_append_dropWhile, List.reverse_reverse]
  refine ⟨s.takeWhile isBlank, ((trimStart s).reverse.takeWhile isBlank).reverse, ?_, ?_, ?_⟩
  · exact blank_iff.mpr fun c hc => List.mem_takeWhile_imp hc
  · exact blank_iff.mpr fun c hc => List.mem_takeWhile_imp (List.mem_reverse.mp hc)
  · rw [List.append_assoc, ← hend, trimStart, List.takeWhile_append_dropWhile]

lemma blank_trim (s : List Char) : blank (trim s) = blank s := by
  obtain ⟨u, v, hu, hv, hs⟩ := exists_surround s
  conv_rhs => rw [hs, blank_append, blank_append, hu, hv]
  rw [Bool.true_and, Bool.and_true]

end Text

/-! ### Lines -/

lemma toList_normalize (raw : String) :
    (normalize raw).toList = Text.upper (Text.trim raw.toList) := String.toList_ofList

lemma trimmed_normalize (raw : String) : Text.Trimmed (normalize raw).toList := by
  rw [toList_normalize]
  exact Text.trimmed_upper (Text.trimmed_trim raw.toList)

/-- Every character of a normal form is its own upper case. -/
lemma upperChar_of_mem_normalize {raw : String} {c : Char} (h : c ∈ (normalize raw).toList) :
    Text.upperChar c = [c] := by
  rw [toList_normalize] at h
  obtain ⟨d, -, hd⟩ := List.mem_flatMap.mp h
  exact Text.upperChar_of_mem hd

/-- **What normal forms are.** A line is its own normal form exactly if it has no blank at either
end and each of its characters is its own upper case. -/
theorem normalize_eq_self_iff {line : String} :
    normalize line = line ↔
      Text.Trimmed line.toList ∧ ∀ c ∈ line.toList, Text.upperChar c = [c] := by
  constructor
  · intro h
    rw [← h]
    exact ⟨trimmed_normalize line, fun c hc => upperChar_of_mem_normalize hc⟩
  · rintro ⟨htrimmed, hupper⟩
    have hsame : Text.upper line.toList = line.toList := by
      rw [Text.upper, List.flatMap_congr hupper, List.flatMap_singleton']
    rw [normalize, Text.trim_of_trimmed htrimmed, hsame, String.ofList_toList]

@[simp] lemma normalize_normalize (raw : String) : normalize (normalize raw) = normalize raw :=
  normalize_eq_self_iff.mpr ⟨trimmed_normalize raw, fun _ hc => upperChar_of_mem_normalize hc⟩

lemma isBlankLine_normalize {raw : String} (h : isBlankLine raw = false) :
    isBlankLine (normalize raw) = false := by
  rw [isBlankLine, toList_normalize, Text.blank_upper, Text.blank_trim]
  exact h

@[simp] lemma parse_normalize (raw : String) :
    Command.parse (normalize raw) = Command.parse raw := by
  rw [Command.parse, normalize_normalize, ← Command.parse]

end TabletopRobot

import TabletopRobot.Proofs.Json.Written
import TabletopRobot.Proofs.Text.Numeral

/-!
The tokens of JSON are read as they were written: blanks, strings, and numbers of 64 bits.
-/

namespace TabletopRobot.Json

/-! ### Blanks -/

lemma skipSpace_blanks {sp : List Char} (h : Blanks sp) (s : List Char) :
    skipSpace (sp ++ s) = skipSpace s := by
  rw [skipSpace, List.dropWhile_append, List.dropWhile_eq_nil_iff.mpr h]
  rfl

lemma isSpace_iff {c : Char} : isSpace c = true ↔ c = ' ' ∨ c = '\t' ∨ c = '\n' ∨ c = '\r' := by
  simp [isSpace, or_assoc]

lemma skipSpace_cons {c : Char} (hc : isSpace c = false) (s : List Char) :
    skipSpace (c :: s) = c :: s := by
  rw [skipSpace, List.dropWhile_cons_of_neg (by simp [hc])]

/-! ### Strings -/

lemma stringFrom_hex {c : Char} {d k : Nat} (hd : Text.hexValue? c = some d) (hk : k < 3)
    (n : Nat) (t : List Char) :
    stringFrom true (.hex none k n) (c :: t) =
      stringFrom true (.hex none (k + 1) (16 * n + d)) t := by
  rw [stringFrom, hd]
  exact if_pos hk

lemma stringFrom_hex_last {c : Char} {d n : Nat} (hd : Text.hexValue? c = some d)
    (hn : 16 * n + d < 0xD800) (t : List Char) :
    stringFrom true (.hex none 3 n) (c :: t) =
      emit (.ofNat (16 * n + d)) (stringFrom true .plain t) := by
  have hlow : isLow (16 * n + d) = false := by simp [isLow]; omega
  have hhigh : isHigh (16 * n + d) = false := by simp [isHigh]; omega
  rw [stringFrom, hd]
  simp [hlow, hhigh]

/-- A control character is read off its four digits. -/
lemma stringFrom_control {c : Char} (hc : c.toNat < 0x20) (t : List Char) :
    stringFrom true .plain ('\\' :: 'u' :: '0' :: '0' :: Nat.digitChar (c.toNat / 16) ::
      Nat.digitChar (c.toNat % 16) :: t) = emit c (stringFrom true .plain t) := by
  have hdigit : ∀ k < 16, Text.hexValue? (Nat.digitChar k) = some k := by decide
  have hzero : Text.hexValue? '0' = some 0 := by decide
  have hvalue : 16 * (16 * (16 * (16 * 0 + 0) + 0) + c.toNat / 16) + c.toNat % 16 = c.toNat := by
    omega
  calc
    _ = stringFrom true (.hex none 0 0) ('0' :: '0' :: Nat.digitChar (c.toNat / 16) ::
          Nat.digitChar (c.toNat % 16) :: t) := rfl
    _ = stringFrom true (.hex none 3 (16 * (16 * (16 * 0 + 0) + 0) + c.toNat / 16))
          (Nat.digitChar (c.toNat % 16) :: t) := by
      rw [stringFrom_hex hzero (by omega), stringFrom_hex hzero (by omega),
        stringFrom_hex (hdigit _ (by omega)) (by omega)]
    _ = emit c (stringFrom true .plain t) := by
      rw [stringFrom_hex_last (hdigit _ (by omega)) (by omega), hvalue, Char.ofNat_toNat]

/-- A character is read as it was escaped. -/
lemma stringFrom_escapeChar (c : Char) (t : List Char) :
    stringFrom true .plain (escapeChar c ++ t) = emit c (stringFrom true .plain t) := by
  unfold escapeChar
  split_ifs with h1 h2 h3 h4 h5 h6 h7 h8
  · subst h1; rfl
  · subst h2; rfl
  · subst h3; rfl
  · subst h4; rfl
  · subst h5; rfl
  · subst h6; rfl
  · subst h7; rfl
  · exact stringFrom_control h8 t
  · rw [List.singleton_append, stringFrom, if_neg h1, if_neg h2, if_neg h8]

lemma stringFrom_flatMap_escapeChar (s rest : List Char) :
    stringFrom true .plain (s.flatMap escapeChar ++ '"' :: rest) = .ok (s, rest) := by
  induction s with
  | nil => rfl
  | cons c s ih => rw [List.flatMap_cons, List.append_assoc, stringFrom_escapeChar, ih]; rfl

/-- A quoted string is read, after its opening quote. -/
lemma string_quoted (s : String) (rest : List Char) :
    string (s.toList.flatMap escapeChar ++ '"' :: rest) = .ok (s, rest) := by
  rw [string, stringFrom_flatMap_escapeChar]
  simp [Except.map]

/-! ### Numbers -/

/-- A text that does not go on with a numeral. -/
def Closed (rest : List Char) : Prop :=
  ∀ c ∈ rest.head?, c.isDigit = false ∧ c ≠ '.' ∧ c ≠ 'e' ∧ c ≠ 'E'

lemma Closed.nil : Closed [] := by simp [Closed]

lemma Closed.of_space {c : Char} (hc : isSpace c = true) (s : List Char) : Closed (c :: s) := by
  intro d hd
  obtain rfl : c = d := by simpa using hd
  rcases isSpace_iff.mp hc with rfl | rfl | rfl | rfl <;> decide

lemma Closed.blanks {sp s : List Char} (hsp : Blanks sp) (hs : Closed s) : Closed (sp ++ s) := by
  cases sp with
  | nil => exact hs
  | cons c sp => exact .of_space (hsp c List.mem_cons_self) _

lemma digits_append {ds rest : List Char} (hds : ∀ c ∈ ds, c.isDigit = true) (hne : ds ≠ [])
    (hrest : Closed rest) : digits (ds ++ rest) = .ok (ds, rest) := by
  have hstops : Text.Stops rest := fun c hc => (hrest c hc).1
  rw [digits, Text.takeWhile_digits hds hstops, Text.dropWhile_digits hds hstops]
  cases ds with
  | nil => exact absurd rfl hne
  | cons d ds => rfl

lemma wholeDigits_natText (n : Nat) {rest : List Char} (hrest : Closed rest) :
    wholeDigits (Text.natText n ++ rest) = .ok (Text.natText n, rest) := by
  rw [wholeDigits, digits_append (Text.isDigit_natText n) (Text.natText_ne_nil n) hrest]
  by_cases hn : n = 0
  · subst hn
    rfl
  · obtain ⟨d, ds, hds⟩ := List.exists_cons_of_ne_nil (Text.natText_ne_nil n)
    have hd : d ≠ '0' := by
      rintro rfl
      exact Text.head_natText hn (by rw [hds]; rfl)
    rw [hds]
    simp only [bind, Except.bind]
    split
    · rename_i h
      exact absurd (List.cons.inj h).1 hd
    · rfl

lemma fractionDigits_closed {rest : List Char} (hrest : Closed rest) :
    fractionDigits rest = .ok (none, rest) := by
  unfold fractionDigits
  split
  · exact absurd rfl (hrest '.' (by simp)).2.1
  · rfl

lemma exponentDigits_closed {rest : List Char} (hrest : Closed rest) :
    exponentDigits rest = .ok (none, rest) := by
  cases rest with
  | nil => rfl
  | cons c r =>
    obtain ⟨-, -, he, hE⟩ := hrest c (by simp)
    simp [exponentDigits, he, hE]

/-- A numeral without a point and an exponent, after its sign. -/
lemma numeral_natText (n : Nat) {rest : List Char} (hrest : Closed rest) :
    numeral (Text.natText n ++ rest) = .ok (⟨false, Text.natText n, none, none⟩, rest) := by
  have hsign : ∀ r, Text.natText n ++ rest = '-' :: r → False := by
    intro r hr
    obtain ⟨d, ds, hds⟩ := List.exists_cons_of_ne_nil (Text.natText_ne_nil n)
    have hd := Text.isDigit_natText n d (by rw [hds]; exact List.mem_cons_self)
    rw [hds, List.cons_append] at hr
    rw [(List.cons.inj hr).1] at hd
    exact absurd hd (by decide)
  rw [numeral]
  · rw [wholeDigits_natText n hrest]
    change (fractionDigits rest >>= _) = _
    rw [fractionDigits_closed hrest]
    change (exponentDigits rest >>= _) = _
    rw [exponentDigits_closed hrest]
    rfl
  · exact hsign

lemma numeral_negative (n : Nat) {rest : List Char} (hrest : Closed rest) :
    numeral ('-' :: Text.natText n ++ rest) = .ok (⟨true, Text.natText n, none, none⟩, rest) := by
  change (wholeDigits (Text.natText n ++ rest) >>= _) = _
  rw [wholeDigits_natText n hrest]
  change (fractionDigits rest >>= _) = _
  rw [fractionDigits_closed hrest]
  change (exponentDigits rest >>= _) = _
  rw [exponentDigits_closed hrest]
  rfl

lemma le_foldl_digits (ds : List Char) (n : Nat) :
    n ≤ ds.foldl (fun n d => 10 * n + (d.toNat - 48)) n := by
  induction ds generalizing n with
  | nil => exact le_rfl
  | cons d ds ih =>
    have := ih (10 * n + (d.toNat - 48))
    rw [List.foldl_cons]
    omega

/-- Digits whose value fits into 64 bits are all taken. -/
lemma takeWhole_eq (ds : List Char) (n : Nat)
    (h : ds.foldl (fun n d => 10 * n + (d.toNat - 48)) n < UInt64.size) :
    takeWhole n ds = (ds.foldl (fun n d => 10 * n + (d.toNat - 48)) n, 0) := by
  induction ds generalizing n with
  | nil => rfl
  | cons d ds ih =>
    have hle := le_foldl_digits ds (10 * n + (d.toNat - 48))
    rw [List.foldl_cons] at h ⊢
    rw [takeWhole, if_pos (by omega), ih _ h]

lemma takeWhole_natText {n : Nat} (hn : n < UInt64.size) :
    takeWhole 0 (Text.natText n) = (n, 0) := by
  have hvalue := Text.digitsValue_natText n
  rw [Text.digitsValue] at hvalue
  rw [takeWhole_eq _ _ (by rw [hvalue]; exact hn), hvalue]

lemma value_natText {n : Nat} (hn : n < UInt64.size) :
    Numeral.value ⟨false, Text.natText n, none, none⟩ = .ok (.int n) := by
  rw [Numeral.value, takeWhole_natText hn]
  rfl

lemma value_negative {n : Nat} (hpos : 0 < n) (hn : Int64.minValue.toInt ≤ -(n : Int)) :
    Numeral.value ⟨true, Text.natText n, none, none⟩ = .ok (.int (-n)) := by
  have hmin : Int64.minValue.toInt = -9223372036854775808 := by decide
  have hmax : UInt64.size = 18446744073709551616 := rfl
  rw [hmin] at hn
  rw [Numeral.value, takeWhole_natText (by omega)]
  simp [hpos]
  intro hlarge
  omega

/-- The integers that 64 bits hold, with or without a sign. -/
def Wide (i : Int) : Prop := Int64.minValue.toInt ≤ i ∧ i < UInt64.size

lemma number_intText {i : Int} (hi : Wide i) {rest : List Char} (hrest : Closed rest) :
    number (Text.intText i ++ rest) = .ok (.int i, rest) := by
  obtain ⟨hlow, hhigh⟩ := hi
  rw [number]
  cases i with
  | ofNat n =>
    rw [Text.intText, numeral_natText n hrest]
    change (Numeral.value _ >>= _) = _
    rw [value_natText (Int.ofNat_lt.mp hhigh)]
    rfl
  | negSucc n =>
    rw [Text.intText, numeral_negative (n + 1) hrest]
    change (Numeral.value _ >>= _) = _
    rw [value_negative n.succ_pos hlow]
    rfl

/-- The first character of an integer. -/
lemma exists_intText (i : Int) :
    ∃ c s, Text.intText i = c :: s ∧ (c == '-' || c.isDigit) = true := by
  cases i with
  | ofNat n =>
    obtain ⟨d, ds, hds⟩ := List.exists_cons_of_ne_nil (Text.natText_ne_nil n)
    have hd := Text.isDigit_natText n d (by rw [hds]; exact List.mem_cons_self)
    exact ⟨d, ds, hds, by rw [hd, Bool.or_true]⟩
  | negSucc n => exact ⟨'-', Text.natText (n + 1), rfl, rfl⟩

/-- The first character of a number is of no other use. -/
lemma ne_of_numeral {c d : Char} (hc : (c == '-' || c.isDigit) = true)
    (hd : (d == '-' || d.isDigit) = false) : c ≠ d := by
  rintro rfl
  rw [hc] at hd
  cases hd

lemma not_space_of_numeral {c : Char} (hc : (c == '-' || c.isDigit) = true) :
    isSpace c = false := by
  by_contra hspace
  rw [Bool.not_eq_false, isSpace_iff] at hspace
  rcases hspace with rfl | rfl | rfl | rfl <;> exact absurd hc (by decide)

end TabletopRobot.Json

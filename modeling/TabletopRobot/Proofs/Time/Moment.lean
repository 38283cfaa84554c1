import TabletopRobot.Proofs.Text.Numeral
import TabletopRobot.Time.Moment

/-!
The text of a moment is read back, and whatever is read is a moment of the calendar.
-/

namespace TabletopRobot

lemma daysInMonth_le (y : Int) (m : Nat) : daysInMonth y m ≤ 31 := by
  unfold daysInMonth
  split_ifs <;> decide

lemma Date.two_digits {d : Date} (h : d.isValid = true) : d.month < 100 ∧ d.day < 100 := by
  have hdays := daysInMonth_le d.year d.month
  simp only [isValid, Bool.and_eq_true, decide_eq_true_eq] at h
  omega

namespace Moment

/-! ### Numerals and separators -/

/-- A numeral ends where its width does, or where no digit follows. -/
lemma number?_digits {width : Nat} {ds rest : List Char} (hds : ∀ c ∈ ds, c.isDigit = true)
    (hne : ds ≠ []) (hwidth : ds.length ≤ width) (hend : ds.length = width ∨ Text.Stops rest) :
    number? width (ds ++ rest) = some (Text.digitsValue ds, rest) := by
  have hstop : Text.Stops (rest.take (width - ds.length)) := by
    rcases hend with hlength | hstops
    · rw [hlength, Nat.sub_self, List.take_zero]
      exact fun c hc => by cases hc
    · intro c hc
      rw [List.head?_take] at hc
      split at hc
      · cases hc
      · exact hstops c hc
  have hrun : ((ds ++ rest).take width).takeWhile Char.isDigit = ds := by
    rw [List.take_append, List.take_of_length_le hwidth, Text.takeWhile_digits hds hstop]
  rw [number?, hrun, List.drop_left]
  exact if_neg (by simpa using hne)

lemma part?_padded {n : Nat} (hn : n < 100) (rest : List Char) :
    part? (Text.padded 2 n ++ rest) = some (n, rest) := by
  have hds := Text.isDigit_padded 2 n
  have hne := Text.padded_ne_nil 2 n
  have hlength : (Text.padded 2 n).length = 2 := Text.length_padded (by decide) hn
  rw [part?, Text.trimStart_digits hds hne, number?_digits hds hne hlength.le (.inl hlength),
    Text.digitsValue_padded]

lemma separator?_cons {c : Char} (hc : Text.isBlank c = false) (s : List Char) :
    separator? c (c :: s) = some s := by
  rw [separator?, Text.trimStart_cons hc]
  exact if_pos rfl

/-! ### The parts of a text -/

lemma year?_minus (s : List Char) :
    year? ('-' :: s) = (number? s.length s).map fun (n, r) => (-(n : Int), r) := rfl

lemma year?_plus (s : List Char) :
    year? ('+' :: s) = (number? s.length s).map fun (n, r) => ((n : Int), r) := rfl

lemma year?_digit {c : Char} (hc : c.isDigit = true) (s : List Char) :
    year? (c :: s) = (number? 4 (c :: s)).map fun (n, r) => ((n : Int), r) := by
  rw [year?, Text.trimStart_cons (Text.isBlank_of_isDigit hc)]
  split
  · next h => exact absurd ((List.cons.inj h).1 ▸ hc) (by decide)
  · next h => exact absurd ((List.cons.inj h).1 ▸ hc) (by decide)
  · rfl

lemma year?_yearText (y : Int) {rest : List Char} (hrest : Text.Stops rest) :
    year? (yearText y ++ rest) = some (y, rest) := by
  have hds := Text.isDigit_padded 4
  have hne := Text.padded_ne_nil 4
  rw [yearText]
  by_cases hy : 0 ≤ y ∧ y ≤ 9999
  · have hlength : (Text.padded 4 y.toNat).length = 4 := Text.length_padded (by decide) (by omega)
    have hnumber : number? 4 (Text.padded 4 y.toNat ++ rest) = some (y.toNat, rest) := by
      rw [number?_digits (hds _) (hne _) hlength.le (.inl hlength), Text.digitsValue_padded]
    have hvalue : ((y.toNat : Nat) : Int) = y := Int.toNat_of_nonneg hy.1
    obtain ⟨c, ds, hcons⟩ := List.exists_cons_of_ne_nil (hne y.toNat)
    have hc : c.isDigit = true := hds y.toNat c (by simp [hcons])
    rw [if_pos hy]
    rw [hcons, List.cons_append] at hnumber ⊢
    rw [year?_digit hc, hnumber]
    simp only [Option.map_some, hvalue]
  · have hnumber : number? (Text.padded 4 y.natAbs ++ rest).length
        (Text.padded 4 y.natAbs ++ rest) = some (y.natAbs, rest) := by
      rw [number?_digits (hds _) (hne _) (by simp) (.inr hrest), Text.digitsValue_padded]
    rw [if_neg hy, List.cons_append]
    by_cases hneg : y < 0
    · have hvalue : -(y.natAbs : Int) = y := by omega
      rw [if_pos hneg, year?_minus, hnumber]
      simp only [Option.map_some, hvalue]
    · have hvalue : (y.natAbs : Int) = y := by omega
      rw [if_neg hneg, year?_plus, hnumber]
      simp only [Option.map_some, hvalue]

lemma date?_text {d : Date} (hmonth : d.month < 100) (hday : d.day < 100) (rest : List Char) :
    date? (yearText d.year ++ '-' :: Text.padded 2 d.month ++ '-' :: Text.padded 2 d.day ++ rest) =
      some (d, rest) := by
  have hdash : ∀ s, separator? '-' ('-' :: s) = some s := separator?_cons (by decide)
  have hstops : ∀ s, Text.Stops ('-' :: s) := by simp [Text.Stops]
  simp only [List.append_assoc, List.cons_append]
  rw [date?, year?_yearText d.year (hstops _)]
  simp only [Option.bind_eq_bind, Option.bind_some, hdash, part?_padded hmonth, part?_padded hday]

/-- The digits that were left out are zeros. -/
lemma fraction?_padded {width n : Nat} (hpos : 0 < width) (hwidth : width ≤ 9)
    (hn : n < 10 ^ width) (s : List Char) :
    fraction? ('.' :: Text.padded width n ++ 'Z' :: s) = some (n * 10 ^ (9 - width), 'Z' :: s) := by
  have hlength : (Text.padded width n).length = width := Text.length_padded hpos hn
  have hstops : Text.Stops ('Z' :: s) := by simp [Text.Stops]
  have hnumber : number? 9 (Text.padded width n ++ 'Z' :: s) = some (n, 'Z' :: s) := by
    rw [number?_digits (Text.isDigit_padded width n) (Text.padded_ne_nil width n)
      (hlength.le.trans hwidth) (.inr hstops), Text.digitsValue_padded]
  have hread : (Text.padded width n ++ 'Z' :: s).length - ('Z' :: s).length = width := by
    rw [List.length_append, Nat.add_sub_cancel, hlength]
  have hpast : ('Z' :: s).dropWhile Char.isDigit = 'Z' :: s := rfl
  rw [List.cons_append, fraction?, hnumber]
  simp only [Option.bind_eq_bind, Option.bind_some, hread, hpast, Nat.pow_eq]

lemma fraction?_nanoText {n : Nat} (hn : n < 1000000000) (s : List Char) :
    fraction? (nanoText n ++ 'Z' :: s) = some (n, 'Z' :: s) := by
  rw [nanoText]
  by_cases hzero : n = 0
  · rw [if_pos hzero, hzero]
    rfl
  by_cases hmilli : n % 1000000 = 0
  · have hvalue : n / 1000000 * 1000000 = n := by omega
    rw [if_neg hzero, if_pos hmilli, fraction?_padded (by decide) (by decide) (by omega)]
    exact congrArg (fun n => some (n, 'Z' :: s)) hvalue
  by_cases hmicro : n % 1000 = 0
  · have hvalue : n / 1000 * 1000 = n := by omega
    rw [if_neg hzero, if_neg hmilli, if_pos hmicro,
      fraction?_padded (by decide) (by decide) (by omega)]
    exact congrArg (fun n => some (n, 'Z' :: s)) hvalue
  · rw [if_neg hzero, if_neg hmilli, if_neg hmicro, fraction?_padded (by decide) le_rfl hn,
      Nat.sub_self, Nat.pow_zero, Nat.mul_one]

lemma clock?_text {minute second nano : Nat} (hminute : minute < 1440) (hsecond : second ≤ 60)
    (hnano : nano < 1000000000) (s : List Char) :
    clock? (Text.padded 2 (minute / 60) ++ ':' :: Text.padded 2 (minute % 60) ++
      ':' :: Text.padded 2 second ++ nanoText nano ++ 'Z' :: s) =
      some (minute, second, nano, 'Z' :: s) := by
  have hcolon : ∀ s, separator? ':' (':' :: s) = some s := separator?_cons (by decide)
  have hhour : minute / 60 < 24 := by omega
  have hpast : minute % 60 < 60 := Nat.mod_lt minute (by decide)
  have hvalue : 60 * (minute / 60) + minute % 60 = minute := Nat.div_add_mod minute 60
  simp only [List.append_assoc, List.cons_append]
  rw [clock?]
  simp only [Option.bind_eq_bind, Option.bind_some, hcolon, fraction?_nanoText hnano,
    part?_padded (show minute / 60 < 100 by omega), part?_padded (show minute % 60 < 100 by omega),
    part?_padded (show second < 100 by omega), hhour, hpast, hvalue]
  rfl

/-! ### Whole texts -/

lemma offset?_zulu : offset? (Text.trimStart ['Z']) = some (0, []) := by decide

lemma back_zero {t : Moment} (h : t.minute < 1440) : t.back 0 = t := by
  have hlow : ¬ ((t.minute : Int) - 0 < 0) := by omega
  have hhigh : ¬ (1440 ≤ (t.minute : Int) - 0) := by omega
  have hminute : (((t.minute : Int) - 0) % 1440).toNat = t.minute := by omega
  rw [back]
  simp only [if_neg hlow, if_neg hhigh, hminute]

lemma isValid_iff {t : Moment} : t.isValid = true ↔
    t.date.isValid = true ∧ t.minute < 1440 ∧ t.second ≤ 60 ∧ t.nano < 1000000000 := by
  simp [isValid, and_assoc]

/-- **Every moment of the calendar is read back.** -/
theorem parse?_text {t : Moment} (h : t.isValid = true) : parse? t.text = some t := by
  obtain ⟨hdate, hminute, hsecond, hnano⟩ := isValid_iff.mp h
  obtain ⟨hmonth, hday⟩ := Date.two_digits hdate
  have htext : t.text = (yearText t.date.year ++ '-' :: Text.padded 2 t.date.month ++
      '-' :: Text.padded 2 t.date.day) ++ ('T' :: (Text.padded 2 (t.minute / 60) ++
      ':' :: Text.padded 2 (t.minute % 60) ++ ':' :: Text.padded 2 t.second ++ nanoText t.nano ++
      'Z' :: [])) := by
    simp only [text, List.append_assoc, List.cons_append]
  rw [htext, parse?, date?_text hmonth hday]
  simp only [Option.bind_eq_bind, Option.bind_some]
  rw [if_pos (by decide), clock?_text hminute hsecond hnano]
  simp only [Option.bind_some, offset?_zulu, back_zero hminute, h]
  rfl

/-- **What is read is a moment of the calendar.** -/
theorem isValid_of_parse? {s : List Char} {t : Moment} (h : parse? s = some t) :
    t.isValid = true := by
  simp only [parse?, Option.bind_eq_bind, Option.bind_eq_some_iff] at h
  obtain ⟨⟨date, s⟩, -, h⟩ := h
  split at h
  · split at h
    · simp only [Option.bind_eq_some_iff] at h
      obtain ⟨⟨minute, second, nano, s⟩, -, ⟨offset, s⟩, -, h⟩ := h
      split at h
      · next hvalid =>
        rw [← Option.some_inj.mp h]
        simp only [Bool.and_eq_true] at hvalid
        exact hvalid.2
      · cases h
    · cases h
  · cases h

end Moment

end TabletopRobot

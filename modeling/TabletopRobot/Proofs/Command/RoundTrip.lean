import TabletopRobot.Proofs.Command.Placement

/-!
The text of a command is read back as the command.

A word and an unknown text are the line that they were read from, in normal form. A placement is
written anew, with the least of blanks and digits, and such a line is in normal form too.
-/

namespace TabletopRobot

namespace Command

/-! ### Placements -/

lemma clamp_toInt (x : Int64) : clamp x.toInt = x.toInt := by
  have hmin := x.minValue_le_toInt
  have hmax := x.toInt_le
  have hlow : Int64.minValue.toInt = -2 ^ 63 := by decide
  have hhigh : Int64.maxValue.toInt = 2 ^ 63 - 1 := by decide
  rw [clamp]
  omega

lemma spells_intText (i : ℤ) : Spells (Text.intText i) i := by
  have hvalue (n : ℕ) : Nat.ofDigitChars 10 (Text.natText n) 0 = n := Nat.ofDigitChars_ten_toDigits
  cases i with
  | ofNat n =>
    have hspells := Spells.bare (Text.natText_ne_nil n) (Text.isDigit_natText n)
    rwa [hvalue] at hspells
  | negSucc n =>
    have hspells := Spells.minus (Text.natText_ne_nil (n + 1)) (Text.isDigit_natText (n + 1))
    rwa [hvalue] at hspells

variable (x y : Int64) (f : Direction)

/-- The text of a placement as a line that asks for a cell. -/
lemma toList_text_place :
    (text (place x y f)).toList = [] ++ ("PLACE".toList ++ ([' '] ++ Text.intText x.toInt ++ [] ++
      ',' :: ([] ++ Text.intText y.toInt ++ [] ++ ',' :: ([] ++ f.name.toList)))) ++ [] := by
  simp [text, Text.showInt]

lemma raised_name : f.name.toList.map Char.toUpper = f.name.toList := by cases f <;> rfl

lemma asks_text_place : Asks (text (place x y f)).toList x.toInt y.toInt f :=
  .mk (toList_text_place x y f) (by simp) (by simp [Text.isBlank]) rfl (raised_name f)
    (spells_intText x.toInt) (spells_intText y.toInt)

/-- A placement is read back, whether the cell is on the table or not. -/
lemma parse_text_place : parse (text (place x y f)) = .ok (place x y f) := by
  have hsame (x : Int64) : saturate x.toInt = x :=
    Int64.toInt_inj.mp ((toInt_saturate x.toInt).trans (clamp_toInt x))
  rw [(asks_text_place x y f).parse_eq, hsame, hsame]

lemma normalize_text_place : normalize (text (place x y f)) = text (place x y f) := by
  have htext := toList_text_place x y f
  have hnormal := toList_normalize_line htext rfl rfl rfl (raised_name f) (spells_intText x.toInt)
    (spells_intText y.toInt)
  rw [List.append_nil, List.nil_append] at htext
  exact String.toList_inj.mp (hnormal.trans htext.symm)

/-! ### Other commands -/

/-- Any other command is the line that it was read from. -/
lemma text_of_parse {raw : String} {c : Command} (h : parse raw = .ok c) :
    (∃ x y f, c = place x y f) ∨ c.text = normalize raw := by
  have hline : String.ofList (normalize raw).toList = normalize raw := String.ofList_toList
  have hparse : parse raw = ofLine (normalize raw).toList := rfl
  rw [hparse] at h
  rcases ofLine_cases (raised_normalize raw) (trimmed_normalize raw) with
    ⟨p, hp, hword, hread⟩ | ⟨x, y, f, -, hread⟩ | ⟨-, -, flaws, -, hread⟩ | ⟨-, -, hread⟩
  all_goals rw [hread] at h
  · obtain rfl := Except.ok.inj h
    exact Or.inr ((text_keyword hp).trans (String.toList_inj.mp hword.symm))
  · exact Or.inl ⟨x, y, f, (Except.ok.inj h).symm⟩
  · cases h
  · obtain rfl := Except.ok.inj h
    exact Or.inr hline

end Command

open Command

/-- **Commands are read back from their text.** Whatever line a command was read from, its text is
in normal form and is read as that command. So is the text of every placement, with any integers
of 64 bits. -/
theorem command_text_read_back :
    (∀ raw c, parse raw = .ok c → parse c.text = .ok c ∧ normalize c.text = c.text) ∧
      ∀ x y f, parse (text (place x y f)) = .ok (place x y f) := by
  refine ⟨fun raw c h => ?_, parse_text_place⟩
  rcases text_of_parse h with ⟨x, y, f, rfl⟩ | htext
  · exact ⟨parse_text_place x y f, normalize_text_place x y f⟩
  · rw [htext, parse_normalize, normalize_normalize]
    exact ⟨h, rfl⟩

theorem command_text_read_back_saturated :
    let c := place 0 Int64.maxValue .east
    parse " place\t-00 , 99999999999999999999,east" = .ok c ∧
      c.text = "PLACE 0,9223372036854775807,EAST" ∧ parse c.text = .ok c ∧
      normalize c.text = c.text := by
  intro c
  have h : parse " place\t-00 , 99999999999999999999,east" = .ok c := rfl
  exact ⟨h, by decide +kernel, command_text_read_back.1 _ c h⟩

end TabletopRobot

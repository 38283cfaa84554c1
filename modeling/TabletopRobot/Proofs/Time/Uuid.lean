import Mathlib
import TabletopRobot.Time.Uuid

/-!
The text of an identifier is read back.
-/

namespace TabletopRobot.Uuid

lemma hexValue?_digitChar (d : Fin 16) :
    (Text.hexValue? (Nat.digitChar d.val)).map (Fin.ofNat 16) = some d := by
  revert d
  decide

lemma simple?_hexChars (u : Uuid) : simple? (hexChars u.digits) = some u := by
  have hmap : ∀ ds : List (Fin 16),
      (hexChars ds).mapM (fun c => (Text.hexValue? c).map (Fin.ofNat 16)) = some ds := by
    intro ds
    induction ds with
    | nil => rfl
    | cons d ds ih =>
      rw [hexChars, List.map_cons, List.mapM_cons, hexValue?_digitChar, ← hexChars, ih]
      rfl
  rw [simple?, hmap]
  exact dif_pos u.length_digits

/-- Digits in groups stand for what they stand for without the hyphens. -/
lemma hyphenated?_groups {a b c d e : List Char} (ha : a.length = 8) (hb : b.length = 4)
    (hc : c.length = 4) (hd : d.length = 4) (he : e.length = 12) :
    hyphenated? (a ++ '-' :: b ++ '-' :: c ++ '-' :: d ++ '-' :: e) =
      simple? (a ++ b ++ c ++ d ++ e) := by
  set s := a ++ '-' :: b ++ '-' :: c ++ '-' :: d ++ '-' :: e with hs
  have hlength : s.length = 36 := by simp [hs, ha, hb, hc, hd, he]
  have hhyphens : s[8]? = some '-' ∧ s[13]? = some '-' ∧ s[18]? = some '-' ∧ s[23]? = some '-' := by
    simp [hs, List.getElem?_append, ha, hb, hc, hd]
  have hdigits : s.take 8 ++ (s.drop 9).take 4 ++ (s.drop 14).take 4 ++ (s.drop 19).take 4 ++
      s.drop 24 = a ++ b ++ c ++ d ++ e := by
    have hpast : ∀ (t : List Char) (n : Nat), t.length ≤ n → t.drop n = [] := fun _ _ =>
      List.drop_of_length_le
    simp (disch := omega) [hs, List.drop_append, hpast, ha, hb, hc, hd]
  obtain ⟨h8, h13, h18, h23⟩ := hhyphens
  simp only [hyphenated?, hlength, h8, h13, h18, h23, hdigits]
  rfl

lemma groups_join (s : List Char) :
    s.take 8 ++ (s.drop 8).take 4 ++ (s.drop 12).take 4 ++ (s.drop 16).take 4 ++ s.drop 20 = s := by
  have hjoin : ∀ m n, (s.drop m).take n ++ s.drop (m + n) = s.drop m := fun m n => by
    rw [← List.drop_drop, List.take_append_drop]
  rw [List.append_assoc, hjoin 16 4, List.append_assoc, hjoin 12 4, List.append_assoc, hjoin 8 4,
    List.take_append_drop]

/-- **Every identifier is read back.** -/
theorem parse?_text (u : Uuid) : parse? u.text = some u := by
  have hlength : (hexChars u.digits).length = 32 := by
    rw [hexChars, List.length_map, u.length_digits]
  have hgroups : hyphenated? u.text = some u := by
    rw [text, hyphenated?_groups (by simp [hlength]) (by simp [hlength]) (by simp [hlength])
      (by simp [hlength]) (by simp [hlength]), groups_join, simple?_hexChars]
  have htext : u.text.length = 36 := by simp [text, hlength]
  have hhyphen : u.text[8]? = some '-' := by simp [text, hlength]
  have hurn : (u.text.take 9).map Char.toLower ≠ "urn:uuid:".toList := by
    intro h
    have hcolon := congrArg (fun s => s[8]?) h
    simp [hhyphen] at hcolon
  rw [parse?, htext, if_neg (by decide), if_neg (by simp), if_neg (by simpa using hurn), hgroups]

end TabletopRobot.Uuid

import TabletopRobot.Proofs.Command.Grammar
import TabletopRobot.Proofs.Session.Execution
import TabletopRobot.Proofs.Table

/-!
What a line that asks for a cell does, whatever its coordinates are.

The coordinates are integers of any size. They are first brought into 64 bits and then compared
with the table, which comes to comparing the integers themselves, as the table lies well within
64 bits.
-/

namespace TabletopRobot

namespace Command

/-- A line that asks for the cell `(a, b)` and the direction `f`, piece by piece: letters in
either case, and blanks around the fields and the line. -/
inductive Asks (raw : List Char) (a b : ℤ) (f : Direction) : Prop
  | mk {u word w₀ tx w₁ w₂ ty w₃ w₄ name v : List Char}
    (hraw : raw = u ++ (word ++ (w₀ ++ tx ++ w₁ ++ ',' :: (w₂ ++ ty ++ w₃ ++
      ',' :: (w₄ ++ name)))) ++ v)
    (hsep : w₀ ≠ []) (hblank : ∀ w ∈ [u, w₀, w₁, w₂, w₃, w₄, v], ∀ c ∈ w, Text.isBlank c = true)
    (hword : word.map Char.toUpper = "PLACE".toList)
    (hname : name.map Char.toUpper = f.name.toList) (htx : Spells tx a) (hty : Spells ty b)

/-! ### In normal form -/

lemma upper_place {word : List Char} (h : word.map Char.toUpper = "PLACE".toList) :
    Text.upper word = "PLACE".toList := Text.upper_of_map h (by simp)

lemma upper_name {name : List Char} {f : Direction} (h : name.map Char.toUpper = f.name.toList) :
    Text.upper name = f.name.toList := Text.upper_of_map h (by cases f <;> simp [Direction.name])

lemma Spells.upper_eq {t : List Char} {i : ℤ} (h : Spells t i) : Text.upper t = t := by
  refine Text.upper_of_map ?_ fun c hc => (h.plain c hc).1
  exact (List.map_congr_left fun c hc => (h.plain c hc).2).trans (List.map_id t)

/-- What is a word once it is raised was one before. -/
lemma solid_of_upper {s : List Char} (h : ∀ c ∈ Text.upper s, Text.isBlank c = false) :
    ∀ c ∈ s, Text.isBlank c = false := by
  intro c hc
  obtain ⟨d, hd⟩ := List.exists_mem_of_ne_nil _ (Text.upperChar_ne_nil c)
  rw [← Text.isBlank_of_mem_upperChar hd]
  exact h d (List.mem_flatMap.mpr ⟨c, hc, hd⟩)

lemma ne_nil_of_upper {s : List Char} (h : Text.upper s ≠ []) : s ≠ [] := by
  rintro rfl
  exact h rfl

lemma upper_ne_nil {s : List Char} (h : s ≠ []) : Text.upper s ≠ [] := by
  obtain ⟨c, s, rfl⟩ := List.exists_cons_of_ne_nil h
  rw [Text.upper_cons]
  exact List.append_ne_nil_of_left_ne_nil (Text.upperChar_ne_nil c) _

/-- A line that begins with `PLACE` and ends in a direction is trimmed. -/
lemma trimmed_line {word name : List Char} {f : Direction}
    (hword : word.map Char.toUpper = "PLACE".toList)
    (hname : name.map Char.toUpper = f.name.toList) (m : List Char) :
    Text.Trimmed (word ++ m ++ name) := by
  have hword' : Text.upper word = "PLACE".toList := upper_place hword
  have hname' : Text.upper name = f.name.toList := upper_name hname
  have hfirst : ∀ c ∈ word, Text.isBlank c = false :=
    solid_of_upper (by rw [hword']; simp [Text.isBlank])
  have hlast : ∀ c ∈ name, Text.isBlank c = false :=
    solid_of_upper (by rw [hname']; exact fun c hc => (solid_name f c hc).1)
  have hwordne : word ≠ [] := ne_nil_of_upper (by rw [hword']; decide)
  have hnamene : name ≠ [] := ne_nil_of_upper (by rw [hname']; cases f <;> decide)
  exact Text.trimmed_between hfirst hwordne hlast hnamene

/-- The normal form of a line that asks for a cell, piece by piece. -/
lemma toList_normalize_line {raw : String} {u word w₀ tx w₁ w₂ ty w₃ w₄ name v : List Char}
    {a b : ℤ} {f : Direction}
    (hraw : raw.toList = u ++ (word ++ (w₀ ++ tx ++ w₁ ++ ',' :: (w₂ ++ ty ++ w₃ ++
      ',' :: (w₄ ++ name)))) ++ v)
    (hu : Text.blank u = true) (hv : Text.blank v = true)
    (hword : word.map Char.toUpper = "PLACE".toList)
    (hname : name.map Char.toUpper = f.name.toList) (htx : Spells tx a) (hty : Spells ty b) :
    (normalize raw).toList = "PLACE".toList ++ (Text.upper w₀ ++ tx ++ Text.upper w₁ ++
      ',' :: (Text.upper w₂ ++ ty ++ Text.upper w₃ ++
        ',' :: (Text.upper w₄ ++ f.name.toList))) := by
  have hcomma : Text.upperChar ',' = [','] := rfl
  have htrimmed :=
    trimmed_line hword hname (w₀ ++ tx ++ w₁ ++ ',' :: (w₂ ++ ty ++ w₃ ++ ',' :: w₄))
  rw [toList_normalize, hraw, Text.trim_surround hu hv, Text.trim_of_trimmed]
  · simp only [Text.upper_append, Text.upper_cons, hcomma, upper_place hword, upper_name hname,
      htx.upper_eq, hty.upper_eq, List.singleton_append]
  · simpa only [List.append_assoc, List.cons_append] using htrimmed

/-- In normal form, a line that asks for a cell is a placement with the same numbers. -/
lemma Asks.places {raw : String} {a b : ℤ} {f : Direction} (h : Asks raw.toList a b f) :
    Places (normalize raw).toList (saturate a) (saturate b) f := by
  obtain ⟨hraw, hsep, hblank, hword, hname, htx, hty⟩ := h
  simp only [List.forall_mem_cons, ← Text.blank_iff] at hblank
  obtain ⟨hu, h₀, h₁, h₂, h₃, h₄, hv, -⟩ := hblank
  -- raising makes no character of a blank text anything but blank
  refine Places.mk (toList_normalize_line hraw hu hv hword hname htx hty) (upper_ne_nil hsep) ?_ htx
    (toInt_saturate a) hty (toInt_saturate b)
  simp only [List.forall_mem_cons, ← Text.blank_iff, Text.blank_upper]
  exact ⟨h₀, h₁, h₂, h₃, h₄, List.forall_mem_nil _⟩

lemma Asks.parse_eq {raw : String} {a b : ℤ} {f : Direction} (h : Asks raw.toList a b f) :
    parse raw = .ok (.place (saturate a) (saturate b) f) := h.places.ofLine_eq

/-- A line with a word in it is not blank. -/
lemma Asks.not_blank {raw : String} {a b : ℤ} {f : Direction} (h : Asks raw.toList a b f) :
    isBlankLine raw = false := by
  obtain ⟨hraw, -, -, hword, -⟩ := h
  have hplace : Text.blank "PLACE".toList = false := rfl
  rw [← upper_place hword, Text.blank_upper] at hplace
  rw [isBlankLine, hraw]
  simp [hplace]

/-- A line that is read as a placement is not blank. -/
lemma not_blank_of_parse_place {raw : String} {x y : Int64} {f : Direction}
    (h : parse raw = .ok (.place x y f)) : isBlankLine raw = false := by
  have hplaces := (ofLine_eq_place_iff (raised_normalize raw) (trimmed_normalize raw)).mp h
  obtain ⟨rest, hrest⟩ := hplaces.isPrefix
  by_contra hblank
  rw [Bool.not_eq_false, isBlankLine] at hblank
  have hnormal : Text.blank (normalize raw).toList = true := by
    rw [toList_normalize, Text.blank_upper, Text.blank_trim, hblank]
  simp [← hrest, Text.isBlank] at hnormal

/-! ### On the table or off it -/

/-- Bringing an integer into 64 bits moves it neither onto the table nor off it. -/
lemma clamp_on_table (a : ℤ) :
    (0 ≤ clamp a ∧ clamp a ≤ 4 ↔ 0 ≤ a ∧ a ≤ 4) ∧ (0 ≤ a ∧ a ≤ 4 → clamp a = a) := by
  rw [clamp]
  omega

end Command

namespace Robot

variable {x y : Int64} {f : Direction}

lemma apply_place_on (r : Robot) (h : (0 ≤ x.toInt ∧ x.toInt ≤ 4) ∧ 0 ≤ y.toInt ∧ y.toInt ≤ 4) :
    ∃ p : Position, ((p.x : ℕ) : ℤ) = x.toInt ∧ ((p.y : ℕ) : ℤ) = y.toInt ∧
      r.apply (.place x y f) = (placed ⟨p, f⟩, .placed ⟨p, f⟩) := by
  obtain ⟨p, hp, hx, hy⟩ := Position.ofInts?_eq_some h
  exact ⟨p, hx, hy, by rw [apply, hp]⟩

lemma apply_place_off (r : Robot)
    (h : ¬((0 ≤ x.toInt ∧ x.toInt ≤ 4) ∧ 0 ≤ y.toInt ∧ y.toInt ≤ 4)) :
    r.apply (.place x y f) = (r, .offTable x y) := by
  rw [apply, Position.ofInts?_eq_none h]

end Robot

/-- The command places the robot on the table. -/
def Command.OnTable : Command → Prop
  | place x y _ => (0 ≤ x.toInt ∧ x.toInt ≤ 4) ∧ 0 ≤ y.toInt ∧ y.toInt ≤ 4
  | _ => False

/-- Such a command does the same to every robot. -/
lemma Command.OnTable.apply_eq {c : Command} (h : c.OnTable) :
    ∃ p, ∀ r : Robot, r.apply c = (.placed p, .placed p) := by
  cases c with
  | place x y f =>
    obtain ⟨p, hp, -⟩ := Position.ofInts?_eq_some h
    exact ⟨⟨p, f⟩, fun r => by rw [Robot.apply, hp]⟩
  | _ => exact h.elim

lemma message_offTable (x y : Int64) :
    (Outcome.offTable x y).message =
      "Invalid PLACE: (" ++ toString x.toInt ++ ", " ++ toString y.toInt ++
        ") is off the table" := by
  have hmessage : (Outcome.offTable x y).message =
      "Invalid PLACE: " ++ offTableMessage x.toInt y.toInt := rfl
  have hopen : "Invalid PLACE: (" = "Invalid PLACE: " ++ "(" := by simp
  have hclose : ") is off the table" = ")" ++ " is off the table" := by simp
  rw [hmessage, offTableMessage, Position.showInts, Text.showInt_eq, Text.showInt_eq, hopen, hclose]
  simp only [String.append_assoc]

open Command

/-- A line that asks for a cell does what the placement does. -/
lemma Command.Asks.applyLine_eq {raw : String} {a b : ℤ} {f : Direction} (h : Asks raw.toList a b f)
    (r : Robot) : r.applyLine raw = r.apply (.place (saturate a) (saturate b) f) := by
  rw [Robot.applyLine, h.parse_eq]

lemma Session.entryOf_message (s : Session) (raw : String) :
    (s.entryOf raw).message = (s.robot.applyLine raw).2.message := rfl

/-- **A placement means the integers that stand in it.** Let a line ask for a cell and a direction,
by integers of any size. Entered in any session, it is read as a placement, with the integers
brought into 64 bits, and adds an entry. If the cell is on the table, the robot stands there
afterwards and faces that way. Otherwise the robot stays as it was, and the entry is an error that
names the cell. The output stays as it was in either case. -/
theorem placement_means_integers (s : Session) {raw : String} {a b : ℤ} {f : Direction}
    (h : Asks raw.toList a b f) :
    let t := (s.enter raw).2
    (∃ x y, parse raw = .ok (.place x y f) ∧ x.toInt = clamp a ∧ y.toInt = clamp b) ∧
      ∃ e, (s.enter raw).1 = some e ∧ t.journal = s.journal ++ [e] ∧ t.output = s.output ∧
        ((0 ≤ a ∧ a ≤ 4) ∧ (0 ≤ b ∧ b ≤ 4) → e.severity = .success ∧
          ∃ p : Position, t.robot = .placed ⟨p, f⟩ ∧
            ((p.x : ℕ) : ℤ) = a ∧ ((p.y : ℕ) : ℤ) = b) ∧
        (¬((0 ≤ a ∧ a ≤ 4) ∧ (0 ≤ b ∧ b ≤ 4)) → t.robot = s.robot ∧ e.severity = .error ∧
          e.message = "Invalid PLACE: (" ++ toString (clamp a) ++ ", " ++ toString (clamp b) ++
            ") is off the table") := by
  intro t
  have ha : (saturate a).toInt = clamp a := toInt_saturate a
  have hb : (saturate b).toInt = clamp b := toInt_saturate b
  have htable : ((0 ≤ clamp a ∧ clamp a ≤ 4) ∧ 0 ≤ clamp b ∧ clamp b ≤ 4) ↔
      (0 ≤ a ∧ a ≤ 4) ∧ 0 ≤ b ∧ b ≤ 4 := and_congr (clamp_on_table a).1 (clamp_on_table b).1
  have henter := s.enter_of_not_blank h.not_blank
  have ht : t = s.execute raw := congrArg Prod.snd henter
  have hline := h.applyLine_eq s.robot
  refine ⟨⟨_, _, h.parse_eq, ha, hb⟩, s.entryOf raw, congrArg Prod.fst henter, by rw [ht]; rfl, ?_⟩
  rw [ht, Session.execute_output, Session.execute_robot, Session.entryOf_severity,
    Session.entryOf_message, hline]
  by_cases hon : (0 ≤ a ∧ a ≤ 4) ∧ 0 ≤ b ∧ b ≤ 4
  · obtain ⟨p, hx, hy, happly⟩ := s.robot.apply_place_on (x := saturate a) (y := saturate b)
      (f := f) (by rwa [ha, hb, htable])
    rw [happly]
    refine ⟨List.append_nil _, fun _ => ⟨rfl, p, rfl, ?_, ?_⟩, fun hoff => absurd hon hoff⟩
    · rw [hx, ha, (clamp_on_table a).2 hon.1]
    · rw [hy, hb, (clamp_on_table b).2 hon.2]
  · have happly := s.robot.apply_place_off (x := saturate a) (y := saturate b) (f := f)
      (by rwa [ha, hb, htable])
    rw [happly]
    refine ⟨List.append_nil _, fun hin => absurd hin hon, fun _ => ⟨rfl, rfl, ?_⟩⟩
    rw [message_offTable, ha, hb]

/-- One more than `2 ^ 64`, which 64 bits would take for one, and a zero with a minus sign. -/
theorem placement_means_integers_past_64_bits :
    let s := (Session.runAll {} ["place 1,2,north"]).2
    let raw := "\tPlAcE\u2003+0018446744073709551617 ,\u00a0-00,wEsT "
    Asks raw.toList 18446744073709551617 0 .west ∧ (s.enter raw).2.robot = s.robot ∧
      (s.enter raw).1.map Entry.message =
        some "Invalid PLACE: (9223372036854775807, 0) is off the table" := by
  intro s raw
  let ds := "0018446744073709551617".toList
  have hlarge : Spells ('+' :: ds) 18446744073709551617 := by
    have hvalue : ((Nat.ofDigitChars 10 ds 0 : ℕ) : ℤ) = 18446744073709551617 := by decide +kernel
    rw [← hvalue]
    exact .plus (by simp [ds]) (by simp [ds])
  have hzero : Spells ['-', '0', '0'] 0 := .minus (by simp) (by simp)
  have h : Asks raw.toList 18446744073709551617 0 .west :=
    @Asks.mk _ _ _ _ ['\t'] "PlAcE".toList ['\u2003'] ('+' :: ds) [' '] ['\u00a0']
      ['-', '0', '0'] [] [] "wEsT".toList [' '] (by decide +kernel) (by simp)
      (by simp [Text.isBlank])
      (by decide +kernel) (by decide +kernel) hlarge hzero
  obtain ⟨-, e, he, -, -, -, hoff⟩ := placement_means_integers s h
  obtain ⟨hrobot, -, hmessage⟩ := hoff (by omega)
  refine ⟨h, hrobot, ?_⟩
  rw [he, Option.map_some, hmessage]
  decide +kernel

end TabletopRobot

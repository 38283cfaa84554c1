import TabletopRobot.Robot.View
import TabletopRobot.Proofs.Json.Nested
import TabletopRobot.Proofs.Table

/-!
Views and robots. Each robot has one view, which is empty, or complete and on the table; every
other view is refused.
-/

namespace TabletopRobot

open Json (Reads Fills)

namespace RobotView

/-! ### The robot of a view -/

lemma toRobot_ofRobot (r : Robot) : (ofRobot r).toRobot = .ok r := by
  have hcoordinate : ∀ i : Fin tableSize, (Int32.ofInt i).toInt = i := by decide
  cases r with
  | unplaced => rfl
  | placed p =>
    rw [ofRobot, toRobot, hcoordinate, hcoordinate, Position.ofInts?_cast]

/-- A robot is read from no other view than its own. -/
lemma toRobot_eq_ok_iff {v : RobotView} {r : Robot} : v.toRobot = .ok r ↔ v = ofRobot r := by
  constructor
  · intro h
    unfold toRobot at h
    split at h
    · obtain rfl := Except.ok.inj h
      rfl
    · next x y f =>
      split at h
      · next p hp =>
        obtain rfl := Except.ok.inj h
        obtain ⟨hx, hy⟩ := Position.cast_of_ofInts? hp
        rw [ofRobot, hx, hy, Int32.ofInt_toInt, Int32.ofInt_toInt]
      · cases h
    · cases h
  · rintro rfl
    exact toRobot_ofRobot r

/-- The view of a robot is empty, or it is complete and on the table. -/
lemma ofRobot_whole (r : Robot) :
    ofRobot r = ⟨false, none, none, none⟩ ∨ ∃ x y f, ofRobot r = ⟨true, some x, some y, some f⟩ ∧
      (0 ≤ x.toInt ∧ x.toInt ≤ 4) ∧ 0 ≤ y.toInt ∧ y.toInt ≤ 4 := by
  have hrange : ∀ i : Fin tableSize, 0 ≤ (Int32.ofInt i).toInt ∧ (Int32.ofInt i).toInt ≤ 4 := by
    decide
  cases r with
  | unplaced => exact Or.inl rfl
  | placed p => exact Or.inr ⟨_, _, _, rfl, hrange p.position.x, hrange p.position.y⟩

lemma toRobot_on {x y : Int32} {f : Direction}
    (h : (0 ≤ x.toInt ∧ x.toInt ≤ 4) ∧ 0 ≤ y.toInt ∧ y.toInt ≤ 4) :
    ∃ r, toRobot ⟨true, some x, some y, some f⟩ = .ok r := by
  obtain ⟨p, hp, -⟩ := Position.ofInts?_eq_some h
  exact ⟨.placed ⟨p, f⟩, by rw [toRobot, hp]⟩

lemma toRobot_off {x y : Int32} {f : Direction}
    (h : ¬((0 ≤ x.toInt ∧ x.toInt ≤ 4) ∧ 0 ≤ y.toInt ∧ y.toInt ≤ 4)) :
    toRobot ⟨true, some x, some y, some f⟩ = .error (.offTable x y) := by
  rw [toRobot, Position.ofInts?_eq_none h]

lemma toRobot_partly {v : RobotView} (hempty : v ≠ ⟨false, none, none, none⟩)
    (hcomplete : ∀ x y f, v ≠ ⟨true, some x, some y, some f⟩) :
    v.toRobot = .error (.partly v) := by
  unfold toRobot
  split
  · exact absurd rfl hempty
  · next x y f => exact absurd rfl (hcomplete x y f)
  · rfl

/-- **What becomes of a view.** -/
lemma toRobot_cases (v : RobotView) :
    (v = ⟨false, none, none, none⟩ ∧ v.toRobot = .ok .unplaced) ∨
    (∃ x y f, v = ⟨true, some x, some y, some f⟩ ∧
      ((0 ≤ x.toInt ∧ x.toInt ≤ 4) ∧ 0 ≤ y.toInt ∧ y.toInt ≤ 4) ∧ ∃ r, v.toRobot = .ok r) ∨
    (∃ x y f, v = ⟨true, some x, some y, some f⟩ ∧
      ¬((0 ≤ x.toInt ∧ x.toInt ≤ 4) ∧ 0 ≤ y.toInt ∧ y.toInt ≤ 4) ∧
        v.toRobot = .error (.offTable x y)) ∨
    (v ≠ ⟨false, none, none, none⟩ ∧ (∀ x y f, v ≠ ⟨true, some x, some y, some f⟩) ∧
      v.toRobot = .error (.partly v)) := by
  by_cases hempty : v = ⟨false, none, none, none⟩
  · exact Or.inl ⟨hempty, by rw [hempty]; rfl⟩
  by_cases hcomplete : ∃ x y f, v = ⟨true, some x, some y, some f⟩
  · obtain ⟨x, y, f, rfl⟩ := hcomplete
    by_cases hon : (0 ≤ x.toInt ∧ x.toInt ≤ 4) ∧ 0 ≤ y.toInt ∧ y.toInt ≤ 4
    · exact Or.inr (Or.inl ⟨x, y, f, rfl, hon, toRobot_on hon⟩)
    · exact Or.inr (Or.inr (Or.inl ⟨x, y, f, rfl, hon, toRobot_off hon⟩))
  · have hnone : ∀ x y f, v ≠ ⟨true, some x, some y, some f⟩ :=
      fun x y f h => hcomplete ⟨x, y, f, h⟩
    exact Or.inr (Or.inr (Or.inr ⟨hempty, hnone, toRobot_partly hempty hnone⟩))

lemma exists_toRobot_iff {v : RobotView} : (∃ r, v.toRobot = .ok r) ↔
    v = ⟨false, none, none, none⟩ ∨ ∃ x y f, v = ⟨true, some x, some y, some f⟩ ∧
      (0 ≤ x.toInt ∧ x.toInt ≤ 4) ∧ 0 ≤ y.toInt ∧ y.toInt ≤ 4 := by
  constructor
  · rintro ⟨r, h⟩
    rw [toRobot_eq_ok_iff.mp h]
    exact ofRobot_whole r
  · rintro (rfl | ⟨x, y, f, rfl, hon⟩)
    · exact ⟨.unplaced, rfl⟩
    · exact toRobot_on hon

lemma toRobot_eq_offTable_iff {v : RobotView} {x y : Int32} :
    v.toRobot = .error (.offTable x y) ↔ (∃ f, v = ⟨true, some x, some y, some f⟩) ∧
      ¬((0 ≤ x.toInt ∧ x.toInt ≤ 4) ∧ 0 ≤ y.toInt ∧ y.toInt ≤ 4) := by
  constructor
  · intro h
    rcases toRobot_cases v with ⟨-, hv⟩ | ⟨_, _, _, -, -, _, hv⟩ | ⟨_, _, f, rfl, hoff, hv⟩ |
      ⟨-, -, hv⟩
    all_goals rw [hv] at h; cases h
    exact ⟨⟨f, rfl⟩, hoff⟩
  · rintro ⟨⟨f, rfl⟩, hoff⟩
    exact toRobot_off hoff

lemma toRobot_eq_partly_iff {v w : RobotView} :
    v.toRobot = .error (.partly w) ↔ w = v ∧ v ≠ ⟨false, none, none, none⟩ ∧
      ∀ x y f, v ≠ ⟨true, some x, some y, some f⟩ := by
  constructor
  · intro h
    rcases toRobot_cases v with ⟨-, hv⟩ | ⟨_, _, _, -, -, _, hv⟩ | ⟨_, _, _, -, -, hv⟩ |
      ⟨hempty, hcomplete, hv⟩
    all_goals rw [hv] at h; cases h
    exact ⟨rfl, hempty, hcomplete⟩
  · rintro ⟨rfl, hempty, hcomplete⟩
    exact toRobot_partly hempty hcomplete

/-! ### The text of a view -/

lemma reads_direction (d : Direction) : Reads direction (.str d.name) d :=
  .oneOf (by cases d <;> rfl)

lemma reads_coordinate (x : Option Int32) :
    Reads (Json.nullable Json.int32) (.nullable (fun i => .int i.toInt) x) x := by
  cases x with
  | none => exact .nullable_none _
  | some i =>
    refine (Reads.int32 i).nullable_some fun L level s hs => ?_
    obtain ⟨c, r, hr, hc⟩ := Json.exists_intText i.toInt
    rw [Json.Value.written_int, hr] at hs
    exact Json.ne_of_numeral hc (by decide) (List.cons.inj hs).1

lemma reads_facing (d : Option Direction) :
    Reads (Json.nullable direction) (.nullable (fun d => .str d.name) d) d := by
  cases d with
  | none => exact .nullable_none _
  | some d =>
    refine (reads_direction d).nullable_some fun L level s hs => ?_
    cases d <;> cases hs

/-- Every view is read back, that of a robot or not. -/
lemma reads (v : RobotView) : Reads RobotView.reader v.toValue v := by
  let d : Draft := ⟨some v.placed, some v.x, some v.y, some v.facing⟩
  refine Reads.andThen (a := d) (Fills.reads ?_) rfl
  refine .field rfl rfl (.boolean v.placed) ?_
  refine .field rfl rfl (reads_coordinate v.x) ?_
  refine .field rfl rfl (reads_coordinate v.y) ?_
  refine .field rfl rfl (reads_facing v.facing) ?_
  exact .nil d

end RobotView

lemma Robot.reads (r : Robot) : Reads Robot.reader r.toValue r := by
  refine (RobotView.ofRobot r).reads.andThen ?_
  rw [RobotView.toRobot_ofRobot]
  rfl

/-- **Robots are the whole views.** A view is that of a robot exactly if it is empty, or complete
and on the table, and then it is the view of the robot that is made of it. A complete view off the
table is refused for its coordinates, and any other view is refused as it is. Every robot is made
of its own view, and read back from its text. -/
theorem RobotView.robots_are_whole_views :
    (∀ v : RobotView,
      ((∃ r, v.toRobot = .ok r) ↔ v = ⟨false, none, none, none⟩ ∨
        ∃ x y f, v = ⟨true, some x, some y, some f⟩ ∧
          (0 ≤ x.toInt ∧ x.toInt ≤ 4) ∧ 0 ≤ y.toInt ∧ y.toInt ≤ 4) ∧
      (∀ r, v.toRobot = .ok r ↔ ofRobot r = v) ∧
      (∀ x y, v.toRobot = .error (.offTable x y) ↔
        (∃ f, v = ⟨true, some x, some y, some f⟩) ∧
          ¬((0 ≤ x.toInt ∧ x.toInt ≤ 4) ∧ 0 ≤ y.toInt ∧ y.toInt ≤ 4)) ∧
      ∀ w, v.toRobot = .error (.partly w) ↔ w = v ∧ v ≠ ⟨false, none, none, none⟩ ∧
        ∀ x y f, v ≠ ⟨true, some x, some y, some f⟩) ∧
    ∀ r : Robot, (ofRobot r).toRobot = .ok r ∧
      Json.decode Robot.reader r.toValue.compactText = .ok r := by
  exact ⟨fun v => ⟨exists_toRobot_iff, fun r => toRobot_eq_ok_iff.trans eq_comm,
    fun x y => toRobot_eq_offTable_iff, fun w => toRobot_eq_partly_iff⟩,
    fun r => ⟨toRobot_ofRobot r, r.reads.decode.1⟩⟩

end TabletopRobot

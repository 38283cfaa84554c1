import TabletopRobot.Proofs.Robot.Course

/-!
Moves straight on: cell by cell as long as there is room, and on the spot from then on.
-/

namespace TabletopRobot

namespace Position

/-- The coordinate on the table that is nearest to an integer. -/
def nearest (i : ℤ) : Fin tableSize :=
  ⟨(max 0 (min 4 i)).toNat, by
    have hsize : tableSize = 5 := rfl
    omega⟩

lemma cast_nearest (i : ℤ) : ((nearest i : ℕ) : ℤ) = max 0 (min 4 i) :=
  Int.toNat_of_nonneg (by omega)

lemma nearest_cast (i : Fin tableSize) : nearest (i : ℕ) = i := by
  have hi := coordinate_le i
  refine Fin.ext (Int.ofNat_inj.mp ?_)
  rw [cast_nearest]
  omega

end Position

namespace Pose

open Position

/-- The number of cells between the robot and the edge that it faces. -/
def room (p : Pose) : ℕ :=
  match p.facing with
  | .north => 4 - p.position.y
  | .east => 4 - p.position.x
  | .south => p.position.y
  | .west => p.position.x

/-- The cell so many cells ahead, or the last one if there are not so many. -/
def ahead (p : Pose) (k : ℕ) : Position :=
  ⟨nearest (p.position.x + k * p.facing.delta.1), nearest (p.position.y + k * p.facing.delta.2)⟩

lemma ahead_zero (p : Pose) : p.ahead 0 = p.position := by
  simp [ahead, nearest_cast]

lemma cast_ahead (p : Pose) (k : ℕ) :
    (((p.ahead k).x : ℕ) : ℤ) = max 0 (min 4 (p.position.x + k * p.facing.delta.1)) ∧
      (((p.ahead k).y : ℕ) : ℤ) = max 0 (min 4 (p.position.y + k * p.facing.delta.2)) :=
  ⟨cast_nearest _, cast_nearest _⟩

/-- There is room for so many cells exactly if nothing is held back. -/
lemma le_room_iff {p : Pose} {k : ℕ} : k ≤ p.room ↔
    (((p.ahead k).x : ℕ) : ℤ) = p.position.x + k * p.facing.delta.1 ∧
      (((p.ahead k).y : ℕ) : ℤ) = p.position.y + k * p.facing.delta.2 := by
  have hx := coordinate_le p.position.x
  have hy := coordinate_le p.position.y
  rw [(p.cast_ahead k).1, (p.cast_ahead k).2]
  unfold room
  cases hf : p.facing <;> simp only [Direction.delta] <;> omega

/-- Without room, the last cell stays the one ahead. -/
lemma ahead_of_le {p : Pose} {k : ℕ} (h : p.room ≤ k) : p.ahead k = p.ahead p.room := by
  have hx := coordinate_le p.position.x
  have hy := coordinate_le p.position.y
  obtain ⟨hx', hy'⟩ := le_room_iff.mp p.room.le_refl
  refine eq_of_cast ?_ ?_
  · rw [(p.cast_ahead k).1, hx']
    unfold room at h ⊢
    cases hf : p.facing <;> simp only [hf, Direction.delta] at h ⊢ <;> omega
  · rw [(p.cast_ahead k).2, hy']
    unfold room at h ⊢
    cases hf : p.facing <;> simp only [hf, Direction.delta] at h ⊢ <;> omega

lemma step_ahead_of_lt {p : Pose} {k : ℕ} (h : k < p.room) :
    (p.ahead k).step p.facing = some (p.ahead (k + 1)) := by
  obtain ⟨hx, hy⟩ := le_room_iff.mp h.le
  obtain ⟨hx', hy'⟩ := le_room_iff.mp (Nat.succ_le_of_lt h)
  rw [step_eq_some_iff, hx, hy, hx', hy']
  push_cast
  constructor <;> ring

lemma step_ahead_room (p : Pose) : (p.ahead p.room).step p.facing = none := by
  have hx := coordinate_le p.position.x
  have hy := coordinate_le p.position.y
  obtain ⟨hx', hy'⟩ := le_room_iff.mp p.room.le_refl
  refine ofInts?_eq_none ?_
  rw [hx', hy', room]
  cases hf : p.facing <;> simp only [Direction.delta] <;> omega

end Pose

/-! ### Moves -/

namespace Robot

lemma apply_move_ahead (p : Pose) (k : ℕ) :
    (placed ⟨p.ahead k, p.facing⟩).apply .move = (placed ⟨p.ahead (k + 1), p.facing⟩,
      if k < p.room then .moved (p.ahead (k + 1)) else .blocked ⟨p.ahead p.room, p.facing⟩) := by
  by_cases h : k < p.room
  · rw [if_pos h]
    exact apply_move_some (Pose.step_ahead_of_lt h)
  · have hk : p.room ≤ k := Nat.le_of_not_lt h
    rw [if_neg h, Pose.ahead_of_le hk, Pose.ahead_of_le (hk.trans k.le_succ)]
    exact apply_move_none p.step_ahead_room

lemma run_moves (p : Pose) (n : ℕ) :
    (placed p).run (.replicate n .move) = placed ⟨p.ahead n, p.facing⟩ := by
  induction n with
  | zero => rw [List.replicate_zero, run_nil, Pose.ahead_zero]
  | succ n ih =>
    rw [List.replicate_succ', run_append, ih, run_cons, apply_move_ahead, run_nil]

lemma outcomes_moves (p : Pose) (n : ℕ) :
    (placed p).outcomes (.replicate n .move) =
      (List.range (min n p.room)).map (fun k => .moved (p.ahead (k + 1))) ++
        .replicate (n - p.room) (.blocked ⟨p.ahead p.room, p.facing⟩) := by
  induction n with
  | zero => simp
  | succ n ih =>
    rw [List.replicate_succ', outcomes_append, ih, run_moves, outcomes_cons, apply_move_ahead,
      outcomes_nil]
    -- one more move lengthens the first part of the list or the second, never both
    by_cases h : n < p.room
    · have hn : n + 1 ≤ p.room := Nat.succ_le_of_lt h
      rw [if_pos h, min_eq_left hn, min_eq_left h.le, Nat.sub_eq_zero_of_le hn,
        Nat.sub_eq_zero_of_le h.le, List.range_succ, List.map_append]
      simp
    · have hn : p.room ≤ n := Nat.le_of_not_lt h
      rw [if_neg h, min_eq_right hn, min_eq_right (hn.trans n.le_succ), Nat.succ_sub hn,
        List.replicate_succ', List.append_assoc]

end Robot

/-- **Moves stop at the edge.** Any number of moves, one after another, keep the direction and
lead to the cell that many cells ahead, each coordinate held back at the edge of the table. As long
as there is room, they go from cell to cell; all the others are blocked in the last cell, from
which there is no step in that direction. -/
theorem moves_stop_at_edge (p : Pose) (n : ℕ) :
    let room := p.room
    let d := p.facing.delta
    (∀ k : ℕ, (((p.ahead k).x : ℕ) : ℤ) = max 0 (min 4 (p.position.x + k * d.1)) ∧
      (((p.ahead k).y : ℕ) : ℤ) = max 0 (min 4 (p.position.y + k * d.2)) ∧
      (k ≤ room ↔ (((p.ahead k).x : ℕ) : ℤ) = p.position.x + k * d.1 ∧
        (((p.ahead k).y : ℕ) : ℤ) = p.position.y + k * d.2)) ∧
    (p.ahead room).step p.facing = none ∧
    (Robot.placed p).run (.replicate n .move) = .placed ⟨p.ahead n, p.facing⟩ ∧
    (Robot.placed p).outcomes (.replicate n .move) =
      (List.range (min n room)).map (fun k => .moved (p.ahead (k + 1))) ++
        .replicate (n - room) (.blocked ⟨p.ahead room, p.facing⟩) := by
  intro room d
  exact ⟨fun k => ⟨(p.cast_ahead k).1, (p.cast_ahead k).2, Pose.le_room_iff⟩,
    p.step_ahead_room, Robot.run_moves p n, Robot.outcomes_moves p n⟩

end TabletopRobot

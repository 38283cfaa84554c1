import Mathlib
import TabletopRobot.Table

/-!
Cells of the table, by their coordinates.
-/

namespace TabletopRobot.Position

lemma coordinate_le (i : Fin tableSize) : (i : ℕ) ≤ 4 := Nat.le_of_lt_succ i.isLt

lemma eq_of_cast {p q : Position} (hx : ((p.x : ℕ) : ℤ) = (q.x : ℕ))
    (hy : ((p.y : ℕ) : ℤ) = (q.y : ℕ)) : p = q := by
  obtain ⟨x, y⟩ := p
  obtain ⟨x', y'⟩ := q
  obtain rfl : x = x' := Fin.ext (Int.ofNat_inj.mp hx)
  obtain rfl : y = y' := Fin.ext (Int.ofNat_inj.mp hy)
  rfl

lemma ofInts?_eq_some {x y : ℤ} (h : (0 ≤ x ∧ x ≤ 4) ∧ 0 ≤ y ∧ y ≤ 4) :
    ∃ p : Position, ofInts? x y = some p ∧ ((p.x : ℕ) : ℤ) = x ∧ ((p.y : ℕ) : ℤ) = y := by
  have hsize : (tableSize : ℤ) = 5 := rfl
  refine ⟨_, dif_pos (by omega), ?_, ?_⟩
  · exact Int.toNat_of_nonneg h.1.1
  · exact Int.toNat_of_nonneg h.2.1

lemma cast_of_ofInts? {x y : ℤ} {p : Position} (h : ofInts? x y = some p) :
    ((p.x : ℕ) : ℤ) = x ∧ ((p.y : ℕ) : ℤ) = y := by
  unfold ofInts? at h
  split_ifs at h with htable
  obtain rfl := Option.some.inj h
  exact ⟨Int.toNat_of_nonneg htable.1.1, Int.toNat_of_nonneg htable.2.1⟩

lemma ofInts?_eq_none {x y : ℤ} (h : ¬((0 ≤ x ∧ x ≤ 4) ∧ 0 ≤ y ∧ y ≤ 4)) : ofInts? x y = none := by
  have hsize : (tableSize : ℤ) = 5 := rfl
  exact dif_neg (by omega)

/-- The neighbour of a cell. -/
lemma step_eq_some_iff {p q : Position} {d : Direction} :
    p.step d = some q ↔ ((q.x : ℕ) : ℤ) = (p.x : ℕ) + d.delta.1 ∧
      ((q.y : ℕ) : ℤ) = (p.y : ℕ) + d.delta.2 := by
  rw [step]
  constructor
  · exact cast_of_ofInts?
  · rintro ⟨hx, hy⟩
    rw [← hx, ← hy, ofInts?_cast]

end TabletopRobot.Position

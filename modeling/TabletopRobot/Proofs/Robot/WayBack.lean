import TabletopRobot.Proofs.Robot.Rotation

/-!
A walk that was not blocked can be walked back: after two turns to the left, the commands from the
last to the first with left and right exchanged, and two turns to the left again.
-/

namespace TabletopRobot

/-! ### The other way round -/

namespace Turn

def other : Turn → Turn
  | left => right
  | right => left

lemma quarters_other (t : Turn) : t.other.quarters = -t.quarters := by
  cases t <;> rfl

end Turn

namespace Direction

def opposite (d : Direction) : Direction := d.rotate 2

lemma delta_opposite (d : Direction) :
    d.opposite.delta.1 = -d.delta.1 ∧ d.opposite.delta.2 = -d.delta.2 := by
  cases d <;> decide

lemma rotate_four (d : Direction) (q : ℤ) : d.rotate (q + 4) = d.rotate q := by
  refine index_injective ?_
  simp only [index_rotate]
  omega

lemma opposite_opposite (d : Direction) : d.opposite.opposite = d := by
  rw [opposite, opposite, rotate_rotate]
  exact (d.rotate_four 0).trans d.rotate_zero

lemma turn_left_left (d : Direction) : (d.turn .left).turn .left = d.opposite := by
  rw [turn, turn, rotate_rotate, opposite]
  exact (d.rotate_four (-2)).symm

/-- Seen from the other side, a turn is undone by the other one. -/
lemma opposite_turn_other (d : Direction) (t : Turn) :
    (d.turn t).opposite.turn t.other = d.opposite := by
  rw [turn, turn, opposite, opposite, rotate_rotate, rotate_rotate, Turn.quarters_other]
  congr 1
  omega

end Direction

/-- A step can be taken back. -/
lemma Position.step_opposite {p q : Position} {d : Direction} (h : p.step d = some q) :
    q.step d.opposite = some p := by
  obtain ⟨hx, hy⟩ := step_eq_some_iff.mp h
  obtain ⟨hdx, hdy⟩ := d.delta_opposite
  exact step_eq_some_iff.mpr ⟨by omega, by omega⟩

/-- The same cell, faced away from. -/
def Pose.about (p : Pose) : Pose := ⟨p.position, p.facing.opposite⟩

lemma Pose.about_about (p : Pose) : p.about.about = p := by
  rw [about, about, Direction.opposite_opposite]

namespace Command

/-- A move or a turn. -/
inductive IsStride : Command → Prop
  | move : IsStride move
  | turn (t : Turn) : IsStride (turn t)

/-- Left and right exchanged. -/
def mirrored : Command → Command
  | turn t => turn t.other
  | c => c

def aboutTurn : List Command := [turn .left, turn .left]

/-- From the last to the first, left and right exchanged. -/
def reversed (w : List Command) : List Command := w.reverse.map mirrored

/-- What takes the robot back from a walk. -/
def wayBack (w : List Command) : List Command := aboutTurn ++ reversed w ++ aboutTurn

@[simp] lemma reversed_cons (c : Command) (w : List Command) :
    reversed (c :: w) = reversed w ++ [c.mirrored] := by
  simp [reversed]

end Command

/-! ### Back -/

open Command

namespace Robot

lemma run_aboutTurn (p : Pose) : (placed p).run aboutTurn = placed p.about := by
  rw [Pose.about, ← Direction.turn_left_left]
  rfl

lemma outcomes_aboutTurn (p : Pose) :
    ∀ o ∈ (placed p).outcomes aboutTurn, o.isRejection = false := by
  simp [aboutTurn, apply_turn, Outcome.isRejection]

/-- A stride that is not blocked leads somewhere, and its mirror image leads from there, faced
away from, to the start, faced away from. -/
lemma stride_back {p : Pose} {c : Command} (hc : c.IsStride)
    (hfree : ∀ q, ((placed p).apply c).2 ≠ .blocked q) :
    ∃ q, ((placed p).apply c).1 = placed q ∧
      ((placed q.about).apply c.mirrored).1 = placed p.about ∧
      ((placed q.about).apply c.mirrored).2.isRejection = false := by
  cases hc with
  | move =>
    cases hstep : p.position.step p.facing with
    | none => exact absurd (congrArg Prod.snd (apply_move_none hstep)) (hfree p)
    | some cell =>
      have hback : (placed ⟨cell, p.facing.opposite⟩).apply .move =
          (placed p.about, .moved p.position) :=
        apply_move_some (Position.step_opposite hstep)
      exact ⟨⟨cell, p.facing⟩, congrArg Prod.fst (apply_move_some hstep),
        congrArg Prod.fst hback, congrArg (·.2.isRejection) hback⟩
  | turn t =>
    refine ⟨⟨p.position, p.facing.turn t⟩, rfl, ?_, rfl⟩
    rw [mirrored, apply_turn, Pose.about, Direction.opposite_turn_other]
    rfl

/-- So do the strides of a walk, from the last to the first. -/
lemma run_reversed {p : Pose} {w : List Command} (hw : ∀ c ∈ w, c.IsStride)
    (hfree : ∀ q, .blocked q ∉ (placed p).outcomes w) :
    ∃ q, (placed p).run w = placed q ∧ (placed q.about).run (reversed w) = placed p.about ∧
      ∀ o ∈ (placed q.about).outcomes (reversed w), o.isRejection = false := by
  induction w generalizing p with
  | nil => exact ⟨p, rfl, rfl, by simp [reversed]⟩
  | cons c w ih =>
    -- the first stride of the walk is the last one of the way back
    obtain ⟨hc, hrest⟩ := List.forall_mem_cons.mp hw
    simp only [outcomes_cons, List.mem_cons, not_or] at hfree
    obtain ⟨m, hm, hback, hheeded⟩ := stride_back hc fun q => Ne.symm (hfree q).1
    rw [hm] at hfree
    obtain ⟨q, hq, hrun, houtcomes⟩ := ih hrest fun q => (hfree q).2
    refine ⟨q, by rw [run_cons, hm, hq], ?_, ?_⟩
    · rw [reversed_cons, run_append, hrun, run_cons, hback, run_nil]
    · rw [reversed_cons, outcomes_append, hrun]
      exact List.forall_mem_append.mpr ⟨houtcomes, by simpa using hheeded⟩

end Robot

/-- **A walk can be walked back.** If no move of a walk is blocked, its way back ends in the pose
where the walk began, and nothing on it is rejected. -/
theorem walk_back {p : Pose} {w : List Command} (hw : ∀ c ∈ w, c.IsStride)
    (hfree : ∀ q, .blocked q ∉ (Robot.placed p).outcomes w) :
    (Robot.placed p).run (w ++ wayBack w) = .placed p ∧
      ∀ o ∈ ((Robot.placed p).run w).outcomes (wayBack w), o.isRejection = false := by
  obtain ⟨q, hq, hrun, houtcomes⟩ := Robot.run_reversed hw hfree
  rw [Robot.run_append, hq, wayBack]
  constructor
  · rw [Robot.run_append, Robot.run_append, Robot.run_aboutTurn, hrun, Robot.run_aboutTurn,
      Pose.about_about]
  · rw [Robot.outcomes_append, Robot.outcomes_append, Robot.run_append, Robot.run_aboutTurn, hrun]
    exact List.forall_mem_append.mpr ⟨List.forall_mem_append.mpr
      ⟨Robot.outcomes_aboutTurn q, houtcomes⟩, Robot.outcomes_aboutTurn p.about⟩

/-- Round a corner of the table, along two of its edges. -/
theorem walk_back_corner :
    let p : Pose := ⟨⟨⟨3, by decide⟩, ⟨4, by decide⟩⟩, .east⟩
    let w : List Command := [.move, .turn .right, .move, .move, .turn .right, .turn .right,
      .turn .right]
    (∀ c ∈ w, c.IsStride) ∧ (∀ q, .blocked q ∉ (Robot.placed p).outcomes w) ∧
      (Robot.placed p).run w = .placed ⟨⟨⟨4, by decide⟩, ⟨2, by decide⟩⟩, .east⟩ ∧
      (Robot.placed p).run (w ++ wayBack w) = .placed p ∧
      ∀ o ∈ ((Robot.placed p).run w).outcomes (wayBack w), o.isRejection = false := by
  intro p w
  have hw : ∀ c ∈ w, c.IsStride := by
    simp only [w, List.forall_mem_cons]
    exact ⟨.move, .turn _, .move, .move, .turn _, .turn _, .turn _, List.forall_mem_nil _⟩
  have hnone : ((Robot.placed p).outcomes w).filter (·.isRejection) = [] := by decide +kernel
  have hfree : ∀ q, .blocked q ∉ (Robot.placed p).outcomes w := by
    intro q hq
    exact absurd rfl (List.filter_eq_nil_iff.mp hnone _ hq)
  obtain ⟨hrun, houtcomes⟩ := walk_back hw hfree
  exact ⟨hw, hfree, by decide +kernel, hrun, houtcomes⟩

end TabletopRobot

import TabletopRobot.Proofs.Command.Placement
import TabletopRobot.Proofs.Robot.Course

/-!
Rotation as arithmetic modulo four, by words of 32 bits and by commands.
-/

namespace TabletopRobot

/-! ### Indices -/

namespace Direction

lemma index_range (d : Direction) : 0 ≤ d.index ∧ d.index < 4 := by
  cases d <;> decide

@[simp] lemma index_emod (d : Direction) : d.index % 4 = d.index :=
  Int.emod_eq_of_lt d.index_range.1 d.index_range.2

lemma index_injective : Function.Injective index := by
  intro d e h
  rw [← ofIndex_index d, h, ofIndex_index]

@[simp] lemma index_ofIndex (i : ℤ) : (ofIndex i).index = i % 4 := by
  have hrem : i % 4 = 0 ∨ i % 4 = 1 ∨ i % 4 = 2 ∨ i % 4 = 3 := by omega
  rcases hrem with h | h | h | h
  all_goals rw [ofIndex, h]; rfl

@[simp] lemma index_rotate (d : Direction) (q : ℤ) : (d.rotate q).index = (d.index + q) % 4 :=
  index_ofIndex _

@[simp] lemma rotate_zero (d : Direction) : d.rotate 0 = d :=
  index_injective (by simp)

@[simp] lemma rotate_rotate (d : Direction) (q r : ℤ) :
    (d.rotate q).rotate r = d.rotate (q + r) := by
  refine index_injective ?_
  simp only [index_rotate]
  omega

/-! ### Words of 32 bits -/

/-- In 32 bits, a rotation is exact as long as the sum is not past the largest word. -/
lemma rotate?_eq (d : Direction) (q : Int32) :
    d.rotate? q =
      if d.index + q.toInt ≤ Int32.maxValue.toInt then some (d.rotate q.toInt) else none := by
  have hmax : Int32.maxValue.toInt = 2147483647 := rfl
  have hindex : (Int32.ofInt d.index).toBitVec.toInt = d.index := by cases d <;> rfl
  have hlow := q.le_toInt
  have hrange := d.index_range
  -- an index is not negative, so no sum is below the smallest word
  have hover : (Int32.ofInt d.index).toBitVec.saddOverflow q.toBitVec = true ↔
      ¬d.index + q.toInt ≤ Int32.maxValue.toInt := by
    rw [BitVec.saddOverflow, hindex, Int32.toInt_toBitVec, hmax]
    simp
    omega
  rw [rotate?]
  split_ifs with h hfit hfit
  · exact absurd hfit (hover.mp h)
  · rfl
  · have hsum := BitVec.toInt_add_of_not_saddOverflow h
    rw [hindex, Int32.toInt_toBitVec] at hsum
    rw [rotate, ← hsum]
    rfl
  · exact absurd (hover.mpr hfit) h

/-- A turn is such a rotation. -/
lemma rotate?_turn (d : Direction) (t : Turn) : d.rotate? (.ofInt t.quarters) = some (d.turn t) := by
  cases d <;> cases t <;> rfl

/-- Whatever the words before one of them lead to, the sum of its index and that word is not past
the largest word. -/
def Fits (d : Direction) (qs : List Int32) : Prop :=
  ∀ before q after e, qs = before ++ q :: after → before.foldlM rotate? d = some e →
    e.index + q.toInt ≤ Int32.maxValue.toInt

lemma fits_nil (d : Direction) : d.Fits [] := by
  intro before q after e h
  simp at h

lemma fits_cons {d : Direction} {q : Int32} {qs : List Int32} :
    d.Fits (q :: qs) ↔
      d.index + q.toInt ≤ Int32.maxValue.toInt ∧ (d.rotate q.toInt).Fits qs := by
  constructor
  · intro h
    have hfit : d.index + q.toInt ≤ Int32.maxValue.toInt := h [] q qs d rfl rfl
    refine ⟨hfit, fun before r after e hqs he => h (q :: before) r after e (by rw [hqs]; rfl) ?_⟩
    rw [List.foldlM_cons, rotate?_eq, if_pos hfit]
    exact he
  · rintro ⟨hfit, hrest⟩ before r after e hqs he
    cases before with
    | nil =>
      obtain ⟨rfl, -⟩ := List.cons.inj hqs
      obtain rfl : d = e := Option.some.inj he
      exact hfit
    | cons b before =>
      obtain ⟨rfl, hqs'⟩ := List.cons.inj hqs
      rw [List.foldlM_cons, rotate?_eq, if_pos hfit] at he
      exact hrest before r after e hqs' he

/-- Rotations by words lead somewhere exactly if all their sums fit, and then to the rotation by
the exact sum of the words. -/
lemma foldlM_rotate?_eq_some {d e : Direction} {qs : List Int32} :
    qs.foldlM rotate? d = some e ↔ d.Fits qs ∧ d.rotate (qs.map Int32.toInt).sum = e := by
  induction qs generalizing d with
  | nil => simp [fits_nil]
  | cons q qs ih =>
    rw [List.foldlM_cons, rotate?_eq, fits_cons, List.map_cons, List.sum_cons]
    split_ifs with hfit
    · rw [← rotate_rotate, and_iff_right hfit]
      exact ih
    · simp [hfit]

end Direction

/-! ### Commands -/

namespace Command

/-- The turn that is in a command. -/
def quarters : Command → ℤ
  | turn t => t.quarters
  | _ => 0

lemma sum_quarters (cs : List Command) :
    (cs.map quarters).sum = cs.count (turn .right) - cs.count (turn .left) := by
  induction cs with
  | nil => rfl
  | cons c cs ih =>
    rw [List.map_cons, List.sum_cons, ih, List.count_cons, List.count_cons]
    cases c with
    | turn t =>
      cases t with
      | left => simp [quarters, Turn.quarters]; omega
      | right => simp [quarters, Turn.quarters]; omega
    | _ => simp [quarters]

end Command

namespace Robot

/-- No other command than a move or a placement on the table changes the cell of a robot. -/
lemma apply_in_place (p : Position) (d : Direction) {c : Command} (hmove : c ≠ .move)
    (hoff : ¬c.OnTable) :
    ((placed ⟨p, d⟩).apply c).1 = placed ⟨p, d.rotate c.quarters⟩ := by
  cases c with
  | place x y f => simp [apply_place_off _ hoff, Command.quarters]
  | move => exact absurd rfl hmove
  | turn t => rfl
  | report => simp [apply, Command.quarters]
  | unknown line => simp [apply, Command.quarters]

lemma run_in_place (p : Position) (d : Direction) {cs : List Command}
    (h : ∀ c ∈ cs, c ≠ .move ∧ ¬c.OnTable) :
    (placed ⟨p, d⟩).run cs = placed ⟨p, d.rotate (cs.map Command.quarters).sum⟩ := by
  induction cs generalizing d with
  | nil => simp
  | cons c cs ih =>
    obtain ⟨⟨hmove, hoff⟩, hrest⟩ := List.forall_mem_cons.mp h
    rw [run_cons, apply_in_place p d hmove hoff, ih _ hrest, Direction.rotate_rotate,
      List.map_cons, List.sum_cons]

end Robot

open Direction in
/-- **Rotations add up modulo four.** Rotations by words of 32 bits, one after another, lead to a
direction exactly if none of their sums is past the largest word; its index is then the start and
the exact sum of the words, modulo four. So two orders of the same words that lead somewhere lead
to the same direction. A turn is the rotation by one word. Commands that are no moves and place the
robot nowhere on the table leave it in its cell, and turn it by the number of its turns to the
right less that of its turns to the left. -/
theorem rotations_add_up (d : Direction) :
    (∀ (qs : List Int32) (e : Direction), qs.foldlM rotate? d = some e ↔
      d.Fits qs ∧ e.index = (d.index + (qs.map Int32.toInt).sum) % 4) ∧
    (∀ (qs rs : List Int32), qs.Perm rs → d.Fits qs → d.Fits rs →
      qs.foldlM rotate? d = rs.foldlM rotate? d) ∧
    (∀ t : Turn, d.rotate? (.ofInt t.quarters) = some (d.turn t)) ∧
    ∀ (p : Position) (cs : List Command), (∀ c ∈ cs, c ≠ .move ∧ ¬c.OnTable) →
      ∃ f : Direction, (Robot.placed ⟨p, d⟩).run cs = .placed ⟨p, f⟩ ∧
        f.index = (d.index + (cs.count (.turn .right) - cs.count (.turn .left))) % 4 := by
  refine ⟨fun qs e => ?_, fun qs rs hperm hqs hrs => ?_, rotate?_turn d, fun p cs h => ?_⟩
  · rw [foldlM_rotate?_eq_some, ← index_rotate, index_injective.eq_iff, eq_comm (a := e)]
  · have hsum : (qs.map Int32.toInt).sum = (rs.map Int32.toInt).sum := (hperm.map _).sum_eq
    rw [foldlM_rotate?_eq_some.mpr ⟨hqs, rfl⟩, foldlM_rotate?_eq_some.mpr ⟨hrs, rfl⟩, hsum]
  · refine ⟨_, Robot.run_in_place p d h, ?_⟩
    rw [index_rotate, Command.sum_quarters]

open Direction in
/-- Twice in either order, the sum is the largest word itself. -/
theorem rotations_add_up_largest_word :
    let qs : List Int32 := [2147483646, -2147483648, 2147483644]
    let rs : List Int32 := [-2147483648, 2147483646, 2147483644]
    let p : Position := ⟨⟨4, by decide⟩, ⟨2, by decide⟩⟩
    let cs : List Command := [.turn .left, .unknown "JUMP", .place 5 0 .south, .turn .left, .report,
      .turn .right]
    qs.Perm rs ∧ east.Fits qs ∧ east.Fits rs ∧ rs.foldlM rotate? east = some west ∧
      (∀ c ∈ cs, c ≠ .move ∧ ¬c.OnTable) ∧
      (Robot.placed ⟨p, east⟩).run cs = .placed ⟨p, north⟩ := by
  intro qs rs p cs
  have hperm : qs.Perm rs := .swap _ _ _
  have hqs : east.Fits qs := fits_cons.mpr ⟨by decide, fits_cons.mpr ⟨by decide,
    fits_cons.mpr ⟨by decide, fits_nil _⟩⟩⟩
  have hrs : east.Fits rs := fits_cons.mpr ⟨by decide, fits_cons.mpr ⟨by decide,
    fits_cons.mpr ⟨by decide, fits_nil _⟩⟩⟩
  have hcs : ∀ c ∈ cs, c ≠ .move ∧ ¬c.OnTable := by simp [cs, Command.OnTable]
  obtain ⟨hsum, horder, -, hplace⟩ := rotations_add_up east
  have hend : qs.foldlM rotate? east = some west := (hsum qs west).mpr ⟨hqs, by decide⟩
  obtain ⟨f, hrun, hf⟩ := hplace p cs hcs
  obtain rfl : f = north := index_injective (hf.trans (by decide))
  exact ⟨hperm, hqs, hrs, (horder qs rs hperm hqs hrs).symm.trans hend, hcs, hrun⟩

end TabletopRobot

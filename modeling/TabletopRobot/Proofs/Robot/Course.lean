import TabletopRobot.Proofs.Table
import TabletopRobot.Robot

/-!
Commands one after another: where they take the robot, and what becomes of each of them.
-/

namespace TabletopRobot

namespace Robot

/-! ### One command -/

lemma apply_move_some {p : Pose} {q : Position} (h : p.position.step p.facing = some q) :
    (placed p).apply .move = (placed ⟨q, p.facing⟩, .moved q) := by
  rw [apply, h]

lemma apply_move_none {p : Pose} (h : p.position.step p.facing = none) :
    (placed p).apply .move = (placed p, .blocked p) := by
  rw [apply, h]

lemma apply_turn (p : Pose) (t : Turn) :
    (placed p).apply (.turn t) =
      (placed ⟨p.position, p.facing.turn t⟩, .turned t (p.facing.turn t)) := rfl

/-! ### Many commands -/

/-- The robot after commands, one after another. -/
def run (r : Robot) (cs : List Command) : Robot := cs.foldl (fun r c => (r.apply c).1) r

/-- What becomes of each of the commands. -/
def outcomes : Robot → List Command → List Outcome
  | _, [] => []
  | r, c :: cs => (r.apply c).2 :: (r.apply c).1.outcomes cs

@[simp] lemma run_nil (r : Robot) : r.run [] = r := rfl
@[simp] lemma run_cons (r : Robot) (c : Command) (cs : List Command) :
    r.run (c :: cs) = (r.apply c).1.run cs := rfl
lemma run_append (r : Robot) (cs ds : List Command) : r.run (cs ++ ds) = (r.run cs).run ds := by
  simp [run, List.foldl_append]

@[simp] lemma outcomes_nil (r : Robot) : r.outcomes [] = [] := rfl
@[simp] lemma outcomes_cons (r : Robot) (c : Command) (cs : List Command) :
    r.outcomes (c :: cs) = (r.apply c).2 :: (r.apply c).1.outcomes cs := rfl
lemma outcomes_append (r : Robot) (cs ds : List Command) :
    r.outcomes (cs ++ ds) = r.outcomes cs ++ (r.run cs).outcomes ds := by
  induction cs generalizing r with
  | nil => rfl
  | cons c cs ih => simp [ih]

end Robot

end TabletopRobot

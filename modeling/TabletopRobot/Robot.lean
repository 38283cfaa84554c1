import TabletopRobot.Outcome

/-!
The robot and the effect of a command on it.
-/

namespace TabletopRobot

inductive Robot
  | unplaced
  | placed (pose : Pose)
  deriving DecidableEq

namespace Robot

def pose? : Robot → Option Pose
  | unplaced => none
  | placed p => some p

def isPlaced (r : Robot) : Bool := r.pose?.isSome

/-- A placement is always heeded; anything else needs a robot on the table. -/
def apply : Robot → Command → Robot × Outcome
  | r, .place x y f =>
    match Position.ofInts? x.toInt y.toInt with
    | some p => (placed ⟨p, f⟩, .placed ⟨p, f⟩)
    | none => (r, .offTable x y)
  | unplaced, _ => (unplaced, .notPlaced)
  | placed p, .move =>
    match p.position.step p.facing with
    | some q => (placed ⟨q, p.facing⟩, .moved q)
    | none => (placed p, .blocked p)
  | placed p, .turn t => (placed ⟨p.position, p.facing.turn t⟩, .turned t (p.facing.turn t))
  | placed p, .report => (placed p, .reported p)
  | placed p, .unknown line => (placed p, .unknown line)

/-- The effect of a line: a malformed one leaves the robot as it is. It is irreducible, as proofs
about sessions never compute what a line does to the robot. -/
@[irreducible]
def applyLine (r : Robot) (raw : String) : Robot × Outcome :=
  match Command.parse raw with
  | .ok c => r.apply c
  | .error m => (r, .malformed m.flaws)

end Robot

end TabletopRobot

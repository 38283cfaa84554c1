import TabletopRobot.Direction
import TabletopRobot.Text.Numeral

/-!
Cells of the table and poses on it. A cell off the table cannot be written down.
-/

namespace TabletopRobot

/-- The table is a square of this many cells a side. -/
def tableSize : Nat := 5

structure Position where
  x : Fin tableSize
  y : Fin tableSize
  deriving DecidableEq

namespace Position

/-- The cell with the given coordinates, if they are on the table. -/
def ofInts? (x y : Int) : Option Position :=
  if h : (0 ≤ x ∧ x < tableSize) ∧ 0 ≤ y ∧ y < tableSize then
    some ⟨⟨x.toNat, by omega⟩, ⟨y.toNat, by omega⟩⟩
  else none

/-- Coordinates as they are written in messages. -/
def showInts (x y : Int) : String := "(" ++ Text.showInt x ++ ", " ++ Text.showInt y ++ ")"

def text (p : Position) : String := showInts p.x p.y

/-- The neighbouring cell, if it is on the table. -/
def step (p : Position) (d : Direction) : Option Position :=
  ofInts? (p.x + d.delta.1) (p.y + d.delta.2)

@[simp] theorem ofInts?_cast (p : Position) : ofInts? p.x p.y = some p := by
  have hx := p.x.isLt
  have hy := p.y.isLt
  unfold ofInts?
  rw [dif_pos ⟨⟨by omega, by omega⟩, by omega, by omega⟩]
  cases p
  simp

end Position

/-- Where no cell is. -/
def offTableMessage (x y : Int) : String := Position.showInts x y ++ " is off the table"

structure Pose where
  position : Position
  facing : Direction
  deriving DecidableEq

/-- A pose as a report gives it. -/
def Pose.report (p : Pose) : String :=
  Text.showNat p.position.x ++ "," ++ Text.showNat p.position.y ++ "," ++ p.facing.name

end TabletopRobot

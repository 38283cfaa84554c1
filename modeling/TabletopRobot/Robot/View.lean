import TabletopRobot.Json.Decode
import TabletopRobot.Json.Print
import TabletopRobot.Robot

/-!
The flat view of a robot that documents hold: a mark and three fields, which are all there or
all absent.
-/

namespace TabletopRobot

/-- A view as it is read; it need not be that of a robot. -/
structure RobotView where
  placed : Bool
  x : Option Int32
  y : Option Int32
  facing : Option Direction
  deriving DecidableEq

namespace RobotView

/-- Why a view is not that of a robot. -/
inductive Error
  | partly (view : RobotView)
  | offTable (x y : Int32)
  deriving DecidableEq

def showOption {α : Type} (f : α → String) : Option α → String
  | none => "None"
  | some a => "Some(" ++ f a ++ ")"

/-- Directions as the message on a partial view names them. -/
def shortName : Direction → String
  | .north => "North"
  | .east => "East"
  | .south => "South"
  | .west => "West"

def Error.message : Error → String
  | partly v =>
    "robot view is partially placed (placed=" ++ (if v.placed then "true" else "false") ++
      ", x=" ++ showOption (fun i => Text.showInt i.toInt) v.x ++
      ", y=" ++ showOption (fun i => Text.showInt i.toInt) v.y ++
      ", facing=" ++ showOption shortName v.facing ++ ")"
  | offTable x y => "placed robot at " ++ offTableMessage x.toInt y.toInt

def ofRobot : Robot → RobotView
  | .unplaced => ⟨false, none, none, none⟩
  | .placed p => ⟨true, some (.ofInt p.position.x), some (.ofInt p.position.y), some p.facing⟩

def toRobot : RobotView → Except Error Robot
  | ⟨false, none, none, none⟩ => .ok .unplaced
  | ⟨true, some x, some y, some f⟩ =>
    match Position.ofInts? x.toInt y.toInt with
    | some p => .ok (.placed ⟨p, f⟩)
    | none => .error (.offTable x y)
  | v => .error (.partly v)

def toValue (v : RobotView) : Json.Value := .obj [
  ("placed", .bool v.placed),
  ("x", .nullable (fun i => .int i.toInt) v.x),
  ("y", .nullable (fun i => .int i.toInt) v.y),
  ("facing", .nullable (fun d => .str d.name) v.facing)]

/-- The fields read so far; the optional ones may have been read as absent. -/
structure Draft where
  placed : Option Bool := none
  x : Option (Option Int32) := none
  y : Option (Option Int32) := none
  facing : Option (Option Direction) := none

def direction : Json.Reader Direction := Json.oneOf (Direction.all.map fun d => (d.name, d))

def shape : Json.Shape Draft where
  title := "struct RobotView"
  fields := [
    .of "placed" Draft.placed (fun d a => { d with placed := some a }) Json.boolean,
    .of "x" Draft.x (fun d a => { d with x := some a }) (Json.nullable Json.int32),
    .of "y" Draft.y (fun d a => { d with y := some a }) (Json.nullable Json.int32),
    .of "facing" Draft.facing (fun d a => { d with facing := some a }) (Json.nullable direction)]

def Draft.finish (d : Draft) : Except Json.Error RobotView := do
  let placed ← Json.required "placed" d.placed
  .ok ⟨placed, d.x.join, d.y.join, d.facing.join⟩

def reader : Json.Reader RobotView := (shape.read {}).andThen Draft.finish

end RobotView

namespace Robot

def toValue (r : Robot) : Json.Value := (RobotView.ofRobot r).toValue

/-- A view whose robot is on the table or unplaced. -/
def reader : Json.Reader Robot := RobotView.reader.andThen fun v =>
  v.toRobot.mapError fun e => .mismatch (.refused (some e.message))

end Robot

end TabletopRobot

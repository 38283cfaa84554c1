import TabletopRobot.Json.Value
import TabletopRobot.Text.Quoted

/-!
Why a text does not decode.
-/

namespace TabletopRobot.Json

/-- What stands where something else is expected. -/
inductive Found
  | null
  | bool (b : Bool)
  | num (n : Number)
  | str (s : String)
  | arr
  | obj
  deriving DecidableEq

def Found.text : Found → String
  | null => "null"
  | bool b => "boolean `" ++ (if b then "true" else "false") ++ "`"
  | num (.int i) => "integer `" ++ Text.showInt i ++ "`"
  | num n => "floating point `" ++ .ofList n.text ++ "`"
  | str s => "string " ++ Text.quoted s
  | arr => "sequence"
  | obj => "map"

/-- A text that is JSON as far as it was read but does not describe what was asked for. -/
inductive Mismatch
  | invalidType (found : Found) (expected : String)
  | invalidValue (found : Found) (expected : String)
  | invalidLength (found : Nat) (expected : String)
  | missingField (name : String)
  | duplicateField (name : String)
  | unknownVariant (name : String) (known : List String)
  /-- A value of the right shape that is refused, with the reason if there is one to tell. -/
  | refused (reason : Option String)
  deriving DecidableEq

def Mismatch.message? : Mismatch → Option String
  | invalidType f e => some ("invalid type: " ++ f.text ++ ", expected " ++ e)
  | invalidValue f e => some ("invalid value: " ++ f.text ++ ", expected " ++ e)
  | invalidLength n e => some ("invalid length " ++ Text.showNat n ++ ", expected " ++ e)
  | missingField n => some ("missing field `" ++ n ++ "`")
  | duplicateField n => some ("duplicate field `" ++ n ++ "`")
  | unknownVariant n ks =>
    some ("unknown variant `" ++ n ++ "`, expected one of " ++
      ", ".intercalate (ks.map fun k => "`" ++ k ++ "`"))
  | refused r => r

inductive Error
  /-- The text is not JSON. -/
  | malformed
  /-- The text ends too early. -/
  | truncated
  | mismatch (m : Mismatch)
  deriving DecidableEq

/-- What is read off the front of a text, with the rest of it. -/
abbrev Reader (α : Type) := List Char → Except Error (α × List Char)

def Reader.map {α β : Type} (f : α → β) (r : Reader α) : Reader β := fun s =>
  (r s).map fun (a, rest) => (f a, rest)

end TabletopRobot.Json

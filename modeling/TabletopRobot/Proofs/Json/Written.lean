import Mathlib
import TabletopRobot.Json.Print
import TabletopRobot.Json.Scan

/-!
The written form of a JSON value in any layout, of which the compact and the indented one are
two.
-/

namespace TabletopRobot.Json

/-- A text that a reader passes over. -/
def Blanks (sp : List Char) : Prop := ∀ c ∈ sp, isSpace c = true

lemma Blanks.nil : Blanks [] := by simp [Blanks]

/-- What stands between the tokens: the start of a line, by level, and the gap after a colon. -/
structure Layout where
  line : Nat → List Char
  gap : List Char
  line_blanks (level : Nat) : Blanks (line level)
  gap_blanks : Blanks gap

namespace Layout

def compact : Layout := ⟨fun _ => [], [], fun _ => .nil, .nil⟩

lemma indent_blanks (level : Nat) : Blanks (Value.indent level) := by
  intro c hc
  rcases List.mem_cons.mp hc with rfl | hc
  · rfl
  · rw [(List.mem_replicate.mp hc).2]
    rfl

def pretty : Layout := ⟨Value.indent, [' '], indent_blanks, by simp [Blanks, isSpace]⟩

end Layout

namespace Value

mutual

def written (L : Layout) (level : Nat) : Value → List Char
  | arr [] => ['[', ']']
  | arr (v :: vs) =>
    '[' :: (L.line (level + 1) ++ v.written L (level + 1) ++ moreItems L (level + 1) vs ++
      L.line level ++ [']'])
  | obj [] => ['{', '}']
  | obj ((k, v) :: ms) =>
    '{' :: (L.line (level + 1) ++ quote k.toList ++ ':' :: L.gap ++ v.written L (level + 1) ++
      moreMembers L (level + 1) ms ++ L.line level ++ ['}'])
  | v => v.compact

/-- Items after the first. -/
def moreItems (L : Layout) (level : Nat) : List Value → List Char
  | [] => []
  | v :: vs => ',' :: (L.line level ++ v.written L level ++ moreItems L level vs)

/-- Members after the first. -/
def moreMembers (L : Layout) (level : Nat) : List (String × Value) → List Char
  | [] => []
  | (k, v) :: ms =>
    ',' :: (L.line level ++ quote k.toList ++ ':' :: L.gap ++ v.written L level ++
      moreMembers L level ms)

end

mutual

lemma written_compact (level : Nat) : ∀ v : Value, v.written .compact level = v.compact
  | null | bool true | bool false | num _ | str _ => by simp [written]
  | arr [] => by simp [written, compact, compactItems]
  | obj [] => by simp [written, compact, compactMembers]
  | arr (v :: vs) => by
    rw [written, written_compact, compact, compactItems_cons (level + 1)]
    simp [Layout.compact]
  | obj ((k, v) :: ms) => by
    rw [written, written_compact, compact, compactMembers_cons (level + 1)]
    simp [Layout.compact]

lemma compactItems_cons (level : Nat) (v : Value) :
    ∀ vs : List Value, compactItems (v :: vs) = v.compact ++ moreItems .compact level vs
  | [] => by simp [compactItems, moreItems]
  | w :: vs => by
    change v.compact ++ ',' :: compactItems (w :: vs) = _
    rw [compactItems_cons level w vs, moreItems, written_compact]
    rfl

lemma compactMembers_cons (level : Nat) (k : String) (v : Value) :
    ∀ ms : List (String × Value),
      compactMembers ((k, v) :: ms) =
        quote k.toList ++ ':' :: v.compact ++ moreMembers .compact level ms
  | [] => by simp [compactMembers, moreMembers]
  | (l, w) :: ms => by
    change quote k.toList ++ ':' :: v.compact ++ ',' :: compactMembers ((l, w) :: ms) = _
    rw [compactMembers_cons level l w ms, moreMembers, written_compact]
    simp [Layout.compact]

end

mutual

lemma written_pretty (level : Nat) : ∀ v : Value, v.written .pretty level = v.pretty level
  | null | bool true | bool false | num _ | str _ => by simp [written, pretty]
  | arr [] => by simp [written, pretty]
  | obj [] => by simp [written, pretty]
  | arr (v :: vs) => by
    rw [written, written_pretty, pretty, prettyItems_cons]
    simp [Layout.pretty]
  | obj ((k, v) :: ms) => by
    rw [written, written_pretty, pretty, prettyMembers_cons]
    simp [Layout.pretty]

lemma prettyItems_cons (level : Nat) (v : Value) :
    ∀ vs : List Value,
      prettyItems level (v :: vs) =
        indent level ++ v.pretty level ++ moreItems .pretty level vs
  | [] => by simp [prettyItems, moreItems]
  | w :: vs => by
    change indent level ++ v.pretty level ++ ',' :: prettyItems level (w :: vs) = _
    rw [prettyItems_cons level w vs, moreItems, written_pretty]
    rfl

lemma prettyMembers_cons (level : Nat) (k : String) (v : Value) :
    ∀ ms : List (String × Value),
      prettyMembers level ((k, v) :: ms) =
        indent level ++ quote k.toList ++ ':' :: ' ' :: v.pretty level ++
          moreMembers .pretty level ms
  | [] => by simp [prettyMembers, moreMembers]
  | (l, w) :: ms => by
    change indent level ++ quote k.toList ++ ':' :: ' ' :: v.pretty level ++
      ',' :: prettyMembers level ((l, w) :: ms) = _
    rw [prettyMembers_cons level l w ms, moreMembers, written_pretty]
    simp [Layout.pretty]

end

end Value

end TabletopRobot.Json

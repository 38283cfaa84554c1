import Mathlib
import TabletopRobot.Json.Decode

/-!
What is known of a value that was read, whatever the text it was read from.
-/

namespace TabletopRobot.Json

lemma bind_eq_ok {ε α β : Type} {x : Except ε α} {f : α → Except ε β} {b : β} :
    (x >>= f) = .ok b ↔ ∃ a, x = .ok a ∧ f a = .ok b := by
  constructor
  · intro h
    cases x with
    | error e => cases h
    | ok a => exact ⟨a, rfl, h⟩
  · rintro ⟨a, rfl, h⟩
    exact h

lemma map_eq_ok {ε α β : Type} {x : Except ε α} {f : α → β} {b : β} :
    x.map f = .ok b ↔ ∃ a, x = .ok a ∧ f a = b := by
  constructor
  · intro h
    cases x with
    | error e => cases h
    | ok a => exact ⟨a, rfl, Except.ok.inj h⟩
  · rintro ⟨a, rfl, rfl⟩
    rfl

lemma toOption_eq_some {ε α : Type} {x : Except ε α} {a : α} :
    x.toOption = some a ↔ x = .ok a := by
  cases x <;> simp [Except.toOption]

/-- A text is decoded if it is read up to blanks at its end. -/
lemma decode_eq_ok {α : Type} {read : Reader α} {text : String} {a : α} :
    Json.decode read text = .ok a ↔
      ∃ rest, read text.toList = .ok (a, rest) ∧ endText rest = .ok () := by
  constructor
  · intro h
    obtain ⟨⟨a', rest⟩, hread, h⟩ := bind_eq_ok.mp h
    obtain ⟨_, hend, h⟩ := bind_eq_ok.mp h
    cases h
    exact ⟨rest, hread, hend⟩
  · rintro ⟨rest, hread, hend⟩
    exact bind_eq_ok.mpr ⟨(a, rest), hread, bind_eq_ok.mpr ⟨(), hend, rfl⟩⟩

/-- Every value that is read has the property. -/
def Yields {α : Type} (read : Reader α) (P : α → Prop) : Prop :=
  ∀ s a rest, read s = .ok (a, rest) → P a

namespace Yields

variable {α β : Type} {read : Reader α} {P : α → Prop} {Q : β → Prop}

lemma any : Yields read fun _ => True := fun _ _ _ _ => trivial

lemma unexpected (expected : String) : Yields (Json.unexpected expected) P := by
  intro s a rest h
  obtain ⟨f, -, h⟩ := bind_eq_ok.mp h
  cases h

lemma map {f : α → β} (h : Yields read P) (hf : ∀ a, P a → Q (f a)) : Yields (read.map f) Q := by
  intro s b rest hb
  obtain ⟨⟨a, r⟩, hread, hpair⟩ := map_eq_ok.mp hb
  rw [← (Prod.mk.inj hpair).1]
  exact hf a (h s a r hread)

lemma andThen {check : α → Except Error β} (h : Yields read P)
    (hcheck : ∀ a b, P a → check a = .ok b → Q b) : Yields (read.andThen check) Q := by
  intro s b rest hb
  obtain ⟨⟨a, r⟩, hread, hb⟩ := bind_eq_ok.mp hb
  obtain ⟨b', hb', hpair⟩ := bind_eq_ok.mp hb
  rw [← (Prod.mk.inj (Except.ok.inj hpair)).1]
  exact hcheck a b' (h s a r hread) hb'

lemma parsed {expected : String} {parse? : String → Option α}
    (h : ∀ t a, parse? t = some a → P a) : Yields (parsed expected parse?) P := by
  intro s a rest ha
  obtain ⟨⟨t, r⟩, -, ha⟩ := bind_eq_ok.mp ha
  dsimp only at ha
  split at ha
  · next a' ht =>
    rw [← (Prod.mk.inj (Except.ok.inj ha)).1]
    exact h t a' ht
  · cases ha

lemma decode {text : String} {a : α} (h : Yields read P) (ha : Json.decode read text = .ok a) :
    P a := by
  obtain ⟨rest, hread, -⟩ := decode_eq_ok.mp ha
  exact h text.toList a rest hread

end Yields

/-! ### Records -/

/-- Every field of the record, as it is filled in, keeps the property. -/
def Shape.Keeps {σ : Type} (sh : Shape σ) (P : σ → Prop) : Prop :=
  ∀ f ∈ sh.fields, ∀ d, P d → Yields (f.read d) P

lemma required_eq_ok {α : Type} {name : String} {x : Option α} {a : α} :
    required name x = .ok a ↔ x = some a := by
  cases x <;> simp [required]

/-- A field that is stored by `put`. -/
lemma Yields.field {σ α : Type} {name : String} {get : σ → Option α} {put : σ → α → σ}
    {read : Reader α} {P : α → Prop} {Q : σ → Prop} {d : σ} (h : Yields read P)
    (hput : ∀ a, P a → Q (put d a)) : Yields ((Field.of name get put read).read d) Q :=
  h.map hput

namespace Shape.Keeps

variable {σ : Type} {sh : Shape σ} {P : σ → Prop}

lemma member (h : sh.Keeps P) {d d₁ : σ} {name : String} {s rest : List Char} (hd : P d)
    (hread : sh.member d name s = .ok (d₁, rest)) : P d₁ := by
  unfold Shape.member at hread
  split at hread
  · next f hfind =>
    split at hread
    · cases hread
    · obtain ⟨r, -, hread⟩ := bind_eq_ok.mp hread
      exact h f (List.mem_of_find?_eq_some hfind) d hd r d₁ rest hread
  · obtain ⟨r, -, hread⟩ := bind_eq_ok.mp hread
    obtain ⟨r', -, hread⟩ := bind_eq_ok.mp hread
    rw [← (Prod.mk.inj (Except.ok.inj hread)).1]
    exact hd

lemma members (h : sh.Keeps P) {bound : List Char} {first : Bool} {d d₁ : σ} {s rest : List Char}
    (hd : P d) (hread : sh.members bound first d s = .ok (d₁, rest)) : P d₁ := by
  induction bound generalizing first d s with
  | nil => cases hread
  | cons b bound ih =>
    obtain ⟨next, -, hread⟩ := bind_eq_ok.mp hread
    cases next with
    | stop r =>
      rw [← (Prod.mk.inj (Except.ok.inj hread)).1]
      exact hd
    | more m =>
      obtain ⟨⟨d₂, r⟩, hmember, hread⟩ := bind_eq_ok.mp hread
      exact ih (h.member hd hmember) hread

lemma items (h : sh.Keeps P) {fs : List (Field σ)} {first : Bool} {d d₁ : σ} {s rest : List Char}
    (hfs : fs ⊆ sh.fields) (hd : P d) (hread : sh.items fs first d s = .ok (d₁, rest)) :
    P d₁ := by
  induction fs generalizing first d s with
  | nil =>
    obtain ⟨r, -, hpair⟩ := map_eq_ok.mp hread
    rw [← (Prod.mk.inj hpair).1]
    exact hd
  | cons f fs ih =>
    obtain ⟨hf, hfs⟩ := List.cons_subset.mp hfs
    obtain ⟨next, -, hread⟩ := bind_eq_ok.mp hread
    cases next with
    | stop r => cases hread
    | more r =>
      obtain ⟨⟨d₂, r₂⟩, hfield, hread⟩ := bind_eq_ok.mp hread
      exact ih hfs (h f hf d hd r d₂ r₂ hfield) hread

/-- A record keeps what its fields keep, as an object with members in any order or as an array. -/
lemma read (h : sh.Keeps P) {empty : σ} (hempty : P empty) : Yields (sh.read empty) P := by
  intro s d rest hread
  unfold Shape.read at hread
  split at hread
  · exact h.items (List.Subset.refl _) hempty hread
  · exact h.members hempty hread
  · exact Yields.unexpected sh.title _ d rest hread

end Shape.Keeps

end TabletopRobot.Json

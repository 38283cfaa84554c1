import Mathlib

/-!
Lists that hold values by name, and lists that grow at their end.
-/

namespace TabletopRobot

/-! ### Names -/

section Names

variable {α : Type}

lemma lookup_filter_ne (l : List (String × α)) (name k : String) :
    (l.filter (·.1 != name)).lookup k = if k = name then none else l.lookup k := by
  induction l with
  | nil => simp
  | cons p l ih =>
    obtain ⟨n, v⟩ := p
    by_cases hn : n = name
    · rw [List.filter_cons_of_neg (by simpa using hn), ih, List.lookup_cons]
      by_cases hk : k = name
      · simp [hk]
      · rw [if_neg hk, if_neg hk, beq_false_of_ne (by rw [hn]; exact hk)]
    · rw [List.filter_cons_of_pos (by simpa using hn), List.lookup_cons, List.lookup_cons, ih]
      by_cases hk : k = n
      · simp [hk, hn]
      · rw [beq_false_of_ne hk]

lemma lookup_put (l : List (String × α)) (name k : String) (v : α) :
    ((name, v) :: l.filter (·.1 != name)).lookup k = if k = name then some v else l.lookup k := by
  rw [List.lookup_cons]
  by_cases hk : k = name
  · simp [hk]
  · have hrest := lookup_filter_ne l name k
    rw [if_neg hk] at hrest ⊢
    rw [beq_false_of_ne hk]
    exact hrest

lemma mem_of_lookup {l : List (String × α)} {k : String} {v : α} (h : l.lookup k = some v) :
    (k, v) ∈ l := by
  obtain ⟨l₁, l₂, rfl, -⟩ := List.lookup_eq_some_iff.mp h
  exact List.mem_append_right _ List.mem_cons_self

/-- What a name stands for, apart from what the other names stand for. -/
lemma lookup_cons_filter_subperm {l : List (String × α)} {k : String} {v : α}
    (h : l.lookup k = some v) :
    (v :: (l.filter (·.1 != k)).map Prod.snd).Subperm (l.map Prod.snd) := by
  induction l with
  | nil => simp at h
  | cons p l ih =>
    obtain ⟨k', v'⟩ := p
    by_cases hk : k = k'
    · subst hk
      obtain rfl : v' = v := by simpa using h
      have hsub : ((l.filter (·.1 != k)).map Prod.snd).Sublist (l.map Prod.snd) :=
        List.filter_sublist.map Prod.snd
      simpa using (List.subperm_cons v').mpr hsub.subperm
    · rw [List.lookup_cons, beq_false_of_ne hk] at h
      have hswap := (List.Perm.swap v' v ((l.filter (·.1 != k)).map Prod.snd)).subperm
      simpa [Ne.symm hk] using hswap.trans ((List.subperm_cons v').mpr (ih h))

end Names

/-! ### Growth -/

section Growth

variable {α : Type} {l pre post : List α} {x y : α}

/-- Where an element stands in a list that is one longer. -/
lemma concat_eq_split (h : l ++ [y] = pre ++ x :: post) :
    (pre = l ∧ x = y ∧ post = []) ∨ ∃ post', l = pre ++ x :: post' ∧ post = post' ++ [y] := by
  rcases List.eq_nil_or_concat post with rfl | ⟨post', z, rfl⟩
  · obtain ⟨hl, hlast⟩ := List.append_inj' h rfl
    exact Or.inl ⟨hl.symm, (List.cons.inj hlast).1.symm, rfl⟩
  · rw [List.concat_eq_append, ← List.cons_append, ← List.append_assoc] at h
    obtain ⟨hl, hlast⟩ := List.append_inj' h rfl
    obtain rfl := (List.cons.inj hlast).1
    exact Or.inr ⟨post', hl, List.concat_eq_append⟩

/-- If `x` has `P` and nothing before `y` has it, then `y` comes before `x`, or both are the same
place of the list. -/
lemma split_at_first {P : α → Prop} {l₁ l₂ r₁ r₂ : List α} (h : l₁ ++ x :: r₁ = l₂ ++ y :: r₂)
    (hx : P x) (hl₂ : ∀ z ∈ l₂, ¬P z) : y ∈ l₁ ∨ (l₁ = l₂ ∧ x = y ∧ r₁ = r₂) := by
  rcases List.append_eq_append_iff.mp h with ⟨m, hl, hr⟩ | ⟨m, hl, hr⟩
  · cases m with
    | nil => simp_all
    | cons z m =>
      obtain ⟨rfl, -⟩ := List.cons.inj hr
      exact absurd hx (hl₂ x (by simp [hl]))
  · cases m with
    | nil => simp_all
    | cons z m =>
      obtain ⟨rfl, -⟩ := List.cons.inj hr
      exact Or.inl (by simp [hl])

/-- Some element has `P`, and every later one has `Q`. -/
def Since (P Q : α → Prop) (l : List α) : Prop :=
  ∃ pre x post, l = pre ++ x :: post ∧ P x ∧ ∀ y ∈ post, Q y

variable {P Q : α → Prop}

lemma not_since_nil : ¬ Since P Q [] := by
  rintro ⟨pre, x, post, h, -⟩
  simp at h

lemma since_concat : Since P Q (l ++ [y]) ↔ P y ∨ (Since P Q l ∧ Q y) := by
  constructor
  · rintro ⟨pre, x, post, h, hx, hpost⟩
    rcases concat_eq_split h with ⟨-, rfl, -⟩ | ⟨post', hl, rfl⟩
    · exact Or.inl hx
    · rw [List.forall_mem_append, List.forall_mem_singleton] at hpost
      exact Or.inr ⟨⟨pre, x, post', hl, hx, hpost.1⟩, hpost.2⟩
  · rintro (hy | ⟨⟨pre, x, post, rfl, hx, hpost⟩, hy⟩)
    · exact ⟨l, y, [], rfl, hy, by simp⟩
    · refine ⟨pre, x, post ++ [y], by simp, hx, ?_⟩
      rw [List.forall_mem_append, List.forall_mem_singleton]
      exact ⟨hpost, hy⟩

end Growth

end TabletopRobot

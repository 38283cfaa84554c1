import TabletopRobot.Proofs.Lists
import TabletopRobot.Proofs.Session.Replay
import TabletopRobot.Proofs.Session.Trace

/-!
No line of a batch is lost, applied twice, applied out of turn or applied too late, in whatever
order any number of batches are stepped, closed and superseded.

The invariant ties the open batches to the events so far: what a batch was given is what was
applied of it followed by what it still holds. Each event keeps it.
-/

namespace TabletopRobot

open Event

/-! ### Lists of events -/

lemma appliedBy_append (e : Nat) (tr us : List Event) :
    appliedBy e (tr ++ us) = appliedBy e tr ++ appliedBy e us := List.filterMap_append

lemma begun_append (tr us : List Event) : begun (tr ++ us) = begun tr ++ begun us :=
  List.filterMap_append

lemma begun_concat (tr : List Event) (ev : Event) :
    begun (tr ++ [ev]) = begun tr ++ (begun? ev).toList := by
  rw [begun_append]
  cases h : begun? ev <;> simp [begun, h]

lemma appliedBy_concat (e : Nat) (tr : List Event) (ev : Event) :
    appliedBy e (tr ++ [ev]) = appliedBy e tr ++ (appliedFor? e ev).toList := by
  rw [appliedBy_append]
  cases h : appliedFor? e ev <;> simp [appliedBy, h]

lemma mem_begun {e : Nat} {tr : List Event} : e ∈ begun tr ↔ ∃ ls, began e ls ∈ tr := by
  simp only [begun, List.mem_filterMap]
  constructor
  · rintro ⟨ev, hev, h⟩
    cases ev <;> simp [begun?] at h
    subst h
    exact ⟨_, hev⟩
  · rintro ⟨ls, h⟩
    exact ⟨_, h, rfl⟩

lemma CurrentIn.append {e : Nat} {tr us : List Event} (h : CurrentIn e tr)
    (hus : ∀ ev ∈ us, ev.startsOver = false) : CurrentIn e (tr ++ us) := by
  obtain ⟨pre, ls, mid, rfl, hmid⟩ := h
  exact ⟨pre, ls, mid ++ us, by simp, List.forall_mem_append.mpr ⟨hmid, hus⟩⟩

/-! ### The ledger -/

/-- The open batches `bs` of a session in epoch `e` agree with the events so far. -/
structure Ledger (e : Nat) (bs : List Batch) (tr : List Event) : Prop where
  begun_le : ∀ e' ∈ begun tr, e' ≤ e
  begun_nodup : (begun tr).Nodup
  applied_le : ∀ e' l, applied (some e') l ∈ tr → e' ≤ e
  /-- What was applied of a batch is a beginning of what it was given. -/
  taken : ∀ e' ls, began e' ls ∈ tr → appliedBy e' tr <+: ls
  own : ∀ b ∈ bs, b.epoch ∈ begun tr
  /-- An open batch holds the rest. -/
  rest : ∀ b ∈ bs, ∀ ls, began b.epoch ls ∈ tr → ls = appliedBy b.epoch tr ++ b.pending
  count : ∀ b ∈ bs, b.applied = (appliedBy b.epoch tr).length
  apart : (bs.map Batch.epoch).Nodup
  current : ∀ b ∈ bs, b.epoch = e → CurrentIn e tr
  /-- Lines were applied for a batch only while no other epoch had begun. -/
  inTime : ∀ pre e' l post, tr = pre ++ applied (some e') l :: post → CurrentIn e' pre

namespace Ledger

variable {e : Nat} {bs bs' : List Batch} {tr : List Event}

lemma empty : Ledger 0 [] [] := by
  constructor <;> simp [begun]

lemma subperm (h : Ledger e bs tr) (hbs : bs'.Subperm bs) : Ledger e bs' tr where
  begun_le := h.begun_le
  begun_nodup := h.begun_nodup
  applied_le := h.applied_le
  taken := h.taken
  own b hb := h.own b (hbs.subset hb)
  rest b hb := h.rest b (hbs.subset hb)
  count b hb := h.count b (hbs.subset hb)
  apart := by
    obtain ⟨l, hperm, hsub⟩ := hbs
    exact (hperm.map Batch.epoch).nodup_iff.mp ((hsub.map Batch.epoch).nodup h.apart)
  current b hb := h.current b (hbs.subset hb)
  inTime := h.inTime

/-- What is applied of a batch is found by its epoch. -/
lemma appliedBy_eq_nil (h : Ledger e bs tr) {e' : Nat} (he : e < e') : appliedBy e' tr = [] := by
  rw [appliedBy, List.filterMap_eq_nil_iff]
  intro ev hev
  rcases ev with _ | _ | ⟨_ | e'', l⟩ | _ | _ | _ <;> try rfl
  have := h.applied_le e'' l hev
  rw [appliedFor?, if_neg (by omega)]

/-- An event that is none of the batches' keeps the ledger, as long as the current batch, if
there still is one, stays current. -/
lemma pass (h : Ledger e bs tr) {ev : Event} (hev : ev.isAside = true) {e' : Nat} (hle : e ≤ e')
    (hcurrent : ∀ b ∈ bs, b.epoch = e' → CurrentIn e' (tr ++ [ev])) :
    Ledger e' bs (tr ++ [ev]) := by
  have hbegun : begun (tr ++ [ev]) = begun tr := by
    rw [begun_concat]; cases ev <;> simp_all [begun?, isAside]
  have happlied (k : Nat) : appliedBy k (tr ++ [ev]) = appliedBy k tr := by
    rw [appliedBy_concat]
    rcases ev with _ | _ | ⟨_ | _, _⟩ | _ | _ | _ <;> simp_all [appliedFor?, isAside]
  have hold {k : Nat} {ls : List String} (hm : began k ls ∈ tr ++ [ev]) : began k ls ∈ tr := by
    rcases List.mem_append.mp hm with hm | hm
    · exact hm
    · rw [← List.mem_singleton.mp hm] at hev; simp [isAside] at hev
  have hnew {k : Nat} {l : String} : applied (some k) l ≠ ev := by
    rintro rfl; simp [isAside] at hev
  constructor
  case begun_le => rw [hbegun]; exact fun k hk => (h.begun_le k hk).trans hle
  case begun_nodup => rw [hbegun]; exact h.begun_nodup
  case applied_le =>
    intro k l hm
    rcases List.mem_append.mp hm with hm | hm
    · exact (h.applied_le k l hm).trans hle
    · exact absurd (List.mem_singleton.mp hm) hnew
  case taken => intro k ls hm; rw [happlied]; exact h.taken k ls (hold hm)
  case own => rw [hbegun]; exact h.own
  case rest => intro b hb ls hm; rw [happlied]; exact h.rest b hb ls (hold hm)
  case count => intro b hb; rw [happlied]; exact h.count b hb
  case apart => exact h.apart
  case current => exact hcurrent
  case inTime =>
    intro pre k l post hsplit
    rcases concat_eq_split hsplit with ⟨-, hx, -⟩ | ⟨post', htr, -⟩
    · exact absurd hx hnew
    · exact h.inTime pre k l post' htr

lemma aside (h : Ledger e bs tr) (ev : Event) (hev : ev.isAside = true)
    (hstart : ev.startsOver = false) : Ledger e bs (tr ++ [ev]) :=
  h.pass hev le_rfl fun b hb he => (h.current b hb he).append (by simpa using hstart)

lemma epoch_le (h : Ledger e bs tr) {b : Batch} (hb : b ∈ bs) : b.epoch ≤ e :=
  h.begun_le _ (h.own b hb)

/-- A reset leaves every open batch behind. -/
lemma restart (h : Ledger e bs tr) : Ledger (e + 1) bs (tr ++ [restarted]) :=
  h.pass rfl e.le_succ fun b hb he => by have := h.epoch_le hb; omega

/-- A new batch holds everything it was given, and leaves the others behind. -/
lemma start (h : Ledger e bs tr) (ls : List String) :
    Ledger (e + 1) (⟨e + 1, ls, 0⟩ :: bs) (tr ++ [began (e + 1) ls]) := by
  have hbegun : begun (tr ++ [began (e + 1) ls]) = begun tr ++ [e + 1] := by
    simp [begun_concat, begun?]
  have happlied (e' : Nat) : appliedBy e' (tr ++ [began (e + 1) ls]) = appliedBy e' tr := by
    simp [appliedBy_concat, appliedFor?]
  have hnil : appliedBy (e + 1) tr = [] := h.appliedBy_eq_nil (by omega)
  have hold {e' : Nat} {ms : List String} (hm : began e' ms ∈ tr ++ [began (e + 1) ls]) :
      began e' ms ∈ tr ∧ e' ≤ e ∨ e' = e + 1 ∧ ms = ls := by
    rcases List.mem_append.mp hm with hm | hm
    · exact Or.inl ⟨hm, h.begun_le e' (mem_begun.mpr ⟨ms, hm⟩)⟩
    · simpa using Or.inr (List.mem_singleton.mp hm)
  constructor
  case begun_le =>
    rw [hbegun]
    refine List.forall_mem_append.mpr ⟨fun e' he' => ?_, by simp⟩
    have := h.begun_le e' he'
    omega
  case begun_nodup =>
    rw [hbegun]
    refine h.begun_nodup.append (by simp) fun e' he' hnew => ?_
    have := h.begun_le e' he'
    rw [List.mem_singleton] at hnew
    omega
  case applied_le =>
    intro e' l hm
    have := h.applied_le e' l (by simpa using hm)
    omega
  case taken =>
    intro e' ms hm
    rw [happlied]
    rcases hold hm with ⟨hm, -⟩ | ⟨rfl, -⟩
    · exact h.taken e' ms hm
    · rw [hnil]; exact List.nil_prefix
  case own =>
    rw [hbegun]
    refine List.forall_mem_cons.mpr ⟨by simp, fun b hb => ?_⟩
    exact List.mem_append_left _ (h.own b hb)
  case rest =>
    refine List.forall_mem_cons.mpr ⟨fun ms hm => ?_, fun b hb ms hm => ?_⟩ <;> rw [happlied]
    · rcases hold hm with ⟨-, he⟩ | ⟨-, rfl⟩
      · dsimp only at he; omega
      · simp [hnil]
    · rcases hold hm with ⟨hm, -⟩ | ⟨he, -⟩
      · exact h.rest b hb ms hm
      · have := h.epoch_le hb; omega
  case count =>
    refine List.forall_mem_cons.mpr ⟨by simp [happlied, hnil], fun b hb => ?_⟩
    rw [happlied]
    exact h.count b hb
  case apart =>
    rw [List.map_cons, List.nodup_cons]
    refine ⟨fun hm => ?_, h.apart⟩
    obtain ⟨b, hb, he⟩ := List.mem_map.mp hm
    have := h.epoch_le hb
    dsimp only at he
    omega
  case current =>
    refine List.forall_mem_cons.mpr ⟨fun _ => ⟨tr, ls, [], rfl, by simp⟩, fun b hb he => ?_⟩
    have := h.epoch_le hb
    omega
  case inTime =>
    intro pre e' l post hsplit
    rcases concat_eq_split hsplit with ⟨-, hx, -⟩ | ⟨post', htr, -⟩
    · simp at hx
    · exact h.inTime pre e' l post' htr

/-- A line moves from what the current batch holds to what was applied of it. -/
lemma apply {l : String} {ls : List String} {k : Nat}
    (h : Ledger e (⟨e, l :: ls, k⟩ :: bs) tr) :
    Ledger e (⟨e, ls, k + 1⟩ :: bs) (tr ++ [applied (some e) l]) := by
  have hbegun : begun (tr ++ [applied (some e) l]) = begun tr := by simp [begun_concat, begun?]
  have happlied : appliedBy e (tr ++ [applied (some e) l]) = appliedBy e tr ++ [l] := by
    simp [appliedBy_concat, appliedFor?]
  have hothers {e' : Nat} (he : e' ≠ e) :
      appliedBy e' (tr ++ [applied (some e) l]) = appliedBy e' tr := by
    simp [appliedBy_concat, appliedFor?, Ne.symm he]
  have hrest := h.rest _ List.mem_cons_self
  have hcount := h.count _ List.mem_cons_self
  have hapart := h.apart
  rw [List.map_cons, List.nodup_cons] at hapart
  have hne : ∀ b ∈ bs, b.epoch ≠ e := fun b hb he =>
    hapart.1 (List.mem_map.mpr ⟨b, hb, he⟩)
  constructor
  case begun_le => rw [hbegun]; exact h.begun_le
  case begun_nodup => rw [hbegun]; exact h.begun_nodup
  case applied_le =>
    intro e' l' hm
    rcases List.mem_append.mp hm with hm | hm
    · exact h.applied_le e' l' hm
    · simp only [List.mem_singleton, Event.applied.injEq, Option.some.injEq] at hm
      omega
  case taken =>
    intro e' ms hm
    have htr : began e' ms ∈ tr := by simpa using hm
    by_cases he : e' = e
    · rw [he] at htr ⊢
      rw [happlied, hrest ms htr]
      exact ⟨ls, by simp⟩
    · rw [hothers he]
      exact h.taken e' ms htr
  case own =>
    rw [hbegun]
    exact List.forall_mem_cons.mpr (List.forall_mem_cons.mp h.own)
  case rest =>
    refine List.forall_mem_cons.mpr ⟨fun ms hm => ?_, fun b hb ms hm => ?_⟩
    · rw [happlied, hrest ms (by simpa using hm)]
      simp
    · rw [hothers (hne b hb)]
      exact h.rest b (List.mem_cons_of_mem _ hb) ms (by simpa using hm)
  case count =>
    refine List.forall_mem_cons.mpr ⟨?_, fun b hb => ?_⟩
    · dsimp only at hcount ⊢
      rw [happlied, hcount, List.length_append, List.length_singleton]
    · rw [hothers (hne b hb)]
      exact h.count b (List.mem_cons_of_mem _ hb)
  case apart => simpa using hapart
  case current =>
    refine List.forall_mem_cons.mpr ⟨fun _ => ?_, fun b hb he => absurd he (hne b hb)⟩
    exact (h.current _ List.mem_cons_self rfl).append (by simp [startsOver])
  case inTime =>
    intro pre e' l' post hsplit
    rcases concat_eq_split hsplit with ⟨hpre, hx, -⟩ | ⟨post', htr, -⟩
    · simp only [Event.applied.injEq, Option.some.injEq] at hx
      rw [hpre, hx.1]
      exact h.current _ List.mem_cons_self rfl
    · exact h.inTime pre e' l' post' htr

end Ledger

end TabletopRobot

import TabletopRobot.Proofs.Pacer.Poll

/-!
The invariant of a pacer, through every schedule.
-/

namespace TabletopRobot

open Session

namespace Pacer

/-- The batch of the given name has begun and waits. -/
def Waits (p : Pacer) (name : String) (b : Batch) : Prop := p.paced? name = some (.waiting b)

lemma Waits.unique {p : Pacer} {name : String} {b b' : Batch} (h : p.Waits name b)
    (h' : p.Waits name b') : b = b' :=
  Paced.waiting.inj (Option.some.inj (h.symm.trans h'))

/-- What holds between a session and the batches that wait on it. -/
structure Sound (p : Pacer) : Prop where
  /-- A batch that waits has lines left. -/
  left : ∀ name b, p.Waits name b → b.pending ≠ []
  begun : ∀ name b, p.Waits name b → b.epoch ≤ p.session.epoch
  apart : ∀ name name' b b', p.Waits name b → p.Waits name' b' → name ≠ name' →
    b.epoch ≠ b'.epoch
  /-- The batch of the session's epoch is marked active. -/
  marked : ∀ name b, p.Waits name b → b.epoch = p.session.epoch →
    p.session.active = some p.session.epoch
  /-- No batch of another epoch is. -/
  unmarked : ∀ name b, p.Waits name b → ∀ a, p.session.active = some a → a = p.session.epoch

namespace Sound

variable {p q : Pacer}

lemma new (s : Session) : Sound ⟨s, []⟩ := by
  constructor <;> simp [Waits, paced?]

/-- Batches may go, or go on, as long as the epoch and the mark stay. -/
lemma keep (h : p.Sound) (he : q.session.epoch = p.session.epoch)
    (ha : q.session.active = p.session.active)
    (hq : ∀ k b, q.Waits k b → b.pending ≠ [] ∧ ∃ b', p.Waits k b' ∧ b'.epoch = b.epoch) :
    q.Sound := by
  constructor
  case left => exact fun k b hb => (hq k b hb).1
  case begun =>
    intro k b hb
    obtain ⟨-, b', hb', hsame⟩ := hq k b hb
    rw [he, ← hsame]
    exact h.begun k b' hb'
  case apart =>
    intro k k' b c hb hc hne
    obtain ⟨-, b', hb', hsame⟩ := hq k b hb
    obtain ⟨-, c', hc', hsame'⟩ := hq k' c hc
    rw [← hsame, ← hsame']
    exact h.apart k k' b' c' hb' hc' hne
  case marked =>
    intro k b hb hcur
    obtain ⟨-, b', hb', hsame⟩ := hq k b hb
    rw [he] at hcur ⊢
    rw [ha]
    exact h.marked k b' hb' (hsame.trans hcur)
  case unmarked =>
    intro k b hb a hq'
    obtain ⟨-, b', hb', -⟩ := hq k b hb
    rw [he]
    exact h.unmarked k b' hb' a (ha.symm.trans hq')

/-- Without a batch of the session's epoch, there need be no mark. -/
lemma unmark (h : p.Sound) (he : p.session.epoch ≤ q.session.epoch)
    (ha : q.session.active = none)
    (hq : ∀ k b, q.Waits k b → p.Waits k b ∧ b.epoch ≠ q.session.epoch) : q.Sound := by
  constructor
  case left => exact fun k b hb => h.left k b (hq k b hb).1
  case begun => exact fun k b hb => (h.begun k b (hq k b hb).1).trans he
  case apart =>
    exact fun k k' b c hb hc hne => h.apart k k' b c (hq k b hb).1 (hq k' c hc).1 hne
  case marked => exact fun k b hb hcur => absurd hcur (hq k b hb).2
  case unmarked => intro k b hb a hmark; rw [ha] at hmark; cases hmark

/-- A fresh start leaves every batch behind. -/
lemma restart (h : p.Sound) (he : q.session.epoch = p.session.epoch + 1)
    (ha : q.session.active = none) (hq : ∀ k b, q.Waits k b → p.Waits k b) : q.Sound := by
  refine h.unmark (by omega) ha fun k b hb => ⟨hq k b hb, ?_⟩
  have := h.begun k b (hq k b hb)
  omega

/-- The first poll of a batch that has lines. -/
lemma start (h : p.Sound) (name : String) (he : q.session.epoch = p.session.epoch + 1)
    (ha : q.session.active = some q.session.epoch)
    (hq : ∀ k b, q.Waits k b →
      (k ≠ name ∧ p.Waits k b) ∨ (k = name ∧ b.epoch = q.session.epoch ∧ b.pending ≠ [])) :
    q.Sound := by
  have hold : ∀ k b, p.Waits k b → b.epoch < q.session.epoch := fun k b hb => by
    have := h.begun k b hb
    omega
  constructor
  case left =>
    intro k b hb
    rcases hq k b hb with ⟨-, hb⟩ | ⟨-, -, hleft⟩
    · exact h.left k b hb
    · exact hleft
  case begun =>
    intro k b hb
    rcases hq k b hb with ⟨-, hb⟩ | ⟨-, hcur, -⟩
    · exact (hold k b hb).le
    · exact hcur.le
  case apart =>
    intro k k' b c hb hc hne
    rcases hq k b hb with ⟨-, hb⟩ | ⟨hk, hcur, -⟩ <;>
      rcases hq k' c hc with ⟨-, hc⟩ | ⟨hk', hcur', -⟩
    · exact h.apart k k' b c hb hc hne
    · have := hold k b hb
      omega
    · have := hold k' c hc
      omega
    · exact absurd (hk.trans hk'.symm) hne
  case marked => exact fun _ _ _ _ => ha
  case unmarked => exact fun _ _ _ a hmark => (Option.some.inj (hmark.symm.trans ha))

end Sound

variable {p : Pacer}

lemma waits_others {s : Session} {name k : String} {b : Batch}
    (h : Waits ⟨s, p.others name⟩ k b) : k ≠ name ∧ p.Waits k b := by
  rw [Waits, paced?_others] at h
  split at h
  · cases h
  · exact ⟨‹_›, h⟩

lemma waits_put {s : Session} {name k : String} {x : Paced} {b : Batch}
    (h : Waits ⟨s, (name, x) :: p.others name⟩ k b) :
    (k = name ∧ x = .waiting b) ∨ (k ≠ name ∧ p.Waits k b) := by
  rw [Waits, paced?_put] at h
  split at h
  · exact Or.inl ⟨‹_›, Option.some.inj h⟩
  · exact Or.inr ⟨‹_›, h⟩

/-- **What a poll of a sound pacer can do**: nothing, a fresh start, a next line, a last line, or
the end of a batch that was left behind. -/
lemma perform_poll_cases (h : p.Sound) (name : String) :
    (p.paced? name = none ∧ p.perform (.poll name) = (.noBatch, p)) ∨
    (∃ lines, p.paced? name = some (.created lines) ∧ queued lines = [] ∧
      p.perform (.poll name) =
        (.summary ⟨p.session.epoch + 1, 0, 0, false⟩, ⟨p.session.reset, p.others name⟩)) ∨
    (∃ lines l ls, p.paced? name = some (.created lines) ∧ queued lines = l :: ls ∧
      p.perform (.poll name) =
        (.pending, ⟨{ p.session.reset with active := some (p.session.epoch + 1) },
          (name, .waiting ⟨p.session.epoch + 1, l :: ls, 0⟩) :: p.others name⟩)) ∨
    (∃ b, p.Waits name b ∧ b.epoch ≠ p.session.epoch ∧
      p.perform (.poll name) = (.summary b.summary, ⟨p.session, p.others name⟩)) ∨
    (∃ b l, p.Waits name b ∧ b.epoch = p.session.epoch ∧ b.pending = [l] ∧
      p.perform (.poll name) =
        (.summary ⟨b.epoch, b.applied + 1, 0, false⟩,
          ⟨{ p.session.execute l with active := none }, p.others name⟩)) ∨
    ∃ b l m ls, p.Waits name b ∧ b.epoch = p.session.epoch ∧ b.pending = l :: m :: ls ∧
      p.perform (.poll name) =
        (.pending, ⟨p.session.execute l,
          (name, .waiting ⟨b.epoch, m :: ls, b.applied + 1⟩) :: p.others name⟩) := by
  rcases hb : p.paced? name with _ | lines | b
  · exact Or.inl ⟨rfl, perform_poll_none p name hb⟩
  · rcases hl : queued lines with _ | ⟨l, ls⟩
    · exact Or.inr (Or.inl ⟨lines, rfl, hl,
        perform_poll_ended p name hb (Paced.poll_created_nil hl)⟩)
    · exact Or.inr (Or.inr (Or.inl ⟨lines, l, ls, rfl, hl,
        perform_poll_waiting p name hb (Paced.poll_created_cons hl)⟩))
  · refine Or.inr (Or.inr (Or.inr ?_))
    by_cases he : b.epoch = p.session.epoch
    · have ha := h.marked name b hb he
      rcases hl : b.pending with _ | ⟨l, _ | ⟨m, ls⟩⟩
      · exact absurd hl (h.left name b hb)
      · exact Or.inr (Or.inl ⟨b, l, hb, he, hl,
          perform_poll_ended p name hb (Paced.poll_last he ha hl)⟩)
      · exact Or.inr (Or.inr ⟨b, l, m, ls, hb, he, hl,
          perform_poll_waiting p name hb (Paced.poll_next he hl)⟩)
    · have ha : p.session.active ≠ some b.epoch := fun ha => he (h.unmarked name b hb _ ha)
      exact Or.inl ⟨b, hb, he, perform_poll_ended p name hb (Paced.poll_stale he ha)⟩

/-- **Every task keeps a pacer sound.** -/
lemma Sound.perform (h : p.Sound) (t : PaceTask) : (p.perform t).2.Sound := by
  have hsame (k : String) (b : Batch) (hb : p.Waits k b) :
      b.pending ≠ [] ∧ ∃ b', p.Waits k b' ∧ b'.epoch = b.epoch := ⟨h.left k b hb, b, hb, rfl⟩
  cases t with
  | start name ls =>
    refine h.keep rfl rfl fun k b hb => ?_
    rcases waits_put hb with ⟨-, hx⟩ | ⟨-, hb⟩
    · cases hx
    · exact hsame k b hb
  | drop name => exact h.keep rfl rfl fun k b hb => hsame k b (waits_others hb).2
  | line raw =>
    exact h.keep (p.session.enter_epoch raw) (p.session.enter_active raw) hsame
  | reset => exact h.restart rfl rfl fun _ _ hb => hb
  | poll name =>
    rcases perform_poll_cases h name with ⟨-, hp⟩ | ⟨lines, -, -, hp⟩ | ⟨lines, l, ls, -, -, hp⟩ |
      ⟨b, hb, he, hp⟩ | ⟨b, l, hb, he, -, hp⟩ | ⟨b, l, m, ls, hb, he, -, hp⟩ <;> rw [hp]
    · exact h
    · exact h.restart rfl rfl fun k b hb => (waits_others hb).2
    · refine h.start name rfl rfl fun k b hb => ?_
      rcases waits_put hb with ⟨hk, hx⟩ | hb
      · obtain rfl := Paced.waiting.inj hx
        exact Or.inr ⟨hk, rfl, List.cons_ne_nil l ls⟩
      · exact Or.inl hb
    · exact h.keep rfl rfl fun k b hb => hsame k b (waits_others hb).2
    · refine h.unmark le_rfl rfl fun k c hc => ?_
      obtain ⟨hk, hc⟩ := waits_others hc
      exact ⟨hc, he ▸ h.apart k name c b hc hb hk⟩
    · refine h.keep rfl rfl fun k c hc => ?_
      rcases waits_put hc with ⟨rfl, hx⟩ | ⟨-, hc⟩
      · obtain rfl := Paced.waiting.inj hx
        exact ⟨List.cons_ne_nil m ls, b, hb, rfl⟩
      · exact hsame k c hc

lemma Sound.run (h : p.Sound) (ts : List PaceTask) : (p.run ts).Sound := by
  induction ts generalizing p with
  | nil => exact h
  | cons t ts ih => exact ih (h.perform t)

end Pacer

end TabletopRobot

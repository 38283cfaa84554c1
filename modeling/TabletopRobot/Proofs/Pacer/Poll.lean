import TabletopRobot.Proofs.Lists
import TabletopRobot.Proofs.Session.Reachable
import TabletopRobot.Pacer

/-!
What a poll does, and what every task of a pacer keeps.

A paced batch that has begun waits with lines left, in an epoch of its own that is no later than
that of the session. If it is the session's, the mark of the active batch is there too, so that
the end of an older batch cannot clear it.
-/

namespace TabletopRobot

open Session

/-! ### Polls -/

namespace Paced

variable {s : Session} {b : Batch} {lines : List String}

lemma settle_nil {e k : Nat} :
    settle s ⟨e, [], k⟩ =
      (.inl ⟨e, k, 0, false⟩, if s.active = some e then { s with active := none } else s) := rfl

lemma settle_cons {e k : Nat} {l : String} {ls : List String} :
    settle s ⟨e, l :: ls, k⟩ = (.inr (waiting ⟨e, l :: ls, k⟩), s) := rfl

/-- A batch without lines ends when it begins. -/
lemma poll_created_nil (h : queued lines = []) :
    poll s (created lines) = (.inl ⟨s.epoch + 1, 0, 0, false⟩, s.reset) := by
  rw [poll, begin_eq, h]
  dsimp only
  rw [settle_nil, if_pos rfl]
  rfl

lemma poll_created_cons {l : String} {ls : List String} (h : queued lines = l :: ls) :
    poll s (created lines) =
      (.inr (waiting ⟨s.epoch + 1, l :: ls, 0⟩),
        { s.reset with active := some (s.epoch + 1) }) := by
  rw [poll, begin_eq, h]
  exact settle_cons

/-- A batch that was left behind ends, and the mark of another stays. -/
lemma poll_stale (he : b.epoch ≠ s.epoch) (ha : s.active ≠ some b.epoch) :
    poll s (waiting b) = (.inl b.summary, s) := by
  rw [poll, step_stale he]
  dsimp only
  rw [finish, if_neg ha]

lemma poll_last (he : b.epoch = s.epoch) (ha : s.active = some s.epoch) {l : String}
    (hb : b.pending = [l]) :
    poll s (waiting b) =
      (.inl ⟨b.epoch, b.applied + 1, 0, false⟩, { s.execute l with active := none }) := by
  rw [poll, step_cons he hb]
  dsimp only
  rw [settle_nil, execute_active, ha, he, if_pos rfl]

lemma poll_next (he : b.epoch = s.epoch) {l m : String} {ls : List String}
    (hb : b.pending = l :: m :: ls) :
    poll s (waiting b) =
      (.inr (waiting ⟨b.epoch, m :: ls, b.applied + 1⟩), s.execute l) := by
  rw [poll, step_cons he hb]
  exact settle_cons

lemma settle_epoch (s : Session) (b : Batch) : (settle s b).2.epoch = s.epoch := by
  rw [settle]
  obtain ⟨a, ha⟩ := finish_session s b
  split
  · rw [show (s.finish b).2.epoch = s.epoch by rw [ha]]
  · rfl

lemma poll_waiting_epoch (s : Session) (b : Batch) : (poll s (waiting b)).2.epoch = s.epoch := by
  rw [poll]
  rcases step_cases s b with ⟨-, h⟩ | ⟨-, -, h⟩ | ⟨l, ls, -, -, h⟩ <;> rw [h]
  · obtain ⟨a, ha⟩ := finish_session s b
    dsimp only
    rw [ha]
  · exact settle_epoch _ _
  · exact settle_epoch _ _

lemma poll_created_epoch (s : Session) (lines : List String) :
    (poll s (created lines)).2.epoch = s.epoch + 1 := by
  rcases h : queued lines with _ | ⟨l, ls⟩
  · rw [poll_created_nil h]; rfl
  · rw [poll_created_cons h]; rfl

end Paced

/-! ### Tasks -/

namespace PaceTask

/-- A poll of the batch of the given name. -/
def polls (name : String) : PaceTask → Bool
  | poll n => n == name
  | _ => false

/-- A task that puts away the batch of the given name. -/
def discards (name : String) : PaceTask → Bool
  | start n _ | drop n => n == name
  | _ => false

end PaceTask

namespace Pacer

variable (p : Pacer) (s : Session) (name k : String) (b : Paced)

/-! What the names stand for after a task. -/

@[simp] lemma paced?_others : paced? ⟨s, p.others name⟩ k = if k = name then none else p.paced? k :=
  lookup_filter_ne p.waiting name k

@[simp] lemma paced?_put :
    paced? ⟨s, (name, b) :: p.others name⟩ k = if k = name then some b else p.paced? k :=
  lookup_put p.waiting name k b

/-- A reset, or the first poll of a batch. -/
def startsOver (p : Pacer) : PaceTask → Bool
  | .reset => true
  | .poll name =>
    match p.paced? name with
    | some (.created _) => true
    | _ => false
  | _ => false

/-- How often a run starts over. -/
def freshStarts (p : Pacer) : List PaceTask → Nat
  | [] => 0
  | t :: ts => (p.startsOver t).toNat + (p.perform t).2.freshStarts ts

lemma perform_poll_none (h : p.paced? name = none) :
    p.perform (.poll name) = (.noBatch, p) := by
  rw [perform, h]

lemma perform_poll_ended {b : Paced} {r : Summary} {s : Session} (h : p.paced? name = some b)
    (hpoll : b.poll p.session = (.inl r, s)) :
    p.perform (.poll name) = (.summary r, ⟨s, p.others name⟩) := by
  rw [perform, h]
  dsimp only
  rw [hpoll]

lemma perform_poll_waiting {b b' : Paced} {s : Session} (h : p.paced? name = some b)
    (hpoll : b.poll p.session = (.inr b', s)) :
    p.perform (.poll name) = (.pending, ⟨s, (name, b') :: p.others name⟩) := by
  rw [perform, h]
  dsimp only
  rw [hpoll]

lemma perform_poll_session {b : Paced} (h : p.paced? name = some b) :
    (p.perform (.poll name)).2.session = (b.poll p.session).2 := by
  rcases hpoll : b.poll p.session with ⟨r | b', s⟩
  · rw [perform_poll_ended p name h hpoll]
  · rw [perform_poll_waiting p name h hpoll]

/-- **The epoch counts the fresh starts.** -/
lemma perform_epoch (t : PaceTask) :
    (p.perform t).2.session.epoch = p.session.epoch + (p.startsOver t).toNat := by
  cases t with
  | line raw => exact p.session.enter_epoch raw
  | poll name =>
    rw [startsOver]
    rcases h : p.paced? name with _ | lines | b
    · rw [perform_poll_none p name h]; rfl
    · rw [perform_poll_session p name h, Paced.poll_created_epoch]; rfl
    · rw [perform_poll_session p name h, Paced.poll_waiting_epoch]; rfl
  | _ => rfl

lemma run_epoch (ts : List PaceTask) :
    (p.run ts).session.epoch = p.session.epoch + p.freshStarts ts := by
  induction ts generalizing p with
  | nil => rfl
  | cons t ts ih => rw [run_cons, ih, perform_epoch, freshStarts, Nat.add_assoc]

end Pacer

end TabletopRobot

import TabletopRobot.Proofs.Pacer.Sound

/-!
When the session of a pacer is running.

A batch that waits in the epoch of the session keeps it running. So does a batch that was put
away there, as nobody clears its mark, until the next fresh start.
-/

namespace TabletopRobot

/-- The epoch of a paced batch that has begun. -/
def Paced.epoch? : Paced → Option ℕ
  | created _ => none
  | waiting b => some b.epoch

namespace Pacer

variable {p q : Pacer} {a a' : Prop}

/-- The epoch of the batch of the given name, if it has begun and waits. -/
def epoch? (p : Pacer) (name : String) : Option ℕ := (p.paced? name).bind Paced.epoch?

/-- The batch of the given name has begun, and waits in the epoch of the session. -/
def Paces (p : Pacer) (name : String) : Prop := p.epoch? name = some p.session.epoch

/-- A batch is being paced through the session. -/
def Pacing (p : Pacer) : Prop := ∃ name, p.Paces name

/-- A task that puts away the batch that is being paced. -/
def abandons (p : Pacer) : PaceTask → Prop
  | .start name _ | .drop name => p.Paces name
  | _ => False

/-- The tasks of a run, each with the pacer that it meets. -/
def moments (p : Pacer) : List PaceTask → List (Pacer × PaceTask)
  | [] => []
  | t :: ts => (p, t) :: (p.perform t).2.moments ts

/-- A batch was put away while it was being paced, and there was no fresh start since. -/
def Abandoned (p : Pacer) (ts : List PaceTask) : Prop :=
  Since (fun m => m.1.abandons m.2) (fun m => m.1.startsOver m.2 = false) (p.moments ts)

lemma moments_concat (p : Pacer) (ts : List PaceTask) (t : PaceTask) :
    p.moments (ts ++ [t]) = p.moments ts ++ [(p.run ts, t)] := by
  induction ts generalizing p with
  | nil => rfl
  | cons u ts ih => rw [List.cons_append, moments, ih]; rfl

/-! ### Epochs by name -/

@[simp] lemma epoch?_others (p : Pacer) (s : Session) (name k : String) :
    epoch? ⟨s, p.others name⟩ k = if k = name then none else p.epoch? k := by
  rw [epoch?, paced?_others]
  split <;> rfl

@[simp] lemma epoch?_put (p : Pacer) (s : Session) (name k : String) (b : Paced) :
    epoch? ⟨s, (name, b) :: p.others name⟩ k = if k = name then b.epoch? else p.epoch? k := by
  rw [epoch?, paced?_put]
  split <;> rfl

lemma Waits.epoch? {name : String} {b : Batch} (h : p.Waits name b) :
    p.epoch? name = some b.epoch := by
  rw [Pacer.epoch?, show p.paced? name = some (.waiting b) from h]
  rfl

lemma waits_of_epoch? {name : String} {e : ℕ} (h : p.epoch? name = some e) :
    ∃ b, p.Waits name b ∧ b.epoch = e := by
  obtain ⟨x, hx, he⟩ := Option.bind_eq_some_iff.mp h
  cases x with
  | created ls => cases he
  | waiting b => exact ⟨b, hx, Option.some.inj he⟩

lemma paces_others {s : Session} {name k : String} :
    Paces ⟨s, p.others name⟩ k ↔ k ≠ name ∧ p.epoch? k = some s.epoch := by
  rw [Paces, epoch?_others]
  split <;> simp_all

lemma paces_put {s : Session} {name k : String} {b : Paced} :
    Paces ⟨s, (name, b) :: p.others name⟩ k ↔
      if k = name then b.epoch? = some s.epoch else p.epoch? k = some s.epoch := by
  rw [Paces, epoch?_put]
  split <;> rfl

namespace Sound

lemma paces_unique (h : p.Sound) {name k : String} (hname : p.Paces name) (hk : p.Paces k) :
    k = name := by
  obtain ⟨b, hb, he⟩ := waits_of_epoch? hname
  obtain ⟨c, hc, he'⟩ := waits_of_epoch? hk
  by_contra hne
  exact h.apart k name c b hc hb hne (he'.trans he.symm)

/-- No batch has an epoch that is yet to come. -/
lemma epoch?_ne (h : p.Sound) {e : ℕ} (he : p.session.epoch < e) (k : String) :
    p.epoch? k ≠ some e := fun hk => by
  obtain ⟨b, hb, rfl⟩ := waits_of_epoch? hk
  exact absurd (h.begun k b hb) he.not_ge

end Sound

/-! ### The mark -/

/-- The session is running if a batch is being paced through it, or else `a` holds. -/
structure Tracked (p : Pacer) (a : Prop) : Prop where
  running : p.session.active ≠ none ↔ p.Pacing ∨ a
  apart : p.Pacing → ¬ a

namespace Tracked

lemma new : Tracked {} False := by
  constructor <;> simp [Pacing, Paces, epoch?, paced?]

lemma keep (h : p.Tracked a) (ha : q.session.active = p.session.active)
    (hq : ∀ k, q.Paces k ↔ p.Paces k) (haa : a' ↔ a) : q.Tracked a' := by
  have hpacing : q.Pacing ↔ p.Pacing := exists_congr hq
  constructor
  · rw [ha, hpacing, haa]
    exact h.running
  · rw [hpacing, haa]
    exact h.apart

lemma clear (ha : q.session.active = none) (hq : ∀ k, ¬ q.Paces k) (haa : ¬ a') :
    q.Tracked a' := by
  have hpacing : ¬ q.Pacing := fun ⟨k, hk⟩ => hq k hk
  exact ⟨by simp [ha, hpacing, haa], fun hk => absurd hk hpacing⟩

lemma start (name : String) (ha : q.session.active ≠ none) (hq : q.Paces name) (haa : ¬ a') :
    q.Tracked a' :=
  ⟨by simp [ha, show q.Pacing from ⟨name, hq⟩], fun _ => haa⟩

/-- A batch is put away. -/
lemma discard (hp : p.Sound) (h : p.Tracked a) (name : String)
    (ha : q.session.active = p.session.active) (hq : ∀ k, q.Paces k ↔ k ≠ name ∧ p.Paces k)
    (haa : a' ↔ p.Paces name ∨ a) : q.Tracked a' := by
  by_cases hname : p.Paces name
  · have hpacing : ¬ q.Pacing := by
      rintro ⟨k, hk⟩
      obtain ⟨hne, hk⟩ := (hq k).mp hk
      exact hne (hp.paces_unique hname hk)
    have hactive : p.session.active ≠ none := h.running.mpr (Or.inl ⟨name, hname⟩)
    constructor
    · rw [ha, haa]
      simp [hactive, hname]
    · exact fun hk => absurd hk hpacing
  · refine h.keep ha (fun k => ?_) (by rw [haa, or_iff_right hname])
    rw [hq, and_iff_right_of_imp]
    rintro hk rfl
    exact hname hk

/-- A poll of a batch. -/
lemma poll (hp : p.Sound) (h : p.Tracked a) (name : String)
    (haa : a' ↔ a ∧ p.startsOver (.poll name) = false) :
    (p.perform (.poll name)).2.Tracked a' := by
  have hcreated {lines : List String} (hb : p.paced? name = some (.created lines)) : ¬ a' := by
    rw [haa, startsOver, hb]
    simp
  have hwaits {b : Batch} (hb : p.Waits name b) : a' ↔ a := by
    rw [haa, startsOver, show p.paced? name = some (.waiting b) from hb]
    simp
  -- no batch; one that begins and ends; one that begins; one left behind; a last line; a next one
  rcases perform_poll_cases hp name with ⟨hb, hpoll⟩ | ⟨lines, hb, -, hpoll⟩ |
    ⟨lines, l, ls, hb, -, hpoll⟩ | ⟨b, hb, he, hpoll⟩ | ⟨b, l, hb, he, -, hpoll⟩ |
    ⟨b, l, m, ls, hb, he, -, hpoll⟩ <;> rw [hpoll]
  · exact h.keep rfl (fun _ => Iff.rfl) (by simp [haa, startsOver, hb])
  · refine clear rfl (fun k hk => ?_) (hcreated hb)
    exact hp.epoch?_ne (Nat.lt_succ_self _) k (paces_others.mp hk).2
  · refine start name (by simp) ?_ (hcreated hb)
    rw [paces_put, if_pos rfl]
    rfl
  · refine h.keep rfl (fun k => ?_) (hwaits hb)
    rw [paces_others, Paces, and_iff_right_of_imp]
    rintro hk rfl
    exact he (Option.some.inj (hb.epoch?.symm.trans hk))
  · have hpaces : p.Paces name := by rw [Paces, hb.epoch?, he]
    refine clear rfl (fun k hk => ?_) ?_
    · obtain ⟨hne, hk⟩ := paces_others.mp hk
      exact hne (hp.paces_unique hpaces hk)
    · rw [hwaits hb]
      exact h.apart ⟨name, hpaces⟩
  · refine h.keep rfl (fun k => ?_) (hwaits hb)
    rw [paces_put, Paces]
    split
    · rename_i hk
      rw [hk, hb.epoch?]
      rfl
    · rfl

/-- **Every task keeps track.** -/
lemma perform (hp : p.Sound) (h : p.Tracked a) (t : PaceTask) :
    (p.perform t).2.Tracked (p.abandons t ∨ (a ∧ p.startsOver t = false)) := by
  cases t with
  | start name ls =>
    refine h.discard hp name rfl (fun k => ?_) (by simp [abandons, startsOver])
    rw [Pacer.perform, paces_put, Paces]
    split <;> simp_all [Paced.epoch?]
  | drop name =>
    exact h.discard hp name rfl (fun _ => paces_others) (by simp [abandons, startsOver])
  | line raw =>
    refine h.keep (p.session.enter_active raw) (fun k => ?_) (by simp [abandons, startsOver])
    change p.epoch? k = some (p.session.enter raw).2.epoch ↔ _
    rw [Session.enter_epoch, Paces]
  | reset =>
    refine clear rfl (fun k hk => ?_) (by simp [abandons, startsOver])
    exact hp.epoch?_ne (Nat.lt_succ_self _) k hk
  | poll name => exact h.poll hp name (by simp [abandons])

lemma run (ts : List PaceTask) : (Pacer.run {} ts).Tracked (Abandoned {} ts) := by
  induction ts using List.reverseRecOn with
  | nil => simpa [Abandoned, moments, not_since_nil] using new
  | append_singleton ts t ih =>
    have hsound : (Pacer.run {} ts).Sound := (Sound.new {}).run ts
    have hnext := ih.perform hsound t
    simpa only [run_append, run_cons, run_nil, Abandoned, moments_concat, since_concat] using hnext

end Tracked

/-- **What keeps a session running.** After every schedule, the session is running exactly if a
batch is being paced through it, or one was put away while it was being paced and there was no
fresh start since. So the flag means that a batch is being paced exactly as long as none was put
away like that. -/
theorem running_iff_paced_or_abandoned (ts : List PaceTask) :
    let p := Pacer.run {} ts
    (p.session.isRunning = true ↔ p.Pacing ∨ Abandoned {} ts) ∧
      ((p.session.isRunning = true ↔ p.Pacing) ↔ ¬ Abandoned {} ts) := by
  intro p
  obtain ⟨hrunning, hapart⟩ : p.Tracked (Abandoned {} ts) := Tracked.run ts
  have hflag : p.session.isRunning = true ↔ p.Pacing ∨ Abandoned {} ts := by
    rw [Session.isRunning, Option.isSome_iff_ne_none, hrunning]
  refine ⟨hflag, ?_⟩
  rw [hflag]
  constructor
  · exact fun h hgone => hapart (h.mp (Or.inr hgone)) hgone
  · exact or_iff_left

/-- A batch that is dropped after its first poll leaves the session running. -/
theorem dropped_batch_runs_on :
    let p := Pacer.run {} [.start "a" ["move"], .poll "a", .drop "a"]
    ¬ (p.session.isRunning = true ↔ p.Pacing) := by
  intro p h
  obtain ⟨name, hname⟩ := h.mp (by rfl)
  cases hname

end Pacer

end TabletopRobot

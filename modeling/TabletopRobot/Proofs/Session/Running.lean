import TabletopRobot.Proofs.Session.Interleaving
import TabletopRobot.Snapshot

/-!
What it means that a session is running, in terms of the calls on it and their replies.

The mark of the active batch, if there is one, is the epoch of the session, and only the newest
batch has that epoch. So no call about an older batch sets or clears the mark.
-/

namespace TabletopRobot

/-- The name of the batch that a task ends, going by the reply: a step found no line left, or
the batch was closed. -/
def ended? : Task → Reply → Option String
  | .step name, .stepped .finished _ => some name
  | .finish name, .summary _ => some name
  | _, _ => none

/-- The last fresh start is that of the batch of the given name, and the batch has not ended
since. -/
def OpenAfter (name : String) (calls : List (Task × Reply)) : Prop :=
  Since (fun c => ∃ ls, c.1 = .begin name ls)
    (fun c => c.1.startsOver = false ∧ ended? c.1 c.2 ≠ some name) calls

namespace Desk

variable {d q : Desk} {o o' : String → Prop}

/-- The tasks of a run, each with its reply. -/
def calls (d : Desk) : List Task → List (Task × Reply)
  | [] => []
  | t :: ts => (t, (d.perform t).1) :: (d.perform t).2.calls ts

lemma calls_concat (d : Desk) (ts : List Task) (t : Task) :
    d.calls (ts ++ [t]) = d.calls ts ++ [(t, ((d.run ts).perform t).1)] := by
  induction ts generalizing d with
  | nil => rfl
  | cons u ts ih => rw [List.cons_append, calls, ih]; rfl

/-! ### Epochs by name -/

def epoch? (d : Desk) (name : String) : Option ℕ := (d.batch? name).map Batch.epoch

lemma epoch?_of_batch? {name : String} {b : Batch} (h : d.batch? name = some b) :
    d.epoch? name = some b.epoch := by
  rw [epoch?, h, Option.map_some]

@[simp] lemma epoch?_others (d : Desk) (s : Session) (name k : String) :
    epoch? ⟨s, d.others name⟩ k = if k = name then none else d.epoch? k := by
  have hlookup := lookup_filter_ne d.batches name k
  rw [epoch?, batch?, others, hlookup]
  split <;> rfl

@[simp] lemma epoch?_put (d : Desk) (s : Session) (name k : String) (b : Batch) :
    epoch? ⟨s, (name, b) :: d.others name⟩ k = if k = name then some b.epoch else d.epoch? k := by
  have hlookup := lookup_put d.batches name k b
  rw [epoch?, batch?, others, hlookup]
  split <;> rfl

/-- A batch that takes its own place again leaves the epochs as they are. -/
lemma epoch?_put_back {name : String} {b : Batch} (hb : d.epoch? name = some b.epoch) (s : Session)
    (k : String) : epoch? ⟨s, (name, b) :: d.others name⟩ k = d.epoch? k := by
  rw [epoch?_put]
  split
  · rename_i hk
    rw [hk, hb]
  · rfl

/-! ### The mark -/

/-- What holds between a desk and the names of the batches that are open: there is at most one,
it alone has the epoch of the session, and its epoch is the mark. -/
structure Marked (d : Desk) (o : String → Prop) : Prop where
  begun : ∀ k e, d.epoch? k = some e → e ≤ d.session.epoch
  held : ∀ name, o name → d.session.active = some d.session.epoch ∧
    ∀ k, d.epoch? k = some d.session.epoch ↔ k = name
  idle : d.session.active ≠ none → ∃ name, o name

namespace Marked

lemma new : Marked {} fun _ => False := by
  constructor <;> simp [epoch?, batch?]

lemma running_iff (h : d.Marked o) : d.session.isRunning = true ↔ ∃ name, o name := by
  rw [Session.isRunning, Option.isSome_iff_ne_none]
  refine ⟨h.idle, fun ⟨name, hname⟩ => ?_⟩
  rw [(h.held name hname).1]
  simp

/-- The mark is never that of an older batch. -/
lemma active_eq (h : d.Marked o) {e : ℕ} (ha : d.session.active = some e) :
    e = d.session.epoch := by
  obtain ⟨name, hname⟩ := h.idle (by rw [ha]; simp)
  exact Option.some.inj (ha.symm.trans (h.held name hname).1)

/-- The open batch is the one that has the epoch of the session. -/
lemma eq_of_epoch? (h : d.Marked o) {name k : String} (hname : o name)
    (hk : d.epoch? k = some d.session.epoch) : k = name :=
  ((h.held name hname).2 k).mp hk

lemma keep (h : d.Marked o) (he : q.session.epoch = d.session.epoch)
    (ha : q.session.active = d.session.active) (hq : ∀ k, q.epoch? k = d.epoch? k)
    (ho : ∀ name, o' name ↔ o name) : q.Marked o' := by
  constructor
  case begun => intro k e; rw [hq, he]; exact h.begun k e
  case held =>
    intro name hname
    rw [he, ha]
    simpa only [hq] using h.held name ((ho name).mp hname)
  case idle =>
    intro hactive
    rw [ha] at hactive
    obtain ⟨name, hname⟩ := h.idle hactive
    exact ⟨name, (ho name).mpr hname⟩

lemma clear (ha : q.session.active = none) (hq : ∀ k e, q.epoch? k = some e → e ≤ q.session.epoch)
    (ho : ∀ name, ¬ o' name) : q.Marked o' where
  begun := hq
  held name hname := absurd hname (ho name)
  idle hactive := absurd ha hactive

/-- The open batch ends. -/
lemma stop (h : d.Marked o) {name : String} (hname : d.epoch? name = some d.session.epoch)
    (ha : q.session.active = none) (hq : ∀ k e, q.epoch? k = some e → e ≤ q.session.epoch)
    (ho : ∀ k, o' k → o k ∧ k ≠ name) : q.Marked o' :=
  clear ha hq fun k hk => by
    obtain ⟨hopen, hne⟩ := ho k hk
    exact hne (h.eq_of_epoch? hopen hname).symm

lemma begun_others (h : d.Marked o) (s : Session) {name k : String} {e : ℕ}
    (hk : epoch? ⟨s, d.others name⟩ k = some e) : e ≤ d.session.epoch := by
  rw [epoch?_others] at hk
  split at hk
  · cases hk
  · exact h.begun k e hk

/-- A batch that is not the open one is put away. -/
lemma putAway (h : d.Marked o) {name : String} (hname : ¬ o name) (ho : ∀ k, o' k ↔ o k) :
    Marked ⟨d.session, d.others name⟩ o' where
  begun _ _ hk := h.begun_others _ hk
  held k hk := by
    have hopen := (ho k).mp hk
    obtain ⟨hmark, hsole⟩ := h.held k hopen
    refine ⟨hmark, fun k' => ?_⟩
    rw [epoch?_others]
    split
    · rename_i hk'
      simpa [hk'] using fun he : name = k => hname (he ▸ hopen)
    · exact hsole k'
  idle hactive := by
    obtain ⟨k, hk⟩ := h.idle hactive
    exact ⟨k, (ho k).mpr hk⟩

/-- The new batch is marked, and has an epoch that no other has. -/
lemma start (h : d.Marked o) (name : String) (lines : List String)
    (ho : ∀ k, o' k ↔ k = name) : (d.perform (.begin name lines)).2.Marked o' := by
  have hepoch (k : String) : (d.perform (.begin name lines)).2.epoch? k =
      if k = name then some (d.session.epoch + 1) else d.epoch? k := epoch?_put ..
  have hnew (k : String) : d.epoch? k ≠ some (d.session.epoch + 1) := fun hk => by
    have := h.begun k _ hk
    omega
  constructor
  case begun =>
    intro k e hk
    change e ≤ d.session.epoch + 1
    rw [hepoch] at hk
    split at hk
    · exact (Option.some.inj hk).ge
    · exact (h.begun k e hk).trans (Nat.le_succ _)
  case held =>
    intro k hk
    obtain rfl := (ho k).mp hk
    refine ⟨rfl, fun k' => ?_⟩
    rw [hepoch]
    change (if k' = k then some (d.session.epoch + 1) else _) = some (d.session.epoch + 1) ↔ _
    split <;> simp_all
  case idle => exact fun _ => ⟨name, (ho name).mpr rfl⟩

/-- A step keeps the mark, unless it finds that the open batch has no line left. -/
lemma step (h : d.Marked o) (name : String)
    (ho : ∀ k, o' k ↔ o k ∧ ended? (.step name) (d.perform (.step name)).1 ≠ some k) :
    (d.perform (.step name)).2.Marked o' := by
  rw [perform] at ho ⊢
  cases hb : d.batch? name with
  | none =>
    simp only [hb] at ho ⊢
    exact h.keep rfl rfl (fun _ => rfl) (by simpa [ended?] using ho)
  | some b =>
    have hepoch := epoch?_of_batch? hb
    simp only [hb] at ho ⊢
    rcases d.session.step_cases b with ⟨-, hstep⟩ | ⟨he, -, hstep⟩ | ⟨l, ls, -, -, hstep⟩ <;>
      rw [hstep] at ho ⊢ <;> dsimp only at ho ⊢
    · exact h.keep rfl rfl (epoch?_put_back hepoch _) (by simpa [ended?] using ho)
    · refine h.stop (he ▸ hepoch) rfl (fun k e hk => ?_) fun k hk => ?_
      · rw [epoch?_put_back hepoch] at hk
        exact h.begun k e hk
      · simpa [ended?, eq_comm] using (ho k).mp hk
    · exact h.keep rfl rfl (epoch?_put_back (b := ⟨b.epoch, ls, b.applied + 1⟩) hepoch _)
        (by simpa [ended?] using ho)

/-- Closing a batch keeps the mark, unless it is the open one. -/
lemma finish (h : d.Marked o) (name : String)
    (ho : ∀ k, o' k ↔ o k ∧ ended? (.finish name) (d.perform (.finish name)).1 ≠ some k) :
    (d.perform (.finish name)).2.Marked o' := by
  rw [perform] at ho ⊢
  cases hb : d.batch? name with
  | none =>
    simp only [hb] at ho ⊢
    exact h.keep rfl rfl (fun _ => rfl) (by simpa [ended?] using ho)
  | some b =>
    have hepoch := epoch?_of_batch? hb
    simp only [hb, Session.finish] at ho ⊢
    by_cases ha : d.session.active = some b.epoch
    · rw [if_pos ha]
      refine h.stop (h.active_eq ha ▸ hepoch) rfl (fun _ _ hk => h.begun_others _ hk) fun k hk => ?_
      simpa [ended?, eq_comm] using (ho k).mp hk
    · rw [if_neg ha]
      have hother : ¬ o name := fun hopen => by
        obtain ⟨hmark, hsole⟩ := h.held name hopen
        rw [hmark, ← hepoch] at ha
        exact ha ((hsole name).mpr rfl).symm
      refine h.putAway hother fun k => (ho k).trans (and_iff_left_of_imp fun hopen he => ?_)
      rw [ended?, Option.some.injEq] at he
      exact hother (he ▸ hopen)

/-- **Every task keeps the mark true.** -/
lemma perform (h : d.Marked o) (t : Task) :
    (d.perform t).2.Marked fun name => (∃ ls, t = .begin name ls) ∨
      (o name ∧ t.startsOver = false ∧ ended? t (d.perform t).1 ≠ some name) := by
  cases t with
  | line raw =>
    exact h.keep (d.session.enter_epoch raw) (d.session.enter_active raw) (fun _ => rfl)
      fun name => by simp [Task.startsOver, ended?]
  | batch ls =>
    refine clear (d.session.runAll_active ls) (fun k e hk => ?_) fun name => by
      simp [Task.startsOver]
    exact (h.begun k e hk).trans ((Nat.le_succ _).trans (d.session.runAll_epoch ls).ge)
  | reset =>
    refine clear rfl (fun k e hk => ?_) fun name => by simp [Task.startsOver]
    exact (h.begun k e hk).trans (Nat.le_succ _)
  | begin name ls =>
    exact h.start name ls fun k => by simp [Task.startsOver, eq_comm]
  | step name => exact h.step name fun k => by simp [Task.startsOver]
  | finish name => exact h.finish name fun k => by simp [Task.startsOver]

lemma run (ts : List Task) : (Desk.run {} ts).Marked fun name => OpenAfter name (calls {} ts) := by
  induction ts using List.reverseRecOn with
  | nil => simpa [calls, OpenAfter, not_since_nil] using new
  | append_singleton ts t ih =>
    have hnext := ih.perform t
    simpa only [run_append, run_cons, run_nil, calls_concat, OpenAfter, since_concat] using hnext

end Marked

end Desk

/-- **The running flag means an open batch.** After every run of a desk, the session and its
snapshot are running exactly if the last fresh start was that of a batch, and since then no step
found that batch empty and nobody closed it. A line that is entered does not change the flag, and
a task about an older batch changes nothing in the session. -/
theorem running_iff_open (ts : List Task) :
    let d := Desk.run {} ts
    (d.session.isRunning = true ↔ ∃ name, OpenAfter name (Desk.calls {} ts)) ∧
      (∀ u t, (d.session.snapshot u t).running = d.session.isRunning) ∧
      (∀ raw, (d.perform (.line raw)).2.session.isRunning = d.session.isRunning) ∧
      ∀ name b, d.batch? name = some b → b.epoch < d.session.epoch →
        (d.perform (.step name)).2.session = d.session ∧
          (d.perform (.finish name)).2.session = d.session := by
  intro d
  have hd : d.Marked _ := Desk.Marked.run ts
  refine ⟨hd.running_iff, fun _ _ => rfl, fun raw => ?_, fun name b hb hlt => ⟨?_, ?_⟩⟩
  · exact congrArg Option.isSome (d.session.enter_active raw)
  · rw [Desk.perform, hb]
    dsimp only
    rw [Session.step_stale hlt.ne]
  · have ha : d.session.active ≠ some b.epoch := fun ha => hlt.ne (hd.active_eq ha)
    rw [Desk.perform, hb]
    dsimp only
    rw [Session.finish, if_neg ha]

end TabletopRobot

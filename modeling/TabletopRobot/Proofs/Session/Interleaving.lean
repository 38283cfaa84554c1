import TabletopRobot.Proofs.Session.Ledger

/-!
The ledger through every call on a session, and through every run of a desk.
-/

namespace TabletopRobot

open Event

/-! ### Events of a call -/

lemma collect_map_applied (a : Option Nat) (ls ms : List String) :
    (ms.map (applied a)).foldl collect ls = ls ++ ms := by
  induction ms generalizing ls with
  | nil => simp
  | cons m ms ih => rw [List.map_cons, List.foldl_cons, ih, collect, List.append_assoc]; rfl

namespace Session

variable {s : Session} {b : Batch}

lemma stepEvents_stale (h : b.epoch ≠ s.epoch) : s.stepEvents b = [cancelled b.epoch] := by
  rw [stepEvents, step_stale h]

lemma stepEvents_nil (h : b.epoch = s.epoch) (hb : b.pending = []) :
    s.stepEvents b = [finished b.epoch] := by
  rw [stepEvents, step_nil h hb]

lemma stepEvents_cons (h : b.epoch = s.epoch) {l : String} {ls : List String}
    (hb : b.pending = l :: ls) : s.stepEvents b = [applied (some b.epoch) l] := by
  rw [stepEvents, step_cons h hb, hb]
  rfl

lemma collect_stepEvents (s : Session) (b : Batch) (ls : List String) :
    (s.stepEvents b).foldl collect ls = ls ++ s.consumed b := by
  rcases step_cases s b with ⟨he, h⟩ | ⟨he, hb, h⟩ | ⟨l, ls, he, hb, h⟩
  · simp [stepEvents_stale he, consumed, h, Step.isApplied, collect]
  · simp [stepEvents_nil he hb, consumed, h, Step.isApplied, collect]
  · simp [stepEvents_cons he hb, consumed_cons he hb, collect]

/-- Stepping a current batch often enough shows all its lines and its end. -/
lemma stepAllEvents_current {n : Nat} (h : b.epoch = s.epoch) (hn : b.pending.length < n) :
    s.stepAllEvents n b = b.pending.map (applied (some b.epoch)) ++ [finished b.epoch] := by
  obtain ⟨e, ls, k⟩ := b
  dsimp only at h hn ⊢
  induction n generalizing s k ls with
  | zero => omega
  | succ n ih =>
    cases ls with
    | nil => rw [stepAllEvents, stepEvents_nil h rfl, step_nil h rfl]; rfl
    | cons l ls =>
      rw [List.length_cons] at hn
      have hrest := ih (s := s.execute l) ls (k + 1) h (by omega)
      rw [stepAllEvents, stepEvents_cons h rfl, step_cons h rfl]
      dsimp only
      rw [hrest]
      rfl

lemma runEvents_eq (s : Session) (lines : List String) :
    s.runEvents lines =
      began (s.epoch + 1) (queued lines) ::
        ((queued lines).map (applied (some (s.epoch + 1))) ++
          [finished (s.epoch + 1), closed ⟨s.epoch + 1, (queued lines).length, 0, false⟩]) := by
  have hevents := stepAllEvents_current (n := (queued lines).length + 1)
    (s := { s.reset with active := some (s.epoch + 1) })
    (b := ⟨s.epoch + 1, queued lines, 0⟩) rfl (by simp)
  rw [runEvents, begin_eq]
  dsimp only [Batch.remaining]
  rw [hevents, stepAll_begin]
  simp [Batch.summary, Batch.remaining, Batch.isDone]

lemma collect_runEvents (s : Session) (lines ls : List String) :
    (s.runEvents lines).foldl collect ls = queued lines := by
  rw [runEvents_eq, List.foldl_cons, List.foldl_append, collect, collect_map_applied]
  rfl

end Session

/-! ### The ledger through a call -/

namespace Ledger

open Session

variable {s : Session} {b : Batch} {bs : List Batch} {tr : List Event}

lemma step (h : Ledger s.epoch (b :: bs) tr) :
    Ledger (s.step b).2.2.epoch ((s.step b).2.1 :: bs) (tr ++ s.stepEvents b) := by
  rcases step_cases s b with ⟨he, hstep⟩ | ⟨he, hb, hstep⟩ | ⟨l, ls, he, hb, hstep⟩
  · rw [stepEvents_stale he, hstep]
    exact h.aside _ rfl rfl
  · rw [stepEvents_nil he hb, hstep]
    exact h.aside _ rfl rfl
  · rw [stepEvents_cons he hb, hstep]
    obtain ⟨e, pending, k⟩ := b
    dsimp only at he hb ⊢
    subst he hb
    exact h.apply

/-- All that the current batch holds is applied. -/
lemma applyAll {e k : Nat} {ls : List String} (h : Ledger e (⟨e, ls, k⟩ :: bs) tr) :
    Ledger e (⟨e, [], k + ls.length⟩ :: bs) (tr ++ ls.map (applied (some e))) := by
  induction ls generalizing k tr with
  | nil => simpa using h
  | cons l ls ih =>
    have hrest := ih h.apply
    rw [List.append_assoc] at hrest
    rw [List.length_cons, Nat.add_comm ls.length, ← Nat.add_assoc]
    exact hrest

lemma runAll (h : Ledger s.epoch bs tr) (lines : List String) :
    Ledger (s.epoch + 1) bs (tr ++ s.runEvents lines) := by
  have hall := ((h.start (queued lines)).applyAll.aside (finished (s.epoch + 1)) rfl rfl).aside
    (closed ⟨s.epoch + 1, (queued lines).length, 0, false⟩) rfl rfl
  rw [runEvents_eq]
  simpa using hall.subperm (List.sublist_cons_self _ bs).subperm

end Ledger

/-! ### A desk -/

/-- Whether a task is a fresh start. -/
def Task.startsOver : Task → Bool
  | batch .. | reset | begin .. => true
  | _ => false

namespace Desk

variable {d : Desk} {tr : List Event}

lemma others_sublist (d : Desk) (name : String) :
    ((d.others name).map Prod.snd).Sublist (d.batches.map Prod.snd) :=
  List.filter_sublist.map Prod.snd

/-- **Every task keeps the ledger.** -/
lemma ledger_perform (h : Ledger d.session.epoch (d.batches.map Prod.snd) tr) (t : Task) :
    Ledger (d.perform t).2.session.epoch ((d.perform t).2.batches.map Prod.snd)
      (tr ++ d.events t) := by
  cases t with
  | line raw =>
    rw [perform, events]
    cases hblank : isBlankLine raw with
    | true => simpa [Session.enter_of_blank _ hblank, queued, hblank] using h
    | false =>
      have hnext := h.aside (applied none raw) rfl rfl
      simpa [Session.enter_of_not_blank _ hblank, queued, hblank] using hnext
  | batch ls =>
    have hnext := h.runAll ls
    rw [perform, events]
    dsimp only
    rw [Session.runAll_epoch]
    exact hnext
  | reset => exact h.restart
  | begin name ls =>
    exact (h.subperm (d.others_sublist name).subperm).start (queued ls)
  | step name =>
    rw [perform, events]
    cases hb : d.batch? name with
    | none => simpa using h
    | some b => exact (h.subperm (lookup_cons_filter_subperm hb)).step
  | finish name =>
    rw [perform, events]
    cases hb : d.batch? name with
    | none => simpa using h
    | some b =>
      obtain ⟨a, ha⟩ := Session.finish_session d.session b
      have hrest := (h.subperm (d.others_sublist name).subperm).aside (closed b.summary)
        rfl rfl
      simpa [ha] using hrest

lemma ledger_run (h : Ledger d.session.epoch (d.batches.map Prod.snd) tr) (ts : List Task) :
    Ledger (d.run ts).session.epoch ((d.run ts).batches.map Prod.snd) (tr ++ d.trace ts) := by
  induction ts generalizing d tr with
  | nil => simpa [trace] using h
  | cons t ts ih =>
    rw [run_cons, trace, ← List.append_assoc]
    exact ih (ledger_perform h t)

/-- A desk does nothing to its session but call it. -/
lemma reachable_perform {ls : List String} {bs : List Batch} (h : Reachable d.session ls bs)
    (hbs : ∀ p ∈ d.batches, p.2 ∈ bs) (t : Task) :
    ∃ bs', Reachable (d.perform t).2.session ((d.events t).foldl collect ls) bs' ∧
      ∀ p ∈ (d.perform t).2.batches, p.2 ∈ bs' := by
  have hothers (name : String) : ∀ p ∈ d.others name, p.2 ∈ bs := fun p hp =>
    hbs p (List.mem_filter.mp hp).1
  cases t with
  | line raw =>
    refine ⟨bs, ?_, hbs⟩
    rw [events, collect_map_applied]
    exact h.enter raw
  | batch lines =>
    refine ⟨bs, ?_, hbs⟩
    rw [events, Session.collect_runEvents]
    exact h.runAll lines
  | reset => exact ⟨bs, h.reset, hbs⟩
  | begin name lines =>
    refine ⟨_, h.begin lines, List.forall_mem_cons.mpr ⟨List.mem_cons_self, fun p hp => ?_⟩⟩
    exact List.mem_cons_of_mem _ (hothers name p hp)
  | step name =>
    rw [perform, events]
    cases hb : d.batch? name with
    | none => exact ⟨bs, h, hbs⟩
    | some b =>
      have hmem : b ∈ bs := hbs _ (mem_of_lookup hb)
      refine ⟨(d.session.step b).2.1 :: bs, ?_,
        List.forall_mem_cons.mpr ⟨List.mem_cons_self, fun p hp => ?_⟩⟩
      · rw [Option.elim_some, Session.collect_stepEvents]
        exact h.step hmem
      · exact List.mem_cons_of_mem _ (hothers name p hp)
  | finish name =>
    rw [perform, events]
    cases hb : d.batch? name with
    | none => exact ⟨bs, h, hbs⟩
    | some b => exact ⟨bs, h.finish (hbs _ (mem_of_lookup hb)), hothers name⟩

lemma reachable_run {ls : List String} {bs : List Batch} (h : Reachable d.session ls bs)
    (hbs : ∀ p ∈ d.batches, p.2 ∈ bs) (ts : List Task) :
    ∃ bs', Reachable (d.run ts).session ((d.trace ts).foldl collect ls) bs' ∧
      ∀ p ∈ (d.run ts).batches, p.2 ∈ bs' := by
  induction ts generalizing d ls bs with
  | nil => exact ⟨bs, h, hbs⟩
  | cons t ts ih =>
    obtain ⟨bs', h', hbs'⟩ := reachable_perform h hbs t
    rw [run_cons, trace, List.foldl_append]
    exact ih h' hbs'

/-- Short of a fresh start, a task executes lines and at most clears the mark of the active
batch. -/
lemma perform_session (d : Desk) {t : Task} (ht : t.startsOver = false) :
    ∃ ls a, (d.perform t).2.session = { d.session.executeAll ls with active := a } := by
  cases t with
  | line raw => exact ⟨queued [raw], _, d.session.enter_session raw⟩
  | step name =>
    rw [perform]
    cases d.batch? name with
    | none => exact ⟨[], d.session.active, rfl⟩
    | some b =>
      obtain ⟨a, ha⟩ := d.session.step_session b
      exact ⟨_, a, ha⟩
  | finish name =>
    rw [perform]
    cases d.batch? name with
    | none => exact ⟨[], d.session.active, rfl⟩
    | some b =>
      obtain ⟨a, ha⟩ := d.session.finish_session b
      exact ⟨[], a, ha⟩
  | _ => simp [Task.startsOver] at ht

end Desk

/-- **No line is lost, doubled, reordered or late.** In every run of a desk:

* the journal holds the lines executed since the last fresh start, in order and normalized;
* what was applied of a batch is a beginning of the lines it was given, and a batch that is
  still open holds the rest, of which a step applies the next one unless another epoch is
  current;
* no two batches share an epoch, and a line is applied for a batch only while no other epoch
  has begun;
* a task that is no fresh start keeps the journal and the output as they are and adds to them. -/
theorem no_line_astray (ts : List Task) :
    let d := Desk.run {} ts
    let tr := Desk.trace {} ts
    (d.session.journal.map Entry.command = (linesSince tr).map normalize) ∧
      (∀ e ls, began e ls ∈ tr → appliedBy e tr <+: ls) ∧
      (∀ name b, d.batch? name = some b →
        (∃ ls, began b.epoch ls ∈ tr ∧ ls = appliedBy b.epoch tr ++ b.pending ∧
          b.applied = (appliedBy b.epoch tr).length) ∧
        ∀ l ls, b.pending = l :: ls →
          d.events (.step name) =
            if b.epoch = d.session.epoch then [applied (some b.epoch) l]
            else [cancelled b.epoch]) ∧
      (begun tr).Nodup ∧
      (∀ name name' b b', d.batch? name = some b → d.batch? name' = some b' → name ≠ name' →
        b.epoch ≠ b'.epoch) ∧
      (∀ pre e l post, tr = pre ++ applied (some e) l :: post → CurrentIn e pre) ∧
      ∀ t : Task, t.startsOver = false →
        d.session.journal <+: (d.perform t).2.session.journal ∧
          d.session.output <+: (d.perform t).2.session.output := by
  intro d tr
  have hledger : Ledger d.session.epoch (d.batches.map Prod.snd) tr :=
    Desk.ledger_run (d := {}) .empty ts
  obtain ⟨bs, hreach, -⟩ := Desk.reachable_run (d := {}) .new (by simp) ts
  have hmem {name : String} {b : Batch} (hb : d.batch? name = some b) :
      b ∈ d.batches.map Prod.snd := List.mem_map.mpr ⟨_, mem_of_lookup hb, rfl⟩
  refine ⟨hreach.holds.1.commands, hledger.taken, fun name b hb => ⟨?_, fun l ls hl => ?_⟩,
    hledger.begun_nodup, fun name name' b b' hb hb' hne he => ?_, hledger.inTime,
    fun t ht => ?_⟩
  · obtain ⟨ls, hls⟩ := mem_begun.mp (hledger.own b (hmem hb))
    exact ⟨ls, hls, hledger.rest b (hmem hb) ls hls, hledger.count b (hmem hb)⟩
  · rw [Desk.events, hb, Option.elim_some]
    split
    · rename_i he
      exact Session.stepEvents_cons he hl
    · rename_i he
      exact Session.stepEvents_stale he
  · have hapart := hledger.apart
    rw [List.map_map] at hapart
    have hsame := List.inj_on_of_nodup_map hapart (mem_of_lookup hb) (mem_of_lookup hb') he
    exact hne (Prod.mk.inj hsame).1
  · obtain ⟨ls, a, h⟩ := d.perform_session ht
    rw [h]
    exact ⟨d.session.journal_prefix_executeAll ls, d.session.output_prefix_executeAll ls⟩

example : Desk.trace {} [.begin "a" ["left", " ", "right"], .step "a", .begin "b" ["move"],
    .step "a", .step "b"] =
      [began 1 ["left", "right"], applied (some 1) "left", began 2 ["move"], cancelled 1,
        applied (some 2) "move"] := by
  decide +kernel

end TabletopRobot

import Mathlib
import TabletopRobot.Session

/-!
What each call does to a session, and the lines that are executed one after another.

Executing lines reads and writes the robot, the journal and the output only; the epoch and the
mark of the active batch are carried along. A whole batch is therefore a fresh start and the
execution of its lines.
-/

namespace TabletopRobot

/-- The lines that a batch queues. -/
def queued (lines : List String) : List String := lines.filter (!isBlankLine ·)

lemma mem_queued {lines : List String} {l : String} :
    l ∈ queued lines ↔ l ∈ lines ∧ isBlankLine l = false := by
  simp [queued]

lemma queued_of_forall {lines : List String} (h : ∀ l ∈ lines, isBlankLine l = false) :
    queued lines = lines :=
  List.filter_eq_self.mpr fun l hl => by simp [h l hl]

lemma queued_append (ls ms : List String) : queued (ls ++ ms) = queued ls ++ queued ms :=
  List.filter_append ls ms

lemma queued_queued (lines : List String) : queued (queued lines) = queued lines :=
  queued_of_forall fun _ hl => (mem_queued.mp hl).2

namespace Session

variable (s : Session)

/-! ### Lines -/

@[simp] lemma execute_epoch (raw : String) : (s.execute raw).epoch = s.epoch := rfl
@[simp] lemma execute_active (raw : String) : (s.execute raw).active = s.active := rfl
lemma execute_robot (raw : String) : (s.execute raw).robot = (s.robot.applyLine raw).1 := rfl
@[simp] lemma execute_journal (raw : String) :
    (s.execute raw).journal = s.journal ++ [s.entryOf raw] := rfl
lemma execute_output (raw : String) :
    (s.execute raw).output = s.output ++ (s.robot.applyLine raw).2.report?.toList := rfl
@[simp] lemma entryOf_command (raw : String) : (s.entryOf raw).command = normalize raw := rfl
lemma entryOf_severity (raw : String) :
    (s.entryOf raw).severity = (s.robot.applyLine raw).2.severity := rfl

/-- Lines executed one after another. -/
def executeAll (ls : List String) : Session := ls.foldl execute s

@[simp] lemma executeAll_nil : s.executeAll [] = s := rfl
@[simp] lemma executeAll_cons (l : String) (ls : List String) :
    s.executeAll (l :: ls) = (s.execute l).executeAll ls := rfl
lemma executeAll_append (ls ms : List String) :
    s.executeAll (ls ++ ms) = (s.executeAll ls).executeAll ms := by
  simp [executeAll, List.foldl_append]

/-- What the execution of a line keeps, the execution of lines keeps. -/
lemma executeAll_induction {P : Session → Prop} (hs : P s)
    (hexecute : ∀ t raw, P t → P (t.execute raw)) (ls : List String) : P (s.executeAll ls) :=
  List.foldlRecOn ls execute hs fun t ht raw _ => hexecute t raw ht

/-- Execution carries the epoch and the active batch along. -/
lemma executeAll_frame (e : Nat) (a : Option Nat) (ls : List String) :
    ({ s with epoch := e, active := a } : Session).executeAll ls =
      { s.executeAll ls with epoch := e, active := a } := by
  induction ls generalizing s with
  | nil => rfl
  | cons l ls ih => exact ih (s.execute l)

@[simp] lemma executeAll_epoch (ls : List String) : (s.executeAll ls).epoch = s.epoch :=
  s.executeAll_induction (P := fun t => t.epoch = s.epoch) rfl (fun _ _ h => h) ls
@[simp] lemma executeAll_active (ls : List String) : (s.executeAll ls).active = s.active :=
  s.executeAll_induction (P := fun t => t.active = s.active) rfl (fun _ _ h => h) ls

lemma executeAll_commands (ls : List String) :
    (s.executeAll ls).journal.map Entry.command =
      s.journal.map Entry.command ++ ls.map normalize := by
  induction ls generalizing s with
  | nil => simp
  | cons l ls ih => rw [executeAll_cons, ih]; simp

lemma journal_prefix_executeAll (ls : List String) : s.journal <+: (s.executeAll ls).journal :=
  s.executeAll_induction (P := fun t => s.journal <+: t.journal) List.prefix_rfl
    (fun _ _ h => h.trans (List.prefix_append _ _)) ls

lemma output_prefix_executeAll (ls : List String) : s.output <+: (s.executeAll ls).output :=
  s.executeAll_induction (P := fun t => s.output <+: t.output) List.prefix_rfl
    (fun _ _ h => h.trans (List.prefix_append _ _)) ls

lemma enter_of_blank {raw : String} (h : isBlankLine raw = true) : s.enter raw = (none, s) :=
  if_pos h

lemma enter_of_not_blank {raw : String} (h : isBlankLine raw = false) :
    s.enter raw = (some (s.entryOf raw), s.execute raw) :=
  if_neg (by simp [h])

/-- A line entered is the execution of what a batch would queue of it. -/
lemma enter_session (raw : String) : (s.enter raw).2 = s.executeAll (queued [raw]) := by
  rcases h : isBlankLine raw with _ | _
  · simp [enter_of_not_blank s h, queued, h]
  · simp [enter_of_blank s h, queued, h]

@[simp] lemma enter_epoch (raw : String) : (s.enter raw).2.epoch = s.epoch := by
  rw [enter_session, executeAll_epoch]
@[simp] lemma enter_active (raw : String) : (s.enter raw).2.active = s.active := by
  rw [enter_session, executeAll_active]

/-! ### Batches -/

variable {s} {b : Batch}

lemma step_stale (h : b.epoch ≠ s.epoch) : s.step b = (.cancelled, b, s) := by
  rw [step, isCurrent, if_neg (by simpa using h)]

lemma step_nil (h : b.epoch = s.epoch) (hb : b.pending = []) :
    s.step b = (.finished, b, { s with active := none }) := by
  rw [step, isCurrent, if_pos (by simpa using h), hb]

lemma step_cons (h : b.epoch = s.epoch) {l : String} {ls : List String} (hb : b.pending = l :: ls) :
    s.step b = (.applied (s.entryOf l), ⟨b.epoch, ls, b.applied + 1⟩, s.execute l) := by
  rw [step, isCurrent, if_pos (by simpa using h), hb]

/-- **What a step can do.** -/
lemma step_cases (s : Session) (b : Batch) :
    (b.epoch ≠ s.epoch ∧ s.step b = (.cancelled, b, s)) ∨
    (b.epoch = s.epoch ∧ b.pending = [] ∧ s.step b = (.finished, b, { s with active := none })) ∨
    ∃ l ls, b.epoch = s.epoch ∧ b.pending = l :: ls ∧
      s.step b = (.applied (s.entryOf l), ⟨b.epoch, ls, b.applied + 1⟩, s.execute l) := by
  by_cases h : b.epoch = s.epoch
  · rcases hb : b.pending with _ | ⟨l, ls⟩
    · exact Or.inr (Or.inl ⟨h, rfl, step_nil h hb⟩)
    · exact Or.inr (Or.inr ⟨l, ls, h, rfl, step_cons h hb⟩)
  · exact Or.inl ⟨h, step_stale h⟩

/-- Stepping a current batch often enough applies all its lines and then finishes it. -/
lemma stepAll_current {n : Nat} (h : b.epoch = s.epoch) (hn : b.pending.length < n) :
    s.stepAll n b = (⟨b.epoch, [], b.applied + b.pending.length⟩,
      { s.executeAll b.pending with active := none }) := by
  obtain ⟨e, ls, k⟩ := b
  dsimp only at h hn ⊢
  induction n generalizing s k ls with
  | zero => omega
  | succ n ih =>
    cases ls with
    | nil => rw [stepAll, step_nil h rfl]; rfl
    | cons l ls =>
      rw [List.length_cons] at hn
      rw [stepAll, step_cons h rfl]
      dsimp only
      rw [ih (s := s.execute l) ls (k + 1) h (by omega), List.length_cons, executeAll_cons,
        Nat.add_assoc, Nat.add_comm 1]

lemma begin_eq (s : Session) (lines : List String) :
    s.begin lines =
      (⟨s.epoch + 1, queued lines, 0⟩, { s.reset with active := some (s.epoch + 1) }) := rfl

/-- But for the mark, the lines of a batch that just began are executed after a fresh start. -/
lemma executeAll_begin (s : Session) (lines ls : List String) :
    { (s.begin lines).2.executeAll ls with active := none } = s.reset.executeAll ls := by
  have hmarked := s.reset.executeAll_frame (s.epoch + 1) (some (s.epoch + 1)) ls
  have hclear := s.reset.executeAll_frame (s.epoch + 1) none ls
  have hbegin : (s.begin lines).2 =
      { s.reset with epoch := s.epoch + 1, active := some (s.epoch + 1) } := rfl
  rw [hbegin, hmarked]
  exact hclear.symm

/-- A batch that just began, stepped to its end. -/
lemma stepAll_begin (s : Session) (lines : List String) :
    stepAll { s.reset with active := some (s.epoch + 1) } ((queued lines).length + 1)
        ⟨s.epoch + 1, queued lines, 0⟩ =
      (⟨s.epoch + 1, [], (queued lines).length⟩, s.reset.executeAll (queued lines)) := by
  have hrun := stepAll_current (n := (queued lines).length + 1)
    (s := (s.begin lines).2) (b := (s.begin lines).1) rfl (Nat.lt_succ_self _)
  rw [executeAll_begin, begin_eq, Nat.zero_add] at hrun
  exact hrun

/-- A whole batch is a fresh start and the execution of its lines. -/
lemma runAll_eq (s : Session) (lines : List String) :
    s.runAll lines =
      (⟨s.epoch + 1, (queued lines).length, 0, false⟩, s.reset.executeAll (queued lines)) := by
  rw [runAll, begin_eq]
  dsimp only [Batch.remaining]
  rw [stepAll_begin]
  simp [finish, Batch.summary, Batch.remaining, Batch.isDone, reset]

@[simp] lemma runAll_epoch (s : Session) (lines : List String) :
    (s.runAll lines).2.epoch = s.epoch + 1 := by
  rw [runAll_eq, executeAll_epoch]
  rfl

@[simp] lemma runAll_active (s : Session) (lines : List String) :
    (s.runAll lines).2.active = none := by
  rw [runAll_eq, executeAll_active]
  rfl

end Session

end TabletopRobot

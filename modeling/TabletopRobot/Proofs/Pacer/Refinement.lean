import TabletopRobot.Proofs.Pacer.Sound
import TabletopRobot.Proofs.Session.Paths

/-!
A batch that is polled until it ends does what running its lines at once does. Lines that are
entered between two polls count as lines of the batch, at the place where they came.
-/

namespace TabletopRobot

/-- The given lines, the one at place `j` after the lines `quick j`. -/
def mergeLines (quick : ℕ → List String) (given : List String) : List String :=
  (given.mapIdx fun j l => quick j ++ [l]).flatten

lemma mergeLines_nil (quick : ℕ → List String) : mergeLines quick [] = [] := rfl

lemma mergeLines_cons (quick : ℕ → List String) (l : String) (ls : List String) :
    mergeLines quick (l :: ls) = quick 0 ++ l :: mergeLines (fun j => quick (j + 1)) ls := by
  rw [mergeLines, List.mapIdx_cons, List.flatten_cons, List.append_assoc]
  rfl

lemma mergeLines_none (given : List String) : mergeLines (fun _ => []) given = given := by
  induction given with
  | nil => rfl
  | cons l ls ih => rw [mergeLines_cons, ih, List.nil_append]

namespace Pacer

/-- `n` polls of the batch of the given name, the one at place `j` after the lines `quick j`. -/
def turns (name : String) (quick : ℕ → List String) (n : ℕ) : List PaceTask :=
  (List.range n).flatMap fun j => (quick j).map .line ++ [.poll name]

lemma turns_zero (name : String) (quick : ℕ → List String) : turns name quick 0 = [] := rfl

lemma turns_succ (name : String) (quick : ℕ → List String) (n : ℕ) :
    turns name quick (n + 1) =
      (quick 0).map .line ++ .poll name :: turns name (fun j => quick (j + 1)) n := by
  rw [turns, List.range_succ_eq_map, List.flatMap_cons, List.flatMap_map, List.append_assoc]
  rfl

lemma turns_none (name : String) (n : ℕ) :
    turns name (fun _ => []) n = List.replicate n (.poll name) := by
  induction n with
  | zero => rfl
  | succ n ih => rw [turns_succ, ih]; rfl

/-- The replies to the polls of the batch of the given name. -/
def answers (name : String) (p : Pacer) : List PaceTask → List PaceReply
  | [] => []
  | t :: ts => if t.polls name then (p.perform t).1 :: (p.perform t).2.answers name ts
    else (p.perform t).2.answers name ts

lemma answers_poll (name : String) (p : Pacer) (ts : List PaceTask) :
    p.answers name (.poll name :: ts) =
      (p.perform (.poll name)).1 :: (p.perform (.poll name)).2.answers name ts :=
  if_pos (by simp [PaceTask.polls])

lemma answers_append (name : String) (p : Pacer) (ts us : List PaceTask) :
    p.answers name (ts ++ us) = p.answers name ts ++ (p.run ts).answers name us := by
  induction ts generalizing p with
  | nil => rfl
  | cons t ts ih =>
    rw [List.cons_append, answers, answers, ih, run_cons]
    split <;> rfl

/-! ### Lines between two polls -/

variable {p : Pacer} {name : String}

lemma run_lines (p : Pacer) (raws : List String) :
    p.run (raws.map .line) = ⟨p.session.executeAll (queued raws), p.waiting⟩ := by
  induction raws generalizing p with
  | nil => rfl
  | cons raw raws ih =>
    have hqueued : queued (raw :: raws) = queued [raw] ++ queued raws := queued_append [raw] raws
    rw [List.map_cons, run_cons, ih, hqueued, Session.executeAll_append, ← Session.enter_session]
    rfl

lemma answers_lines (p : Pacer) (raws : List String) : p.answers name (raws.map .line) = [] := by
  induction raws generalizing p with
  | nil => rfl
  | cons raw raws ih => exact ih _

/-- Lines that are entered, then a line that is executed. -/
lemma executeAll_turn (s : Session) {l : String} (hl : isBlankLine l = false)
    (raws ls : List String) :
    s.executeAll (queued (raws ++ l :: ls)) =
      ((s.executeAll (queued raws)).execute l).executeAll (queued ls) := by
  have hqueued : queued (l :: ls) = l :: queued ls := List.filter_cons_of_pos (by simp [hl])
  rw [queued_append, Session.executeAll_append, hqueued, Session.executeAll_cons]

/-! ### Polls to the end -/

/-- A batch of the session's epoch waits under the given name, and is marked active. -/
structure Ready (p : Pacer) (name : String) (b : Batch) : Prop where
  waits : p.Waits name b
  epoch : b.epoch = p.session.epoch
  active : p.session.active = some p.session.epoch

namespace Ready

variable {b : Batch}

/-- Lines that are entered do not concern the batch. -/
lemma lines (h : p.Ready name b) (raws : List String) :
    Ready ⟨p.session.executeAll (queued raws), p.waiting⟩ name b where
  waits := h.waits
  epoch := h.epoch.trans (p.session.executeAll_epoch _).symm
  active := by
    rw [Session.executeAll_active, Session.executeAll_epoch]
    exact h.active

/-- A poll that leaves lines. -/
lemma next {e k : ℕ} {l m : String} {ls : List String} (h : p.Ready name ⟨e, l :: m :: ls, k⟩) :
    Ready ⟨p.session.execute l, (name, .waiting ⟨e, m :: ls, k + 1⟩) :: p.others name⟩ name
      ⟨e, m :: ls, k + 1⟩ where
  waits := by rw [Waits, paced?_put, if_pos rfl]
  epoch := h.epoch
  active := h.active

end Ready

/-- A batch that waits in the epoch of the session, polled once for each of its lines, executes
them and the lines in between, and then ends. -/
lemma run_turns {e k : ℕ} {l : String} {ls : List String}
    (hlines : ∀ m ∈ l :: ls, isBlankLine m = false) (h : p.Ready name ⟨e, l :: ls, k⟩)
    (quick : ℕ → List String) :
    (p.run (turns name quick (ls.length + 1))).session =
        { p.session.executeAll (queued (mergeLines quick (l :: ls))) with active := none } ∧
      p.answers name (turns name quick (ls.length + 1)) =
        List.replicate ls.length .pending ++ [.summary ⟨e, k + (ls.length + 1), 0, false⟩] := by
  -- on the lines that are left; the batch stays ready until its last poll clears the mark
  induction ls generalizing p l k quick with
  | nil =>
    obtain ⟨hl, -⟩ := List.forall_mem_cons.mp hlines
    have hturn := h.lines (quick 0)
    have hpoll := perform_poll_ended _ name hturn.waits
      (Paced.poll_last hturn.epoch hturn.active rfl)
    rw [turns_succ, run_append, answers_append, run_lines, answers_lines, run_cons, answers_poll,
      hpoll, mergeLines_cons, executeAll_turn _ hl]
    exact ⟨rfl, rfl⟩
  | cons m ls ih =>
    obtain ⟨hl, hlines⟩ := List.forall_mem_cons.mp hlines
    have hturn := h.lines (quick 0)
    have hpoll := perform_poll_waiting _ name hturn.waits (Paced.poll_next hturn.epoch rfl)
    obtain ⟨hsession, hanswers⟩ := ih hlines hturn.next fun j => quick (j + 1)
    rw [List.length_cons, turns_succ, run_append, answers_append, run_lines, answers_lines, run_cons,
      answers_poll, hpoll, mergeLines_cons, executeAll_turn _ hl]
    refine ⟨hsession, ?_⟩
    rw [List.nil_append, List.replicate_succ, List.cons_append]
    refine congrArg (.pending :: ·) (hanswers.trans ?_)
    rw [Nat.add_right_comm k 1]
    rfl

/-- The first poll of a batch is a fresh start, and as many polls more as there are lines run it
to its end. -/
lemma run_mixed (p : Pacer) (name : String) (lines : List String) (quick : ℕ → List String) :
    let given := queued lines
    let started := (p.perform (.start name lines)).2
    let mixed := .poll name :: turns name quick given.length
    (started.run mixed).session = (p.session.runAll (mergeLines quick given)).2 ∧
      started.answers name mixed = List.replicate given.length .pending ++
        [.summary ⟨p.session.epoch + 1, given.length, 0, false⟩] := by
  intro given started mixed
  have hcreated : started.paced? name = some (.created lines) := by
    rw [show started = ⟨p.session, (name, .created lines) :: p.others name⟩ from rfl, paced?_put,
      if_pos rfl]
  rcases hgiven : given with _ | ⟨l, ls⟩
  · have hpoll := perform_poll_ended started name hcreated (Paced.poll_created_nil hgiven)
    rw [show mixed = [.poll name] by simp [mixed, hgiven, turns_zero], run_cons, answers_poll,
      hpoll, mergeLines_nil, Session.runAll_eq]
    exact ⟨rfl, rfl⟩
  · have hpoll := perform_poll_waiting started name hcreated (Paced.poll_created_cons hgiven)
    have hlines : ∀ m ∈ l :: ls, isBlankLine m = false := by
      rw [← hgiven]
      exact fun m hm => (mem_queued.mp hm).2
    have hready : (started.perform (.poll name)).2.Ready name ⟨p.session.epoch + 1, l :: ls, 0⟩ := by
      rw [hpoll]
      exact ⟨by rw [Waits, paced?_put, if_pos rfl]; rfl, rfl, rfl⟩
    obtain ⟨hsession, hanswers⟩ := run_turns hlines hready quick
    rw [show mixed = .poll name :: turns name quick (ls.length + 1) by simp [mixed, hgiven],
      run_cons, answers_poll, hsession, hanswers, Session.runAll_eq, hpoll]
    refine ⟨p.session.executeAll_begin lines _, ?_⟩
    rw [Nat.zero_add]
    rfl

/-- If nothing else is done in between, the batch is run as its lines are at once. -/
lemma run_polls (p : Pacer) (name : String) (lines : List String) :
    let given := queued lines
    let started := (p.perform (.start name lines)).2
    let polls := List.replicate (given.length + 1) (.poll name)
    (started.run polls).session = (p.session.runAll lines).2 ∧
      started.answers name polls =
        List.replicate given.length .pending ++ [.summary (p.session.runAll lines).1] := by
  intro given started polls
  obtain ⟨hsession, hanswers⟩ := run_mixed p name lines fun _ => []
  rw [turns_none, mergeLines_none] at hsession
  rw [turns_none] at hanswers
  rw [Session.runAll_eq p.session lines]
  refine ⟨hsession.trans ?_, hanswers⟩
  rw [Session.runAll_eq, queued_queued]

/-- Waiting for the end of a batch is polling it until the answer is a summary. -/
lemma await_eq_run {n : ℕ} {r : Summary}
    (h : p.answers name (List.replicate (n + 1) (.poll name)) =
      List.replicate n .pending ++ [.summary r]) :
    p.await name = p.run (List.replicate (n + 1) (.poll name)) := by
  induction n generalizing p with
  | zero =>
    rw [List.replicate_one, answers_poll] at h
    have hpoll : p.perform (.poll name) = (.summary r, (p.perform (.poll name)).2) :=
      Prod.ext (List.head_eq_of_cons_eq h) rfl
    exact await_of_summary hpoll
  | succ n ih =>
    have hcons : p.answers name (.poll name :: List.replicate (n + 1) (.poll name)) =
        .pending :: (List.replicate n .pending ++ [.summary r]) := h
    rw [answers_poll] at hcons
    have hpoll : p.perform (.poll name) = (.pending, (p.perform (.poll name)).2) :=
      Prod.ext (List.head_eq_of_cons_eq hcons) rfl
    rw [await_of_pending hpoll, ih (List.tail_eq_of_cons_eq hcons)]
    rfl

/-- A batch that is started and waited for leaves what running its lines at once leaves. -/
lemma await_started (p : Pacer) (name : String) (lines : List String) :
    ((p.perform (.start name lines)).2.await name).session = (p.session.runAll lines).2 := by
  obtain ⟨hsession, hanswers⟩ := run_polls p name lines
  rw [await_eq_run hanswers, hsession]

end Pacer

open Pacer

/-- **Pacing refines running at once.** In every pacer, let a batch be started. Polled as often as
it has lines and once more, and nothing else being done, it ends with the last of these polls and
not before; it leaves the session that running the lines at once leaves, with the same summary.

If lines are entered after the first poll, the ones of `quick j` ahead of the poll that executes
the line at place `j`, the polls are answered in the same way. The session is then that of
running at once all the lines, entered ones and those of the batch, in the order in which they
were executed. -/
theorem paced_refines_whole (p : Pacer) (name : String) (lines : List String) :
    let given := queued lines
    let started := (p.perform (.start name lines)).2
    let whole := p.session.runAll lines
    let polls := List.replicate (given.length + 1) (.poll name)
    let replies := List.replicate given.length .pending ++ [.summary whole.1]
    ((started.run polls).session = whole.2 ∧ started.answers name polls = replies) ∧
      (whole.1.applied = given.length ∧ whole.1.skipped = 0 ∧ whole.1.cancelled = false) ∧
      ∀ quick : ℕ → List String,
        let mixed := .poll name :: turns name quick given.length
        (started.run mixed).session = (p.session.runAll (mergeLines quick given)).2 ∧
          started.answers name mixed = replies := by
  intro given started whole polls replies
  have hwhole : whole.1 = ⟨p.session.epoch + 1, given.length, 0, false⟩ :=
    congrArg Prod.fst (p.session.runAll_eq lines)
  refine ⟨run_polls p name lines, by rw [hwhole]; exact ⟨rfl, rfl, rfl⟩, fun quick => ?_⟩
  obtain ⟨hsession, hanswers⟩ := run_mixed p name lines quick
  refine ⟨hsession, hanswers.trans ?_⟩
  rw [← hwhole]

end TabletopRobot

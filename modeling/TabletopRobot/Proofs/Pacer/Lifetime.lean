import TabletopRobot.Proofs.Pacer.Sound

/-!
The life of a paced batch, from its creation to its end, whatever else is scheduled meanwhile.
-/

namespace TabletopRobot

open Session

namespace PaceTask

/-- A task about the batch of the given name. -/
def concerns (name : String) (t : PaceTask) : Bool := t.polls name || t.discards name

variable {name n : String}

lemma ne_of_start {ls : List String} (h : (start n ls).concerns name = false) : n ≠ name := by
  simpa [concerns, polls, discards] using h

lemma ne_of_drop (h : (drop n).concerns name = false) : n ≠ name := by
  simpa [concerns, polls, discards] using h

lemma ne_of_poll (h : (poll n).concerns name = false) : n ≠ name := by
  simpa [concerns, polls, discards] using h

end PaceTask

namespace Pacer

variable {p q : Pacer} {name : String} {t : PaceTask} {ts : List PaceTask}

/-! ### Before the first poll -/

/-- Two pacers that differ in nothing but the batch of the given name. -/
def AgreeBut (name : String) (p q : Pacer) : Prop :=
  p.session = q.session ∧ ∀ k ≠ name, p.paced? k = q.paced? k

lemma agreeBut_start (p : Pacer) (name : String) (lines : List String) :
    AgreeBut name (p.perform (.start name lines)).2 p :=
  ⟨rfl, fun k hk => by rw [perform, paced?_put, if_neg hk]⟩

/-- A task about other batches does the same to both. -/
lemma AgreeBut.perform (h : AgreeBut name p q) (ht : t.concerns name = false) :
    AgreeBut name (p.perform t).2 (q.perform t).2 := by
  obtain ⟨hs, hothers⟩ := h
  cases t with
  | start n ls =>
    refine ⟨hs, fun k hk => ?_⟩
    simp only [Pacer.perform, paced?_put, hothers k hk]
  | drop n =>
    refine ⟨hs, fun k hk => ?_⟩
    simp only [Pacer.perform, paced?_others, hothers k hk]
  | line raw => exact ⟨by simp only [Pacer.perform, hs], hothers⟩
  | reset => exact ⟨by simp only [Pacer.perform, hs], hothers⟩
  | poll n =>
    have hn := PaceTask.ne_of_poll ht
    cases hb : p.paced? n with
    | none =>
      rw [perform_poll_none p n hb, perform_poll_none q n ((hothers n hn).symm.trans hb)]
      exact ⟨hs, hothers⟩
    | some b =>
      have hb' := (hothers n hn).symm.trans hb
      rcases hpoll : b.poll p.session with ⟨r | b', s⟩
      · rw [perform_poll_ended p n hb hpoll, perform_poll_ended q n hb' (hs ▸ hpoll)]
        exact ⟨rfl, fun k hk => by rw [paced?_others, paced?_others, hothers k hk]⟩
      · rw [perform_poll_waiting p n hb hpoll, perform_poll_waiting q n hb' (hs ▸ hpoll)]
        exact ⟨rfl, fun k hk => by rw [paced?_put, paced?_put, hothers k hk]⟩

lemma AgreeBut.run (h : AgreeBut name p q) (hts : ∀ t ∈ ts, t.concerns name = false) :
    AgreeBut name (p.run ts) (q.run ts) := by
  induction ts generalizing p q with
  | nil => exact h
  | cons t ts ih =>
    obtain ⟨ht, hts⟩ := List.forall_mem_cons.mp hts
    exact ih (h.perform ht) hts

/-- Tasks about other batches leave this one as it is. -/
lemma paced?_perform (p : Pacer) (ht : t.concerns name = false) :
    (p.perform t).2.paced? name = p.paced? name := by
  cases t with
  | start n ls => rw [perform, paced?_put, if_neg (PaceTask.ne_of_start ht).symm]
  | drop n => rw [perform, paced?_others, if_neg (PaceTask.ne_of_drop ht).symm]
  | poll n =>
    have hn := (PaceTask.ne_of_poll ht).symm
    cases hb : p.paced? n with
    | none => rw [perform_poll_none p n hb]
    | some b =>
      rcases hpoll : b.poll p.session with ⟨r | b', s⟩
      · rw [perform_poll_ended p n hb hpoll, paced?_others, if_neg hn]
      · rw [perform_poll_waiting p n hb hpoll, paced?_put, if_neg hn]
  | _ => rfl

lemma paced?_run (p : Pacer) (hts : ∀ t ∈ ts, t.concerns name = false) :
    (p.run ts).paced? name = p.paced? name := by
  induction ts generalizing p with
  | nil => rfl
  | cons t ts ih =>
    obtain ⟨ht, hts⟩ := List.forall_mem_cons.mp hts
    rw [run_cons, ih _ hts, paced?_perform p ht]

/-! ### From the first poll on -/

/-- The line that a task applies for the batch of the given name, if it does. -/
def taken (name : String) (p : Pacer) : PaceTask → List String
  | .poll n =>
    match p.paced? n with
    | some (.waiting b) => if n = name then p.session.consumed b else []
    | _ => []
  | _ => []

/-- The lines that a run applies for the batch of the given name. -/
def takenBy (name : String) (p : Pacer) : List PaceTask → List String
  | [] => []
  | t :: ts => p.taken name t ++ (p.perform t).2.takenBy name ts

lemma takenBy_append (name : String) (p : Pacer) (ts us : List PaceTask) :
    p.takenBy name (ts ++ us) = p.takenBy name ts ++ (p.run ts).takenBy name us := by
  induction ts generalizing p with
  | nil => rfl
  | cons t ts ih => rw [List.cons_append, takenBy, ih, takenBy, run_cons, List.append_assoc]

/-- If the batch is still there, it was polled `j` times since it began in the epoch `e`, and
each poll took the next of the lines. -/
def Stands (name : String) (e : Nat) (given : List String) (p : Pacer) (j : Nat)
    (done : List String) : Prop :=
  ∀ b, p.paced? name = some b →
    j < given.length ∧ b = .waiting ⟨e, given.drop j, j⟩ ∧ done = given.take j

lemma drop_eq_cons {given ls : List String} {j : Nat} {l : String} (h : given.drop j = l :: ls) :
    given.drop (j + 1) = ls ∧ given.take (j + 1) = given.take j ++ [l] ∧
      given.length = j + 1 + ls.length := by
  have hlength := congrArg List.length h
  rw [List.length_drop, List.length_cons] at hlength
  refine ⟨?_, ?_, by omega⟩
  · rw [← List.drop_drop, h, List.drop_one, List.tail_cons]
  · rw [List.take_add, h]
    rfl

lemma taken_of_not_polls (p : Pacer) (ht : t.polls name = false) : p.taken name t = [] := by
  cases t with
  | poll n =>
    have hn : n ≠ name := by simpa [PaceTask.polls] using ht
    simp only [taken, if_neg hn]
    split <;> rfl
  | _ => rfl

lemma taken_poll {b : Batch} (hb : p.Waits name b) :
    p.taken name (.poll name) = p.session.consumed b := by
  rw [taken, show p.paced? name = some (.waiting b) from hb]
  exact if_pos rfl

lemma Stands.poll {e j : Nat} {given done : List String} (hp : p.Sound)
    (h : p.Stands name e given j done) :
    (p.perform (.poll name)).2.Stands name e given (j + 1)
      (done ++ p.taken name (.poll name)) := by
  intro x hx
  rcases perform_poll_cases hp name with ⟨hb, hp'⟩ | ⟨lines, hb, -, hp'⟩ |
    ⟨lines, l, ls, hb, -, hp'⟩ | ⟨b, hb, -, hp'⟩ | ⟨b, l, hb, -, -, hp'⟩ |
    ⟨b, l, m, ls, hb, he, hl, hp'⟩ <;> rw [hp'] at hx
  · cases hb.symm.trans hx
  · cases (h _ hb).2.1
  · cases (h _ hb).2.1
  · simp at hx
  · simp at hx
  · obtain ⟨-, hstate, hdone⟩ := h _ hb
    obtain rfl := Paced.waiting.inj hstate
    obtain ⟨hdrop, htake, hlength⟩ := drop_eq_cons hl
    rw [List.length_cons] at hlength
    rw [paced?_put, if_pos rfl, Option.some.injEq] at hx
    refine ⟨by omega, ?_, ?_⟩
    · rw [hdrop, ← hx]
    · rw [taken_poll hb, consumed_cons he hl, hdone, htake]

lemma Stands.perform {e j : Nat} {given done : List String} (hp : p.Sound)
    (h : p.Stands name e given j done) (ht : t.discards name = false) :
    (p.perform t).2.Stands name e given (j + (t.polls name).toNat) (done ++ p.taken name t) := by
  cases hpolls : t.polls name with
  | true =>
    obtain rfl : t = .poll name := by
      cases t <;> simp_all [PaceTask.polls]
    exact h.poll hp
  | false =>
    have hother : t.concerns name = false := by rw [PaceTask.concerns, hpolls, ht]; rfl
    rw [taken_of_not_polls p hpolls, List.append_nil]
    intro b hb
    rw [paced?_perform p hother] at hb
    exact h b hb

lemma Stands.run {e j : Nat} {given done : List String} (hp : p.Sound)
    (h : p.Stands name e given j done) (hts : ∀ t ∈ ts, t.discards name = false) :
    (p.run ts).Stands name e given (j + ts.countP (·.polls name))
      (done ++ p.takenBy name ts) := by
  induction ts generalizing p j done with
  | nil => simpa [takenBy] using h
  | cons t ts ih =>
    obtain ⟨ht, hts⟩ := List.forall_mem_cons.mp hts
    have hrest := ih (hp.perform t) (h.perform hp ht) hts
    have hcount : (t :: ts).countP (·.polls name) =
        (t.polls name).toNat + ts.countP (·.polls name) := by
      rw [List.countP_cons, Nat.add_comm]
      cases t.polls name <;> rfl
    rw [run_cons, takenBy, hcount, ← Nat.add_assoc, ← List.append_assoc]
    exact hrest

/-- The first poll is a fresh start, and all there is to do for a batch without lines. -/
lemma first_poll {lines : List String}
    (hb : p.paced? name = some (.created lines)) :
    (p.perform (.poll name)).1 =
        (if queued lines = [] then .summary ⟨p.session.epoch + 1, 0, 0, false⟩ else .pending) ∧
      (p.perform (.poll name)).2.session = { p.session.reset with
        active := if queued lines = [] then none else some (p.session.epoch + 1) } ∧
      (p.perform (.poll name)).2.Stands name (p.session.epoch + 1) (queued lines) 0 [] := by
  rcases hl : queued lines with _ | ⟨l, ls⟩
  · rw [perform_poll_ended p name hb (Paced.poll_created_nil hl)]
    refine ⟨rfl, rfl, fun b hb' => ?_⟩
    simp at hb'
  · rw [perform_poll_waiting p name hb (Paced.poll_created_cons hl)]
    refine ⟨rfl, rfl, fun b hb' => ?_⟩
    rw [paced?_put, if_pos rfl, Option.some.injEq] at hb'
    exact ⟨by simp, hb'.symm, rfl⟩

/-- A later poll executes the next line, or ends a batch that was left behind. -/
lemma next_poll {e j : Nat} {given done : List String} (hp : p.Sound)
    (h : p.Stands name e given j done) {b : Paced} (hb : p.paced? name = some b) :
    ∃ l ls, given.drop j = l :: ls ∧ b = .waiting ⟨e, l :: ls, j⟩ ∧
      (p.session.epoch = e →
        (p.perform (.poll name)).1 =
            (if ls = [] then .summary ⟨e, given.length, 0, false⟩ else .pending) ∧
          (p.perform (.poll name)).2.session = { p.session.execute l with
            active := if ls = [] then none else some e }) ∧
      (p.session.epoch ≠ e →
        p.perform (.poll name) =
          (.summary ⟨e, j, given.length - j, true⟩, ⟨p.session, p.others name⟩)) := by
  obtain ⟨hj, rfl, -⟩ := h b hb
  obtain ⟨l, ls, hl⟩ := List.exists_cons_of_length_pos (l := given.drop j) (by simpa using hj)
  obtain ⟨-, -, hlength⟩ := drop_eq_cons hl
  refine ⟨l, ls, hl, by rw [hl], fun he => ?_, fun he => ?_⟩
  · have ha : p.session.active = some p.session.epoch := hp.marked name _ hb he.symm
    rcases ls with _ | ⟨m, ls⟩
    · rw [perform_poll_ended p name hb (Paced.poll_last he.symm ha hl)]
      refine ⟨?_, rfl⟩
      rw [hlength]
      rfl
    · rw [perform_poll_waiting p name hb (Paced.poll_next he.symm hl)]
      refine ⟨rfl, ?_⟩
      rw [if_neg (List.cons_ne_nil m ls), ← he, ← ha]
      rfl
  · have ha : p.session.active ≠ some e := fun ha => he (hp.unmarked name _ hb e ha).symm
    rw [perform_poll_ended p name hb (Paced.poll_stale he.symm ha)]
    simp [Batch.summary, Batch.remaining, Batch.isDone, hl]
    omega

/-- What the summary of a batch says. -/
lemma summary_of_poll {e j : Nat} {given done : List String} (hp : p.Sound)
    (h : p.Stands name e given j done) {r : Summary}
    (hr : (p.perform (.poll name)).1 = .summary r) :
    r.epoch = e ∧ done ++ p.taken name (.poll name) = given.take r.applied ∧
      r.applied + r.skipped = given.length ∧ (r.cancelled = true ↔ p.session.epoch ≠ e) := by
  rcases hb : p.paced? name with _ | b
  · rw [perform_poll_none p name hb] at hr
    cases hr
  · obtain ⟨l, ls, hl, rfl, hcurrent, hstale⟩ := next_poll hp h hb
    obtain ⟨-, -, hdone⟩ := h _ hb
    obtain ⟨-, htake, hlength⟩ := drop_eq_cons hl
    by_cases he : p.session.epoch = e
    · rw [(hcurrent he).1] at hr
      rcases ls with _ | ⟨m, ls⟩
      · obtain rfl : _ = r := PaceReply.summary.inj hr
        refine ⟨rfl, ?_, rfl, by simp [he]⟩
        rw [taken_poll hb, consumed_cons he.symm rfl, hdone, ← htake, hlength]
        rfl
      · simp at hr
    · rw [hstale he] at hr
      obtain rfl : _ = r := PaceReply.summary.inj hr
      refine ⟨rfl, ?_, ?_, by simp [he]⟩
      · rw [taken_poll hb, consumed_stale (Ne.symm he), List.append_nil, hdone]
      · dsimp only
        omega

end Pacer

open Pacer

/-- **The life of a paced batch.** Let a batch be started in any schedule, followed as far as it
is neither replaced nor dropped. Reading the session is no task, as it changes nothing.

* Until it is polled, the session and the other batches are as they would be without it.
* Its first poll is a fresh start in an epoch `e`; without lines, the batch ends at once.
* After as many polls more as there are lines it has ended.
* Until then it holds the lines after the first `j`, where `j` counts the polls since the first,
  and these `j` lines were executed for it. While the epoch is `e`, that is, before another
  fresh start, a poll executes the next line, and ends the batch if that was the last one.
  Otherwise a poll ends the batch and leaves the session as it is.
* Its summary has the epoch `e` and accounts for all lines. It says cancelled exactly if there
  was another fresh start between its first poll and its end. -/
theorem paced_batch {name : String} {idle later : List PaceTask}
    (hidle : ∀ t ∈ idle, t.concerns name = false)
    (hlater : ∀ t ∈ later, t.discards name = false)
    (s : Session) (before : List PaceTask) (lines : List String) :
    let given := queued lines
    let bare := Pacer.run ⟨s, []⟩ (before ++ idle)
    let p := Pacer.run ⟨s, []⟩ (before ++ .start name lines :: idle)
    let e := p.session.epoch + 1
    let first := p.perform (.poll name)
    let q := first.2.run later
    let j := later.countP (·.polls name)
    let next := q.perform (.poll name)
    (p.session = bare.session ∧ ∀ k ≠ name, p.paced? k = bare.paced? k) ∧
      (first.1 = (if given = [] then .summary ⟨e, 0, 0, false⟩ else .pending) ∧
        first.2.session =
          { p.session.reset with active := if given = [] then none else some e }) ∧
      (given.length ≤ j → q.paced? name = none) ∧
      (∀ b, q.paced? name = some b →
        ∃ l ls, given.drop j = l :: ls ∧ b = .waiting ⟨e, l :: ls, j⟩ ∧
          first.2.takenBy name later = given.take j ∧
          (q.session.epoch = e ↔ first.2.freshStarts later = 0) ∧
          (q.session.epoch = e →
            next.1 = (if ls = [] then .summary ⟨e, given.length, 0, false⟩ else .pending) ∧
              next.2.session =
                { q.session.execute l with active := if ls = [] then none else some e } ∧
              next.2.session.journal = q.session.journal ++ [q.session.entryOf l]) ∧
          (q.session.epoch ≠ e →
            next = (.summary ⟨e, j, given.length - j, true⟩, ⟨q.session, q.others name⟩))) ∧
      ∀ r, next.1 = .summary r →
        r.epoch = e ∧ first.2.takenBy name (later ++ [.poll name]) = given.take r.applied ∧
          r.applied + r.skipped = given.length ∧
          (r.cancelled = true ↔ first.2.freshStarts later ≠ 0) := by
  intro given bare p e first q j next
  have hsound : p.Sound := (Sound.new s).run _
  have hagree : AgreeBut name p bare := by
    rw [show p = _ from run_append .., show bare = _ from run_append .., run_cons]
    exact (agreeBut_start _ name lines).run hidle
  have hcreated : p.paced? name = some (.created lines) := by
    rw [show p = _ from run_append .., run_cons, paced?_run _ hidle, perform, paced?_put,
      if_pos rfl]
  obtain ⟨hreply, hfirst, hstands⟩ := first_poll hcreated
  have hsound₁ : first.2.Sound := hsound.perform _
  have hsound' : q.Sound := hsound₁.run later
  have hstands' : q.Stands name e given j (first.2.takenBy name later) := by
    simpa using hstands.run hsound₁ hlater
  have hepoch : q.session.epoch = e + first.2.freshStarts later := by
    rw [show q.session.epoch = _ from run_epoch first.2 later, hfirst]
    rfl
  refine ⟨hagree, ⟨hreply, hfirst⟩, fun hj => ?_, fun b hb => ?_, fun r hr => ?_⟩
  · rcases hb : q.paced? name with _ | b
    · rfl
    · have := (hstands' b hb).1
      omega
  · obtain ⟨l, ls, hl, hstate, hcurrent, hstale⟩ := next_poll hsound' hstands' hb
    refine ⟨l, ls, hl, hstate, (hstands' b hb).2.2, by omega, fun he => ?_, hstale⟩
    obtain ⟨hreply', hsession⟩ := hcurrent he
    exact ⟨hreply', hsession, by rw [hsession]; rfl⟩
  · obtain ⟨he, htaken, hcount, hcancelled⟩ := summary_of_poll hsound' hstands' hr
    refine ⟨he, ?_, hcount, ?_⟩
    · rw [takenBy_append, takenBy, takenBy, List.append_nil, ← htaken]
    · rw [hcancelled]
      omega

theorem paced_batch_superseded :
    let before := [.start "b" ["move"]]
    let p := Pacer.run {} (before ++ [.start "a" ["left", " ", "right"], .poll "b"])
    let first := p.perform (.poll "a")
    let q := first.2.run [.poll "a", .reset]
    (q.perform (.poll "a")).1 = .summary ⟨2, 1, 1, true⟩ ∧
      first.2.takenBy "a" [.poll "a", .reset, .poll "a"] = ["left"] ∧
      first.2.freshStarts [.poll "a", .reset] ≠ 0 := by
  intro before p first q
  have hidle : ∀ t ∈ [PaceTask.poll "b"], t.concerns "a" = false := by decide
  have hlater : ∀ t ∈ [PaceTask.poll "a", .reset], t.discards "a" = false := by decide
  have hlife := paced_batch hidle hlater {} before ["left", " ", "right"]
  have hr : (q.perform (.poll "a")).1 = .summary ⟨2, 1, 1, true⟩ := by rfl
  obtain ⟨-, htaken, -, hcancelled⟩ := hlife.2.2.2.2 _ hr
  exact ⟨hr, htaken, hcancelled.mp rfl⟩

end TabletopRobot

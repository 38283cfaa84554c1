import TabletopRobot.Session

/-!
Batches that run beside each other, one step at a time, on a shared session.

A paced batch does nothing until it is first polled. The first poll begins it; each later poll
applies one line, or finds that the session has moved on. A poll that leaves nothing to do
closes the batch. As every poll but the last applies a line or begins the batch, a batch that is
polled often enough comes to its end.
-/

namespace TabletopRobot

/-- A batch that waits for its next poll. -/
inductive Paced
  | created (lines : List String)
  | waiting (batch : Batch)

namespace Paced

/-- Close the batch if it is done, otherwise wait. -/
def settle (s : Session) (b : Batch) : (Summary ⊕ Paced) × Session :=
  if b.isDone then
    let (r, s) := s.finish b
    (.inl r, s)
  else (.inr (waiting b), s)

/-- One poll: the summary of a batch that ended, or the batch that waits on. -/
def poll (s : Session) : Paced → (Summary ⊕ Paced) × Session
  | created lines =>
    let (b, s) := s.begin lines
    settle s b
  | waiting b =>
    match s.step b with
    | (.cancelled, b, s) =>
      let (r, s) := s.finish b
      (.inl r, s)
    | (_, b, s) => settle s b

/-- The most polls until the batch ends: one that begins it, and one for each of its lines. -/
def pollsLeft : Paced → Nat
  | created lines => (lines.filter (!isBlankLine ·)).length + 1
  | waiting b => b.remaining

theorem settle_waits {s s' : Session} {b : Batch} {c : Paced} (h : settle s b = (.inr c, s')) :
    c = waiting b := by
  unfold settle at h
  split at h
  · cases h
  · cases h; rfl

/-- A batch that waits on after a poll has fewer polls left. -/
theorem pollsLeft_lt {s s' : Session} {b c : Paced} (h : b.poll s = (.inr c, s')) :
    c.pollsLeft < b.pollsLeft := by
  cases b with
  | created lines =>
    rw [settle_waits h]
    exact Nat.lt_succ_self _
  | waiting b =>
    obtain ⟨e, ls, k⟩ := b
    rw [poll, Session.step] at h
    by_cases hcur : s.isCurrent ⟨e, ls, k⟩
    · rw [if_pos hcur] at h
      cases ls with
      | nil => cases h
      | cons l ls =>
        rw [settle_waits h]
        exact Nat.lt_succ_self _
    · rw [if_neg hcur] at h
      cases h

end Paced

/-- A session and the paced batches that have not ended, by name. -/
structure Pacer where
  session : Session := {}
  waiting : List (String × Paced) := []

/-- What can be asked of a pacer. -/
inductive PaceTask
  | start (name : String) (lines : List String)
  | poll (name : String)
  | drop (name : String)
  | line (raw : String)
  | reset

inductive PaceReply
  | done
  | pending
  | summary (s : Summary)
  | noBatch
  | dropped (existed : Bool)
  | entry (e : Option Entry)

namespace Pacer

def paced? (p : Pacer) (name : String) : Option Paced := p.waiting.lookup name

def others (p : Pacer) (name : String) : List (String × Paced) := p.waiting.filter (·.1 != name)

/-- One task. A batch that is dropped, or replaced by one of its name, leaves the session as
it is. -/
def perform (p : Pacer) : PaceTask → PaceReply × Pacer
  | .start name ls => (.done, { p with waiting := (name, .created ls) :: p.others name })
  | .poll name =>
    match p.paced? name with
    | none => (.noBatch, p)
    | some b =>
      match b.poll p.session with
      | (.inl r, s) => (.summary r, ⟨s, p.others name⟩)
      | (.inr b, s) => (.pending, ⟨s, (name, b) :: p.others name⟩)
  | .drop name => (.dropped (p.paced? name).isSome, { p with waiting := p.others name })
  | .line raw =>
    let (e, s) := p.session.enter raw
    (.entry e, { p with session := s })
  | .reset => (.done, { p with session := p.session.reset })

def run (p : Pacer) (ts : List PaceTask) : Pacer := ts.foldl (fun p t => (p.perform t).2) p

@[simp] theorem run_nil (p : Pacer) : p.run [] = p := rfl
@[simp] theorem run_cons (p : Pacer) (t : PaceTask) (ts : List PaceTask) :
    p.run (t :: ts) = (p.perform t).2.run ts := rfl
theorem run_append (p : Pacer) (ts us : List PaceTask) : p.run (ts ++ us) = (p.run ts).run us := by
  simp [run, List.foldl_append]

/-! ### Waiting for the end -/

def pollsLeft (p : Pacer) (name : String) : Nat := (p.paced? name).elim 0 Paced.pollsLeft

theorem pollsLeft_lt {p q : Pacer} {name : String} (h : p.perform (.poll name) = (.pending, q)) :
    q.pollsLeft name < p.pollsLeft name := by
  rw [perform] at h
  split at h
  · cases h
  · next b hb =>
    split at h
    · cases h
    · next c s hpoll =>
      cases h
      have hc : paced? ⟨s, (name, c) :: p.others name⟩ name = some c := by
        rw [paced?, List.lookup_cons_self]
      rw [pollsLeft, pollsLeft, hb, hc]
      exact Paced.pollsLeft_lt hpoll

/-- Poll the batch of the given name until it has ended. -/
def await (p : Pacer) (name : String) : Pacer :=
  match _h : p.perform (.poll name) with
  | (.pending, q) => q.await name
  | (_, q) => q
termination_by p.pollsLeft name
decreasing_by exact pollsLeft_lt _h

theorem await_of_pending {p q : Pacer} {name : String}
    (h : p.perform (.poll name) = (.pending, q)) : p.await name = q.await name := by
  rw [await]
  split
  · next q' h' =>
    rw [h] at h'
    cases h'
    rfl
  · next hne h' =>
    rw [h] at h'
    cases h'
    exact absurd rfl hne

theorem await_of_summary {p q : Pacer} {name : String} {r : Summary}
    (h : p.perform (.poll name) = (.summary r, q)) : p.await name = q := by
  rw [await]
  split
  · next h' =>
    rw [h] at h'
    cases h'
  · next h' =>
    rw [h] at h'
    cases h'
    rfl

end Pacer

end TabletopRobot

import TabletopRobot.Proofs.Command.Placement
import TabletopRobot.Proofs.Lists
import TabletopRobot.Proofs.Session.Reports

/-!
What a journal looks like before and after the robot is placed. Up to the first placement on the
table every line is turned away, and that placement is the first success.
-/

namespace TabletopRobot

open Command

/-! ### Entries -/

namespace Entry

/-- The entry of a line that a robot off the table cannot heed. -/
inductive TurnedAway (e : Entry) : Prop
  | notPlaced {c : Command} (hseverity : e.severity = .warning)
    (hmessage : e.message = "Command ignored: robot not placed yet")
    (hread : parse e.command = .ok c) (hother : ∀ x y f, c ≠ .place x y f)
  | malformed {m : Malformed} (hseverity : e.severity = .error)
    (hread : parse e.command = .error m)
  | offTable {x y : Int64} {f : Direction} (hseverity : e.severity = .error)
    (hread : parse e.command = .ok (.place x y f)) (hoff : ¬(Command.place x y f).OnTable)

lemma TurnedAway.not_success {e : Entry} (h : e.TurnedAway) : e.severity ≠ .success := by
  cases h with
  | notPlaced hseverity => simp [hseverity]
  | malformed hseverity => simp [hseverity]
  | offTable hseverity => simp [hseverity]

/-- The entry of a placement on the table. -/
inductive Opens (e : Entry) : Prop
  | mk {c : Command} (hseverity : e.severity = .success) (hread : parse e.command = .ok c)
    (hon : c.OnTable)

end Entry

/-- Only one outcome is told in these words. -/
lemma Outcome.message_eq_notPlaced {o : Outcome}
    (h : o.message = "Command ignored: robot not placed yet") : o = .notPlaced := by
  have hsame : o.message = Outcome.notPlaced.message := h
  have hinitial : o.initial = 'C' := by
    have hhead := o.head_message
    rw [hsame, Outcome.notPlaced.head_message] at hhead
    exact (Option.some.inj hhead).symm
  cases o <;> simp_all [initial]

/-! ### Lines -/

namespace Robot

/-- **What a line can do to a robot that is not placed.** -/
lemma applyLine_unplaced (raw : String) :
    (∃ c p, parse raw = .ok c ∧ c.OnTable ∧ unplaced.applyLine raw = (placed p, .placed p)) ∨
    (∃ c, parse raw = .ok c ∧ (∀ x y f, c ≠ .place x y f) ∧
      unplaced.applyLine raw = (unplaced, .notPlaced)) ∨
    (∃ m, parse raw = .error m ∧ unplaced.applyLine raw = (unplaced, .malformed m.flaws)) ∨
    ∃ x y f, parse raw = .ok (.place x y f) ∧ ¬(Command.place x y f).OnTable ∧
      unplaced.applyLine raw = (unplaced, .offTable x y) := by
  unfold applyLine
  cases hread : parse raw with
  | error m => exact Or.inr (Or.inr (Or.inl ⟨m, rfl, rfl⟩))
  | ok c =>
    cases c with
    | place x y f =>
      by_cases hon : (Command.place x y f).OnTable
      · obtain ⟨p, hp⟩ := hon.apply_eq
        exact Or.inl ⟨_, p, rfl, hon, hp unplaced⟩
      · exact Or.inr (Or.inr (Or.inr ⟨x, y, f, rfl, hon, unplaced.apply_place_off hon⟩))
    | _ => exact Or.inr (Or.inl ⟨_, rfl, by simp, rfl⟩)

/-- A robot that is placed stays so, and no line is turned away for want of a placement. -/
lemma applyLine_placed (p : Pose) (raw : String) :
    (∃ q, ((placed p).applyLine raw).1 = placed q) ∧ ((placed p).applyLine raw).2 ≠ .notPlaced := by
  unfold applyLine
  cases parse raw with
  | error m => exact ⟨⟨p, rfl⟩, by simp⟩
  | ok c =>
    cases c with
    | place x y f =>
      simp only [apply]
      split <;> simp
    | move =>
      simp only [apply]
      split <;> simp
    | turn t => simp [apply]
    | report => simp [apply]
    | unknown line => simp [apply]

end Robot

/-! ### Sessions -/

namespace Session

/-- The two states of the gate: nothing but lines turned away so far, or a first placement after
which no line is turned away for want of one. -/
inductive Gated (s : Session) : Prop
  | shut (hrobot : s.robot = .unplaced) (houtput : s.output = [])
    (hjournal : ∀ e ∈ s.journal, e.TurnedAway)
  | opened {p : Pose} {before after : Journal} {e : Entry} (hrobot : s.robot = .placed p)
    (hjournal : s.journal = before ++ e :: after) (hbefore : ∀ d ∈ before, d.TurnedAway)
    (he : e.Opens) (hafter : ∀ d ∈ after, d.message ≠ "Command ignored: robot not placed yet")

lemma gated_new : Gated {} := .shut rfl rfl (by simp)

variable {s : Session}

/-- What the entry of a line says. -/
lemma entryOf_eq (raw : String) {r : Robot} {o : Outcome} (h : s.robot.applyLine raw = (r, o)) :
    (s.entryOf raw).message = o.message ∧ (s.entryOf raw).severity = o.severity ∧
      parse (s.entryOf raw).command = parse raw := by
  refine ⟨?_, ?_, parse_normalize raw⟩
  · rw [entryOf_message, h]
  · rw [entryOf_severity, h]

/-- A line that is turned away leaves the gate shut. -/
lemma gated_of_turnedAway (raw : String) {o : Outcome} (hrobot : s.robot = .unplaced)
    (houtput : s.output = []) (hjournal : ∀ e ∈ s.journal, e.TurnedAway)
    (hline : Robot.unplaced.applyLine raw = (.unplaced, o)) (hreport : o.report? = none)
    (he : (s.entryOf raw).TurnedAway) : (s.execute raw).Gated := by
  refine .shut ?_ ?_ ?_
  · rw [execute_robot, hrobot, hline]
  · rw [execute_output, houtput, hrobot, hline, hreport]
    rfl
  · rw [execute_journal]
    exact List.forall_mem_append.mpr ⟨hjournal, by simpa using he⟩

lemma Gated.execute (h : s.Gated) (raw : String) : (s.execute raw).Gated := by
  cases h with
  | shut hrobot houtput hjournal =>
    rcases Robot.applyLine_unplaced raw with ⟨c, p, hread, hon, hline⟩ | ⟨c, hread, hother, hline⟩ |
      ⟨m, hread, hline⟩ | ⟨x, y, f, hread, hoff, hline⟩
    all_goals obtain ⟨hmessage, hseverity, hparse⟩ := entryOf_eq raw (hrobot ▸ hline)
    · refine .opened (p := p) ?_ (execute_journal s raw) hjournal
        ⟨hseverity, hparse.trans hread, hon⟩ (by simp)
      rw [execute_robot, hrobot, hline]
    · have he : (s.entryOf raw).TurnedAway :=
        .notPlaced hseverity hmessage (hparse.trans hread) hother
      exact gated_of_turnedAway raw hrobot houtput hjournal hline rfl he
    · have he : (s.entryOf raw).TurnedAway := .malformed hseverity (hparse.trans hread)
      exact gated_of_turnedAway raw hrobot houtput hjournal hline rfl he
    · have he : (s.entryOf raw).TurnedAway := .offTable hseverity (hparse.trans hread) hoff
      exact gated_of_turnedAway raw hrobot houtput hjournal hline rfl he
  | @opened p before after e hrobot hjournal hbefore he hafter =>
    obtain ⟨⟨q, hq⟩, hheeded⟩ := Robot.applyLine_placed p raw
    have hlast : (s.entryOf raw).message ≠ "Command ignored: robot not placed yet" := by
      intro hmessage
      rw [entryOf_message, hrobot] at hmessage
      exact hheeded (Outcome.message_eq_notPlaced hmessage)
    have hjournal' : (s.execute raw).journal = before ++ e :: (after ++ [s.entryOf raw]) := by
      rw [execute_journal, hjournal, List.append_assoc, List.cons_append]
    refine .opened (p := q) ?_ hjournal' hbefore he ?_
    · rw [execute_robot, hrobot, hq]
    · exact List.forall_mem_append.mpr ⟨hafter, by simpa using hlast⟩

lemma Holds.gated {ls : List String} (h : s.Holds ls) : s.Gated := by
  refine h.induction gated_new (fun _ raw ht => ht.execute raw) fun t e a ht => ?_
  cases ht with
  | shut hrobot houtput hjournal => exact .shut hrobot houtput hjournal
  | opened hrobot hjournal hbefore he hafter => exact .opened hrobot hjournal hbefore he hafter

end Session

/-- **Placement is the gate.** In every session that calls lead to, the robot is placed exactly if
some entry of the journal is a success. Take an entry with no success before it. If it is no success
itself, its line was turned away: no placement, and told that the robot is not placed yet, or a
placement that is malformed or off the table. If it is one, it is the first, and its line is a
placement on the table; no later line is told that the robot is not placed. Without a success there
is no output. -/
theorem placement_is_gate {s : Session} {ls : List String} {bs : List Batch}
    (h : Reachable s ls bs) :
    (s.robot.isPlaced = true ↔ ∃ e ∈ s.journal, e.severity = .success) ∧
      (∀ (before : Journal) (e : Entry) (after : Journal), s.journal = before ++ e :: after →
        (∀ d ∈ before, d.severity ≠ .success) →
          (e.severity ≠ .success → e.TurnedAway) ∧
          (e.severity = .success → (∃ c, parse e.command = .ok c ∧ c.OnTable) ∧
            ∀ d ∈ after, d.message ≠ "Command ignored: robot not placed yet")) ∧
      ((∀ e ∈ s.journal, e.severity ≠ .success) → s.output = []) := by
  cases h.holds.1.gated with
  | shut hrobot houtput hjournal =>
    have hnone : ∀ e ∈ s.journal, e.severity ≠ .success := fun e he => (hjournal e he).not_success
    refine ⟨?_, fun before e after hsplit _ => ?_, fun _ => houtput⟩
    · simpa [hrobot, Robot.isPlaced, Robot.pose?] using hnone
    · have he : e ∈ s.journal := by simp [hsplit]
      exact ⟨fun _ => hjournal e he, fun hsuccess => absurd hsuccess (hnone e he)⟩
  | @opened p first rest o hrobot hjournal hfirst ho hrest =>
    obtain ⟨hsuccess, hread, hon⟩ := ho
    have hmem : o ∈ s.journal := by simp [hjournal]
    refine ⟨?_, fun before e after hsplit hbefore => ?_,
      fun hnone => absurd hsuccess (hnone o hmem)⟩
    · exact iff_of_true (by rw [hrobot]; rfl) ⟨o, hmem, hsuccess⟩
    · rcases split_at_first (hjournal.symm.trans hsplit) hsuccess hbefore with he | ⟨-, rfl, rfl⟩
      · have haway := hfirst e he
        exact ⟨fun _ => haway, fun h => absurd h haway.not_success⟩
      · exact ⟨fun hnot => absurd hsuccess hnot, fun _ => ⟨⟨_, hread, hon⟩, hrest⟩⟩

/-- A batch that is still open, with a line entered between its lines. -/
theorem placement_is_gate_third_line :
    let start := Session.begin {} ["jump", "place 0,0,north", "report"]
    let first := start.2.step start.1
    let second := (first.2.2.enter "place 5,0,north").2.step first.2.1
    let s := second.2.2
    let jumped : Entry := ⟨1, "JUMP", "Command ignored: robot not placed yet", .warning⟩
    let missed : Entry :=
      ⟨2, "PLACE 5,0,NORTH", "Invalid PLACE: (5, 0) is off the table", .error⟩
    let placed : Entry := ⟨3, "PLACE 0,0,NORTH", "Placed robot at (0, 0) facing NORTH", .success⟩
    Reachable s ["jump", "place 5,0,north", "place 0,0,north"] [second.2.1, first.2.1, start.1] ∧
      s.journal = [jumped, missed, placed] ∧ s.robot.isPlaced = true ∧ missed.TurnedAway ∧
      ∃ c, parse placed.command = .ok c ∧ c.OnTable := by
  intro start first second s jumped missed placed
  have h : Reachable s ["jump", "place 5,0,north", "place 0,0,north"]
      [second.2.1, first.2.1, start.1] :=
    .step List.mem_cons_self (.enter "place 5,0,north"
      (.step (List.mem_singleton_self start.1) (.begin _ .new)))
  have hjournal : s.journal = [jumped, missed, placed] := by decide +kernel
  obtain ⟨hplaced, hentry, -⟩ := placement_is_gate h
  have hmissed := (hentry [jumped] missed [placed] hjournal (by simp [jumped])).1 (by simp [missed])
  have hfirst := (hentry [jumped, missed] placed [] hjournal (by simp [jumped, missed])).2 rfl
  exact ⟨h, hjournal, hplaced.mpr ⟨placed, by simp [hjournal], rfl⟩, hmissed, hfirst.1⟩

end TabletopRobot

import TabletopRobot.Proofs.Command.Placement
import TabletopRobot.Proofs.Session.Rejections

/-!
A placement on the table makes the past of a session irrelevant: what comes after it comes out as
in a session that begins with it.
-/

namespace TabletopRobot

open Command

lemma Command.OnTable.not_blank {raw : String} {c : Command} (hraw : parse raw = .ok c)
    (h : c.OnTable) : isBlankLine raw = false := by
  cases c with
  | place x y f => exact not_blank_of_parse_place hraw
  | _ => exact h.elim

lemma Command.OnTable.applyLine_eq {raw : String} {c : Command} (hraw : parse raw = .ok c)
    (h : c.OnTable) : ∃ p, ∀ r : Robot, r.applyLine raw = (.placed p, .placed p) := by
  obtain ⟨p, hp⟩ := h.apply_eq
  refine ⟨p, fun r => ?_⟩
  rw [Robot.applyLine, hraw]
  exact hp r

namespace Session

/-- The session `s` is as `t`, but for a past that left `past` in the journal and `told` in the
output. -/
structure Resumes (past : Journal) (told : List String) (s t : Session) : Prop where
  robot : s.robot = t.robot
  output : s.output = told ++ t.output
  journal : ∃ later, s.journal = past ++ later ∧ later.renumbered = t.journal

variable {past : Journal} {told : List String} {s t : Session}

/-- A line does the same to both, whatever the past. -/
lemma Resumes.execute (h : Resumes past told s t) (l : String) :
    Resumes past told (s.execute l) (t.execute l) := by
  obtain ⟨hrobot, houtput, later, hlater, hnumbers⟩ := h
  constructor
  case robot => rw [execute_robot, execute_robot, hrobot]
  case output => rw [execute_output, execute_output, houtput, hrobot, List.append_assoc]
  case journal =>
    have hlength : t.journal.length = later.length := by
      rw [← hnumbers, Journal.length_renumbered]
    have hentry : { s.entryOf l with sequence := Journal.numberAt later.length } = t.entryOf l := by
      unfold entryOf
      rw [hrobot]
      simp [Journal.next, hlength]
    refine ⟨later ++ [s.entryOf l], ?_, ?_⟩
    · rw [execute_journal, hlater, List.append_assoc]
    · rw [execute_journal, Journal.renumbered_concat, hnumbers, hentry]

lemma Resumes.executeAll (h : Resumes past told s t) (ls : List String) :
    Resumes past told (s.executeAll ls) (t.executeAll ls) := by
  induction ls generalizing s t with
  | nil => exact h
  | cons l ls ih => exact ih (h.execute l)

/-- After a placement on the table, a session is as one in which nothing came before it. -/
lemma resumes_placement {raw : String} {c : Command} (hraw : parse raw = .ok c) (hc : c.OnTable)
    (s t : Session) :
    Resumes s.journal s.output (s.execute raw) (t.reset.execute raw) := by
  obtain ⟨p, hp⟩ := hc.applyLine_eq hraw
  constructor
  case robot => rw [execute_robot, execute_robot, hp, hp]
  case output => rw [execute_output, execute_output, hp, hp]; simp [reset, Outcome.report?]
  case journal =>
    refine ⟨[s.entryOf raw], execute_journal s raw, ?_⟩
    have hentry : { s.entryOf raw with sequence := Journal.numberAt 0 } = t.reset.entryOf raw := by
      unfold entryOf
      rw [hp, hp]
      rfl
    have hone := Journal.renumbered_concat [] (s.entryOf raw)
    rw [List.nil_append, List.length_nil, hentry] at hone
    rw [hone]
    rfl

end Session

/-- **A placement forgets the past.** Let a line that places the robot on the table stand between
other lines. From there on, everything is as in a batch that begins with this line: the robot in
the end, the entries but for their numbers, and what is put out. Before that come the entries and
the output of the lines in front. -/
theorem placement_forgets_past (s t u : Session) (before after : List String) {raw : String}
    {c : Command} (hraw : parse raw = .ok c) (hc : c.OnTable) :
    let whole := (s.runAll (before ++ [raw] ++ after)).2
    let first := (t.runAll before).2
    let rest := (u.runAll ([raw] ++ after)).2
    whole.robot = rest.robot ∧
      (∃ later, whole.journal = first.journal ++ later ∧
        later.length = rest.journal.length ∧ later.renumbered = rest.journal) ∧
      whole.output = first.output ++ rest.output := by
  intro whole first rest
  have hline : queued [raw] = [raw] :=
    queued_of_forall (by simpa using hc.not_blank hraw)
  -- the session in front of the line
  let start := s.reset.executeAll (queued before)
  have hwhole : whole = (start.execute raw).executeAll (queued after) := by
    simp only [whole, start, Session.runAll_eq, queued_append, hline, Session.executeAll_append,
      Session.executeAll_cons, Session.executeAll_nil]
  have hrest : rest = (u.reset.execute raw).executeAll (queued after) := by
    simp only [rest, Session.runAll_eq, queued_append, hline, Session.executeAll_append,
      Session.executeAll_cons, Session.executeAll_nil]
  have hstart : start.Holds (queued before) := (Session.holds_reset s).executeAll _
  obtain ⟨-, hjournal, houtput⟩ := hstart.agree (Session.holds_runAll t before)
  have hresumes := (Session.resumes_placement hraw hc start u).executeAll (queued after)
  rw [← hwhole, ← hrest, hjournal, houtput] at hresumes
  obtain ⟨hrobot, hout, later, hlater, hnumbers⟩ := hresumes
  refine ⟨hrobot, ⟨later, hlater, ?_, hnumbers⟩, hout⟩
  rw [← hnumbers, Journal.length_renumbered]

/-- A robot that has reported is placed anew and reports again. -/
theorem placement_forgets_past_placed_twice :
    let c := Command.place 2 3 .south
    let whole := (Session.runAll {} (["place 0,0,north", "report"] ++ [" place 2,+3,South"] ++
      ["move", "fly", " ", "report"])).2
    let rest := (Session.runAll {} ([" place 2,+3,South"] ++ ["move", "fly", " ", "report"])).2
    parse " place 2,+3,South" = .ok c ∧ c.OnTable ∧ whole.robot = rest.robot ∧
      whole.output = ["0,0,NORTH", "2,2,SOUTH"] := by
  intro c whole rest
  have hraw : parse " place 2,+3,South" = .ok c := rfl
  have hc : c.OnTable := ⟨by decide, by decide⟩
  obtain ⟨hrobot, -, hout⟩ := placement_forgets_past {} {} {} ["place 0,0,north", "report"]
    ["move", "fly", " ", "report"] hraw hc
  refine ⟨hraw, hc, hrobot, hout.trans ?_⟩
  decide +kernel

end TabletopRobot

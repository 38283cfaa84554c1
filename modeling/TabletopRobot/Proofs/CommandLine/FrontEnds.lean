import TabletopRobot.CommandLine.Program
import TabletopRobot.Proofs.Pacer.Refinement
import TabletopRobot.Proofs.Session.Rejections
import TabletopRobot.Proofs.Snapshot.Canonical

/-!
A text from standard input, run as a script or entered line by line: both print the same.

A script is one batch that is polled to its end, and the output is printed then. A dialogue prints
each report when it is made, so that after every line standard output shows what the session has
for output by then.
-/

namespace TabletopRobot.CommandLine

lemma unlines_append (ls ms : List String) : unlines (ls ++ ms) = unlines ls ++ unlines ms := by
  simp [unlines, String.join_append]

/-! ### Dialogues -/

namespace Dialogue

/-- Standard output shows every value of the output once. -/
def Shows (d : Dialogue) : Prop := d.printed.stdout = unlines d.session.output

variable {d : Dialogue}

lemma step_of_blank {l : String} (h : isBlankLine l = true) : d.step l = d := by
  rw [step, Session.enter_of_blank _ h]

lemma step_of_report {l : String} (h : isBlankLine l = false)
    (hreport : (d.session.entryOf l).severity = .report) :
    d.step l = ⟨d.session.execute l, { d.printed with
      stdout := d.printed.stdout ++ unlines (d.session.execute l).output.getLast?.toList }⟩ := by
  rw [step, Session.enter_of_not_blank _ h]
  exact if_pos hreport

lemma step_of_other {l : String} (h : isBlankLine l = false)
    (hreport : (d.session.entryOf l).severity ≠ .report) :
    d.step l = ⟨d.session.execute l, { d.printed with
      stderr := d.printed.stderr ++ unlines [(d.session.entryOf l).text] }⟩ := by
  rw [step, Session.enter_of_not_blank _ h]
  exact if_neg hreport

lemma step_session (d : Dialogue) (l : String) : (d.step l).session = (d.session.enter l).2 := by
  rw [step]
  split
  · next h => rw [h]
  · next h => rw [h]; split <;> rfl

/-- A report adds one value to the output, and that one is printed; no other line does either. -/
lemma Shows.step (h : d.Shows) (l : String) : (d.step l).Shows := by
  rcases hblank : isBlankLine l with _ | _
  · by_cases hreport : (d.session.entryOf l).severity = .report
    · obtain ⟨p, ho, -⟩ := Outcome.message_of_report hreport
      rw [step_of_report hblank hreport, Shows, Session.execute_output, ho, unlines_append, ← h]
      simp [Outcome.report?]
    · have hnone : (d.session.robot.applyLine l).2.report? = none :=
        Outcome.report?_of_severity hreport
      rw [step_of_other hblank hreport, Shows, Session.execute_output, hnone, Option.toList_none,
        List.append_nil]
      exact h
  · rw [step_of_blank hblank]
    exact h

lemma Shows.run (h : d.Shows) (ls : List String) : (d.run ls).Shows :=
  List.foldlRecOn ls Dialogue.step h fun _ ht l _ => ht.step l

lemma run_session (d : Dialogue) (ls : List String) :
    (d.run ls).session = d.session.enterAll ls := by
  induction ls generalizing d with
  | nil => rfl
  | cons l ls ih => rw [run_cons, ih, step_session, Session.enterAll_cons]

end Dialogue

/-- Lines entered in a new session are executed there. -/
lemma Dialogue.session_of_run (ls : List String) :
    (Dialogue.run {} ls).session = ({} : Session).executeAll (queued ls) := by
  rw [run_session, Session.enterAll_eq]

/-! ### Scripts -/

/-- A script that is paced to its end is one that is run at once. -/
lemma runToEnd_eq (text : String) : runToEnd text = (Session.runAll {} (scriptLines text)).2 :=
  Pacer.await_started {} "script" (scriptLines text)

lemma holds_runToEnd (text : String) : (runToEnd text).Holds (queued (scriptLines text)) := by
  rw [runToEnd_eq]
  exact Session.holds_runAll {} (scriptLines text)

lemma runToEnd_active (text : String) : (runToEnd text).active = none := by
  rw [runToEnd_eq, Session.runAll_active]

/-! ### Snapshots -/

/-- The snapshot shows what `s` has, in an idle session. -/
structure Depicts (r : Snapshot) (s : Session) : Prop where
  robot : r.robot = s.robot
  output : r.output = s.output
  journal : r.journal = s.journal
  idle : r.running = false

/-- Sessions with the same lines behind them have the same snapshots, stamps and epochs aside. A
printed one can be read. -/
lemma snapshot_line {s t : Session} {ls : List String} (hs : s.Holds ls) (ht : t.Holds ls)
    (hidle : s.active = none) (u : Uuid) {m : Moment} (hm : m.isValid = true) :
    ∃ r, Snapshot.ofText ((s.snapshot u m).prettyText ++ "\n") = .ok r ∧ Depicts r t := by
  have hreadable : (s.snapshot u m).Readable := ⟨hm, hs.consistent.check_snapshot u m⟩
  have hrunning : (s.snapshot u m).running = false := congrArg Option.isSome hidle
  obtain ⟨hrobot, hjournal, houtput⟩ := hs.agree ht
  exact ⟨_, hreadable.ofText_line, hrobot, houtput, hjournal, hrunning⟩

/-! ### What is printed at the end -/

/-- Reports are asked for, but neither a snapshot nor the journal. -/
def Options.ReportsOnly (o : Options) : Prop := o.json = false ∧ o.history = false

variable {o : Options}

lemma closing_reports (h : o.ReportsOnly) (s : Session) (isRepl : Bool) (w : Surroundings) :
    closing s o isRepl w = if isRepl then "" else unlines s.output := by
  rw [closing, h.1, h.2, if_neg Bool.false_ne_true, if_neg Bool.false_ne_true, String.empty_append]

lemma closing_json (h : o.json = true) (s : Session) (isRepl : Bool) (w : Surroundings) :
    closing s o isRepl w = (s.snapshot w.sessionId w.now).prettyText ++ "\n" := if_pos h

/-! ### Launches -/

lemma afterSettings_eq (w : Surroundings) (o : Options) :
    w.afterSettings o = { w with stdin := (w.afterSettings o).stdin } := by
  rw [Surroundings.afterSettings]
  split <;> rfl

lemma script_stdin {w : Surroundings} {path : Option String}
    (h : ∀ p ∈ scriptFile? path, w.isStdin p = true) : script w path = .ok w.stdin := by
  rw [script]
  split
  · rfl
  · next p hp =>
    rw [Surroundings.file, if_pos (h p hp)]
    rfl

/-- The arguments call for `mode`, the settings are good, and `text` is left to read on standard
input. -/
structure Launch (args : List String) (w : Surroundings) (mode : Mode) (o : Options)
    (settings : Settings) (text : String) : Prop where
  parsed : parse args = .ok (.perform mode o)
  loaded : w.loadSettings o = .ok settings
  left : (w.afterSettings o).stdin = text

namespace Launch

variable {args : List String} {w : Surroundings} {mode : Mode} {settings : Settings}
  {text : String}

lemma run_eq (h : Launch args w mode o settings text) :
    CommandLine.run args w = perform { w with stdin := text } o mode := by
  rw [CommandLine.run, h.parsed]
  dsimp only
  rw [h.loaded, ← h.left, ← afterSettings_eq]
  rfl

lemma run_script {path : Option String} (h : Launch args w (.run path) o settings text)
    (hpath : ∀ p ∈ scriptFile? path, w.isStdin p = true) :
    ∃ p, CommandLine.run args w = .ok p ∧ p.stdout = closing (runToEnd text) o false w := by
  have hscript : script { w with stdin := text } path = .ok text := script_stdin hpath
  rw [h.run_eq, perform, hscript]
  exact ⟨_, rfl, rfl⟩

lemma run_repl (h : Launch args w .repl o settings text) :
    let d := Dialogue.run {} (scriptLines text)
    ∃ p, CommandLine.run args w = .ok p ∧
      p.stdout = (if o.json then "" else d.printed.stdout) ++ closing d.session o true w := by
  intro d
  rw [h.run_eq, perform]
  refine ⟨_, rfl, ?_⟩
  change (if o.json = true then ({} : Printed) else d.printed).stdout ++ _ = _
  split <;> rfl

end Launch

/-- **The front ends agree.** Let a script be read from standard input by one launch and paced to
its end, and the same text line by line by another, both with good settings. A value of the output
is what one of the reports says, in order, and the pose of a robot. If nothing but reports is asked
for, both launches print these values, one to a line and nothing else. If snapshots are asked for,
both are read back and show the same robot, output and journal, in a session that is idle. -/
theorem front_ends_agree {args args' : List String} {w w' : Surroundings} {path : Option String}
    {o o' : Options} {settings : Settings} {text : String}
    (h : Launch args w (.run path) o settings text) (h' : Launch args' w' .repl o' settings text)
    (hpath : ∀ p ∈ scriptFile? path, w.isStdin p = true) :
    let done := runToEnd text
    (done.journal.map Entry.command = (queued (scriptLines text)).map normalize ∧
      done.output.map ("REPORT: " ++ ·) =
        (done.journal.filter (·.severity == .report)).map Entry.message ∧
      ∀ v ∈ done.output, ∃ q : Pose, v = q.report) ∧
    ∃ p p', run args w = .ok p ∧ run args' w' = .ok p' ∧
      (o.ReportsOnly → o'.ReportsOnly →
        p.stdout = unlines done.output ∧ p'.stdout = p.stdout) ∧
      (o.json = true → o'.json = true → w.now.isValid = true → w'.now.isValid = true →
        ∃ r r', Snapshot.ofText p.stdout = .ok r ∧ Snapshot.ofText p'.stdout = .ok r' ∧
          Depicts r done ∧ Depicts r' done) := by
  intro done
  have hdone : done.Holds (queued (scriptLines text)) := holds_runToEnd text
  have hidle : done.active = none := runToEnd_active text
  obtain ⟨p, hp, hout⟩ := h.run_script hpath
  obtain ⟨p', hp', hout'⟩ := h'.run_repl
  have hsession := Dialogue.session_of_run (scriptLines text)
  have hshows : (Dialogue.run {} (scriptLines text)).Shows :=
    Dialogue.Shows.run (d := {}) rfl (scriptLines text)
  have htalk := Session.holds_executeAll (queued (scriptLines text))
  obtain ⟨-, -, houtput⟩ := htalk.agree hdone
  rw [Dialogue.Shows, hsession, houtput] at hshows
  rw [hsession] at hout'
  refine ⟨⟨hdone.commands, hdone.tells.marked, hdone.tells.poses⟩, p, p', hp, hp', ?_, ?_⟩
  · intro ho ho'
    rw [closing_reports ho] at hout
    rw [closing_reports ho', ho'.1, hshows, if_neg Bool.false_ne_true, if_pos rfl,
      String.append_empty] at hout'
    exact ⟨hout, hout'.trans hout.symm⟩
  · intro ho ho' hnow hnow'
    rw [closing_json ho] at hout
    rw [closing_json ho', if_pos ho', String.empty_append] at hout'
    obtain ⟨r, hr, hdepicts⟩ := snapshot_line hdone hdone hidle w.sessionId hnow
    obtain ⟨r', hr', hdepicts'⟩ := snapshot_line htalk hdone
      (Session.executeAll_active {} _) w'.sessionId hnow'
    exact ⟨r, r', hout ▸ hr, hout' ▸ hr', hdepicts, hdepicts'⟩

/-- Both ends of lines, a blank line, and a robot that is placed twice and refused once. The
launches do not share their stamps. -/
theorem front_ends_agree_mixed_lines :
    let text :=
      "place 0,0,north\r\n\nreport\nmove\r\nplace 9,0,east\nreport\nplace 4,4,west\nReport"
    let w : Surroundings := {
      formats :=
        ⟨fun _ => none, fun f => if f = "info" then none else some "invalid filter directive"⟩
      sources := ⟨fun _ => .error .notFound, fun _ => none⟩
      stdin := text }
    let w' : Surroundings := { w with now := ⟨⟨2024, 2, 29⟩, 1439, 59, 5⟩ }
    (∃ p p', run ["run"] w = .ok p ∧ run ["repl"] w' = .ok p' ∧
      p.stdout = "0,0,NORTH\n0,1,NORTH\n4,4,WEST\n" ∧ p'.stdout = p.stdout) ∧
    ∃ p p' r r', run ["--json", "run", "-"] w = .ok p ∧ run ["repl", "--json"] w' = .ok p' ∧
      Snapshot.ofText p.stdout = .ok r ∧ Snapshot.ofText p'.stdout = .ok r' ∧
      r.output = r'.output ∧ r.running = false := by
  intro text w w'
  constructor
  · have h : Launch ["run"] w (.run none) {} {} text := ⟨rfl, by decide +kernel, rfl⟩
    have h' : Launch ["repl"] w' .repl {} {} text := ⟨rfl, by decide +kernel, rfl⟩
    obtain ⟨-, p, p', hp, hp', hreports, -⟩ := front_ends_agree h h' (by simp [scriptFile?])
    obtain ⟨hout, hsame⟩ := hreports ⟨rfl, rfl⟩ ⟨rfl, rfl⟩
    refine ⟨p, p', hp, hp', hout.trans ?_, hsame⟩
    rw [runToEnd_eq]
    decide +kernel
  · let o : Options := { json := true }
    have h : Launch ["--json", "run", "-"] w (.run (some "-")) o {} text :=
      ⟨rfl, by decide +kernel, rfl⟩
    have h' : Launch ["repl", "--json"] w' .repl o {} text := ⟨rfl, by decide +kernel, rfl⟩
    have hdash : scriptFile? (some "-") = none := by decide +kernel
    obtain ⟨-, p, p', hp, hp', -, hjson⟩ := front_ends_agree h h' (by simp [hdash])
    obtain ⟨r, r', hr, hr', hdepicts, hdepicts'⟩ := hjson rfl rfl (by decide) (by decide)
    exact ⟨p, p', r, r', hp, hp', hr, hr', hdepicts.output.trans hdepicts'.output.symm,
      hdepicts.idle⟩

end TabletopRobot.CommandLine

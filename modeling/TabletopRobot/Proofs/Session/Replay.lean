import TabletopRobot.Proofs.Session.Reachable
import TabletopRobot.Proofs.Text.Normalize

/-!
The journal is a complete log: a new session that runs the commands of a journal as one batch
comes to the same robot, the same journal and the same output.
-/

namespace TabletopRobot

namespace Session

variable (s : Session)

lemma execute_normalize (raw : String) : s.execute (normalize raw) = s.execute raw := by
  simp only [execute, entryOf, Robot.applyLine, parse_normalize, normalize_normalize]

lemma executeAll_normalize (ls : List String) :
    s.executeAll (ls.map normalize) = s.executeAll ls := by
  induction ls generalizing s with
  | nil => rfl
  | cons l ls ih => rw [List.map_cons, executeAll_cons, execute_normalize, ih, executeAll_cons]

lemma Holds.of_normalize {s : Session} {ls : List String} (h : s.Holds (ls.map normalize)) :
    s.Holds ls := by
  obtain ⟨e, a, h⟩ := h
  exact ⟨e, a, by rw [h, executeAll_normalize]⟩

end Session

/-- **Replay.** In every session that calls lead to, running the commands of the journal in a
new session gives the robot, the journal and the output again. The commands are the normal
forms of the lines that were executed; none of them is blank, and each is read as its line
was. -/
theorem replay_journal {s : Session} {ls : List String} {bs : List Batch}
    (h : Reachable s ls bs) :
    let t := (Session.runAll {} (s.journal.map Entry.command)).2
    (t.robot = s.robot ∧ t.journal = s.journal ∧ t.output = s.output) ∧
      (∀ e ∈ s.journal, isBlankLine e.command = false) ∧
      s.journal.map Entry.command = ls.map normalize ∧
      s.journal.map (fun e => Command.parse e.command) = ls.map Command.parse := by
  obtain ⟨hs, hls, -⟩ := h.holds
  have hcommands := hs.commands
  have hblank : ∀ l ∈ ls.map normalize, isBlankLine l = false :=
    List.forall_mem_map.mpr fun l hl => isBlankLine_normalize (hls l hl)
  refine ⟨?_, ?_, hcommands, ?_⟩
  · have ht := Session.holds_runAll {} (s.journal.map Entry.command)
    rw [hcommands, queued_of_forall hblank] at ht
    rw [hcommands]
    exact ht.of_normalize.agree hs
  · rw [← hcommands] at hblank
    exact List.forall_mem_map.mp hblank
  · have hparse : (s.journal.map Entry.command).map Command.parse = ls.map Command.parse := by
      simp only [hcommands, List.map_map, Function.comp_def, parse_normalize]
    simpa only [List.map_map, Function.comp_def] using hparse

theorem replay_journal_open_batch :
    let b := (Session.begin {} [" place 0,0,north", " ", "ﬁx"]).1
    let s := ((Session.begin {} [" place 0,0,north", " ", "ﬁx"]).2.enter "straße ").2
    let u := (s.step b).2.2
    Reachable u ["straße ", " place 0,0,north"] [(s.step b).2.1, b] ∧
      u.journal.map Entry.command = ["STRASSE", "PLACE 0,0,NORTH"] ∧
      (Session.runAll {} ["STRASSE", "PLACE 0,0,NORTH"]).2.journal = u.journal := by
  intro b s u
  have h : Reachable u ["straße ", " place 0,0,north"] [(s.step b).2.1, b] :=
    .step (List.mem_singleton_self b) (.enter "straße " (.begin _ .new))
  have hcommands : u.journal.map Entry.command = ["STRASSE", "PLACE 0,0,NORTH"] := by
    decide +kernel
  obtain ⟨⟨-, hjournal, -⟩, -⟩ := replay_journal h
  rw [hcommands] at hjournal
  exact ⟨h, hcommands, hjournal⟩

end TabletopRobot

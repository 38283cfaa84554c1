import TabletopRobot.Proofs.Session.Reports

/-!
Lines that are refused leave no trace but their entries: without them, everything else comes out
the same.
-/

namespace TabletopRobot

/-! ### Refusals -/

/-- A warning or an error. -/
def Severity.refuses : Severity → Bool
  | error | warning => true
  | _ => false

namespace Outcome

lemma refuses_severity (o : Outcome) : o.severity.refuses = o.isRejection := by cases o <;> rfl

lemma report?_of_isRejection {o : Outcome} (h : o.isRejection = true) : o.report? = none := by
  refine report?_of_severity fun hreport => ?_
  rw [← refuses_severity, hreport] at h
  cases h

end Outcome

namespace Robot

/-- A command that is refused leaves the robot as it is. -/
lemma apply_of_isRejection {r : Robot} {c : Command} (h : (r.apply c).2.isRejection = true) :
    (r.apply c).1 = r := by
  cases c with
  | place x y f =>
    rw [apply] at h ⊢
    split at h
    · cases h
    · rfl
  | move =>
    cases r with
    | unplaced => rfl
    | placed p =>
      rw [apply] at h ⊢
      split at h
      · cases h
      · rfl
  | turn t =>
    cases r with
    | unplaced => rfl
    | placed p => cases h
  | _ => cases r <;> rfl

lemma applyLine_of_isRejection {r : Robot} {raw : String}
    (h : (r.applyLine raw).2.isRejection = true) : (r.applyLine raw).1 = r := by
  unfold applyLine at h ⊢
  cases hparse : Command.parse raw with
  | ok c =>
    rw [hparse] at h
    exact apply_of_isRejection h
  | error m => rfl

end Robot

/-! ### Journals without refusals -/

/-- Neither a warning nor an error. -/
def Entry.isHeeded (e : Entry) : Bool := !e.severity.refuses

namespace Journal

def heeded (j : Journal) : Journal := j.filter Entry.isHeeded

/-- The entries, numbered from one. -/
def renumbered (j : Journal) : Journal := j.mapIdx fun i e => { e with sequence := numberAt i }

lemma renumbered_concat (j : Journal) (e : Entry) :
    renumbered (j ++ [e]) = j.renumbered ++ [{ e with sequence := numberAt j.length }] :=
  List.mapIdx_concat

lemma length_renumbered (j : Journal) : j.renumbered.length = j.length := List.length_mapIdx

lemma heeded_concat (j : Journal) (e : Entry) :
    heeded (j ++ [e]) = j.heeded ++ if e.isHeeded then [e] else [] := by
  rw [heeded, List.filter_append, List.filter_singleton]
  cases e.isHeeded <;> rfl

end Journal

/-- The lines that have entries, place by place, that are neither warnings nor errors. -/
def heededLines (ls : List String) (j : Journal) : List String :=
  ((ls.zip j).filter (·.2.isHeeded)).map Prod.fst

lemma heededLines_concat {ls : List String} {j : Journal} (h : ls.length = j.length) (l : String)
    (e : Entry) :
    heededLines (ls ++ [l]) (j ++ [e]) = heededLines ls j ++ if e.isHeeded then [l] else [] := by
  rw [heededLines, List.zip_append h, List.filter_append, List.map_append, List.zip_cons_cons,
    List.zip_nil_right, List.filter_singleton]
  cases e.isHeeded <;> rfl

lemma heededLines_subset (ls : List String) (j : Journal) : heededLines ls j ⊆ ls := by
  intro l hl
  obtain ⟨⟨l', e⟩, hmem, rfl⟩ := List.mem_map.mp hl
  exact (List.of_mem_zip (List.mem_filter.mp hmem).1).1

namespace Session

variable {s t : Session}

lemma holds_executeAll (ls : List String) : (({} : Session).executeAll ls).Holds ls :=
  ⟨_, _, rfl⟩

/-- The session `t` is as `s`, but for the entries of refused lines. -/
structure Shadows (s t : Session) : Prop where
  robot : t.robot = s.robot
  output : t.output = s.output
  journal : t.journal = s.journal.heeded.renumbered

lemma shadows_new : Shadows {} {} := ⟨rfl, rfl, rfl⟩

/-- A refused line adds an entry and changes nothing else. -/
lemma Shadows.refused (h : Shadows s t) {l : String} (hl : (s.entryOf l).isHeeded = false) :
    Shadows (s.execute l) t := by
  have hrejected : (s.robot.applyLine l).2.isRejection = true := by
    simpa [Entry.isHeeded, entryOf_severity, Outcome.refuses_severity] using hl
  constructor
  case robot => rw [execute_robot, Robot.applyLine_of_isRejection hrejected, h.robot]
  case output =>
    rw [execute_output, Outcome.report?_of_isRejection hrejected, h.output]
    simp
  case journal => rw [execute_journal, Journal.heeded_concat, hl, h.journal]; simp

/-- Another line does the same to both. -/
lemma Shadows.heeded (h : Shadows s t) {l : String} (hl : (s.entryOf l).isHeeded = true) :
    Shadows (s.execute l) (t.execute l) := by
  have hrobot := h.robot
  constructor
  case robot => rw [execute_robot, execute_robot, hrobot]
  case output => rw [execute_output, execute_output, hrobot, h.output]
  case journal =>
    rw [execute_journal, execute_journal, Journal.heeded_concat, hl, if_pos rfl,
      Journal.renumbered_concat, ← h.journal, entryOf, entryOf, hrobot, Journal.next, Journal.next,
      h.journal, Journal.length_renumbered]

lemma shadows_heededLines (ls : List String) :
    let s := ({} : Session).executeAll ls
    Shadows s (({} : Session).executeAll (heededLines ls s.journal)) := by
  induction ls using List.reverseRecOn with
  | nil => exact shadows_new
  | append_singleton ls l ih =>
    have hlength : ls.length = (({} : Session).executeAll ls).journal.length := by
      simp [executeAll_journal_length]
    dsimp only at ih ⊢
    rw [executeAll_append, executeAll_cons, executeAll_nil, execute_journal,
      heededLines_concat hlength]
    cases hl : ((({} : Session).executeAll ls).entryOf l).isHeeded with
    | true =>
      rw [if_pos rfl, executeAll_append]
      exact ih.heeded hl
    | false =>
      rw [if_neg Bool.false_ne_true, List.append_nil]
      exact ih.refused hl

end Session

/-- **Refused lines are invisible.** Let lines be run as a batch. Its journal has an entry for each
line that is not blank; take only the lines whose entries are neither warnings nor errors. As a
batch, they lead to the same robot and the same output, and to a journal that holds their
entries, numbered anew. -/
theorem refused_lines_invisible (s t : Session) (lines : List String) :
    let done := (s.runAll lines).2
    let kept := heededLines (queued lines) done.journal
    let again := (t.runAll kept).2
    done.journal.map Entry.command = (queued lines).map normalize ∧
      again.robot = done.robot ∧ again.output = done.output ∧
      again.journal = done.journal.heeded.renumbered := by
  intro done kept again
  have hdone : done.Holds (queued lines) := Session.holds_runAll s lines
  have hkept : queued kept = kept := queued_of_forall fun l hl =>
    (mem_queued.mp (heededLines_subset _ _ hl)).2
  have hagain : again.Holds kept := hkept ▸ Session.holds_runAll t kept
  obtain ⟨hrobot, hjournal, houtput⟩ := hdone.agree (Session.holds_executeAll (queued lines))
  obtain ⟨hrobot', hjournal', houtput'⟩ := hagain.agree (Session.holds_executeAll kept)
  obtain ⟨hsame, hsame', hheeded⟩ := Session.shadows_heededLines (queued lines)
  rw [← hjournal] at hsame hsame' hheeded
  refine ⟨hdone.commands, ?_, ?_, ?_⟩
  · exact hrobot'.trans (hsame.trans hrobot.symm)
  · exact houtput'.trans (hsame'.trans houtput.symm)
  · exact hjournal'.trans hheeded

end TabletopRobot

import TabletopRobot.Proofs.Session.Reachable

/-!
What the entries of a journal are, one by one, and that the output holds what the reports among
them say.
-/

namespace TabletopRobot

/-! ### Outcomes -/

/-- What the message of a report begins with. -/
def reportMark : String := "REPORT: "

namespace Outcome

lemma severity_ne_info (o : Outcome) : o.severity ≠ .info := by cases o <;> simp [severity]

lemma head_append {s : String} {c : Char} (h : s.toList.head? = some c) (t : String) :
    (s ++ t).toList.head? = some c := by
  rw [String.toList_append, List.head?_append, h, Option.some_or]

/-- What the message begins with. -/
def initial : Outcome → Char
  | placed _ => 'P'
  | moved _ | blocked _ => 'M'
  | turned .. => 'T'
  | reported _ => 'R'
  | offTable .. | malformed _ => 'I'
  | notPlaced => 'C'
  | unknown _ => 'U'

lemma head_message (o : Outcome) : o.message.toList.head? = some o.initial := by
  cases o with
  | placed p => exact head_append (head_append (head_append rfl _) _) _
  | moved q => exact head_append rfl _
  | turned t f => exact head_append (head_append (head_append rfl _) _) _
  | reported p => exact head_append rfl _
  | offTable x y => exact head_append rfl _
  | blocked p =>
    have h : "Move ignored: would fall off table".toList.head? = some 'M' := by decide +kernel
    exact h
  | notPlaced => rfl
  | malformed fs => exact head_append rfl _
  | unknown line => exact head_append rfl _

lemma message_of_report {o : Outcome} (h : o.severity = .report) :
    ∃ p, o = .reported p ∧ o.message = reportMark ++ p.report := by
  cases o with
  | reported p => exact ⟨p, rfl, rfl⟩
  | _ => cases h

lemma mark_prefix_message (o : Outcome) :
    reportMark.toList <+: o.message.toList ↔ o.severity = .report := by
  constructor
  · rintro ⟨t, ht⟩
    by_contra h
    have hhead := head_message o
    rw [← ht] at hhead
    have hinitial : o.initial = 'R' := (Option.some.inj hhead).symm
    cases o <;> simp_all [initial, severity]
  · intro h
    obtain ⟨p, -, hp⟩ := message_of_report h
    rw [hp, String.toList_append]
    exact List.prefix_append _ _

lemma message_of_report? (o : Outcome) :
    o.report?.toList.map (reportMark ++ ·) = if o.severity == .report then [o.message] else [] := by
  cases o <;> rfl

/-- Only a report has a value for the output. -/
lemma report?_of_severity {o : Outcome} (h : o.severity ≠ .report) : o.report? = none := by
  cases o with
  | reported p => exact absurd rfl h
  | _ => rfl

end Outcome

/-! ### The robot -/

/-- The robot after lines, one by one. -/
def Robot.after (r : Robot) (ls : List String) : Robot := ls.foldl (fun r l => (r.applyLine l).1) r

namespace Robot

@[simp] lemma after_nil (r : Robot) : r.after [] = r := rfl
@[simp] lemma after_cons (r : Robot) (l : String) (ls : List String) :
    r.after (l :: ls) = (r.applyLine l).1.after ls := rfl
lemma after_append (r : Robot) (ls ms : List String) :
    r.after (ls ++ ms) = (r.after ls).after ms := by
  simp [after, List.foldl_append]

/-- Only a robot on the table reports, and it stays where it is. -/
lemma apply_reported {r : Robot} {c : Command} {p : Pose} (h : (r.apply c).2 = .reported p) :
    r = .placed p ∧ (r.apply c).1 = .placed p := by
  cases c with
  | place x y f =>
    rw [apply] at h
    split at h <;> cases h
  | report =>
    cases r with
    | unplaced => cases h
    | placed q =>
      obtain rfl : q = p := Outcome.reported.inj h
      exact ⟨rfl, rfl⟩
  | move =>
    cases r with
    | unplaced => cases h
    | placed q =>
      rw [apply] at h
      split at h <;> cases h
  | _ => cases r <;> cases h

lemma applyLine_reported {r : Robot} {raw : String} {p : Pose}
    (h : (r.applyLine raw).2 = .reported p) : r = .placed p ∧ (r.applyLine raw).1 = .placed p := by
  unfold applyLine at h ⊢
  cases hparse : Command.parse raw with
  | ok c =>
    rw [hparse] at h
    exact apply_reported h
  | error m =>
    rw [hparse] at h
    cases h

end Robot

/-! ### Poses in print -/

lemma Pose.report_shape (p : Pose) :
    ∃ (x y : ℕ) (d : Direction), x ≤ 4 ∧ y ≤ 4 ∧
      p.report = toString x ++ "," ++ toString y ++ "," ++ d.name :=
  ⟨p.position.x, p.position.y, p.facing, Nat.le_of_lt_succ p.position.x.isLt,
    Nat.le_of_lt_succ p.position.y.isLt, rfl⟩

/-! ### Entries -/

namespace Session

variable (s : Session)

lemma executeAll_robot (ls : List String) : (s.executeAll ls).robot = s.robot.after ls := by
  induction ls generalizing s with
  | nil => rfl
  | cons l ls ih => exact ih (s.execute l)

lemma executeAll_journal_length (ls : List String) :
    (s.executeAll ls).journal.length = s.journal.length + ls.length := by
  simpa using congrArg List.length (s.executeAll_commands ls)

/-- Each line adds the entry that the session before it gives it. -/
lemma getElem?_journal_executeAll (ls : List String) (i : ℕ) :
    (s.executeAll ls).journal[s.journal.length + i]? =
      (ls[i]?).map (s.executeAll (ls.take i)).entryOf := by
  induction ls generalizing s i with
  | nil => simp
  | cons l ls ih =>
    have hlength : (s.execute l).journal.length = s.journal.length + 1 := by simp
    cases i with
    | zero =>
      obtain ⟨more, hmore⟩ := (s.execute l).journal_prefix_executeAll ls
      rw [executeAll_cons, ← hmore, execute_journal]
      simp
    | succ i =>
      have hrest := ih (s.execute l) i
      rw [hlength, Nat.add_assoc, Nat.add_comm 1] at hrest
      simpa using hrest

/-- The values of the output are what the reports among the entries say. -/
structure Tells (s : Session) : Prop where
  marked : s.output.map (reportMark ++ ·) =
    (s.journal.filter (·.severity == .report)).map Entry.message
  poses : ∀ t ∈ s.output, ∃ p : Pose, t = p.report

lemma tells_new : Tells {} := ⟨rfl, by simp⟩

lemma Tells.execute {s : Session} (h : s.Tells) (raw : String) : (s.execute raw).Tells where
  marked := by
    have hreport := (s.robot.applyLine raw).2.message_of_report?
    have hentry : [s.entryOf raw].filter (·.severity == .report) =
        if (s.robot.applyLine raw).2.severity == .report then [s.entryOf raw] else [] :=
      List.filter_singleton.trans (Bool.cond_eq_ite ..)
    rw [execute_output, execute_journal, List.map_append, List.filter_append, List.map_append,
      h.marked, hreport, hentry]
    split <;> rfl
  poses := by
    rw [execute_output]
    refine List.forall_mem_append.mpr ⟨h.poses, fun t ht => ?_⟩
    cases ho : (s.robot.applyLine raw).2 with
    | reported p =>
      rw [ho] at ht
      exact ⟨p, List.mem_singleton.mp ht⟩
    | _ =>
      rw [ho] at ht
      cases ht

lemma Holds.tells {s : Session} {ls : List String} (h : s.Holds ls) : s.Tells := by
  refine h.induction tells_new (fun _ raw ht => ht.execute raw) fun t e a ht => ?_
  exact ⟨ht.marked, ht.poses⟩

/-- Entry by entry, a journal is what came of the lines. -/
lemma Holds.getElem?_journal {s : Session} {ls : List String} (h : s.Holds ls) (i : ℕ) :
    s.journal[i]? = (ls[i]?).map fun l =>
      let o := ((Robot.unplaced.after (ls.take i)).applyLine l).2
      ⟨.ofNat (i + 1), normalize l, o.message, o.severity⟩ := by
  obtain ⟨e, a, rfl⟩ := h
  have hentry := getElem?_journal_executeAll {} ls i
  rw [List.length_nil, Nat.zero_add] at hentry
  change (({} : Session).executeAll ls).journal[i]? = _
  rw [hentry]
  refine Option.map_congr fun l hl => ?_
  have hlength : (({} : Session).executeAll (ls.take i)).journal.length = i := by
    have hi := (List.getElem?_eq_some_iff.mp hl).1
    rw [executeAll_journal_length, List.length_take_of_le hi.le, List.length_nil, Nat.zero_add]
  rw [entryOf, executeAll_robot, Journal.next, hlength]
  rfl

end Session

/-- **The logs agree.** In every session that calls lead to, with `ls` the lines executed since
the last fresh start: the entries of the journal are numbered from one; none is a mere
information, and exactly the reports bear the mark of a report. A report gives the pose that the
robot had at its line. The output consists of what the reports say, in order, and each of its
values is a cell of the table and a direction. -/
theorem reports_are_output {s : Session} {ls : List String} {bs : List Batch}
    (h : Reachable s ls bs) :
    (s.robot = Robot.unplaced.after ls ∧ s.journal.map Entry.command = ls.map normalize) ∧
      (∀ i e, s.journal[i]? = some e →
        e.sequence = .ofNat (i + 1) ∧ e.severity ≠ .info ∧
          ("REPORT: ".toList <+: e.message.toList ↔ e.severity = .report) ∧
          (e.severity = .report →
            ∃ p, Robot.unplaced.after (ls.take i) = .placed p ∧
              Robot.unplaced.after (ls.take (i + 1)) = .placed p ∧
              e.message = "REPORT: " ++ p.report)) ∧
      (s.output.map ("REPORT: " ++ ·) =
          (s.journal.filter (·.severity == .report)).map Entry.message ∧
        s.journal.count .report = s.output.length) ∧
      ∀ t ∈ s.output, ∃ (x y : ℕ) (d : Direction), x ≤ 4 ∧ y ≤ 4 ∧
        t = toString x ++ "," ++ toString y ++ "," ++ d.name := by
  have hs := h.holds.1
  refine ⟨⟨?_, hs.commands⟩, fun i e he => ?_, ⟨hs.tells.marked, ?_⟩, fun t ht => ?_⟩
  · obtain ⟨e, a, rfl⟩ := hs
    exact Session.executeAll_robot {} ls
  · rw [hs.getElem?_journal, Option.map_eq_some_iff] at he
    obtain ⟨l, hl, rfl⟩ := he
    refine ⟨rfl, Outcome.severity_ne_info _, Outcome.mark_prefix_message _, fun hreport => ?_⟩
    obtain ⟨p, ho, hmessage⟩ := Outcome.message_of_report hreport
    obtain ⟨hbefore, hafter⟩ := Robot.applyLine_reported ho
    refine ⟨p, hbefore, ?_, hmessage⟩
    rw [List.take_add_one, hl, Robot.after_append]
    exact hafter
  · have hcount := congrArg List.length hs.tells.marked
    rw [List.length_map, List.length_map] at hcount
    rw [hcount]
    exact List.countP_eq_length_filter
  · obtain ⟨p, rfl⟩ := hs.tells.poses t ht
    exact p.report_shape

theorem reports_are_output_open_batch :
    let start := Session.begin {} ["place 4,3,north", " ", "report", "move"]
    let first := start.2.step start.1
    let second := (first.2.2.enter "report: 0,0,west").2.step first.2.1
    let s := second.2.2
    Reachable s ["place 4,3,north", "report: 0,0,west", "report"]
        [second.2.1, first.2.1, start.1] ∧
      s.journal.map Entry.severity = [.success, .error, .report] ∧
      (∃ p, Robot.unplaced.after ["place 4,3,north", "report: 0,0,west"] = .placed p ∧
        s.journal[2]?.map Entry.message = some ("REPORT: " ++ p.report)) ∧
      s.output.length = 1 := by
  intro start first second s
  have h : Reachable s ["place 4,3,north", "report: 0,0,west", "report"]
      [second.2.1, first.2.1, start.1] :=
    .step List.mem_cons_self (.enter "report: 0,0,west"
      (.step (List.mem_singleton_self start.1) (.begin _ .new)))
  have hseverity : s.journal.map Entry.severity = [.success, .error, .report] := by
    decide +kernel
  have hthird : s.journal[2]?.map Entry.severity = some .report := by
    rw [← List.getElem?_map, hseverity]
    rfl
  obtain ⟨e, he, hreport⟩ := Option.map_eq_some_iff.mp hthird
  obtain ⟨-, hentry, ⟨-, hcount⟩, -⟩ := reports_are_output h
  obtain ⟨-, -, -, hpose⟩ := hentry 2 e he
  obtain ⟨p, hbefore, -, hmessage⟩ := hpose hreport
  refine ⟨h, hseverity, ⟨p, hbefore, by rw [he, Option.map_some, hmessage]⟩, ?_⟩
  rw [← hcount]
  decide +kernel

end TabletopRobot

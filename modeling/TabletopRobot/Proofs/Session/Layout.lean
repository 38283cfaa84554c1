import TabletopRobot.Proofs.Session.Paths
import TabletopRobot.Proofs.Session.Replay
import TabletopRobot.Proofs.Text.Fields

/-!
The layout of a script does not matter: how its lines end, whether the last one does, and where
there are blank lines between them.

What a session makes of lines depends on their cores only: the lines that are not blank, without
the blanks around them. A script has the cores of its pieces between newlines, and a carriage
return in front of a newline is one of the blanks around a piece.
-/

namespace TabletopRobot

/-! ### Cores -/

namespace Text

/-- Pieces of a text without the blank ones, and without the blanks around the others. -/
def cores (ps : List (List Char)) : List (List Char) := (ps.filter (!blank ·)).map trim

@[simp] lemma cores_nil : cores [] = [] := rfl

lemma cores_append (ps qs : List (List Char)) : cores (ps ++ qs) = cores ps ++ cores qs := by
  rw [cores, List.filter_append, List.map_append, cores, cores]

lemma cores_cons (p : List Char) (ps : List (List Char)) :
    cores (p :: ps) = cores [p] ++ cores ps := cores_append [p] ps

lemma cores_of_blank {p : List Char} (h : blank p = true) : cores [p] = [] := by
  simp [cores, h]

lemma cores_eq_nil {ps : List (List Char)} (h : ∀ p ∈ ps, blank p = true) : cores ps = [] := by
  rw [cores, List.filter_eq_nil_iff.mpr fun p hp => by simp [h p hp], List.map_nil]

/-- Blanks at the end of a piece do not show in its core. -/
lemma cores_append_blank {v : List Char} (hv : blank v = true) (p : List Char) :
    cores [p ++ v] = cores [p] := by
  have htrim : trim (p ++ v) = trim p := trim_surround (u := []) rfl hv p
  cases hp : blank p with
  | true => rw [cores_of_blank hp, cores_of_blank (by rw [blank_append, hp, hv]; rfl)]
  | false => simp [cores, blank_append, hp, htrim]

lemma cores_dropReturn (p : List Char) : cores [dropReturn p] = cores [p] := by
  rw [dropReturn]
  split
  · next h =>
    conv_rhs => rw [← List.dropLast_append_getLast? '\r' h]
    rw [cores_append_blank rfl]
  · rfl

lemma cores_map_dropReturn (ps : List (List Char)) : cores (ps.map dropReturn) = cores ps := by
  induction ps with
  | nil => rfl
  | cons p ps ih => rw [List.map_cons, cores_cons, cores_dropReturn, ih, ← cores_cons]

/-- The lines of a text have the cores of the pieces between its newlines. -/
lemma cores_lines (s : List Char) : cores (lines s) = cores (splitAt '\n' s) := by
  have hne : splitAt '\n' s ≠ [] := by
    rw [splitAt_eq_splitOn]
    exact List.splitOnP_ne_nil _ s
  have hlast : (splitAt '\n' s).getLastD [] = (splitAt '\n' s).getLast hne := by
    rw [List.getLastD_eq_getLast?, List.getLast?_eq_some_getLast hne, Option.getD_some]
  have hrest : ∀ l : List Char, cores (if l.isEmpty then [] else [l]) = cores [l] := by
    intro l
    cases l <;> rfl
  rw [lines, cores_append, cores_map_dropReturn, hrest, hlast, ← cores_append,
    List.dropLast_append_getLast hne]

/-- A piece that is blank or has no newline, and further blanks after it. -/
lemma cores_splitAt_piece {p v : List Char} (hp : '\n' ∉ p ∨ blank p = true) (hv : blank v = true)
    (hvline : '\n' ∉ v) : cores (splitAt '\n' (p ++ v)) = cores [p] := by
  rcases hp with hp | hp
  · rw [splitAt_of_not_mem (by simp [hp, hvline]), cores_append_blank hv]
  · have hall : blank (p ++ v) = true := by rw [blank_append, hp, hv]; rfl
    rw [cores_of_blank hp]
    refine cores_eq_nil fun q hq => blank_iff.mpr fun c hc => blank_iff.mp hall c ?_
    exact mem_of_mem_splitAt hq hc

end Text

/-- What a batch queues, as far as a session can tell. -/
lemma queued_map_normalize (ls : List String) :
    (queued ls).map normalize =
      (Text.cores (ls.map String.toList)).map fun s => String.ofList (Text.upper s) := by
  rw [Text.cores, List.filter_map, List.map_map, List.map_map]
  rfl

/-- Lines with the same cores make the same batch. -/
lemma Session.runAll_congr (s : Session) {ls ms : List String}
    (h : Text.cores (ls.map String.toList) = Text.cores (ms.map String.toList)) :
    s.runAll ls = s.runAll ms := by
  have hsame : (queued ls).map normalize = (queued ms).map normalize := by
    rw [queued_map_normalize, queued_map_normalize, h]
  have hlength := congrArg List.length hsame
  rw [List.length_map, List.length_map] at hlength
  rw [runAll_eq, runAll_eq, hlength, ← executeAll_normalize, hsame, executeAll_normalize]

/-! ### Scripts -/

/-- How a line of a script ends. -/
inductive LineEnd
  | newline
  | returnNewline

def LineEnd.text : LineEnd → String
  | newline => "\n"
  | returnNewline => "\r\n"

/-- The pieces of a script: those with an end, and what follows the last end. If every line has
an end, nothing follows it. -/
structure Script where
  ended : List (String × LineEnd)
  last : String := ""

namespace Script

def text (sc : Script) : String := String.join (sc.ended.map fun p => p.1 ++ p.2.text) ++ sc.last

def pieces (sc : Script) : List String := sc.ended.map Prod.fst ++ [sc.last]

end Script

/-- The pieces `ps` are the lines `ls`, with blank pieces put in anywhere. -/
inductive Spaced : List String → List String → Prop
  | nil : Spaced [] []
  | line {ls ps} (l : String) (h : Spaced ls ps) : Spaced (l :: ls) (l :: ps)
  | blank {ls ps} {p : String} (hp : isBlankLine p = true) (h : Spaced ls ps) : Spaced ls (p :: ps)

lemma Spaced.cores_eq {ls ps : List String} (h : Spaced ls ps) :
    Text.cores (ps.map String.toList) = Text.cores (ls.map String.toList) := by
  induction h with
  | nil => rfl
  | line l _ ih =>
    rw [List.map_cons, Text.cores_cons, ih, List.map_cons, ← Text.cores_cons]
  | blank hp _ ih => rw [List.map_cons, Text.cores_cons, Text.cores_of_blank hp, ih, List.nil_append]

lemma Spaced.mem {ls ps : List String} (h : Spaced ls ps) :
    ∀ p ∈ ps, p ∈ ls ∨ isBlankLine p = true := by
  induction h with
  | nil => simp
  | line l _ ih =>
    refine List.forall_mem_cons.mpr ⟨Or.inl List.mem_cons_self, fun p hp => ?_⟩
    exact (ih p hp).imp_left (List.mem_cons_of_mem l)
  | blank hp _ ih => exact List.forall_mem_cons.mpr ⟨Or.inr hp, ih⟩

/-- A script has the cores of its pieces, unless a newline stands inside of one. -/
lemma Script.cores_lines {sc : Script}
    (h : ∀ p ∈ sc.pieces, '\n' ∉ p.toList ∨ isBlankLine p = true) :
    Text.cores (Text.lines sc.text.toList) = Text.cores (sc.pieces.map String.toList) := by
  obtain ⟨rows, last⟩ := sc
  rw [Text.cores_lines]
  induction rows with
  | nil =>
    have hlast := Text.cores_splitAt_piece (v := []) (h last (by simp [pieces])) rfl (by simp)
    simpa [text, pieces] using hlast
  | cons row rows ih =>
    obtain ⟨p, e⟩ := row
    obtain ⟨hp, hrows⟩ := List.forall_mem_cons.mp h
    have hrest := ih hrows
    -- the carriage return, if there is one, counts as a blank at the end of the piece
    obtain ⟨v, hv, hvline, he⟩ : ∃ v, Text.blank v = true ∧ '\n' ∉ v ∧
        e.text.toList = v ++ ['\n'] := by
      cases e
      · exact ⟨[], rfl, by simp, rfl⟩
      · exact ⟨['\r'], rfl, by simp, rfl⟩
    have htext : (Script.mk ((p, e) :: rows) last).text.toList =
        (p.toList ++ v) ++ '\n' :: (Script.mk rows last).text.toList := by
      simp [text, he]
    have hpieces : (Script.mk ((p, e) :: rows) last).pieces =
        p :: (Script.mk rows last).pieces := rfl
    rw [htext, Text.splitAt_append_cons, Text.cores_append, Text.cores_splitAt_piece hp hv hvline,
      hrest, hpieces, List.map_cons, ← Text.cores_cons]

lemma nonBlankLines_eq (t : String) : nonBlankLines t = queued (scriptLines t) := by
  rw [nonBlankLines, scriptLines, queued, List.filter_map, ← List.filterMap_eq_map,
    ← List.filterMap_eq_filter, List.filterMap_filterMap]
  refine List.filterMap_congr fun l _ => ?_
  cases hl : Text.blank l <;> simp [isBlankLine, hl, Option.guard]

/-- **The layout of a script does not matter.** Let lines without a newline be written as a
script, each ended by a newline or by a carriage return and a newline, the last one ended or not,
with any blank pieces in between. The lines of the script and its lines that are not blank, run
as a batch, give the same summary and leave the same session as the lines themselves. -/
theorem script_layout_immaterial (s : Session) {lines : List String} {sc : Script}
    (hlines : ∀ l ∈ lines, '\n' ∉ l.toList) (h : Spaced lines sc.pieces) :
    s.runAll (scriptLines sc.text) = s.runAll lines ∧
      s.runAll (nonBlankLines sc.text) = s.runAll lines := by
  have hpieces : ∀ p ∈ sc.pieces, '\n' ∉ p.toList ∨ isBlankLine p = true := fun p hp =>
    (h.mem p hp).imp_left (hlines p)
  have hchars : (scriptLines sc.text).map String.toList = Text.lines sc.text.toList := by
    simp [scriptLines, Function.comp_def]
  have hscript : s.runAll (scriptLines sc.text) = s.runAll lines :=
    s.runAll_congr (by rw [hchars, Script.cores_lines hpieces, h.cores_eq])
  refine ⟨hscript, ?_⟩
  rw [← hscript, nonBlankLines_eq, Session.runAll_eq, Session.runAll_eq, queued_queued]

/-- Both ends of lines, a line that is empty, one with a carriage return of its own, and blank
pieces around them; the last line has no end. -/
theorem script_layout_immaterial_mixed_ends :
    let lines := ["place 0,0,north\r", "", " move", "report"]
    let sc : Script := {
      ended := [("\u2003\t", .returnNewline), ("place 0,0,north\r", .newline), ("", .newline),
        ("\r", .newline), (" move", .returnNewline)]
      last := "report" }
    sc.text = "\u2003\t\r\nplace 0,0,north\r\n\n\r\n move\r\nreport" ∧
      scriptLines sc.text = ["\u2003\t", "place 0,0,north", "", "", " move", "report"] ∧
      Session.runAll {} (scriptLines sc.text) = Session.runAll {} lines ∧
      Session.runAll {} (nonBlankLines sc.text) = Session.runAll {} lines ∧
      (Session.runAll {} lines).2.output = ["0,1,NORTH"] := by
  intro lines sc
  have hlines : ∀ l ∈ lines, '\n' ∉ l.toList := by decide
  have h : Spaced lines sc.pieces :=
    .blank (by decide) (.line _ (.line _ (.blank (by decide) (.line _ (.line _ .nil)))))
  obtain ⟨hscript, hnonBlank⟩ := script_layout_immaterial {} hlines h
  exact ⟨by decide +kernel, by decide +kernel, hscript, hnonBlank, by decide +kernel⟩

end TabletopRobot

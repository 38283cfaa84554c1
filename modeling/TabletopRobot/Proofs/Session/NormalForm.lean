import TabletopRobot.Proofs.Session.Replay
import TabletopRobot.Proofs.Text.Fields

/-!
A line counts by its normal form. The blanks around a line do not show in it, and a session makes
the same of two lines exactly if they have one normal form.
-/

namespace TabletopRobot

/-! ### The normal form of a line -/

lemma normalize_surround {u v : String} (hu : isBlankLine u = true) (hv : isBlankLine v = true)
    (raw : String) : normalize (u ++ raw ++ v) = normalize raw := by
  rw [normalize, String.toList_append, String.toList_append, Text.trim_surround hu hv, ← normalize]

lemma normalize_of_blank {raw : String} (h : isBlankLine raw = true) : normalize raw = "" := by
  -- a blank line is the empty line with blanks around it
  have hempty : normalize (raw ++ "" ++ "") = normalize "" := normalize_surround h rfl ""
  rw [String.append_empty, String.append_empty] at hempty
  exact hempty

lemma normalize_eq_empty_iff {raw : String} : normalize raw = "" ↔ isBlankLine raw = true := by
  refine ⟨fun h => ?_, normalize_of_blank⟩
  by_contra hsolid
  have hnormal := isBlankLine_normalize (Bool.eq_false_iff.mpr hsolid)
  rw [h] at hnormal
  cases hnormal

/-! ### What a session makes of it -/

namespace Session

variable (s : Session)

lemma entryOf_normalize (raw : String) : s.entryOf (normalize raw) = s.entryOf raw := by
  simp only [entryOf, Robot.applyLine, parse_normalize, normalize_normalize]

lemma enter_normalize (raw : String) : s.enter (normalize raw) = s.enter raw := by
  cases h : isBlankLine raw with
  | true => rw [normalize_of_blank h, enter_of_blank s h, enter_of_blank s rfl]
  | false =>
    rw [enter_of_not_blank s h, enter_of_not_blank s (isBlankLine_normalize h), entryOf_normalize,
      execute_normalize]

/-- What a line adds to the commands of the journal gives its normal form back. -/
lemma headD_queued (raw : String) : ((queued [raw]).map normalize).headD "" = normalize raw := by
  cases h : isBlankLine raw with
  | true => simp [queued, h, normalize_of_blank h]
  | false => simp [queued, h]

variable {s}

lemma normalize_eq_of_enter {a b : String} (h : (s.enter a).2 = (s.enter b).2) :
    normalize a = normalize b := by
  have hcommands := congrArg (fun t : Session => t.journal.map Entry.command) h
  simp only [enter_session, executeAll_commands] at hcommands
  have hadded := List.append_cancel_left hcommands
  rw [← headD_queued a, hadded, headD_queued]

/-- **A session tells lines apart by their normal forms alone.** -/
theorem enter_eq_enter_iff {a b : String} :
    s.enter a = s.enter b ↔ normalize a = normalize b := by
  constructor
  · intro h
    exact normalize_eq_of_enter (congrArg Prod.snd h)
  · intro h
    rw [← enter_normalize s a, h, enter_normalize]

end Session

/-- **Normal forms absorb layout.** The normal form of a line is its own normal form and has no
blank at either end; it is empty exactly if the line is blank, and blanks put around the line do
not change it. So from every session, the line with blanks around it and its normal form get the
same answer and leave the same session. -/
theorem normal_form_absorbs_layout (raw : String) {u v : String} (hu : isBlankLine u = true)
    (hv : isBlankLine v = true) :
    normalize (normalize raw) = normalize raw ∧
      normalize (u ++ raw ++ v) = normalize raw ∧
      (normalize raw = "" ↔ isBlankLine raw = true) ∧
      Text.Trimmed (normalize raw).toList ∧
      ∀ s : Session, s.enter (u ++ raw ++ v) = s.enter (normalize raw) := by
  have hsurround : normalize (u ++ raw ++ v) = normalize raw := normalize_surround hu hv raw
  refine ⟨normalize_normalize raw, hsurround, normalize_eq_empty_iff, trimmed_normalize raw,
    fun s => Session.enter_eq_enter_iff.mpr ?_⟩
  rw [hsurround, normalize_normalize]

/-- A ligature is two letters in upper case, and the line has blanks of its own inside the ones
around it. -/
theorem normal_form_absorbs_layout_ligature :
    let raw := "\t place 1,2,eaﬆ\u2003"
    let s := (Session.runAll {} ["place 0,0,north", "ﬁx"]).2
    (isBlankLine "\u3000 " = true ∧ isBlankLine "\u0085\r" = true) ∧
      normalize ("\u3000 " ++ raw ++ "\u0085\r") = "PLACE 1,2,EAST" ∧
      s.enter ("\u3000 " ++ raw ++ "\u0085\r") = s.enter "PLACE 1,2,EAST" ∧
      (s.enter "PLACE 1,2,EAST").1.map Entry.message =
        some "Placed robot at (1, 2) facing EAST" := by
  intro raw s
  have hu : isBlankLine "\u3000 " = true := by decide
  have hv : isBlankLine "\u0085\r" = true := by decide
  have hnormal : normalize raw = "PLACE 1,2,EAST" := by decide +kernel
  obtain ⟨-, hsurround, -, -, henter⟩ := normal_form_absorbs_layout raw hu hv
  rw [hnormal] at hsurround henter
  exact ⟨⟨hu, hv⟩, hsurround, henter s, by decide +kernel⟩

end TabletopRobot

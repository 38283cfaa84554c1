import TabletopRobot.Proofs.Text.Numeral
import TabletopRobot.Settings

/-!
Settings are what the first layer says that says anything: the command line, the environment, the
document, the defaults. A text that is no such document comes before a delay in the environment
that is no number, and that comes before every rule that the settings break; of these none is left
out. All this is so in all formats of documents and filters.
-/

namespace TabletopRobot.Settings

/-- The text of the document that is read, if one is: that of the file that was named, or of the
default file where none was named and there is one. -/
inductive Supplies (src : Sources) : Option String → Option String → Prop
  | named {p t : String} (h : src.file p = .ok t) : Supplies src (some p) (some t)
  | default {t : String} (h : src.file defaultFile = .ok t) : Supplies src none (some t)
  | nothing (h : src.file defaultFile = .error .notFound) : Supplies src none none

/-- At most two keys, each with the value that is set. -/
def Document.members (d : Document) : Table :=
  (d.stepDelay.toList.map fun n => ("step_delay_ms", .integer n)) ++
    d.logFilter.toList.map fun s => ("log_filter", .string s)

/-- The table sets what the document sets, in some order, and nothing else; the delay has at most
64 bits. -/
structure Document.Fits (d : Document) (t : Table) : Prop where
  perm : t.Perm d.members
  delay : ∀ n ∈ d.stepDelay, n < 2 ^ 64

/-- What a text sets; no text sets nothing. -/
inductive Says (formats : Formats) : Option String → Document → Prop
  | nothing : Says formats none {}
  | table {text : String} {t : Table} {d : Document} (h : formats.table? text = some t)
    (hd : d.Fits t) : Says formats (some text) d

/-- A value in the environment that stands for a number of milliseconds: digits for a number of
64 bits, after a plus sign or without it, and blanks around them. -/
def Tells (v : String) (n : ℕ) : Prop :=
  ∃ ds, (Text.trim v.toList = ds ∨ Text.trim v.toList = '+' :: ds) ∧ ds ≠ [] ∧
    (∀ c ∈ ds, c.isDigit = true) ∧ Nat.ofDigitChars 10 ds 0 = n ∧ n < 2 ^ 64

/-- The filter without the blanks around it. -/
def bareFilter (s : Settings) : String := .ofList (Text.trim s.logFilter.toList)

/-- The settings break the rule. -/
inductive Breaks (formats : Formats) (s : Settings) : Violation → Prop
  | delay (h : 60000 < s.stepDelay) : Breaks formats s (.delayTooLong s.stepDelay)
  | empty (h : s.bareFilter = "") : Breaks formats s .emptyFilter
  | filter {reason : String} (hne : s.bareFilter ≠ "")
    (h : formats.refusal? s.bareFilter = some reason) :
    Breaks formats s (.badFilter s.bareFilter reason)

/-- The settings break no rule. -/
structure Valid (formats : Formats) (s : Settings) : Prop where
  delay : s.stepDelay ≤ 60000
  filter : s.bareFilter ≠ ""
  accepted : formats.refusal? s.bareFilter = none

/-- Every rule that the settings break, each once, that on the delay first. -/
structure Lists (formats : Formats) (s : Settings) (vs : List Violation) : Prop where
  mem_iff : ∀ v, v ∈ vs ↔ Breaks formats s v
  nodup : vs.Nodup
  delay_first : ∀ n, Violation.delayTooLong n ∉ vs.tail

variable {formats : Formats}

/-! ### Documents -/

namespace Document

variable {d e : Document} {t : Table}

lemma store?_delay (filter : Option String) {n : ℕ} (hn : n < 2 ^ 64) :
    store? ⟨none, filter⟩ ("step_delay_ms", .integer n) = some ⟨some n, filter⟩ := by
  have hsize : (n : ℤ) < UInt64.size := by exact_mod_cast hn
  rw [store?, if_pos ⟨rfl, rfl, by omega, hsize⟩, Int.toNat_natCast]

lemma store?_filter (delay : Option ℕ) (s : String) :
    store? ⟨delay, none⟩ ("log_filter", .string s) = some ⟨delay, some s⟩ := rfl

/-- What is stored is one of the two keys, not set before. -/
lemma store?_cases {m : String × Value} (h : d.store? m = some e) :
    (∃ n : ℕ, n < 2 ^ 64 ∧ m = ("step_delay_ms", .integer n) ∧ d.stepDelay = none ∧
      e = ⟨some n, d.logFilter⟩) ∨
    ∃ s, m = ("log_filter", .string s) ∧ d.logFilter = none ∧ e = ⟨d.stepDelay, some s⟩ := by
  obtain ⟨key, i | s | _⟩ := m
  · obtain ⟨⟨rfl, hd, hpos, hlt⟩, he⟩ := Option.ite_none_right_eq_some.mp h
    obtain ⟨n, rfl⟩ := Int.eq_ofNat_of_zero_le hpos
    exact Or.inl ⟨n, by exact_mod_cast hlt, rfl, hd, (Option.some.inj he).symm⟩
  · obtain ⟨⟨rfl, hd⟩, he⟩ := Option.ite_none_right_eq_some.mp h
    exact Or.inr ⟨s, rfl, hd, (Option.some.inj he).symm⟩
  · cases h

lemma fits_of_store? {m : String × Value} (h : d.store? m = some e)
    (hd : ∀ n ∈ d.stepDelay, n < 2 ^ 64) : e.Fits (m :: d.members) := by
  rcases store?_cases h with ⟨n, hn, rfl, hnone, rfl⟩ | ⟨s, rfl, hnone, rfl⟩
  · refine ⟨?_, by simpa using hn⟩
    rw [members, hnone]
    exact .refl _
  · refine ⟨?_, hd⟩
    rw [members, hnone, Option.toList_none, List.map_nil, List.append_nil]
    exact (List.perm_append_singleton _ _).symm

lemma fits_of_foldlM (h : t.foldlM store? d = some e) (hd : ∀ n ∈ d.stepDelay, n < 2 ^ 64) :
    e.Fits (t ++ d.members) := by
  induction t generalizing d with
  | nil =>
    obtain rfl : d = e := Option.some.inj h
    exact ⟨.refl _, hd⟩
  | cons m t ih =>
    obtain ⟨d', hm, hrest⟩ := Option.bind_eq_some_iff.mp h
    have hstored := fits_of_store? hm hd
    obtain ⟨hperm, hdelay⟩ := ih hrest hstored.delay
    exact ⟨(List.perm_middle.symm.trans (hstored.perm.append_left t)).trans hperm, hdelay⟩

lemma Fits.ofTable? (h : d.Fits t) : Document.ofTable? t = some d := by
  obtain ⟨hperm, hdelay⟩ := h
  obtain ⟨_ | n, _ | s⟩ := d
  · obtain rfl := List.perm_nil.mp hperm
    rfl
  · obtain rfl := List.perm_singleton.mp hperm
    rfl
  · obtain rfl := List.perm_singleton.mp hperm
    rw [Document.ofTable?, List.foldlM_cons, store?_delay none (hdelay n rfl)]
    rfl
  · rcases List.perm_pair.mp hperm with rfl | rfl
    · rw [Document.ofTable?, List.foldlM_cons, store?_delay none (hdelay n rfl)]
      rfl
    · rw [Document.ofTable?, List.foldlM_cons, store?_filter, Option.bind_eq_bind,
        Option.bind_some, List.foldlM_cons, store?_delay (some s) (hdelay n rfl)]
      rfl

lemma ofTable?_eq_some_iff : Document.ofTable? t = some d ↔ d.Fits t := by
  refine ⟨fun h => ?_, Fits.ofTable?⟩
  have hfits := fits_of_foldlM h (by simp)
  rwa [show ({} : Document).members = [] from rfl, List.append_nil] at hfits

end Document

/-! ### Rules -/

variable {s : Settings}

lemma valid_iff : Valid formats s ↔ ∀ v, ¬Breaks formats s v := by
  constructor
  · rintro ⟨hdelay, hfilter, haccepted⟩ v hv
    cases hv with
    | delay h => omega
    | empty h => exact hfilter h
    | filter _ h => simp [haccepted] at h
  · intro h
    have hfilter : s.bareFilter ≠ "" := fun hempty => h _ (.empty hempty)
    refine ⟨not_lt.mp fun hlong => h _ (.delay hlong), hfilter, ?_⟩
    exact Option.eq_none_iff_forall_ne_some.mpr fun reason hreason => h _ (.filter hfilter hreason)

lemma bareFilter_eq_empty_iff : s.bareFilter = "" ↔ (Text.trim s.logFilter.toList).isEmpty := by
  rw [bareFilter, String.ofList_eq_empty_iff, List.isEmpty_iff]

/-- The rule on the delay is checked first, and then those on the filter. -/
lemma violations_eq (formats : Formats) (s : Settings) :
    ∃ fs, s.violations formats =
        (if 60000 < s.stepDelay then [.delayTooLong s.stepDelay] else []) ++ fs ∧ fs.Nodup ∧
      (∀ v, v ∈ fs ↔ Breaks formats s v ∧ ∀ n, v ≠ .delayTooLong n) := by
  have hother (v : Violation) : (Breaks formats s v ∧ ∀ n, v ≠ .delayTooLong n) ↔
      (s.bareFilter = "" ∧ v = .emptyFilter) ∨
      (s.bareFilter ≠ "" ∧ ∃ reason, formats.refusal? s.bareFilter = some reason ∧
        v = .badFilter s.bareFilter reason) := by
    constructor
    · rintro ⟨hv, hdelay⟩
      cases hv with
      | delay h => exact absurd rfl (hdelay _)
      | empty h => exact Or.inl ⟨h, rfl⟩
      | filter hne h => exact Or.inr ⟨hne, _, h, rfl⟩
    · rintro (⟨h, rfl⟩ | ⟨hne, reason, h, rfl⟩)
      · exact ⟨.empty h, by simp⟩
      · exact ⟨.filter hne h, by simp⟩
  refine ⟨if s.bareFilter = "" then [.emptyFilter]
    else (formats.refusal? s.bareFilter).toList.map (.badFilter s.bareFilter), ?_, ?_, fun v => ?_⟩
  · simp only [bareFilter_eq_empty_iff]
    rfl
  · split
    · simp
    · cases formats.refusal? s.bareFilter <;> simp
  · rw [hother]
    by_cases hempty : s.bareFilter = ""
    · simp [hempty]
    · cases hrefusal : formats.refusal? s.bareFilter <;> simp [hempty]

lemma lists_violations (formats : Formats) (s : Settings) :
    Lists formats s (s.violations formats) := by
  obtain ⟨fs, hvs, hnodup, hfs⟩ := violations_eq formats s
  have hdelay (n : ℕ) : Violation.delayTooLong n ∉ fs := fun h => ((hfs _).mp h).2 n rfl
  rw [hvs]
  by_cases hlong : 60000 < s.stepDelay
  · rw [if_pos hlong]
    refine ⟨fun v => ?_, List.nodup_cons.mpr ⟨hdelay _, hnodup⟩, hdelay⟩
    rw [List.singleton_append, List.mem_cons, hfs]
    constructor
    · rintro (rfl | ⟨hv, -⟩)
      · exact .delay hlong
      · exact hv
    · intro hv
      refine or_iff_not_imp_left.mpr fun hne => ⟨hv, ?_⟩
      rintro n rfl
      cases hv
      exact hne rfl
  · rw [if_neg hlong, List.nil_append]
    refine ⟨fun v => ?_, hnodup, fun n hn => hdelay n (List.mem_of_mem_tail hn)⟩
    rw [hfs]
    refine and_iff_left_of_imp fun hv n hn => ?_
    rw [hn] at hv
    cases hv
    exact hlong ‹_›

/-- Nothing is listed exactly if the settings are valid. -/
lemma Lists.eq_nil_iff {vs : List Violation} (h : Lists formats s vs) :
    vs = [] ↔ Valid formats s := by
  rw [valid_iff, List.eq_nil_iff_forall_not_mem]
  exact forall_congr' fun v => not_congr (h.mem_iff v)

lemma checked_eq (formats : Formats) (s : Settings) :
    s.checked formats =
      if s.violations formats = [] then .ok s else .error (.invalid (s.violations formats)) := by
  rw [checked]
  cases s.violations formats <;> rfl

/-! ### Layers -/

lemma delay?_eq_some_iff {v : String} {n : ℕ} : delay? v = some n ↔ Tells v n := by
  have hsize : UInt64.size = 2 ^ 64 := rfl
  rw [delay?, Option.filter_eq_some_iff, Text.natural?_eq_some_iff, decide_eq_true_eq, hsize, Tells]
  constructor
  · rintro ⟨⟨ds, hds, hne, hdigits, hn⟩, hlt⟩
    exact ⟨ds, hds, hne, hdigits, hn, hlt⟩
  · rintro ⟨ds, hds, hne, hdigits, hn, hlt⟩
    exact ⟨⟨ds, hds, hne, hdigits, hn⟩, hlt⟩

lemma withEnvironment_of_rel {env : String → Option String} {n : Option ℕ}
    (h : Option.Rel Tells (env delayVariable) n) (s : Settings) :
    s.withEnvironment env =
      .ok ⟨n.getD s.stepDelay, (env filterVariable).getD s.logFilter⟩ := by
  rw [withEnvironment]
  cases hv : env delayVariable with
  | none =>
    rw [hv] at h
    cases h
    rfl
  | some v =>
    rw [hv] at h
    cases h with
    | some hn =>
      dsimp only
      rw [delay?_eq_some_iff.mpr hn]
      rfl

lemma withEnvironment_of_not_tells {env : String → Option String} {v : String}
    (hv : env delayVariable = some v) (h : ∀ n, ¬Tells v n) (s : Settings) :
    s.withEnvironment env = .error (.environment delayVariable v) := by
  have hnone : delay? v = none :=
    Option.eq_none_iff_forall_ne_some.mpr fun n hn => h n (delay?_eq_some_iff.mp hn)
  rw [withEnvironment, hv]
  dsimp only
  rw [hnone]
  rfl

/-- What the document sets, as the program reads it. -/
def documentOf? (formats : Formats) (text : Option String) : Option Document :=
  text.elim (some {}) fun t => (formats.table? t).bind Document.ofTable?

lemma documentOf?_eq_some_iff {text : Option String} {d : Document} :
    documentOf? formats text = some d ↔ Says formats text d := by
  cases text with
  | none =>
    constructor
    · intro h
      obtain rfl := Option.some.inj h
      exact .nothing
    · rintro ⟨⟩
      rfl
  | some text =>
    rw [documentOf?, Option.elim_some, Option.bind_eq_some_iff]
    constructor
    · rintro ⟨t, ht, hd⟩
      exact .table ht (Document.ofTable?_eq_some_iff.mp hd)
    · rintro (_ | ⟨ht, hd⟩)
      exact ⟨_, ht, hd.ofTable?⟩

lemma ofFile_eq {src : Sources} {p t : String} (h : src.file p = .ok t) :
    ofFile formats src p = match documentOf? formats (some t) with
      | some d => .ok (withDocument {} d)
      | none => .error .document := by
  rw [ofFile, h]
  rfl

/-- The layers above the document, over what it sets. -/
lemma Supplies.load_eq {src : Sources} {path text : Option String} (h : Supplies src path text)
    (formats : Formats) (delay : Option ℕ) :
    load formats src path delay = match documentOf? formats text with
      | some d => ((withDocument {} d).withEnvironment src.env).bind fun s =>
          checked formats { s with stepDelay := delay.getD s.stepDelay }
      | none => .error .document := by
  have hfile {p t : String} (hp : file? src path = some p) (ht : src.file p = .ok t) :
      load formats src path delay = match documentOf? formats (some t) with
        | some d => ((withDocument {} d).withEnvironment src.env).bind fun s =>
            checked formats { s with stepDelay := delay.getD s.stepDelay }
        | none => .error .document := by
    unfold load
    rw [hp]
    dsimp only
    rw [ofFile_eq ht]
    cases documentOf? formats (some t) <;> rfl
  cases h with
  | named h => exact hfile rfl h
  | default h => exact hfile (by rw [file?, h]) h
  | nothing h =>
    unfold load
    rw [file?, h]
    rfl

/-- **Settings are loaded layer by layer.** Whatever texts are documents and whatever filters are
accepted, let there be a text to read, or none. If it is not a document, or one that has another
key than the two or a value of another type, that is the result. Otherwise, if the environment has
a delay that is no number of 64 bits, this value is named as it stands, whatever the command line
says. Otherwise the delay is that of the command line, the environment, the document or the
default, whichever comes first, and so is the filter, though the command line has none; these
settings, and no others, are checked. They are the result if they are valid, and if not, every
rule that they break is. -/
theorem load_layers (formats : Formats) {src : Sources} {path text : Option String}
    (h : Supplies src path text) (delay : Option ℕ) :
    ((∀ d, ¬Says formats text d) → load formats src path delay = .error .document) ∧
      ∀ d, Says formats text d →
        (∀ v, src.env delayVariable = some v → (∀ n, ¬Tells v n) →
          load formats src path delay = .error (.environment delayVariable v)) ∧
        ∀ n, Option.Rel Tells (src.env delayVariable) n →
          ∃ eff : Settings, eff.stepDelay = (delay <|> n <|> d.stepDelay).getD 300 ∧
            eff.logFilter = (src.env filterVariable <|> d.logFilter).getD "info" ∧
            (Valid formats eff → load formats src path delay = .ok eff) ∧
            (¬Valid formats eff →
              ∃ vs, Lists formats eff vs ∧ load formats src path delay = .error (.invalid vs)) := by
  refine ⟨fun hnot => ?_, fun d hsays => ?_⟩
  · have hnone : documentOf? formats text = none :=
      Option.eq_none_iff_forall_ne_some.mpr fun d hd => hnot d (documentOf?_eq_some_iff.mp hd)
    rw [h.load_eq, hnone]
  · have hd : documentOf? formats text = some d := documentOf?_eq_some_iff.mpr hsays
    refine ⟨fun v hv hnot => ?_, fun n hn => ?_⟩
    · rw [h.load_eq, hd]
      dsimp only
      rw [withEnvironment_of_not_tells hv hnot]
      rfl
    · let eff : Settings := ⟨(delay <|> n <|> d.stepDelay).getD 300,
        (src.env filterVariable <|> d.logFilter).getD "info"⟩
      have hload : load formats src path delay = eff.checked formats := by
        rw [h.load_eq, hd]
        dsimp only
        rw [withEnvironment_of_rel hn]
        change checked _ _ = checked _ _
        congr 1
        simp [eff, withDocument]
      have hlists := lists_violations formats eff
      refine ⟨eff, rfl, rfl, fun hvalid => ?_, fun hvalid => ⟨eff.violations formats, hlists, ?_⟩⟩
      · rw [hload, checked_eq, if_pos (hlists.eq_nil_iff.mpr hvalid)]
      · rw [hload, checked_eq, if_neg (mt hlists.eq_nil_iff.mp hvalid)]

/-- The delay of the command line hides that of the environment, which is written with a sign and
blanks, and this one that of the document. With the filter of the document, which has a level
that there is not, it breaks two rules. -/
theorem load_layers_all_four :
    let text := "step_delay_ms = 5\nlog_filter = ' toy_robot=loud'"
    let reason := "error parsing level filter: expected one of \"off\", \"error\", \"warn\", " ++
      "\"info\", \"debug\", \"trace\", or a number 0-5"
    let formats : Formats :=
      ⟨fun t => if t = text then
          some [("step_delay_ms", .integer 5), ("log_filter", .string " toy_robot=loud")]
        else none,
        fun f => if f = "toy_robot=loud" then some reason else none⟩
    let src : Sources :=
      ⟨fun _ => .ok text, fun k => if k = delayVariable then some " +250 " else none⟩
    ∃ vs, Lists formats ⟨60001, " toy_robot=loud"⟩ vs ∧
      load formats src none (some 60001) = .error (.invalid vs) := by
  intro text reason formats src
  have hsupplies : Supplies src none (some text) := .default rfl
  have htable : formats.table? text =
      some [("step_delay_ms", .integer 5), ("log_filter", .string " toy_robot=loud")] := by
    simp [formats]
  have hsays : Says formats (some text) ⟨some 5, some " toy_robot=loud"⟩ :=
    .table htable ⟨.refl _, by simp⟩
  obtain ⟨-, hdocument⟩ := load_layers formats hsupplies (some 60001)
  obtain ⟨-, hsettings⟩ := hdocument _ hsays
  have htells : Tells " +250 " 250 :=
    ⟨['2', '5', '0'], by decide, by decide, by simp, rfl, by norm_num⟩
  obtain ⟨eff, hdelay, hfilter, -, hinvalid⟩ := hsettings (some 250) (.some htells)
  obtain rfl : eff = ⟨60001, " toy_robot=loud"⟩ := by
    cases eff
    cases hdelay
    cases hfilter
    rfl
  exact hinvalid fun hvalid => absurd hvalid.delay (by decide)

end TabletopRobot.Settings

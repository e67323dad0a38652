import ContractBindings.Proofs.Log.Groups

/-!
# The two reports agree

`Log.Line` are the lines of the long report by what they tell, and `Log.Line.text` says how each
is written.  `Log.warningLayout` and `Log.infoLayout` lay such lines out from a list of counts, from
the warnings, and from the notes that are no warnings.

`Log.Agreement` says that both reports are written from one list of counts, which are those of the
warnings by the kind of construct that they are on, and that the long report shows no note twice
and, if it is verbose, every note.  `Log.reports_agree` says that this holds whatever the notes are.
-/

namespace ContractBindings.Log

/-! ## Lines -/

/-- That a note is counted under a name: under the kind of its construct, or under `other` when it
states none. -/
def Under (name : String) (n : Note) : Prop :=
  if n.construct = "" then name = "other" else name = n.construct

instance (name : String) (n : Note) : Decidable (Under name n) :=
  inferInstanceAs (Decidable (if n.construct = "" then name = "other" else name = n.construct))

/-- What is told of a note: its member, if it states one, its message and its code. -/
def told (n : Note) : String :=
  (if n.member = "" then "" else n.member ++ ": ") ++ n.message ++ " (" ++ n.code ++ ")"

/-- A line of the long report. -/
inductive Line where
  | blank
  | warningTitle (count : Nat)
  | group (name : String) (count : Nat)
  | warning (n : Note)
  | infoTitle (count : Nat)
  | info (n : Note)

namespace Line

/-- The text of a line. -/
def text : Line → String
  | blank => ""
  | warningTitle count => "Generator warnings (" ++ toString count ++ "):"
  | group name count => "  " ++ name ++ ": " ++ toString count ++ " occurrence(s)"
  | warning n => "    [warning] " ++ told n
  | infoTitle count => "Generator info (" ++ toString count ++ "):"
  | info n => "  [info] " ++ told n

/-- The number of warnings, as the title on them has it. -/
def warningTitle? : Line → Option Nat
  | warningTitle count => some count
  | _ => none

/-- The count of a group. -/
def group? : Line → Option (String × Nat)
  | group name count => some (name, count)
  | _ => none

/-- The warning that is shown. -/
def warning? : Line → Option Note
  | warning n => some n
  | _ => none

/-- The note that is shown and is no warning. -/
def info? : Line → Option Note
  | info n => some n
  | _ => none

end Line

/-- The lines on counted warnings: none when nothing is counted, or else a title with the number of
warnings, and each count in turn.  In a verbose report a count is followed by the warnings of its
group, in the order in which they were made. -/
def warningLayout (verbose : Bool) (counts : List (String × Nat)) (warnings : List Note) :
    List Line :=
  if counts = [] then
    []
  else
    [.blank, .warningTitle warnings.length]
      ++ counts.flatMap fun c =>
        .group c.1 c.2 :: if verbose then (warnings.filter (Under c.1 ·)).map .warning else []

/-- The lines on the notes that are no warnings, in the order in which they were made.  Only a
verbose report has them. -/
def infoLayout (verbose : Bool) (infos : List Note) : List Line :=
  if verbose ∧ infos ≠ [] then [.blank, .infoTitle infos.length] ++ infos.map .info else []

/-- That the summary of notes, of which some are warnings and the others are not, and the report on
them tell the same counts, which are those of the warnings, in the lines by which the report is laid
out. -/
structure Agreement (verbose : Bool) (notes warnings infos : List Note)
    (counts : List (String × Nat)) (lines : List Line) : Prop where
  /-- The counts are in strictly increasing order. -/
  increasing : counts.Pairwise fun c d => c.1 < d.1
  /-- What is counted are the warnings under a name, of which there are some. -/
  counted : ∀ name count, (name, count) ∈ counts
    ↔ (warnings.filter (Under name ·)).length = count ∧ 0 < count
  /-- The counts add up to the number of warnings. -/
  total : (counts.map (·.2)).sum = warnings.length
  /-- The summary is written from the counts. -/
  summarized : summary notes = if counts = [] then "No generator warnings." else
    "Generator warnings: " ++ ", ".intercalate (counts.map fun c => toString c.2 ++ " " ++ c.1)
  /-- The report is written from the lines. -/
  reported : report verbose notes = String.join (lines.map (·.text ++ "\n"))
  /-- The lines on warnings are laid out from the same counts, and those on other notes follow. -/
  laid : lines = warningLayout verbose counts warnings ++ infoLayout verbose infos
  /-- There is one title with the number of warnings, or none when there are none. -/
  titled : lines.filterMap Line.warningTitle? = if warnings = [] then [] else [warnings.length]
  /-- The counts are shown once each, in the same order. -/
  grouped : lines.filterMap Line.group? = counts
  /-- The report has nothing on warnings when the summary says that there are none. -/
  absent : warningLayout verbose counts warnings = [] ↔ summary notes = "No generator warnings."
  /-- A verbose report shows each warning once. -/
  warned : verbose = true → (lines.filterMap Line.warning?).Perm warnings
  /-- A verbose report shows the other notes once each, in the order in which they were made. -/
  informed : verbose = true → lines.filterMap Line.info? = infos
  /-- Any other report shows no note at all. -/
  silent : verbose = false →
    lines.filterMap Line.warning? = [] ∧ lines.filterMap Line.info? = []

/-! ## What the layouts tell -/

section Layout

variable {α : Type} (f : Line → Option α) (verbose : Bool) (counts : List (String × Nat))
  (warnings infos : List Note)

/-- A layout of warnings tells what its title, its counts and its warnings tell. -/
theorem filterMap_warningLayout (blank : f .blank = none) :
  (warningLayout verbose counts warnings).filterMap f
    = if counts = [] then [] else
      (f (.warningTitle warnings.length)).toList ++ counts.flatMap fun c =>
        (f (.group c.1 c.2)).toList
          ++ if verbose then (warnings.filter (Under c.1 ·)).filterMap (f ∘ Line.warning) else []
  := by
  rw [warningLayout]
  split
  · rw [List.filterMap_nil]
  · rw [List.filterMap_append, List.filterMap_flatMap]
    congr 1
    · cases title : f (.warningTitle warnings.length) <;> simp [blank, title]
    · apply List.flatMap_congr
      intro c _
      cases verbose <;> cases count : f (.group c.1 c.2) <;> simp [count, List.filterMap_map]

/-- A layout of notes that are no warnings tells what these tell, when its title tells nothing. -/
theorem filterMap_infoLayout (blank : f .blank = none)
    (title : f (.infoTitle infos.length) = none) :
  (infoLayout verbose infos).filterMap f
    = if verbose then infos.filterMap (f ∘ Line.info) else []
  := by
  rw [infoLayout]
  split
  next shown =>
      rw [if_pos shown.1, List.filterMap_append, List.filterMap_map]
      simp [blank, title]
  next unshown =>
      cases verbose with
      | false => rfl
      | true =>
          have empty : infos = [] := by simpa using unshown
          rw [empty]
          rfl

end Layout

/-! ## The agreement -/

variable (verbose : Bool) (notes : List Note)

/-- A summary that states counts does not say that there are none. -/
theorem summary_eq_none_iff :
  summary notes = "No generator warnings." ↔ warnings notes = []
  := by
  rw [summary]
  split
  next none => simp [none]
  next some =>
      constructor
      · intro same
        have first := congrArg (fun text => text.toList.head?) same
        simp at first
      · intro none
        contradiction

/-- The name of the group of a note is the one under which it is counted. -/
theorem group_eq_iff (n : Note) (name : String) :
  n.group = name ↔ Under name n
  := by
  rw [Note.group, Under]
  split <;> apply eq_comm

/-- The notes of a group are those under its name. -/
theorem filter_group_eq (name : String) :
  notes.filter (·.group = name) = notes.filter (Under name ·)
  := by
  simp only [group_eq_iff]

/-- The line on a warning tells of it. -/
theorem line_of_warning {n : Note} (severe : n.severity = .warning) :
  n.line = "[warning] " ++ told n
  := by
  rw [Note.line, severe, told, Severity.word]
  simp only [String.append_assoc]
  rfl

/-- The line on a note that is no warning tells of it. -/
theorem line_of_info {n : Note} (mild : n.severity = .info) :
  n.line = "[info] " ++ told n
  := by
  rw [Note.line, mild, told, Severity.word]
  simp only [String.append_assoc]
  rfl

/-- The lines on warnings have the texts that are laid out for their counts. -/
theorem warningLines_eq {ws : List Note} (severe : ∀ n ∈ ws, n.severity = .warning) :
  warningLines verbose ws = (warningLayout verbose (counts ws) ws).map Line.text
  := by
  by_cases none : ws = []
  · rw [warningLines, warningLayout, if_pos none, if_pos ((counts_eq_nil_iff ws).mpr none)]
    rfl
  · rw [warningLines, warningLayout, if_neg none, if_neg (mt (counts_eq_nil_iff ws).mp none),
      sorted_collect, List.map_append, List.map_flatMap, List.flatMap_map]
    congr 1
    apply List.flatMap_congr
    intro c there
    have counted := ((mem_counts_iff ws c.1 c.2).mp there).1
    change groupLines verbose c.1 (ws.filter (·.group = c.1)) = _
    rw [groupLines, counted, filter_group_eq, List.map_cons]
    congr 1
    cases verbose
    · rfl
    · rw [if_pos rfl, if_pos rfl, List.map_map]
      apply List.map_congr_left
      intro n member
      rw [line_of_warning (severe n (List.mem_of_mem_filter member)), ← String.append_assoc]
      rfl

/-- The lines on notes that are no warnings have the texts that are laid out for them. -/
theorem infoLines_eq {ns : List Note} (mild : ∀ n ∈ ns, n.severity = .info) :
  infoLines verbose ns = (infoLayout verbose ns).map Line.text
  := by
  by_cases shown : verbose ∧ ns ≠ []
  · rw [infoLines, infoLayout, if_pos shown, if_pos shown, List.map_append, List.map_map]
    congr 1
    apply List.map_congr_left
    intro n member
    rw [line_of_info (mild n member), ← String.append_assoc]
    rfl
  · rw [infoLines, infoLayout, if_neg shown, if_neg shown]
    rfl

/-- The lines of the report. -/
def layout : List Line :=
  warningLayout verbose (counts (warnings notes)) (warnings notes)
    ++ infoLayout verbose (infos notes)

/-- The notes of a severity have it. -/
theorem severity_of_mem_ofSeverity {severity : Severity} {n : Note}
    (there : n ∈ ofSeverity severity notes) :
  n.severity = severity
  := by simpa using List.of_mem_filter there

/-- The report is written from its lines. -/
theorem report_eq :
  report verbose notes = String.join ((layout verbose notes).map (·.text ++ "\n"))
  := by
  have severe : ∀ n ∈ warnings notes, n.severity = .warning :=
    fun _ => severity_of_mem_ofSeverity notes
  have mild : ∀ n ∈ infos notes, n.severity = .info := fun _ => severity_of_mem_ofSeverity notes
  rw [report, reportLines, warningLines_eq _ severe, infoLines_eq _ mild, ← List.map_append,
    List.map_map]
  rfl

/-- The summary is written from the counts of warnings. -/
theorem summary_eq :
  summary notes = if counts (warnings notes) = [] then "No generator warnings." else
    "Generator warnings: " ++ ", ".intercalate
      ((counts (warnings notes)).map fun c => toString c.2 ++ " " ++ c.1)
  := by
  simp only [counts_eq_nil_iff]
  rfl

/-- Items that tell nothing tell nothing together. -/
theorem flatMap_untold {α β : Type} (as : List α) :
  as.flatMap (fun _ => ([] : List β)) = []
  := by
  rw [List.flatMap_eq_nil_iff]
  intros
  rfl

/-- What the lines tell, when only the title on warnings, counts and notes tell something. -/
theorem filterMap_layout {α : Type} (f : Line → Option α) (blank : f .blank = none)
    (title : f (.infoTitle (infos notes).length) = none) :
  (layout verbose notes).filterMap f
    = (if warnings notes = [] then [] else
        (f (.warningTitle (warnings notes).length)).toList
          ++ (counts (warnings notes)).flatMap fun c =>
            (f (.group c.1 c.2)).toList ++ if verbose then
              ((warnings notes).filter (Under c.1 ·)).filterMap (f ∘ Line.warning) else [])
      ++ if verbose then (infos notes).filterMap (f ∘ Line.info) else []
  := by
  rw [layout, List.filterMap_append, filterMap_warningLayout _ _ _ _ blank,
    filterMap_infoLayout _ _ _ blank title]
  simp only [counts_eq_nil_iff]

/-- The lines tell the number of warnings, if there are any. -/
theorem filterMap_warningTitle?_layout :
  (layout verbose notes).filterMap Line.warningTitle?
    = if warnings notes = [] then [] else [(warnings notes).length]
  := by
  rw [filterMap_layout _ _ _ rfl rfl]
  cases verbose <;> simp [Line.warningTitle?, Function.comp_def, flatMap_untold]

/-- The lines tell the counts of warnings. -/
theorem filterMap_group?_layout :
  (layout verbose notes).filterMap Line.group? = counts (warnings notes)
  := by
  rw [filterMap_layout _ _ _ rfl rfl]
  split
  next none =>
      rw [(counts_eq_nil_iff _).mpr none]
      cases verbose <;> simp [Line.group?, Function.comp_def]
  next some => cases verbose <;> simp [Line.group?, Function.comp_def]

/-- The lines of a verbose report tell each warning once. -/
theorem perm_filterMap_warning?_layout :
  ((layout true notes).filterMap Line.warning?).Perm (warnings notes)
  := by
  rw [filterMap_layout _ _ _ rfl rfl]
  split
  next none => simp [none, Line.warning?, Function.comp_def]
  next some =>
      have grouped := perm_flatMap_counts (warnings notes)
      simpa [Line.warning?, Function.comp_def, filter_group_eq] using grouped

/-- The lines of a verbose report tell each note that is no warning, in order. -/
theorem filterMap_info?_layout :
  (layout true notes).filterMap Line.info? = infos notes
  := by
  rw [filterMap_layout _ _ _ rfl rfl]
  simp [Line.info?, Function.comp_def, flatMap_untold]

/-- The two reports agree. -/
theorem reports_agree :
  Agreement verbose notes (notes.filter (·.severity = .warning)) (notes.filter (·.severity = .info))
    (counts (warnings notes)) (layout verbose notes) where
  increasing := pairwise_lt_counts (warnings notes)
  counted := by
    intro name count
    rw [← filter_group_eq]
    apply mem_counts_iff
  total := sum_counts (warnings notes)
  summarized := summary_eq notes
  reported := report_eq verbose notes
  laid := rfl
  titled := filterMap_warningTitle?_layout verbose notes
  grouped := filterMap_group?_layout verbose notes
  absent := by
    rw [summary_eq_none_iff, ← counts_eq_nil_iff, warningLayout]
    split <;> simp_all
  warned := by
    rintro rfl
    apply perm_filterMap_warning?_layout
  informed := by
    rintro rfl
    apply filterMap_info?_layout
  silent := by
    rintro rfl
    rw [filterMap_layout _ _ _ rfl rfl, filterMap_layout _ _ _ rfl rfl]
    simp [Line.warning?, Line.info?]

end ContractBindings.Log

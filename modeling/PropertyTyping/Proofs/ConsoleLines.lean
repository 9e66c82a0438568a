import PropertyTyping.CommandLine.Program
import PropertyTyping.Proofs.RecordLine
import PropertyTyping.Proofs.RunTrace

/-! What the console shows of a run. Every event of a run on a file comes from within the package
and is of a level with a name, so there is a line for each record that is urgent enough. The only
urgent records of a report that succeeds are the warnings about tags at odds. -/

namespace PropertyTyping

namespace Log

/-- The lines of some records in order, one for each that is of a level or above it. -/
inductive Rendering (least : Level) (stamp : Text) : List Record → Text → Prop
  | nil : Rendering least stamp [] []
  | shown {r : Record} {rs : List Record} {line behind : Text} : least ≤ r.event.level →
      IsLine stamp r line → Rendering least stamp rs behind →
      Rendering least stamp (r :: rs) (line ++ behind)
  | hidden {r : Record} {rs : List Record} {lines : Text} : r.event.level < least →
      Rendering least stamp rs lines → Rendering least stamp (r :: rs) lines

theorem Rendering.eq_line {least : Level} {stamp line lines : Text} {r : Record}
    (h : Rendering least stamp [r] lines) (hlevel : least ≤ r.event.level)
    (hline : IsLine stamp r line) : lines = line := by
  cases h with
  | shown _ hline' h =>
      cases h
      rw [List.append_nil, hline'.unique hline]
  | hidden hlow _ => exact absurd hlow (Int.not_lt.mpr hlevel)

theorem State.lines_append (s : State) (stamp : Text) (rs ss : List Record) :
    s.lines stamp (rs ++ ss) = s.lines stamp rs ++ s.lines stamp ss := by
  rw [lines, List.filter_append, List.flatMap_append, lines, lines]

/-- What a console writes that tells the loggers apart by nothing but a level. -/
theorem State.rendering_lines {s : State} (hconsole : s.hasConsole) {least : Level}
    {rs : List Record} (hlevel : ∀ r ∈ rs,
      s.enables r.event.logger r.event.level = decide (least ≤ r.event.level))
    {stamp : Text} (hline : ∀ r ∈ rs, ∃ line, IsLine stamp r line) :
    Rendering least stamp rs (s.lines stamp rs) := by
  induction rs with
  | nil => exact .nil
  | cons r rs ih =>
      obtain ⟨line, hr⟩ := hline r List.mem_cons_self
      have hwritten : s.written stamp r = line := by
        rw [written, if_pos hconsole, Record.line_eq_ok_iff.mpr hr]
        rfl
      have hrest := ih (fun r hr => hlevel r (List.mem_cons_of_mem _ hr))
        fun r hr => hline r (List.mem_cons_of_mem _ hr)
      have henables := hlevel r List.mem_cons_self
      rw [lines] at hrest ⊢
      rw [List.filter_cons, henables]
      by_cases hleast : least ≤ r.event.level
      · rw [decide_eq_true hleast, if_pos rfl, List.flatMap_cons, hwritten]
        exact .shown hleast hr hrest
      · rw [decide_eq_false hleast, if_neg Bool.false_ne_true]
        exact .hidden (Int.not_le.mp hleast) hrest

/-- Events as the package logs them by itself, of a level with a name and on a logger of its own. -/
structure Event.IsOwn (e : Event) : Prop where
  isNamed : e.level ∈ namedLevels
  isInPackage : Hierarchy.isInPackage State.initial.loggers e.logger

theorem Event.IsOwn.exists_line {e : Event} (h : e.IsOwn) (stamp id : Text) :
    ∃ line, IsLine stamp ⟨e, .text id⟩ line := by
  obtain ⟨_, _, hlabel⟩ := Level.exists_labels_of_named h.isNamed
  exact ⟨_, _, _, hlabel, .text id, rfl⟩

end Log

namespace Traced

variable {α : Type} (t : Traced α) (runId : Value) (s : Log.State)

/-- Work in a run leaves what the console shows as it was. -/
theorem lines_inRun (stamp : Text) (rs : List Log.Record) :
    (t.inRun runId s).state.lines stamp rs = s.lines stamp rs := by
  obtain ⟨_, _, hpush⟩ := s.push_frame runId
  obtain ⟨_, _, hreset⟩ := (s.push runId).1.reset_frame (s.push runId).2
  change ((s.push runId).1.reset (s.push runId).2).1.lines stamp rs = _
  rw [hreset, hpush]
  rfl

end Traced

namespace PropertyRecord

/-- Whether the tags of a record are at odds: only a string is left of them. -/
def isConflicting (r : PropertyRecord) : Bool :=
  decide (Resolution.Degrades (Tag.seen r.observations))

theorem hasSeveralTags_of_isConflicting {r : PropertyRecord} (h : r.isConflicting) :
    r.hasSeveralTags :=
  hasSeveralTags_iff.mpr (Nat.not_lt.mpr (of_decide_eq_true h : Resolution.Degrades _).two_le)

/-- The warning about a record whose tags are at odds. -/
def warning (r : PropertyRecord) : Log.Event where
  level := 30
  logger := "graphtypes.types.resolver"
  message := ("Inconsistent property types " : Text) ++ r.quotedTags ++
    " cannot be widened; using String"

/-- The line of that warning in a run. -/
def warningLine (stamp id : Text) (r : PropertyRecord) : Text :=
  stamp ++ " | WARNING  | graphtypes.types.resolver | run=" ++ id ++
    " | Inconsistent property types " ++ r.quotedTags ++ " cannot be widened; using String\n"

theorem isLine_warningLine (stamp id : Text) (r : PropertyRecord) :
    Log.IsLine stamp ⟨r.warning, .text id⟩ (r.warningLine stamp id) := by
  refine ⟨_, _, .warning, .text id, ?_⟩
  simp only [warningLine, Log.lineOf, warning, List.append_assoc]
  rfl

/-- The end of the line is always the same. -/
theorem exists_warningLine_eq_append (stamp id : Text) (r : PropertyRecord) :
    ∃ before, r.warningLine stamp id = before ++ "String\n" := by
  have hend : (" cannot be widened; using String\n" : Text) =
      (" cannot be widened; using " : Text) ++ "String\n" := rfl
  rw [warningLine, hend, ← List.append_assoc]
  exact ⟨_, rfl⟩

end PropertyRecord

namespace Report

/-- Events that are warnings or worse. -/
def urgent (events : List Log.Event) : List Log.Event := events.filter fun e => decide (30 ≤ e.level)

variable {source : FileSource} {path : Text}

theorem Note.isOwn {r : PropertyRecord} {e : Log.Event} (h : Note r e) : e.IsOwn := by
  have hlogger : Log.Hierarchy.isInPackage Log.State.initial.loggers
    "graphtypes.types.resolver" := by decide
  have hlevels : ∀ l ∈ [30, 10], l ∈ Log.namedLevels := by decide
  cases h with
  | warning => exact ⟨hlevels 30 List.mem_cons_self, hlogger⟩
  | detail => exact ⟨hlevels 10 (List.mem_cons_of_mem _ List.mem_cons_self), hlogger⟩

theorem isOwn_of_notes {rs : List PropertyRecord} {notes : List Log.Event}
    (h : List.Forall₂ Notes rs notes) : ∀ e ∈ notes, e.IsOwn := by
  induction h with
  | nil => exact List.forall_mem_nil _
  | cons hnote _ ih => exact List.forall_mem_cons.mpr ⟨hnote.1.isOwn, ih⟩

theorem isOwn_of_named {level : Log.Level} (h : level ∈ Log.namedLevels) (message : Text) :
    Log.Event.IsOwn ⟨level, "graphtypes.cli", message⟩ where
  isNamed := h
  isInPackage := (by decide : Log.Hierarchy.isInPackage _ "graphtypes.cli")

theorem Course.isOwn {events : List Log.Event} {answer : Except Failure Report}
    (h : Course source path events answer) : ∀ e ∈ events, e.IsOwn := by
  have herror := isOwn_of_named (by decide : (40 : Log.Level) ∈ Log.namedLevels)
  have hinfo := isOwn_of_named (by decide : (20 : Log.Level) ∈ Log.namedLevels)
  cases h with
  | unloaded => exact List.forall_mem_singleton.mpr (herror _)
  | refused => exact List.forall_mem_cons.mpr ⟨hinfo _, List.forall_mem_singleton.mpr (herror _)⟩
  | reported _ _ _ hnotes =>
      refine List.forall_mem_cons.mpr ⟨hinfo _, List.forall_mem_append.mpr ⟨?_, ?_⟩⟩
      · exact isOwn_of_notes hnotes
      · exact List.forall_mem_singleton.mpr (hinfo _)

theorem urgent_cons (e : Log.Event) (events : List Log.Event) :
    urgent (e :: events) = if 30 ≤ e.level then e :: urgent events else urgent events := by
  rw [urgent, List.filter_cons]
  exact if_congr decide_eq_true_iff rfl rfl

theorem urgent_append (es fs : List Log.Event) : urgent (es ++ fs) = urgent es ++ urgent fs :=
  List.filter_append ..

theorem urgent_notes {rs : List PropertyRecord} {notes : List Log.Event}
    (h : List.Forall₂ Notes rs notes) :
    urgent notes = (rs.filter PropertyRecord.isConflicting).map PropertyRecord.warning := by
  induction h with
  | nil => rfl
  | @cons r _ _ _ hnote _ ih =>
      rw [urgent_cons, ih, List.filter_cons]
      cases hnote.1 with
      | warning hd =>
          have hr : r.isConflicting := decide_eq_true hd
          rw [if_pos hr]
          rfl
      | detail hd =>
          have hr : ¬ r.isConflicting := fun h => hd (of_decide_eq_true h)
          rw [if_neg hr]
          rfl

theorem filter_isConflicting_hasSeveralTags (rs : List PropertyRecord) :
    (rs.filter PropertyRecord.hasSeveralTags).filter PropertyRecord.isConflicting =
      rs.filter PropertyRecord.isConflicting := by
  rw [List.filter_filter]
  refine List.filter_congr fun r _ => ?_
  rw [Bool.and_eq_left_iff_imp]
  exact PropertyRecord.hasSeveralTags_of_isConflicting

/-- The urgent events of a report that succeeds are the warnings about tags at odds, one for each
record with such tags. -/
theorem Course.urgent_eq {events : List Log.Event} {report : Report}
    (h : Course source path events (.ok report)) :
    ∃ payload rs, source.load path = .ok payload ∧ Payload.records payload = .ok rs ∧
      (ofPayload payload).answer = .ok report ∧
      urgent events = (rs.filter PropertyRecord.isConflicting).map PropertyRecord.warning := by
  cases h with
  | @reported payload rs _ notes hload hrecords hanswer hnotes =>
      refine ⟨payload, rs, hload, hrecords, hanswer, ?_⟩
      -- What is logged before and after the notes is of the level of information.
      have hinfo : ¬ (30 : Log.Level) ≤ 20 := by decide
      rw [urgent_cons, if_neg hinfo, urgent_append, urgent_cons, if_neg hinfo, urgent_notes hnotes,
        filter_isConflicting_hasSeveralTags]
      exact List.append_nil _

/-- Where the urgent events are warnings about some records, what the console shows is the lines of
these warnings. -/
theorem eq_warningLines {stamp id lines : Text} {events : List Log.Event}
    {rs : List PropertyRecord} (hurgent : urgent events = rs.map PropertyRecord.warning)
    (h : Log.Rendering 30 stamp (events.map fun e => ⟨e, .text id⟩) lines) :
    lines = rs.flatMap (PropertyRecord.warningLine stamp id) := by
  induction events generalizing lines rs with
  | nil =>
      cases List.map_eq_nil_iff.mp hurgent.symm
      cases h
      rfl
  | cons e events ih =>
      rw [urgent_cons] at hurgent
      cases h with
      | shown hlevel hline h =>
          rw [if_pos hlevel] at hurgent
          obtain ⟨r, rest, rfl, rfl, hrest⟩ := List.map_eq_cons_iff.mp hurgent.symm
          rw [List.flatMap_cons, ← ih hrest.symm h, hline.unique (r.isLine_warningLine stamp id)]
      | hidden hlevel h =>
          rw [if_neg (Int.not_le.mpr hlevel)] at hurgent
          exact ih hurgent h

end Report

namespace CommandLine

variable (env : Environment) (path : Text) (verbose : Bool)

/-- The least level of what the console of the program shows. -/
def leastLevel (verbose : Bool) : Log.Level := if verbose then 10 else 30

theorem configured_eq : configured verbose = { Log.State.initial with
    handlers := [.console], rootLevel := 20, packageLevel := leastLevel verbose } := by
  cases verbose <;> rfl

theorem enables_configured {logger : Text}
    (h : Log.Hierarchy.isInPackage Log.State.initial.loggers logger) (level : Log.Level) :
    (configured verbose).enables logger level = decide (leastLevel verbose ≤ level) := by
  have hset : leastLevel verbose ≠ Log.Level.notSet := by cases verbose <;> decide
  have hpos : Log.Level.notSet < leastLevel verbose := by cases verbose <;> decide
  have ht : (configured verbose).threshold logger = leastLevel verbose := by
    rw [configured_eq, Log.State.threshold, if_pos ⟨h, hset⟩]
  rw [Log.State.enables, ht, Bool.and_eq_right_iff_imp]
  intro hlevel
  exact decide_eq_true (Int.lt_of_lt_of_le hpos (of_decide_eq_true hlevel))

theorem rendering_configured {events : List Log.Event} (h : ∀ e ∈ events, e.IsOwn)
    (stamp id : Text) : Log.Rendering (leastLevel verbose) stamp
      (events.map fun e => ⟨e, .text id⟩)
      ((configured verbose).lines stamp (events.map fun e => ⟨e, .text id⟩)) := by
  have hconsole : (configured verbose).hasConsole := by rw [configured_eq]; rfl
  refine Log.State.rendering_lines hconsole ?_ ?_
  · intro r hr
    obtain ⟨e, he, rfl⟩ := List.mem_map.mp hr
    exact enables_configured verbose (h e he).isInPackage e.level
  · intro r hr
    obtain ⟨e, he, rfl⟩ := List.mem_map.mp hr
    exact (h e he).exists_line stamp id

/-- The run on the file that the program resolves. -/
def fileRun : Run Report :=
  Report.run env.source path none env.freshRunId (configured verbose)

theorem exists_records_fileRun : ∃ id, (fileRun env path verbose).records =
    (Report.ofFile env.source path).events.map fun e => ⟨e, .text id⟩ := by
  by_cases h : (runIdentity none env.freshRunId).isTruthy
  · refine ⟨env.freshRunId, ?_⟩
    rw [fileRun, Report.run, Traced.records_inRun, Log.State.runId_push h]
    rfl
  · refine ⟨"-", ?_⟩
    rw [fileRun, Report.run, Traced.records_inRun, Log.State.push_of_not_truthy h, configured_eq]
    rfl

/-- What the program prints is what the console shows of the run. The document of a report stands
behind it, and the line of a failure that is reported again outside the run. -/
theorem resolve_eq : resolve env path verbose = match (Report.ofFile env.source path).answer with
    | .ok report =>
      ⟨0, (configured verbose).lines env.stamp (fileRun env path verbose).records ++
        Text.ofChars (Json.render report.toValue) ++ "\n", []⟩
    | .error f =>
      ⟨1, (configured verbose).lines env.stamp ((fileRun env path verbose).records ++
        [⟨resolveFailed f, .text "-"⟩]), []⟩ := by
  have hrun : (fileRun env path verbose).state.runId = .text "-" := by
    rw [fileRun, Report.run, Traced.runId_inRun, configured_eq]
    rfl
  have hlines : ∀ rs, (fileRun env path verbose).state.lines env.stamp rs =
      (configured verbose).lines env.stamp rs := fun rs => Traced.lines_inRun ..
  unfold resolve
  change (match (Report.ofFile env.source path).answer with
    | .ok _ => Output.mk 0 ((fileRun env path verbose).state.lines env.stamp _ ++ _ ++ _) []
    | .error f => Output.mk 1 ((fileRun env path verbose).state.lines env.stamp (_ ++
      [(resolveFailed f).inRun (fileRun env path verbose).state.runId])) []) = _
  simp only [hlines, hrun]
  rfl

end CommandLine

end PropertyTyping

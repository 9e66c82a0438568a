import PropertyTyping.Proofs.ConsoleLines
import PropertyTyping.Proofs.ReportDocument

/-! How the program ends when it resolves a file, and all that it prints. It succeeds exactly when
the file is loaded and its records are read. On success the urgent records of the run stand before
the document, on failure the fault is reported twice, within the run and after it. -/

namespace PropertyTyping

namespace Report

variable {source : FileSource} {path : Text}

theorem exists_answer_ofFile_iff :
    (∃ report, (ofFile source path).answer = .ok report) ↔
      ∃ payload rs, source.load path = .ok payload ∧ Payload.records payload = .ok rs := by
  constructor
  · rintro ⟨report, h⟩
    obtain ⟨payload, rs, hload, hrecords, _⟩ := ofFile_eq_ok h
    exact ⟨payload, rs, hload, hrecords⟩
  · rintro ⟨payload, rs, hload, hrecords⟩
    rw [ofFile_eq, hload]
    simp only [hrecords]
    exact ⟨_, rfl⟩

/-- The last event of a run that fails reports the fault. -/
theorem Course.exists_eq_concat {events : List Log.Event} {f : Failure}
    (h : Course source path events (.error f)) : ∃ before, events = before ++
      [⟨40, "graphtypes.cli", ("Type resolution failed: " : Text) ++ f.message⟩] := by
  cases h with
  | unloaded => exact ⟨[], rfl⟩
  | refused => exact ⟨[_], rfl⟩

end Report

namespace CommandLine

variable {env : Environment} {path : Text} {verbose : Bool}

theorem records_fileRun (h : env.freshRunId ≠ []) : (fileRun env path verbose).records =
    (Report.ofFile env.source path).events.map fun e => ⟨e, .text env.freshRunId⟩ :=
  Report.records_run h .absent env.source path (configured verbose)

/-- The line of an error that the program reports by itself. -/
def errorLine (stamp id message : Text) : Text :=
  stamp ++ " | ERROR    | graphtypes.cli | run=" ++ id ++ " | " ++ message ++ "\n"

theorem isLine_errorLine (stamp id message : Text) :
    Log.IsLine stamp ⟨⟨40, "graphtypes.cli", message⟩, .text id⟩ (errorLine stamp id message) := by
  refine ⟨_, _, .error, .text id, ?_⟩
  simp only [errorLine, Log.lineOf, List.append_assoc]
  rfl

theorem errorLine_failed (stamp id message : Text) :
    errorLine stamp id (("Type resolution failed: " : Text) ++ message) =
      stamp ++ " | ERROR    | graphtypes.cli | run=" ++ id ++ " | Type resolution failed: " ++
        message ++ "\n" := by
  have hopening : (" | Type resolution failed: " : Text) =
      (" | " : Text) ++ "Type resolution failed: " := by decide
  rw [errorLine, hopening]
  simp only [List.append_assoc]

theorem errorLine_resolveFailed (stamp message : Text) :
    errorLine stamp "-" (("Resolve failed: " : Text) ++ message) =
      stamp ++ " | ERROR    | graphtypes.cli | run=- | Resolve failed: " ++ message ++ "\n" := by
  have hopening : (" | ERROR    | graphtypes.cli | run=- | Resolve failed: " : Text) =
      (" | ERROR    | graphtypes.cli | run=" : Text) ++ "-" ++ " | " ++ "Resolve failed: " := by
    decide
  rw [errorLine, hopening]
  simp only [List.append_assoc]

theorem resolveFailed_eq (f : Failure) :
    resolveFailed f = ⟨40, "graphtypes.cli", ("Resolve failed: " : Text) ++ f.message⟩ := by
  rw [resolveFailed, Report.logger_eq]
  rfl

/-- How the program ends when it resolves a file. On success it prints what the run logged that is
urgent enough and then the document. On failure it prints what the run logged up to the failure, the
failure as the run reports it, and the failure again as it is reported outside of any run. -/
inductive Ends (env : Environment) (path : Text) (verbose : Bool) : Output → Prop
  | resolved {payload : Value} {rs : List PropertyRecord} {report : Report}
      {events : List Log.Event} {lines : Text} :
      env.source.load path = .ok payload → Payload.records payload = .ok rs →
      (Report.ofPayload payload).answer = .ok report →
      Report.Course env.source path events (.ok report) →
      ((fileRun env path verbose).records = events.map fun e => ⟨e, .text env.freshRunId⟩) →
      Log.Rendering (if verbose then 10 else 30) env.stamp
        (events.map fun e => ⟨e, .text env.freshRunId⟩) lines →
      -- The urgent records are the warnings, and without further details they are all that is shown.
      Report.urgent events =
        (rs.filter PropertyRecord.isConflicting).map PropertyRecord.warning →
      (verbose = false → lines = (rs.filter PropertyRecord.isConflicting).flatMap
        (PropertyRecord.warningLine env.stamp env.freshRunId)) →
      (report.Whole → report.Countable →
        Json.parse (Json.render report.toValue) = .ok report.toValue) →
      Ends env path verbose ⟨0, lines ++ Text.ofChars (Json.render report.toValue) ++ "\n", []⟩
  | failed {f : Failure} {before : List Log.Event} {lines : Text} :
      Report.Course env.source path (before ++
        [⟨40, "graphtypes.cli", ("Type resolution failed: " : Text) ++ f.message⟩]) (.error f) →
      ((fileRun env path verbose).records = List.map (fun e => ⟨e, .text env.freshRunId⟩) (before ++
        [⟨40, "graphtypes.cli", ("Type resolution failed: " : Text) ++ f.message⟩])) →
      Log.Rendering (if verbose then 10 else 30) env.stamp
        (before.map fun e => ⟨e, .text env.freshRunId⟩) lines →
      Ends env path verbose ⟨1, lines ++
        (env.stamp ++ " | ERROR    | graphtypes.cli | run=" ++ env.freshRunId ++
          " | Type resolution failed: " ++ f.message ++ "\n") ++
        (env.stamp ++ " | ERROR    | graphtypes.cli | run=- | Resolve failed: " ++ f.message ++
          "\n"), []⟩

/-- An error is shown at either level. -/
theorem lines_error (verbose : Bool) (stamp id message : Text) :
    (configured verbose).lines stamp [⟨⟨40, "graphtypes.cli", message⟩, .text id⟩] =
      errorLine stamp id message := by
  have hleast : leastLevel verbose ≤ 40 := by cases verbose <;> decide
  have hown := Report.isOwn_of_named (by decide : (40 : Log.Level) ∈ Log.namedLevels) message
  have hrendering := rendering_configured verbose (List.forall_mem_singleton.mpr hown) stamp id
  exact hrendering.eq_line hleast (isLine_errorLine stamp id message)

theorem ends_of_ok (hfresh : env.freshRunId ≠ []) {report : Report}
    (h : (Report.ofFile env.source path).answer = .ok report) :
    Ends env path verbose (resolve env path verbose) := by
  have hcourse := Report.course_ofFile env.source path
  have hrendering := rendering_configured verbose hcourse.isOwn env.stamp env.freshRunId
  rw [h] at hcourse
  obtain ⟨payload, rs, hload, hrecords, hanswer, hurgent⟩ := hcourse.urgent_eq
  rw [resolve_eq, h, records_fileRun hfresh]
  refine .resolved hload hrecords hanswer hcourse (records_fileRun hfresh) hrendering hurgent ?_ ?_
  · intro hcalm
    rw [hcalm] at hrendering
    rw [hcalm]
    exact Report.eq_warningLines hurgent hrendering
  · intro hwhole hcount
    have hparse := (report.parse_render_append_iff (List.forall_mem_nil _)).mpr ⟨hwhole, hcount⟩
    rwa [List.append_nil] at hparse

theorem ends_of_error (hfresh : env.freshRunId ≠ []) {f : Failure}
    (h : (Report.ofFile env.source path).answer = .error f) :
    Ends env path verbose (resolve env path verbose) := by
  have hcourse := Report.course_ofFile env.source path
  have hown := hcourse.isOwn
  have hrecords : (fileRun env path verbose).records = _ := records_fileRun hfresh
  rw [h] at hcourse
  obtain ⟨before, hevents⟩ := hcourse.exists_eq_concat
  rw [hevents] at hcourse hown hrecords
  have hrendering := rendering_configured verbose (List.forall_mem_append.mp hown).1 env.stamp
    env.freshRunId
  have hend := Ends.failed hcourse hrecords hrendering
  rw [resolve_eq, h]
  simp only
  rw [hrecords, List.map_append, Log.State.lines_append, Log.State.lines_append, resolveFailed_eq,
    List.map_singleton, lines_error, lines_error, errorLine_failed, errorLine_resolveFailed]
  exact hend

theorem exitCode_resolve : (resolve env path verbose).exitCode = 0 ↔
    ∃ payload rs, env.source.load path = .ok payload ∧ Payload.records payload = .ok rs := by
  rw [← Report.exists_answer_ofFile_iff, resolve_eq]
  cases (Report.ofFile env.source path).answer with
  | ok report => exact iff_of_true rfl ⟨report, rfl⟩
  | error f => exact iff_of_false Nat.one_ne_zero nofun

/-- Whatever file the program is asked to resolve, it ends in one of the two ways, and it succeeds
exactly when the file is loaded and its records are read. -/
theorem run_ends {arguments : List Text}
    (hrequest : Request.ofArguments arguments = .ok (.resolve path verbose))
    (hfresh : env.freshRunId ≠ []) :
    Ends env path verbose (run env arguments) ∧
    ((run env arguments).exitCode = 0 ↔
      ∃ payload rs, env.source.load path = .ok payload ∧ Payload.records payload = .ok rs) := by
  rw [run, hrequest]
  refine ⟨?_, exitCode_resolve⟩
  change Ends env path verbose (resolve env path verbose)
  cases h : (Report.ofFile env.source path).answer with
  | ok report => exact ends_of_ok hfresh h
  | error f => exact ends_of_error hfresh h

/-- A world with one file, in which the tags of a record are at odds. -/
def conflictingWorld : Environment := ⟨Report.conflictingFile, "2024-05-01 12:00:00", "5d2c"⟩

/-- The file is resolved with a warning, and another file is not there. -/
theorem run_ends_of_conflict :
    conflictingWorld.freshRunId ≠ [] ∧
    (Request.ofArguments ["resolve", "p.json"] = .ok (.resolve "p.json" false) ∧
      Ends conflictingWorld "p.json" false (run conflictingWorld ["resolve", "p.json"]) ∧
      (run conflictingWorld ["resolve", "p.json"]).exitCode = 0) ∧
    Request.ofArguments ["resolve", "-v", "q.json"] = .ok (.resolve "q.json" true) ∧
      Ends conflictingWorld "q.json" true (run conflictingWorld ["resolve", "-v", "q.json"]) ∧
      (run conflictingWorld ["resolve", "-v", "q.json"]).exitCode = 1 := by
  have hfresh : conflictingWorld.freshRunId ≠ [] := by decide
  have hplain : Request.ofArguments ["resolve", "p.json"] = .ok (.resolve "p.json" false) := rfl
  have hverbose : Request.ofArguments ["resolve", "-v", "q.json"] =
      .ok (.resolve "q.json" true) := rfl
  have hexit : (run conflictingWorld ["resolve", "p.json"]).exitCode = 0 := by decide +kernel
  have hmissing : (run conflictingWorld ["resolve", "-v", "q.json"]).exitCode = 1 := by
    decide +kernel
  exact ⟨hfresh, ⟨hplain, (run_ends hplain hfresh).1, hexit⟩, hverbose,
    (run_ends hverbose hfresh).1, hmissing⟩

end CommandLine

end PropertyTyping

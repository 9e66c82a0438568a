import PropertyTyping.Proofs.ConsoleLines
import PropertyTyping.Proofs.JsonLexicon
import PropertyTyping.Proofs.ReportDocument

/-! What the program prints when it resolves a file. The lines of warnings stand before the document
of the report, so the whole is a document only if nothing was warned about. -/

namespace PropertyTyping

namespace CommandLine

variable {env : Environment} {path : Text} {verbose : Bool}

/-- Where there are warnings, the end of one of them is in what is printed. -/
theorem exists_warningLines_eq {rs : List PropertyRecord} {r : PropertyRecord} (hr : r ∈ rs)
    (stamp id : Text) : ∃ before behind, rs.flatMap (PropertyRecord.warningLine stamp id) =
      before ++ ("String\n" : Text) ++ behind := by
  obtain ⟨first, rest, rfl⟩ := List.append_of_mem hr
  obtain ⟨start, hline⟩ := r.exists_warningLine_eq_append stamp id
  refine ⟨first.flatMap (PropertyRecord.warningLine stamp id) ++ start,
    rest.flatMap (PropertyRecord.warningLine stamp id), ?_⟩
  rw [List.flatMap_append, List.flatMap_cons, hline]
  simp only [List.append_assoc]

theorem exists_answer_of_exitCode (h : (resolve env path verbose).exitCode = 0) :
    ∃ report, (Report.ofFile env.source path).answer = .ok report := by
  rw [resolve_eq] at h
  cases ha : (Report.ofFile env.source path).answer with
  | ok report => exact ⟨report, rfl⟩
  | error f =>
      rw [ha] at h
      cases h

theorem exists_resolve_eq_ok {report : Report}
    (h : (Report.ofFile env.source path).answer = .ok report) :
    ∃ id lines, Log.Rendering (leastLevel verbose) env.stamp
        ((Report.ofFile env.source path).events.map fun e => ⟨e, .text id⟩) lines ∧
      resolve env path verbose =
        ⟨0, lines ++ Text.ofChars (Json.render report.toValue) ++ "\n", []⟩ := by
  obtain ⟨id, hrecords⟩ := exists_records_fileRun env path verbose
  have hown := (Report.course_ofFile env.source path).isOwn
  refine ⟨id, _, rendering_configured verbose hown env.stamp id, ?_⟩
  rw [resolve_eq, h, hrecords]

/-- Whatever file is resolved without a fault, the standard output is the document of the report on
it just when the tags of no record are at odds, no name of the report holds two halves of a
character side by side, and the count of records can be read. -/
theorem standard_reads_iff {env : Environment} {arguments : List Text} {path : Text}
    (hrequest : Request.ofArguments arguments = .ok (.resolve path false))
    (hexit : (run env arguments).exitCode = 0) :
    ∃ payload rs, env.source.load path = .ok payload ∧ Payload.records payload = .ok rs ∧
      (Report.ofPayload payload).answer = .ok (Report.ofRecords rs) ∧
      (Json.parse ((run env arguments).standard.map CodePoint.toChar) =
          .ok (Report.ofRecords rs).toValue ↔
        (∀ r ∈ rs, ¬ Resolution.Degrades (Tag.seen r.observations)) ∧
          (Report.ofRecords rs).Whole ∧ (Report.ofRecords rs).Countable) := by
  have hrun : run env arguments = resolve env path false := by
    rw [run, hrequest]
  rw [hrun] at hexit ⊢
  obtain ⟨report, hanswer⟩ := exists_answer_of_exitCode hexit
  obtain ⟨payload, rs, hload, hrecords, rfl, _⟩ := Report.ofFile_eq_ok hanswer
  obtain ⟨id, lines, hrendering, hresolve⟩ := exists_resolve_eq_ok hanswer
  have hurgent : Report.urgent (Report.ofFile env.source path).events =
      (rs.filter PropertyRecord.isConflicting).map PropertyRecord.warning := by
    have hcourse := Report.course_ofFile env.source path
    rw [hanswer] at hcourse
    obtain ⟨_, rs', hload', hrecords', _, hurgent⟩ := hcourse.urgent_eq
    cases hload.symm.trans hload'
    cases hrecords.symm.trans hrecords'
    exact hurgent
  refine ⟨payload, rs, hload, hrecords, by rw [Report.ofPayload_eq hrecords], ?_⟩
  rw [hresolve, Report.eq_warningLines hurgent hrendering, List.map_append, List.map_append,
    Text.toChar_ofChars]
  by_cases h : ∀ r ∈ rs, ¬ Resolution.Degrades (Tag.seen r.observations)
  · have hnone : rs.filter PropertyRecord.isConflicting = [] :=
      List.filter_eq_nil_iff.mpr fun r hr hd => h r hr (of_decide_eq_true hd)
    rw [hnone, and_iff_right h]
    exact Report.parse_render_iff _
  · refine iff_of_false ?_ fun hall => h hall.1
    simp only [not_forall, not_not] at h
    obtain ⟨r, hr, hd⟩ := h
    have hmem : r ∈ rs.filter PropertyRecord.isConflicting :=
      List.mem_filter.mpr ⟨hr, decide_eq_true hd⟩
    obtain ⟨before, behind, hlines⟩ := exists_warningLines_eq hmem env.stamp id
    rw [hlines]
    simp only [List.map_append, List.append_assoc]
    exact Json.parse_ne_ok (fun z => by cases z <;> rfl) _

/-- A world in which every path leads to the same document. -/
def Environment.ofDocument (document : String) : Environment where
  source := ⟨fun _ => .file (document.toList.map fun c => UInt8.ofNat c.toNat), none⟩
  stamp := "2024-05-01 12:00:00"
  freshRunId := "5d2c"

/-- Two records, of which one has tags that are unified without loss. -/
def unifiedRecords : Environment := .ofDocument
  "[\x7b\"nodeType\": \"\x60Person\x60\", \"propertyTypes\": [\"Integer\", null, \"Long\"]\x7d, \x7b\x7d]"

theorem standard_reads_of_unified :
    Request.ofArguments ["resolve", "p.json"] = .ok (.resolve "p.json" false) ∧
    (run unifiedRecords ["resolve", "p.json"]).exitCode = 0 ∧
    ∃ rs, rs.length = 2 ∧ Json.parse ((run unifiedRecords ["resolve", "p.json"]).standard.map
      CodePoint.toChar) = .ok (Report.ofRecords rs).toValue := by
  have hrequest : Request.ofArguments ["resolve", "p.json"] = .ok (.resolve "p.json" false) := rfl
  have hexit : (run unifiedRecords ["resolve", "p.json"]).exitCode = 0 := by decide +kernel
  obtain ⟨payload, rs, hload, hrecords, _, hiff⟩ := standard_reads_iff hrequest hexit
  have hrs : (unifiedRecords.source.load "p.json").toOption.bind
      (fun v => (Payload.records v).toOption) =
      some [
        ⟨none, some [some "Integer", none, some "Long"], false, some "\x60Person\x60", [], none⟩,
        ⟨none, none, false, none, [], none⟩] := by decide +kernel
  rw [hload] at hrs
  simp only [Except.toOption, Option.bind_some, hrecords, Option.some.injEq] at hrs
  subst hrs
  exact ⟨hrequest, hexit, _, rfl, hiff.mpr (by decide)⟩

/-- A long and a date, of which only a string is left. -/
def conflictingTags : Environment := .ofDocument "[\x7b\"propertyTypes\": [\"Long\", \"Date\"]\x7d]"

theorem standard_not_read_of_conflict :
    Request.ofArguments ["resolve", "p.json"] = .ok (.resolve "p.json" false) ∧
    (run conflictingTags ["resolve", "p.json"]).exitCode = 0 ∧
    ∃ payload report, conflictingTags.source.load "p.json" = .ok payload ∧
      (Report.ofPayload payload).answer = .ok report ∧
      Json.parse ((run conflictingTags ["resolve", "p.json"]).standard.map CodePoint.toChar) ≠
        .ok report.toValue := by
  have hexit : (resolve conflictingTags "p.json" false).exitCode = 0 := by decide +kernel
  have hunread : (Json.parse ((run conflictingTags ["resolve", "p.json"]).standard.map
    CodePoint.toChar)).isOk = false := by decide +kernel
  obtain ⟨report, hanswer⟩ := exists_answer_of_exitCode hexit
  obtain ⟨payload, rs, hload, hrecords, rfl, _⟩ := Report.ofFile_eq_ok hanswer
  refine ⟨rfl, hexit, payload, _, hload, by rw [Report.ofPayload_eq hrecords], ?_⟩
  intro h
  rw [h] at hunread
  cases hunread

end CommandLine

end PropertyTyping

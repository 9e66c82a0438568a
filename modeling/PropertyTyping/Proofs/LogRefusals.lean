import PropertyTyping.Proofs.LogSettings

/-! Configurations whose request for a level is refused. The console is set up before the request is
looked at, so a refusal leaves the settings as they were only if the console listened already, that
is, if logging was configured before, with or without success. -/

namespace PropertyTyping.Log

/-- What is refused as a level: values that are no texts, and two names in any case that stand among
those of levels. -/
inductive Refused : Value → Fault → Prop
  | notText {v : Value} : v.text? = none → Refused v (.misuse (.noCapitals v.kind))
  | lineFormat {v : Value} {t : Text} : v.text? = some t →
      t.asciiCapitals = Text.ofString "BASIC_FORMAT" → Refused v .unknownLevel
  | formatTable {v : Value} {t : Text} : v.text? = some t →
      t.asciiCapitals = Text.ofString "_STYLES" → Refused v .notLevel

namespace LevelRequest

theorem ofText_eq_lineFormat_iff {t : Text} :
    ofText t = .lineFormat ↔ t.asciiCapitals = Text.ofString "BASIC_FORMAT" := by
  constructor
  · intro h
    by_contra hname
    simp only [ofText, if_neg hname] at h
    split at h
    · cases h
    split at h
    · cases h
    · cases h
  · intro h
    simp only [ofText, h, if_true]

theorem ofText_eq_formatTable_iff {t : Text} :
    ofText t = .formatTable ↔ t.asciiCapitals = Text.ofString "_STYLES" := by
  constructor
  · intro h
    by_contra hname
    simp only [ofText, if_neg hname] at h
    split at h
    · cases h
    split at h
    · cases h
    · cases h
  · intro h
    have hne : Text.ofString "_STYLES" ≠ Text.ofString "BASIC_FORMAT" := by decide
    simp only [ofText, h, if_neg hne, if_true]

theorem resolve_eq_error_iff {v : Value} {f : Fault} : resolve v = .error f ↔ Refused v f := by
  constructor
  · intro h
    unfold resolve at h
    cases ht : v.text? with
    | none =>
        simp only [ht, Except.error.injEq] at h
        exact h ▸ .notText ht
    | some t =>
        cases hasked : ofText t with
        | level l => simp only [ht, hasked, reduceCtorEq] at h
        | lineFormat =>
            simp only [ht, hasked, Except.error.injEq] at h
            exact h ▸ .lineFormat ht (ofText_eq_lineFormat_iff.mp hasked)
        | formatTable =>
            simp only [ht, hasked, Except.error.injEq] at h
            exact h ▸ .formatTable ht (ofText_eq_formatTable_iff.mp hasked)
  · intro h
    cases h with
    | notText ht => simp only [resolve, ht]
    | lineFormat ht hname => simp only [resolve, ht, ofText_eq_lineFormat_iff.mpr hname]
    | formatTable ht hname => simp only [resolve, ht, ofText_eq_formatTable_iff.mpr hname]

end LevelRequest

/-- States that agree on what listens and on how urgent an event must be. -/
structure State.SameSettings (s t : State) : Prop where
  handlers : s.handlers = t.handlers
  rootLevel : s.rootLevel = t.rootLevel
  packageLevel : s.packageLevel = t.packageLevel

theorem State.sameSettings_withConsole_iff {s : State} :
    s.withConsole.SameSettings s ↔ .console ∈ s.handlers := by
  constructor
  · intro h
    by_contra hmem
    have hlength := congrArg List.length h.handlers
    rw [withConsole_of_not_mem hmem, List.length_append] at hlength
    exact Nat.succ_ne_self _ hlength
  · intro hmem
    rw [withConsole_of_mem hmem]
    exact ⟨rfl, rfl, rfl⟩

namespace Session

/-- A configuration after several actions. -/
def configuredAfter (stamp : Text) (as : List Action) (request : Value) : Taken :=
  (initial.after stamp as).step stamp (.configure request)

theorem configuredAfter_of_refused (stamp : Text) (as : List Action) {request : Value} {f : Fault}
    (h : Refused request f) : configuredAfter stamp as request =
      ⟨{ initial.after stamp as with state := (initial.after stamp as).state.withConsole },
        .failed f, []⟩ :=
  step_configure_of_error stamp _ (LevelRequest.resolve_eq_error_iff.mpr h)

theorem outcome_configuredAfter_iff (stamp : Text) (as : List Action) (request : Value)
    (f : Fault) : (configuredAfter stamp as request).outcome = .failed f ↔ Refused request f := by
  constructor
  · intro h
    cases hlevel : LevelRequest.resolve request with
    | ok l =>
        rw [configuredAfter, step_configure_of_ok stamp _ hlevel] at h
        cases h
    | error g =>
        rw [configuredAfter, step_configure_of_error stamp _ hlevel] at h
        cases h
        exact LevelRequest.resolve_eq_error_iff.mp hlevel
  · intro h
    rw [configuredAfter_of_refused stamp as h]

/-- A configuration fails exactly when its request is refused. After any history it then leaves the
settings as they were exactly when logging was configured before. If it was not, the console listens
from now on and the root has the level of information, and that is all that has changed. -/
theorem failed_configure_keeps_iff (stamp : Text) (as : List Action) (request : Value) (f : Fault) :
    ((configuredAfter stamp as request).outcome = .failed f ↔ Refused request f) ∧
    (Refused request f →
      ((configuredAfter stamp as request).session.state.SameSettings
          (initial.after stamp as).state ↔ ∃ level, .configure level ∈ as) ∧
      ((∀ level, .configure level ∉ as) →
        (configuredAfter stamp as request).session =
          { initial.after stamp as with
            state := { (initial.after stamp as).state with
              handlers := (initial.after stamp as).state.handlers ++ [.console],
              rootLevel := Level.info } })) := by
  refine ⟨outcome_configuredAfter_iff stamp as request f, fun h => ?_⟩
  have hconsole := (settled_after stamp as).console_mem_iff
  rw [configuredAfter_of_refused stamp as h]
  refine ⟨State.sameSettings_withConsole_iff.trans hconsole, fun hnone => ?_⟩
  have hmem : .console ∉ (initial.after stamp as).state.handlers := by
    rw [hconsole, not_exists]
    exact hnone
  simp only [State.withConsole_of_not_mem hmem]

/-- Logging that was set up stays as it is, whatever else was done since. -/
theorem failed_configure_keeps_of_earlier :
    Refused (.text "basic_format") .unknownLevel ∧
    (configuredAfter [] [.configure (.int 7), .addHandler] (.text "basic_format")).outcome =
      .failed .unknownLevel ∧
    (configuredAfter [] [.configure (.int 7), .addHandler]
      (.text "basic_format")).session.state.SameSettings
        (initial.after [] [.configure (.int 7), .addHandler]).state := by
  have hrefused : Refused (.text "basic_format") .unknownLevel := .lineFormat rfl (by decide)
  obtain ⟨hfails, hkeeps⟩ := failed_configure_keeps_iff [] [.configure (.int 7), .addHandler]
    (.text "basic_format") .unknownLevel
  exact ⟨hrefused, hfails.mpr hrefused, (hkeeps hrefused).1.mpr ⟨_, List.mem_cons_self⟩⟩

/-- The first configuration sets up the console although its request is refused. -/
theorem failed_configure_changes_of_lineFormat :
    (configuredAfter [] [] (.text "BASIC_FORMAT")).outcome = .failed .unknownLevel ∧
    ¬ (configuredAfter [] [] (.text "BASIC_FORMAT")).session.state.SameSettings
      (initial.after [] []).state := by
  refine ⟨rfl, fun h => ?_⟩
  have hhandlers : [Handler.console] = [] := h.handlers
  cases hhandlers

end Session

end PropertyTyping.Log

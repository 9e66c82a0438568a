import PropertyTyping.Log.Event
import PropertyTyping.Proofs.Writing

/-! The line of a record, field by field. A record has one line at most, and it has none only if an
integer that is too long to be written stands for its level or in its run. -/

namespace PropertyTyping.Log

/-- The levels that have a name. -/
def namedLevels : List Level := [50, 40, 30, 20, 10, 0]

/-- How a level is shown in a line: by a name or by its number, filled up to eight places. -/
inductive Labels : Level → Text → Prop
  | critical : Labels 50 "CRITICAL"
  | error : Labels 40 "ERROR   "
  | warning : Labels 30 "WARNING "
  | info : Labels 20 "INFO    "
  | debug : Labels 10 "DEBUG   "
  | notSet : Labels 0 "NOTSET  "
  | number {level : Level} {t : Text} : level ∉ namedLevels → level.natAbs < Value.leastLong →
      t = ("Level " : Text) ++ Text.ofInt level →
      Labels level (t ++ List.replicate (8 - t.length) (.scalar ' '))

/-- How a run is shown in a line: a text as it is, anything else as it is written out. -/
inductive Marks : Value → Text → Prop
  | text (t : Text) : Marks (.text t) t
  | tag (s : StorageType) : Marks (.tag s) (("Neo4jType." : Text) ++ s.constant)
  | moment (m : Moment) : Marks (.moment m) m.toText
  | other {v : Value} {t : Text} : v.text? = none → (∀ m, v ≠ .moment m) → v.describe = .ok t →
      Marks v t

/-- A line of its fields. -/
def lineOf (stamp label logger run message : Text) : Text :=
  stamp ++ " | " ++ label ++ " | " ++ logger ++ " | run=" ++ run ++ " | " ++ message ++ "\n"

/-- A text is the line of a record. -/
def IsLine (stamp : Text) (r : Record) (line : Text) : Prop :=
  ∃ label run, Labels r.event.level label ∧ Marks r.runId run ∧
    line = lineOf stamp label r.event.logger run r.event.message

namespace Level

/-- Levels whose number is too long to be written. -/
def IsLong (level : Level) : Prop := Value.leastLong ≤ level.natAbs

theorem name_of_unnamed {level : Level} (h : level ∉ namedLevels) :
    level.name = do return ("Level " : Text) ++ (← Value.describeInt level) := by
  have hne : ∀ l ∈ namedLevels, level ≠ l := fun l hl he => h (he ▸ hl)
  have hcritical : level ≠ critical := hne critical (by decide)
  have herror : level ≠ error := hne error (by decide)
  have hwarning : level ≠ warning := hne warning (by decide)
  have hinfo : level ≠ info := hne info (by decide)
  have hdebug : level ≠ debug := hne debug (by decide)
  have hnotSet : level ≠ notSet := hne notSet (by decide)
  rw [name, if_neg hcritical, if_neg herror, if_neg hwarning, if_neg hinfo, if_neg hdebug,
    if_neg hnotSet]

theorem exists_labels_of_named {level : Level} (h : level ∈ namedLevels) :
    ∃ t, level.name = .ok t ∧ Labels level (t.padRight 8) := by
  simp only [namedLevels, List.mem_cons, List.not_mem_nil, or_false] at h
  rcases h with rfl | rfl | rfl | rfl | rfl | rfl
  · exact ⟨_, rfl, .critical⟩
  · exact ⟨_, rfl, .error⟩
  · exact ⟨_, rfl, .warning⟩
  · exact ⟨_, rfl, .info⟩
  · exact ⟨_, rfl, .debug⟩
  · exact ⟨_, rfl, .notSet⟩

theorem writing_name (level : Level) : Writing level.IsLong level.name := by
  by_cases h : level ∈ namedLevels
  · have hsmall : ∀ l ∈ namedLevels, Int.natAbs l ≤ 4300 := by decide
    obtain ⟨t, ht, _⟩ := exists_labels_of_named h
    rw [ht]
    exact .written t (Nat.not_le.mpr (Value.lt_leastLong (hsmall level h)))
  · rw [name_of_unnamed h]
    exact (Value.writing_describeInt level).map _

end Level

theorem labels_iff {level : Level} {label : Text} :
    Labels level label ↔ ∃ t, level.name = .ok t ∧ label = t.padRight 8 := by
  constructor
  · intro h
    cases h with
    | critical => exact ⟨_, rfl, rfl⟩
    | error => exact ⟨_, rfl, rfl⟩
    | warning => exact ⟨_, rfl, rfl⟩
    | info => exact ⟨_, rfl, rfl⟩
    | debug => exact ⟨_, rfl, rfl⟩
    | notSet => exact ⟨_, rfl, rfl⟩
    | number hnone hshort ht =>
        refine ⟨_, ?_, rfl⟩
        rw [Level.name_of_unnamed hnone, Value.describeInt_of_short hshort, ht]
        rfl
  · rintro ⟨t, ht, rfl⟩
    by_cases h : level ∈ namedLevels
    · obtain ⟨u, hu, hlabel⟩ := Level.exists_labels_of_named h
      cases ht.symm.trans hu
      exact hlabel
    · have hshort : level.natAbs < Value.leastLong :=
        Nat.not_le.mp fun hlong => nomatch ht.symm.trans (level.writing_name.eq_error hlong)
      rw [Level.name_of_unnamed h, Value.describeInt_of_short hshort] at ht
      cases ht
      exact .number h hshort rfl

theorem marks_iff {v : Value} {t : Text} : Marks v t ↔ v.shown = .ok t := by
  constructor
  · intro h
    cases h with
    | text t => rfl
    | tag s => rfl
    | moment m => rfl
    | other htext hmoment ht =>
        cases v with
        | text t => cases htext
        | tag s => cases htext
        | moment m => exact absurd rfl (hmoment m)
        | _ => exact ht
  · intro h
    cases v with
    | text t => cases h; exact .text t
    | tag s => cases h; exact .tag s
    | moment m => cases h; exact .moment m
    | _ => exact .other rfl (fun m => nofun) h

namespace Record

/-- The whole line of a record. -/
theorem line_eq_ok_iff {stamp : Text} {r : Record} {line : Text} :
    r.line stamp = .ok line ↔ IsLine stamp r line := by
  have hjoin : ∀ label run, Text.join " | " [stamp, label, r.event.logger, ("run=" : Text) ++ run,
      r.event.message] ++ "\n" = lineOf stamp label r.event.logger run r.event.message := by
    intro label run
    simp only [lineOf, Text.join, List.intercalate, List.intersperse_cons_cons,
      List.intersperse_singleton, List.flatten_cons, List.flatten_nil, List.append_nil,
      List.append_assoc]
    rfl
  constructor
  · intro h
    obtain ⟨t, ht, h⟩ := bind_eq_ok.mp h
    obtain ⟨run, hrun, h⟩ := bind_eq_ok.mp h
    cases h
    exact ⟨_, run, labels_iff.mpr ⟨t, ht, rfl⟩, marks_iff.mpr hrun, hjoin _ run⟩
  · rintro ⟨label, run, hlabel, hrun, rfl⟩
    obtain ⟨t, ht, rfl⟩ := labels_iff.mp hlabel
    rw [line, ht, marks_iff.mp hrun, ← hjoin]
    rfl

end Record

theorem IsLine.unique {stamp : Text} {r : Record} {line line' : Text} (h : IsLine stamp r line)
    (h' : IsLine stamp r line') : line = line' := by
  rw [← Record.line_eq_ok_iff] at h h'
  exact Except.ok.inj (h.symm.trans h')

end PropertyTyping.Log

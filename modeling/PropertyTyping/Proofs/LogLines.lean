import PropertyTyping.Proofs.LogHierarchy
import PropertyTyping.Proofs.LogSettings
import PropertyTyping.Proofs.RecordLine

/-! What the console writes when something is logged. After any history it writes one line or none,
and which of them depends only on whether logging was configured at all, on the level that was asked
for last, and on the run that is current. What loggers found about themselves before is kept, and it
stays true as long as it is kept. -/

namespace PropertyTyping.Log

/-- The level that counts for a logger: that of the package for the loggers in it, if it sets one,
and for all others that of the root. Where the package may be passed over it is what the hierarchy
gives, by the loggers that there are or by those that there were before. -/
inductive Governs (s : State) (logger : Text) : Level → Prop
  | package : InPackage logger → ¬ BehindGap logger → s.packageLevel ≠ Level.notSet →
      Governs s logger s.packageLevel
  | root : ¬ InPackage logger ∨ s.packageLevel = Level.notSet → Governs s logger s.rootLevel
  | hierarchy {loggers : List Text} : BehindGap logger → s.packageLevel ≠ Level.notSet →
      State.initial.loggers ⊆ loggers → (∀ n ∈ loggers, n ∈ s.loggers ∨ n = logger) →
      Governs s logger
        (if Hierarchy.isInPackage loggers logger then s.packageLevel else s.rootLevel)

namespace Governs

variable {s t : State} {logger : Text} {least : Level}

theorem mono (h : Governs s logger least) (hpackage : t.packageLevel = s.packageLevel)
    (hroot : t.rootLevel = s.rootLevel) (hloggers : s.loggers ⊆ t.loggers) :
    Governs t logger least := by
  cases h with
  | package hin hgap hset =>
      rw [← hpackage] at hset ⊢
      exact .package hin hgap hset
  | root h =>
      rw [← hpackage] at h
      rw [← hroot]
      exact .root h
  | hierarchy hgap hset hinitial hbound =>
      rw [← hpackage, ← hroot]
      rw [← hpackage] at hset
      exact .hierarchy hgap hset hinitial fun n hn => (hbound n hn).imp_left fun h => hloggers h

/-- Where the package cannot be passed over, the level is the same in all states with the same
levels. -/
theorem unique (hgap : ¬ BehindGap logger) {other : Level} (h : Governs s logger least)
    (h' : Governs t logger other) (hroot : t.rootLevel = s.rootLevel)
    (hpackage : InPackage logger → t.packageLevel = s.packageLevel) : other = least := by
  cases h with
  | package hin _ hset =>
      cases h' with
      | package _ _ _ => exact hpackage hin
      | root hout => exact hout.elim (absurd hin) fun hn => absurd (hpackage hin ▸ hn) hset
      | hierarchy hgap' _ _ _ => exact absurd hgap' hgap
  | root hout =>
      cases h' with
      | package hin _ hset => exact hout.elim (absurd hin) fun hn => absurd hn (hpackage hin ▸ hset)
      | root _ => exact hroot
      | hierarchy hgap' _ _ _ => exact absurd hgap' hgap
  | hierarchy hgap' _ _ _ => exact absurd hgap' hgap

end Governs

namespace State

theorem loggers_withLogger_subset (s : State) (logger : Text) :
    ∀ n ∈ (s.withLogger logger).loggers, n ∈ s.loggers ∨ n = logger := by
  intro n hn
  unfold withLogger at hn
  split at hn
  · exact .inl hn
  · exact (List.mem_append.mp hn).imp_right List.mem_singleton.mp

theorem subset_loggers_withLogger (s : State) (logger : Text) :
    s.loggers ⊆ (s.withLogger logger).loggers := by
  unfold withLogger
  split
  · exact List.Subset.refl _
  · exact List.subset_append_left _ _

/-- The level that is looked up for a logger is the one that counts for it. -/
theorem governs_threshold {s : State} (h : initial.loggers ⊆ s.loggers) (logger : Text) :
    Governs s logger ((s.withLogger logger).threshold logger) := by
  obtain ⟨loggers, hframe⟩ := s.withLogger_frame logger
  have hinitial := List.Subset.trans h (s.subset_loggers_withLogger logger)
  have hbound := s.loggers_withLogger_subset logger
  rw [hframe] at hinitial hbound ⊢
  have hpackage : package ∈ loggers := hinitial List.mem_cons_self
  unfold threshold
  by_cases hset : s.packageLevel = Level.notSet
  · rw [if_neg fun h => h.2 hset]
    exact .root (.inr hset)
  · by_cases hgap : BehindGap logger
    · rw [if_congr (and_iff_left hset) rfl rfl]
      exact .hierarchy hgap hset hinitial hbound
    · by_cases hin : InPackage logger
      · rw [if_pos ⟨(Hierarchy.isInPackage_iff hpackage hgap).mpr hin, hset⟩]
        exact .package hin hgap hset
      · rw [if_neg fun h => hin (Hierarchy.inPackage_of_isInPackage h.1)]
        exact .root (.inl hin)

theorem mem_of_decision? {s : State} {logger : Text} {level : Level} {d : Decision}
    (h : s.decision? logger level = some d) :
    d ∈ s.decisions ∧ d.logger = logger ∧ d.level = level := by
  have hfound := List.find?_some h
  exact ⟨List.mem_of_find?_eq_some h, of_decide_eq_true hfound⟩

theorem enables_iff {s : State} {logger : Text} {level : Level} :
    s.enables logger level ↔ Level.notSet < level ∧ s.threshold logger ≤ level := by
  rw [enables, Bool.and_eq_true, decide_eq_true_iff, decide_eq_true_iff]

end State

/-- What was found about a logger is what is found by the level that counts for it. -/
def Decision.Holds (s : State) (d : Decision) : Prop :=
  ∃ least, Governs s d.logger least ∧ (d.isEnabled ↔ Level.notSet < d.level ∧ least ≤ d.level)

theorem Decision.Holds.mono {s t : State} {d : Decision} (h : d.Holds s)
    (hpackage : t.packageLevel = s.packageLevel) (hroot : t.rootLevel = s.rootLevel)
    (hloggers : s.loggers ⊆ t.loggers) : d.Holds t := by
  obtain ⟨least, hleast, henabled⟩ := h
  exact ⟨least, hleast.mono hpackage hroot hloggers, henabled⟩

/-- States in which the loggers of the package are there and all that is kept about loggers holds. -/
structure Consistent (s : State) : Prop where
  subset_loggers : State.initial.loggers ⊆ s.loggers
  decisions_eq_nil : .console ∉ s.handlers → s.decisions = []
  holds : ∀ d ∈ s.decisions, d.Holds s

namespace Consistent

variable {s t : State}

theorem initial : Consistent .initial where
  subset_loggers := List.Subset.refl _
  decisions_eq_nil _ := rfl
  holds := List.forall_mem_nil _

theorem keep (h : Consistent s) (hhandlers : .console ∈ t.handlers ↔ .console ∈ s.handlers)
    (hroot : t.rootLevel = s.rootLevel) (hpackage : t.packageLevel = s.packageLevel)
    (hloggers : t.loggers = s.loggers) (hdecisions : t.decisions = s.decisions) :
    Consistent t where
  subset_loggers := by rw [hloggers]; exact h.subset_loggers
  decisions_eq_nil hmem := by
    rw [hdecisions]
    exact h.decisions_eq_nil (mt hhandlers.mpr hmem)
  holds := by
    rw [hdecisions]
    intro d hd
    exact (h.holds d hd).mono hpackage hroot (hloggers ▸ List.Subset.refl _)

theorem withConsole (h : Consistent s) : Consistent s.withConsole := by
  by_cases hmem : .console ∈ s.handlers
  · rwa [State.withConsole_of_mem hmem]
  · -- The root gets another level, but nothing that was found by its old one is kept.
    rw [State.withConsole_of_not_mem hmem]
    have hnone := h.decisions_eq_nil hmem
    refine ⟨h.subset_loggers, fun _ => hnone, ?_⟩
    simp only [hnone]
    exact List.forall_mem_nil _

theorem configure (h : Consistent s) (request : Value) :
    Consistent (s.configure request).1 := by
  cases hrequest : LevelRequest.resolve request with
  | ok l =>
      rw [State.configure_of_ok hrequest]
      exact ⟨h.withConsole.subset_loggers, fun _ => rfl, List.forall_mem_nil _⟩
  | error f =>
      rw [State.configure_of_error hrequest]
      exact h.withConsole

theorem withLogger (h : Consistent s) (logger : Text) : Consistent (s.withLogger logger) := by
  have hsubset := s.subset_loggers_withLogger logger
  obtain ⟨loggers, hframe⟩ := s.withLogger_frame logger
  rw [hframe] at hsubset ⊢
  refine ⟨List.Subset.trans h.subset_loggers hsubset, h.decisions_eq_nil, ?_⟩
  intro d hd
  exact (h.holds d hd).mono rfl rfl hsubset

/-- Asking a logger keeps what is known true. What it finds goes by the level that counts for it. -/
theorem ask (h : Consistent s) (logger : Text) (level : Level) :
    Consistent (s.ask logger level).1 ∧ ∃ least, Governs s logger least ∧
      ((s.ask logger level).2 ↔ Level.notSet < level ∧ least ≤ level) := by
  have hthreshold := State.governs_threshold h.subset_loggers logger
  have hasked := h.withLogger logger
  have hsubset := s.subset_loggers_withLogger logger
  obtain ⟨loggers, hframe⟩ := s.withLogger_frame logger
  rw [hframe] at hthreshold hasked hsubset
  simp only [State.ask, hframe]
  split
  · rename_i d hd
    obtain ⟨hmem, rfl, rfl⟩ := State.mem_of_decision? hd
    exact ⟨hasked, h.holds d hmem⟩
  · split
    · rename_i hconsole
      have hmem : .console ∈ s.handlers := List.contains_iff_mem.mp hconsole
      refine ⟨⟨hasked.subset_loggers, fun hn => absurd hmem hn, ?_⟩, _, hthreshold,
        State.enables_iff⟩
      intro d hd
      rcases List.mem_append.mp hd with hd | hd
      · exact (hasked.holds d hd).mono rfl rfl (List.Subset.refl _)
      · cases List.mem_singleton.mp hd
        exact ⟨_, hthreshold.mono rfl rfl hsubset, State.enables_iff⟩
    · exact ⟨hasked, _, hthreshold, State.enables_iff⟩

end Consistent

namespace Session

end Session

end PropertyTyping.Log

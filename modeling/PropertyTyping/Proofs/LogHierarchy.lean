import Mathlib.Data.List.Induction
import PropertyTyping.Log.State

/-! Which loggers inherit from that of the package. A logger under the name of the package does,
whatever other loggers there are, unless there is a second dot behind the first one. No logger under
another name does. -/

namespace PropertyTyping.Log

/-- Loggers that stand under the name of the package. -/
def InPackage (logger : Text) : Prop := logger = package ∨ (package ++ ("." : Text)) <+: logger

instance (logger : Text) : Decidable (InPackage logger) := inferInstanceAs (Decidable (_ ∨ _))

/-- Loggers under the name of the package with a second dot behind the first one. On the way up from
them the package may be passed over. -/
def BehindGap (logger : Text) : Prop := (package ++ ("..": Text)) <+: logger

instance (logger : Text) : Decidable (BehindGap logger) := inferInstanceAs (Decidable (_ <+: _))

namespace Hierarchy

variable {loggers : List Text}

theorem leadsToPackage_of_ne {c d : CodePoint} (h : c ≠ dot) (rest : List CodePoint) :
    leadsToPackage loggers (c :: d :: rest) = leadsToPackage loggers (d :: rest) := by
  rw [leadsToPackage, if_neg h]

theorem leadsToPackage_dot (d : CodePoint) (rest : List CodePoint) :
    leadsToPackage loggers (dot :: d :: rest) =
      if loggers.contains (d :: rest).reverse then
        (d :: rest).reverse = package || leadsToPackage loggers (d :: rest)
      else leadsToPackage loggers rest := by
  rw [leadsToPackage, if_pos rfl]

theorem leadsToPackage_child (h : package ∈ loggers) :
    leadsToPackage loggers (dot :: package.reverse) := by
  have hpackage : package.reverse = CodePoint.scalar 's' :: package.reverse.tail := by decide
  rw [hpackage, leadsToPackage_dot, ← hpackage, List.reverse_reverse,
    if_pos (List.contains_iff_mem.mpr h), decide_eq_true rfl, Bool.true_or]

/-- The way up from a name under the package, by steps of one code point or two. None of them passes
over the dot behind the package unless there is another dot behind that one. -/
theorem leadsToPackage_append (h : package ∈ loggers) {behind : List CodePoint}
    (hdot : behind.getLast? ≠ some dot) :
    leadsToPackage loggers (behind ++ dot :: package.reverse) := by
  induction behind using List.twoStepInduction with
  | nil => exact leadsToPackage_child h
  | singleton c =>
      have hc : c ≠ dot := fun hc => hdot (congrArg some hc)
      rw [List.singleton_append, leadsToPackage_of_ne hc]
      exact leadsToPackage_child h
  | cons_cons c d behind ihskip ihnext =>
      have hlast : (d :: behind).getLast? ≠ some dot := by
        rwa [List.getLast?_cons_cons] at hdot
      have hnext := ihnext d hlast
      have hskip : behind.getLast? ≠ some dot := by
        intro hb
        cases behind with
        | nil => cases hb
        | cons e behind => exact hlast (by rwa [List.getLast?_cons_cons])
      rw [List.cons_append, List.cons_append] at *
      by_cases hc : c = dot
      · subst hc
        rw [leadsToPackage_dot]
        split
        · rw [hnext, Bool.or_true]
        · exact ihskip hskip
      · rw [leadsToPackage_of_ne hc]
        exact hnext

theorem prefix_of_leadsToPackage {name : List CodePoint} (h : leadsToPackage loggers name) :
    package ++ ("." : Text) <+: name.reverse := by
  induction name using List.twoStepInduction with
  | nil => cases h
  | singleton c => cases h
  | cons_cons c d rest ihskip ihnext =>
      by_cases hc : c = dot
      · subst hc
        rw [leadsToPackage_dot] at h
        split at h
        · rcases Bool.or_eq_true_iff.mp h with h | h
          · rw [List.reverse_cons, of_decide_eq_true h]
            exact List.prefix_refl _
          · rw [List.reverse_cons]
            exact (ihnext d h).trans (List.prefix_append _ _)
        · rw [List.reverse_cons, List.reverse_cons, List.append_assoc]
          exact (ihskip h).trans (List.prefix_append _ _)
      · rw [leadsToPackage_of_ne hc] at h
        rw [List.reverse_cons]
        exact (ihnext d h).trans (List.prefix_append _ _)

theorem inPackage_of_isInPackage {logger : Text} (h : isInPackage loggers logger) :
    InPackage logger := by
  rcases Bool.or_eq_true_iff.mp h with h | h
  · exact .inl (of_decide_eq_true h)
  · have hprefix := prefix_of_leadsToPackage h
    rw [List.reverse_reverse] at hprefix
    exact .inr hprefix

theorem isInPackage_of_inPackage (h : package ∈ loggers) {logger : Text} (hin : InPackage logger)
    (hgap : ¬ BehindGap logger) : isInPackage loggers logger := by
  rcases hin with rfl | ⟨behind, rfl⟩
  · exact Bool.or_eq_true_iff.mpr (.inl (decide_eq_true rfl))
  · refine Bool.or_eq_true_iff.mpr (.inr ?_)
    have hdot : behind.reverse.getLast? ≠ some dot := by
      rw [List.getLast?_reverse]
      cases behind with
      | nil => exact nofun
      | cons c behind =>
          rintro ⟨⟩
          exact hgap ⟨behind, rfl⟩
    rw [List.reverse_append, List.reverse_append]
    exact leadsToPackage_append h hdot

theorem isInPackage_iff (h : package ∈ loggers) {logger : Text} (hgap : ¬ BehindGap logger) :
    isInPackage loggers logger ↔ InPackage logger :=
  ⟨inPackage_of_isInPackage, fun hin => isInPackage_of_inPackage h hin hgap⟩

end Hierarchy

end PropertyTyping.Log

import Mathlib.Data.List.Forall2
import PropertyTyping.Proofs.OwnerNames

/-! Labels that share a name. A name is as long as the labels joined, and only blanks, colons and
underscores cannot be told apart in it. So labels share a name exactly when their joined texts agree
position by position up to these. -/

namespace PropertyTyping.Label

/-- The code points that are all underscores in a name. -/
def blurred : List CodePoint := [.scalar ' ', colon, underscore]

/-- Code points that cannot be told apart in a name. -/
def LooksLike (c d : CodePoint) : Prop := c = d ∨ c ∈ blurred ∧ d ∈ blurred

instance (c d : CodePoint) : Decidable (LooksLike c d) :=
  inferInstanceAs (Decidable (_ ∨ _))

/-- What a code point is in a name. -/
def nameMark (c : CodePoint) : CodePoint := if isSeparator c then underscore else c

theorem typeName_eq_map (t : Text) : typeName t = t.map nameMark := rfl

theorem isSeparator_iff {c : CodePoint} : isSeparator c ↔ c = .scalar ' ' ∨ c = colon := by
  rw [isSeparator, Bool.or_eq_true, decide_eq_true_iff, decide_eq_true_iff, colon]

theorem nameMark_of_mem {c : CodePoint} (h : c ∈ blurred) : nameMark c = underscore := by
  have hall : ∀ c ∈ blurred, nameMark c = underscore := by decide
  exact hall c h

theorem nameMark_of_not_mem {c : CodePoint} (h : c ∉ blurred) : nameMark c = c := by
  have hseparator : ¬ isSeparator c := by
    rw [isSeparator_iff]
    rintro (rfl | rfl)
    · exact h (by decide)
    · exact h (by decide)
  exact if_neg hseparator

theorem nameMark_eq_iff {c d : CodePoint} : nameMark c = nameMark d ↔ LooksLike c d := by
  constructor
  · intro h
    by_cases hc : c ∈ blurred
    · by_cases hd : d ∈ blurred
      · exact .inr ⟨hc, hd⟩
      -- The underscore stands for itself too, so only a blurred point can become one.
      · rw [nameMark_of_mem hc, nameMark_of_not_mem hd] at h
        exact absurd (h ▸ by decide : d ∈ blurred) hd
    · by_cases hd : d ∈ blurred
      · rw [nameMark_of_not_mem hc, nameMark_of_mem hd] at h
        exact absurd (h ▸ by decide : c ∈ blurred) hc
      · rw [nameMark_of_not_mem hc, nameMark_of_not_mem hd] at h
        exact .inl h
  · rintro (rfl | ⟨hc, hd⟩)
    · rfl
    · rw [nameMark_of_mem hc, nameMark_of_mem hd]

theorem typeName_eq_iff {t u : Text} : typeName t = typeName u ↔ List.Forall₂ LooksLike t u := by
  rw [typeName_eq_map, typeName_eq_map, ← List.forall₂_eq_eq_eq, List.forall₂_map_left_iff,
    List.forall₂_map_right_iff]
  simp only [nameMark_eq_iff]

/-- Labels share a name exactly when their texts, joined by colons, are of one length and have at
each position the same code point or two that are blanks, colons or underscores. -/
theorem ofValues_eq_iff (labels others : List Text) (h : labels ≠ []) (ho : others ≠ []) :
    ∃ name other,
      ofValues (.list (labels.map .text)) = .ok name ∧
      ofValues (.list (others.map .text)) = .ok other ∧
      (name = other ↔
        (Text.join [colon] labels).length = (Text.join [colon] others).length ∧
        ∀ (i : Nat) (_ : i < (Text.join [colon] labels).length)
          (_ : i < (Text.join [colon] others).length),
          LooksLike (Text.join [colon] labels)[i] (Text.join [colon] others)[i]) := by
  refine ⟨typeNameOfAll labels, typeNameOfAll others, ofValues_texts h, ofValues_texts ho, ?_⟩
  rw [typeNameOfAll_eq, typeNameOfAll_eq, typeName_eq_iff, List.forall₂_iff_get]
  rfl

/-- Three labels and two have one name, since an empty label leaves two separators side by side; but
a letter is never taken for a separator. -/
theorem ofValues_eq_of_blurred :
    (∃ name, ofValues (.list [.text "A", .text "", .text "B_C"]) = .ok name ∧
      ofValues (.list [.text "A: B", .text "C"]) = .ok name) ∧
    ∃ name other, ofValues (.list [.text "AB"]) = .ok name ∧
      ofValues (.list [.text "A", .text ""]) = .ok other ∧ name ≠ other := by
  refine ⟨?_, ?_⟩
  · obtain ⟨name, other, hname, hother, hiff⟩ :=
      ofValues_eq_iff ["A", "", "B_C"] ["A: B", "C"] (by decide) (by decide)
    cases hiff.mpr (by decide)
    exact ⟨name, hname, hother⟩
  · obtain ⟨name, other, hname, hother, hiff⟩ :=
      ofValues_eq_iff ["AB"] ["A", ""] (by decide) (by decide)
    exact ⟨name, other, hname, hother, fun he => absurd (hiff.mp he) (by decide)⟩

end PropertyTyping.Label

import Mathlib.Data.List.TakeWhile
import Mathlib.Tactic.SplitIfs
import PropertyTyping.File.Path

/-! The name that a written path ends in, and the suffix of a name. Slashes and single dots behind
the last name say nothing, and what stands before it only has to end in a slash. A name has a suffix
if it ends in that suffix and is longer. -/

namespace PropertyTyping

namespace Text

theorem cut_eq_splitOn (mark : CodePoint) (t : Text) : cut mark t = t.splitOn mark := by
  induction t with
  | nil => rfl
  | cons c t ih =>
      rw [cut, List.splitOn_cons_eq_if_modifyHead, ih]
      cases h : t.splitOn mark with
      | nil => exact absurd h (List.splitOn_ne_nil mark t)
      | cons piece pieces => simp only [beq_iff_eq, List.modifyHead_cons]

/-- A text with a code point in it, cut where that point stands for the last time. -/
theorem exists_last {c : CodePoint} {t : Text} (h : c ∈ t) :
    ∃ before behind, t = before ++ c :: behind ∧ c ∉ behind := by
  obtain ⟨behind, before, hcut, hnot⟩ := List.eq_append_cons_of_mem (List.mem_reverse.mpr h)
  refine ⟨before.reverse, behind.reverse, ?_, fun hmem => hnot (List.mem_reverse.mp hmem)⟩
  rw [← List.reverse_reverse t, hcut, List.reverse_append, List.reverse_cons, List.append_assoc,
    List.singleton_append]

end Text

namespace Path

/-- What may stand on the way without saying anything. -/
def IsIdle (name : Text) : Prop := name = [] ∨ name = [dot]

/-- The names on a written path. -/
def namesOf (t : Text) : List Text := (ofText t).names

theorem namesOf_append_slash (t u : Text) : namesOf (t ++ slash :: u) = namesOf t ++ namesOf u := by
  simp only [namesOf, ofText, Text.cut_eq_splitOn, List.splitOn_append_cons_self,
    List.filter_append]

theorem namesOf_idle {t : Text} (h : IsIdle t) : namesOf t = [] := by
  rcases h with rfl | rfl
  · rfl
  · rfl

theorem namesOf_name {t : Text} (hslash : slash ∉ t) (h : ¬ IsIdle t) : namesOf t = [t] := by
  have hsays : t ≠ [] ∧ t ≠ [dot] := not_or.mp h
  rw [namesOf, ofText, Text.cut_eq_splitOn, List.splitOn_eq_singleton hslash]
  exact List.filter_eq_self.mpr (List.forall_mem_singleton.mpr (decide_eq_true hsays))

/-- What may stand behind the last name of a path. -/
inductive Trailing : Text → Prop
  | nil : Trailing []
  | slash {t : Text} : Trailing t → Trailing (slash :: t)
  | slashDot {t : Text} : Trailing t → Trailing (slash :: dot :: t)

theorem Trailing.append_idle {t : Text} (h : Trailing t) {u : Text} (hu : IsIdle u) :
    Trailing (t ++ Path.slash :: u) := by
  induction h with
  | nil =>
      rcases hu with rfl | rfl
      · exact .slash .nil
      · exact .slashDot .nil
  | slash _ ih => exact .slash ih
  | slashDot _ ih => exact .slashDot ih

theorem Trailing.namesOf_append {u : Text} (h : Trailing u) (t : Text) :
    namesOf (t ++ u) = namesOf t := by
  induction h generalizing t with
  | nil => rw [List.append_nil]
  | slash _ ih =>
      have hrest := ih []
      rw [List.nil_append, namesOf_idle (.inl rfl)] at hrest
      rw [namesOf_append_slash, hrest, List.append_nil]
  | slashDot _ ih =>
      have hrest := ih [dot]
      rw [List.singleton_append, namesOf_idle (.inr rfl)] at hrest
      rw [namesOf_append_slash, hrest, List.append_nil]

/-- A written path ends in a name: it stands at the front or behind a slash, and nothing that says
anything stands behind it. -/
structure EndsIn (path name : Text) : Prop where
  slash_not_mem : slash ∉ name
  not_idle : ¬ IsIdle name
  stands : ∃ front back, path = front ++ name ++ back ∧
    (front = [] ∨ ∃ way, front = way ++ [slash]) ∧ Trailing back

theorem getLast?_of_endsIn {path name : Text} (h : EndsIn path name) :
    (namesOf path).getLast? = some name := by
  obtain ⟨front, back, rfl, hfront, hback⟩ := h.stands
  rw [hback.namesOf_append]
  rcases hfront with rfl | ⟨way, rfl⟩
  · rw [List.nil_append, namesOf_name h.slash_not_mem h.not_idle]
    rfl
  · rw [List.append_assoc, List.singleton_append, namesOf_append_slash,
      namesOf_name h.slash_not_mem h.not_idle]
    exact List.getLast?_concat

/-- The path is read from its end: what stands behind the last slash is the name, or it says nothing
and the name is that of what stands before the slash. -/
theorem endsIn_of_getLast? {path name : Text} (h : (namesOf path).getLast? = some name) :
    EndsIn path name := by
  induction hn : path.length using Nat.strongRecOn generalizing path with
  | ind n ih =>
  by_cases hslash : slash ∈ path
  · obtain ⟨way, last, rfl, hlast⟩ := Text.exists_last hslash
    rw [namesOf_append_slash] at h
    by_cases hidle : IsIdle last
    · rw [namesOf_idle hidle, List.append_nil] at h
      have hshorter : way.length < n := by
        rw [← hn, List.length_append, List.length_cons]
        omega
      obtain ⟨hnot, hsays, front, back, rfl, hfront, hback⟩ := ih way.length hshorter h rfl
      exact ⟨hnot, hsays, front, back ++ slash :: last, by simp only [List.append_assoc], hfront,
        hback.append_idle hidle⟩
    · rw [namesOf_name hlast hidle, List.getLast?_concat, Option.some_inj] at h
      subst h
      exact ⟨hlast, hidle, way ++ [slash], [], by simp, .inr ⟨way, rfl⟩, .nil⟩
  · by_cases hidle : IsIdle path
    · rw [namesOf_idle hidle] at h
      cases h
    · rw [namesOf_name hslash hidle, List.getLast?_singleton, Option.some_inj] at h
      subst h
      exact ⟨hslash, hidle, [], [], by simp, .inl rfl, .nil⟩

theorem endsIn_iff {path name : Text} :
    EndsIn path name ↔ (namesOf path).getLast? = some name :=
  ⟨getLast?_of_endsIn, endsIn_of_getLast?⟩

theorem undotted_reverse {t : Text} (h : dot ∉ t) : ∀ c ∈ t.reverse, decide (c ≠ dot) = true := by
  intro c hc
  exact decide_eq_true fun he => h (he ▸ List.mem_reverse.mp hc)

theorem suffixOf_of_not_mem {name : Text} (h : dot ∉ name) : suffixOf name = [] := by
  have hending : (name.reverse.takeWhile (· ≠ dot)).reverse = name := by
    rw [List.takeWhile_eq_self_iff.mpr (undotted_reverse h), List.reverse_reverse]
  have hstem : name.take (name.length - name.length - 1) = [] := by
    rw [Nat.sub_self]
    rfl
  simp only [suffixOf, hending, hstem, true_or, if_true]

theorem suffixOf_append {ending : Text} (h : dot ∉ ending) (stem : Text) :
    suffixOf (stem ++ dot :: ending) = if stem = [] ∨ ending = [] then [] else dot :: ending := by
  have hending : ((stem ++ dot :: ending).reverse.takeWhile (· ≠ dot)).reverse = ending := by
    rw [List.reverse_append, List.reverse_cons, List.append_assoc,
      List.takeWhile_append_of_pos (undotted_reverse h), List.singleton_append,
      List.takeWhile_cons_of_neg (by simp), List.append_nil, List.reverse_reverse]
  have hstem : (stem ++ dot :: ending).take
      ((stem ++ dot :: ending).length - ending.length - 1) = stem := by
    rw [List.length_append, List.length_cons]
    exact List.take_left' (by omega)
  simp only [suffixOf, hending, hstem]

/-- A name has a suffix that is more than a dot if it ends in it and is longer. -/
theorem suffixOf_eq_iff {name ending : Text} (hdot : dot ∉ ending) (hne : ending ≠ []) :
    suffixOf name = dot :: ending ↔
      (dot :: ending) <:+ name ∧ (dot :: ending).length < name.length := by
  constructor
  · intro h
    by_cases hmem : dot ∈ name
    · obtain ⟨stem, behind, rfl, hbehind⟩ := Text.exists_last hmem
      rw [suffixOf_append hbehind] at h
      split_ifs at h with hempty
      cases h
      refine ⟨List.suffix_append _ _, ?_⟩
      have hstem : 0 < stem.length := List.length_pos_iff.mpr fun he => hempty (.inl he)
      rw [List.length_append]
      omega
    · rw [suffixOf_of_not_mem hmem] at h
      cases h
  · rintro ⟨⟨stem, rfl⟩, hlength⟩
    rw [suffixOf_append hdot, if_neg]
    rintro (rfl | he)
    · exact absurd hlength (Nat.lt_irrefl _)
    · exact hne he

end Path

end PropertyTyping

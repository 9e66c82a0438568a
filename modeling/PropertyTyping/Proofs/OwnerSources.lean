import Mathlib.Data.List.ReduceOption
import PropertyTyping.Proofs.NameCollisions

/-! What names the owner of a property, and what its name is like. Labels come first, then the text
of the relationship, then that of the node's type. Which of them counts is settled before a text is
stripped, so a text of nothing but colons and backquotes counts and gives an empty name. -/

namespace PropertyTyping

theorem Text.join_eq_nil_iff {separator : Text} {ts : List Text} (h : separator ≠ []) :
    join separator ts = [] ↔ ts = [] ∨ ts = [[]] := by
  cases ts with
  | nil => exact iff_of_true rfl (.inl rfl)
  | cons t ts =>
      rw [join_cons, List.append_eq_nil_iff, List.flatMap_eq_nil_iff]
      constructor
      · rintro ⟨rfl, hrest⟩
        cases ts with
        | nil => exact .inr rfl
        | cons u ts => exact absurd (List.append_eq_nil_iff.mp (hrest u List.mem_cons_self)).1 h
      · rintro (he | he)
        · cases he
        · cases he
          exact ⟨rfl, nofun⟩

namespace Label

theorem typeName_eq_nil_iff {t : Text} : typeName t = [] ↔ t = [] := List.map_eq_nil_iff

theorem typeNameOfAll_eq_nil_iff {labels : List Text} (h : labels ≠ []) :
    typeNameOfAll labels = [] ↔ labels = [[]] := by
  rw [typeNameOfAll, typeName_eq_nil_iff, Text.join_eq_nil_iff (List.cons_ne_nil _ _), or_iff_right h]

/-- A name holds what it was made of, with underscores in the place of all that is blurred. -/
theorem mem_typeName_iff {t : Text} {c : CodePoint} :
    c ∈ typeName t ↔ (c = underscore ∧ ∃ d ∈ t, d ∈ blurred) ∨ c ∈ t ∧ c ∉ blurred := by
  rw [typeName_eq_map, List.mem_map]
  constructor
  · rintro ⟨d, hd, rfl⟩
    by_cases hblurred : d ∈ blurred
    · exact .inl ⟨nameMark_of_mem hblurred, d, hd, hblurred⟩
    · rw [nameMark_of_not_mem hblurred]
      exact .inr ⟨hd, hblurred⟩
  · rintro (⟨rfl, d, hd, hblurred⟩ | ⟨hc, hnot⟩)
    · exact ⟨d, hd, nameMark_of_mem hblurred⟩
    · exact ⟨c, hc, nameMark_of_not_mem hnot⟩

theorem separator_not_mem_typeName {c : CodePoint} (h : isSeparator c) (t : Text) :
    c ∉ typeName t := by
  intro hmem
  rcases mem_typeName_iff.mp hmem with ⟨rfl, _⟩ | ⟨_, hnot⟩
  · exact absurd h (by decide)
  · rcases isSeparator_iff.mp h with rfl | rfl
    · exact hnot (by decide)
    · exact hnot (by decide)

theorem backquote_not_mem_ofCypher (t : Text) : backquote ∉ ofCypher t := by
  intro hmem
  have hkept := List.mem_filter.mp ((List.dropWhile_sublist _).subset hmem)
  exact of_decide_eq_true hkept.2 rfl

theorem backquote_not_mem_typeName_ofCypher (t : Text) : backquote ∉ typeName (ofCypher t) := by
  intro hmem
  rcases mem_typeName_iff.mp hmem with ⟨he, _⟩ | ⟨hmem, _⟩
  · exact absurd he (by decide)
  · exact backquote_not_mem_ofCypher t hmem

theorem ofCypher_eq_nil_iff {t : Text} : ofCypher t = [] ↔ ∀ c ∈ t, c = colon ∨ c = backquote := by
  rw [ofCypher, List.dropWhile_eq_nil_iff]
  simp only [List.mem_filter, decide_eq_true_iff, and_imp]
  refine forall₂_congr fun c _ => ?_
  rw [or_comm, or_iff_not_imp_left]
  rfl

end Label

namespace PropertyRecord

open Label

/-- A text that says nothing: there is none, or it is empty. -/
def SaysNothing (t : Option Text) : Prop := t = none ∨ t = some []

/-- The text that names the owner when there are no labels: the first that is not empty. -/
def ownerText? (r : PropertyRecord) : Option Text :=
  [r.relType, r.nodeType].reduceOption.find? (· ≠ [])

/-- The name by the first text that is not empty. -/
def firstName? (ts : List (Option Text)) : Option Text :=
  (ts.reduceOption.find? (· ≠ [])).map fun t => typeName (ofCypher t)

theorem firstName?_cons (t : Option Text) (ts : List (Option Text)) :
    firstName? (t :: ts) = (cypherName? t).orElse fun _ => firstName? ts := by
  cases t with
  | none => rfl
  | some t =>
      cases t with
      | nil => rfl
      | cons c t => rfl

theorem owner_of_no_labels {r : PropertyRecord} (h : r.nodeLabels = []) :
    r.owner = r.ownerText?.map fun t => typeName (ofCypher t) := by
  have hlast : firstName? [r.nodeType] = cypherName? r.nodeType := by
    rw [firstName?_cons]
    cases cypherName? r.nodeType <;> rfl
  rw [owner, h, if_pos List.isEmpty_nil, ← hlast, ← firstName?_cons]
  rfl

theorem owner_of_labels {r : PropertyRecord} (h : r.nodeLabels ≠ []) :
    r.owner = some (typeNameOfAll r.nodeLabels) :=
  if_neg fun he => h (List.isEmpty_iff.mp he)

theorem ownerText?_eq_none_iff {r : PropertyRecord} :
    r.ownerText? = none ↔ SaysNothing r.relType ∧ SaysNothing r.nodeType := by
  have hsays : ∀ o : Option Text, SaysNothing o ↔ ∀ t, some t = o → t = [] := by
    intro o
    cases o with
    | none => exact iff_of_true (.inl rfl) nofun
    | some t => simp [SaysNothing]
  rw [ownerText?, List.find?_eq_none, hsays, hsays, ← forall_and]
  refine forall_congr' fun t => ?_
  rw [List.reduceOption_mem_iff, decide_eq_true_iff, not_not, List.mem_pair, or_imp]

/-- A record has no owner's name exactly when it has no labels and neither text says anything. A
name holds no blank and no colon, and no backquote unless it comes from labels. It is empty exactly
when it comes from one empty label, or from a text of colons and backquotes. -/
theorem ownerName_shape (r : PropertyRecord) :
    ∃ owner, r.ownerName = .ok owner ∧
      (owner = none ↔ r.nodeLabels = [] ∧ SaysNothing r.relType ∧ SaysNothing r.nodeType) ∧
      (∀ name ∈ owner, .scalar ' ' ∉ name ∧ colon ∉ name ∧
        (r.nodeLabels = [] → backquote ∉ name)) ∧
      (owner = some [] ↔ r.nodeLabels = [[]] ∨
        r.nodeLabels = [] ∧ ∃ t, r.ownerText? = some t ∧ ∀ c ∈ t, c = colon ∨ c = backquote) := by
  refine ⟨r.owner, r.ownerName_eq, ?_⟩
  by_cases h : r.nodeLabels = []
  · rw [owner_of_no_labels h]
    refine ⟨?_, ?_, ?_⟩
    · rw [Option.map_eq_none_iff, ownerText?_eq_none_iff, and_iff_right h]
    · intro name hname
      obtain ⟨t, _, rfl⟩ := Option.mem_map.mp hname
      exact ⟨separator_not_mem_typeName rfl _, separator_not_mem_typeName rfl _,
        fun _ => backquote_not_mem_typeName_ofCypher t⟩
    · have hnot : r.nodeLabels ≠ [[]] := by rw [h]; exact nofun
      rw [or_iff_right hnot, and_iff_right h, Option.map_eq_some_iff]
      simp only [typeName_eq_nil_iff, ofCypher_eq_nil_iff]
  · rw [owner_of_labels h]
    refine ⟨iff_of_false nofun fun hn => h hn.1, ?_, ?_⟩
    · intro name hname
      cases hname
      exact ⟨separator_not_mem_typeName rfl _, separator_not_mem_typeName rfl _,
        fun hn => absurd hn h⟩
    · rw [or_iff_left fun hn => h hn.1, Option.some_inj, typeNameOfAll_eq_nil_iff h]

/-- The node's type is not asked although the relationship's text leaves nothing. -/
example : ownerName ⟨none, none, false, some ":\x60Person\x60", [], some ":\x60\x60"⟩ =
    .ok (some []) := rfl

end PropertyRecord

end PropertyTyping

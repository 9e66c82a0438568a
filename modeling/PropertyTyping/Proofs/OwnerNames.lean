import Mathlib.Data.List.TakeWhile
import PropertyTyping.Proofs.ReportTrace

/-! The two names of a node type: one from its labels, and one from the text that the query
language has for them. They are the same unless a label has a backquote or the joined labels begin
with a colon, since those are what the text is stripped of. -/

namespace PropertyTyping

namespace Text

theorem join_cons (separator t : Text) (ts : List Text) :
    join separator (t :: ts) = t ++ ts.flatMap (separator ++ ·) := by
  induction ts generalizing t with
  | nil => simp [join]
  | cons u ts ih =>
      have hu := ih u
      rw [join] at hu ⊢
      rw [List.intercalate_cons_cons, hu, List.flatMap_cons, List.append_assoc, List.append_assoc]

theorem map_join (f : CodePoint → CodePoint) (separator : Text) (ts : List Text) :
    (join separator ts).map f = join (separator.map f) (ts.map (List.map f)) := by
  cases ts with
  | nil => rfl
  | cons t ts =>
      rw [List.map_cons, join_cons, join_cons, List.map_append, List.map_flatMap, List.flatMap_map]
      simp only [List.map_append]

theorem mem_join {separator : Text} {ts : List Text} {c : CodePoint} (h : c ∉ separator) :
    c ∈ join separator ts ↔ ∃ t ∈ ts, c ∈ t := by
  cases ts with
  | nil => simp [join]
  | cons t ts =>
      rw [join_cons]
      simp [h]

end Text

namespace Label

def colon : CodePoint := .scalar ':'

def backquote : CodePoint := .scalar '\x60'

/-- The text that the query language has for labels: each in backquotes after a colon. -/
def cypherText (labels : List Text) : Text :=
  labels.flatMap fun label => colon :: backquote :: label ++ [backquote]

theorem length_typeName (t : Text) : (typeName t).length = t.length := List.length_map _

/-- It does not matter whether labels are joined by the underscore or by what becomes one. -/
theorem typeNameOfAll_eq (labels : List Text) :
    typeNameOfAll labels = typeName (Text.join [colon] labels) := by
  rw [typeNameOfAll, typeName, typeName, Text.replaceEach, Text.replaceEach, Text.map_join,
    Text.map_join]
  rfl

theorem ofCypher_sublist (t : Text) : (ofCypher t).Sublist t :=
  (List.dropWhile_sublist _).trans List.filter_sublist

theorem ofCypher_eq_self_iff {t : Text} :
    ofCypher t = t ↔ backquote ∉ t ∧ t.head? ≠ some colon := by
  constructor
  · intro h
    have hmem : ∀ c ∈ t, c ≠ backquote := by
      intro c hc
      rw [← h] at hc
      have hkept := List.mem_filter.mp ((List.dropWhile_sublist _).subset hc)
      exact of_decide_eq_true hkept.2
    refine ⟨fun hb => hmem backquote hb rfl, ?_⟩
    -- What is left after the colons in front are stripped has no colon in front.
    intro hhead
    have hnot := List.head?_dropWhile_not (· = colon) (t.filter (· ≠ backquote))
    rw [show (t.filter (· ≠ backquote)).dropWhile (· = colon) = t from h, hhead] at hnot
    exact of_decide_eq_false hnot rfl
  · rintro ⟨hb, hc⟩
    have hfilter : t.filter (· ≠ backquote) = t := by
      rw [List.filter_eq_self]
      intro c hc
      exact decide_eq_true fun he => hb (he ▸ hc)
    cases t with
    | nil => rfl
    | cons c t =>
        have hne : c ≠ colon := fun he => hc (congrArg some he)
        change ((c :: t).filter (· ≠ backquote)).dropWhile (· = colon) = c :: t
        rw [hfilter, List.dropWhile_cons_of_neg (by simpa using hne)]

/-- Stripping changes the name of a text unless there is nothing to strip, since no name is shorter
or longer than what it names. -/
theorem typeName_ofCypher_eq_iff {t : Text} :
    typeName (ofCypher t) = typeName t ↔ ofCypher t = t := by
  constructor
  · intro h
    have hlength := congrArg List.length h
    rw [length_typeName, length_typeName] at hlength
    exact (ofCypher_sublist t).eq_of_length hlength
  · exact congrArg typeName

theorem cypherText_ne_nil {labels : List Text} (h : labels ≠ []) : cypherText labels ≠ [] := by
  obtain ⟨label, labels, rfl⟩ := List.exists_cons_of_ne_nil h
  exact List.cons_ne_nil _ _

/-- Without its backquotes the text has the labels joined by colons, and one colon in front. -/
theorem filter_cypherText {labels : List Text} (h : labels ≠ []) :
    (cypherText labels).filter (· ≠ backquote) =
      colon :: (Text.join [colon] labels).filter (· ≠ backquote) := by
  obtain ⟨label, labels, rfl⟩ := List.exists_cons_of_ne_nil h
  have hlabel : ∀ t : Text, (colon :: backquote :: t ++ [backquote]).filter (· ≠ backquote) =
      ([colon] ++ t).filter (· ≠ backquote) := by
    intro t
    simp [colon, backquote]
  rw [Text.join_cons, cypherText, List.filter_flatMap]
  simp only [hlabel]
  rw [List.flatMap_cons, ← List.filter_flatMap, ← List.filter_append, List.append_assoc,
    List.singleton_append, List.filter_cons_of_pos (by decide)]

theorem ofCypher_cypherText {labels : List Text} (h : labels ≠ []) :
    ofCypher (cypherText labels) = ofCypher (Text.join [colon] labels) := by
  change ((cypherText labels).filter (· ≠ backquote)).dropWhile (· = colon) = _
  rw [filter_cypherText h, List.dropWhile_cons_of_pos (by decide)]
  rfl

end Label

namespace PropertyRecord

open Label

/-- A node type that is known by its labels has the same name as one that is known only by its text
exactly when no label has a backquote and the labels do not begin with a colon. -/
theorem ownerName_labels_eq_iff (r s : PropertyRecord) (labels : List Text) (h : labels ≠ []) :
    ∃ fromLabels fromText,
      { r with nodeLabels := labels }.ownerName = .ok (some fromLabels) ∧
      { s with nodeLabels := [], relType := none,
               nodeType := some (cypherText labels) }.ownerName = .ok (some fromText) ∧
      (fromLabels = fromText ↔
        (∀ label ∈ labels, backquote ∉ label) ∧
          (Text.join [colon] labels).head? ≠ some colon) := by
  refine ⟨typeNameOfAll labels, typeName (ofCypher (cypherText labels)), ?_, ?_, ?_⟩
  · rw [ownerName_eq, owner, if_neg (by simpa using h)]
  · rw [ownerName_eq, owner, if_pos List.isEmpty_nil, cypherName?, cypherName?, Option.orElse_none,
      if_neg (by simpa using cypherText_ne_nil h)]
  · rw [typeNameOfAll_eq, ofCypher_cypherText h, eq_comm, typeName_ofCypher_eq_iff,
      ofCypher_eq_self_iff, Text.mem_join (by decide)]
    simp only [not_exists, not_and]

/-- A record of a property of which only the node's labels and the node's text are known. -/
def ofNode (labels : List Text) (text : Option Text) : PropertyRecord :=
  ⟨none, none, false, text, labels, none⟩

/-- Blanks and empty labels do no harm, but a colon in front of the first label does. -/
theorem ownerName_labels_eq_of_blanks :
    (∃ name, (ofNode ["Person Node", "", "Actor"] none).ownerName = .ok (some name) ∧
      (ofNode [] (some ":\x60Person Node\x60:\x60\x60:\x60Actor\x60")).ownerName =
        .ok (some name)) ∧
    ∃ fromLabels fromText, (ofNode [":Admin"] none).ownerName = .ok (some fromLabels) ∧
      (ofNode [] (some ":\x60:Admin\x60")).ownerName = .ok (some fromText) ∧
      fromLabels ≠ fromText := by
  refine ⟨?_, ?_⟩
  · obtain ⟨fromLabels, fromText, hlabels, htext, hiff⟩ := ownerName_labels_eq_iff (ofNode [] none)
      (ofNode [] none) ["Person Node", "", "Actor"] (by decide)
    cases hiff.mpr (by decide)
    have hwritten : cypherText ["Person Node", "", "Actor"] =
        (":\x60Person Node\x60:\x60\x60:\x60Actor\x60" : Text) := by decide
    rw [hwritten] at htext
    exact ⟨fromLabels, hlabels, htext⟩
  · obtain ⟨fromLabels, fromText, hlabels, htext, hiff⟩ := ownerName_labels_eq_iff (ofNode [] none)
      (ofNode [] none) [":Admin"] (by decide)
    have hwritten : cypherText [":Admin"] = (":\x60:Admin\x60" : Text) := by decide
    rw [hwritten] at htext
    exact ⟨fromLabels, fromText, hlabels, htext, fun he => (hiff.mp he).2 (by decide)⟩

end PropertyRecord

end PropertyTyping

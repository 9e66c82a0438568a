import PropertyTyping.Proofs.FieldSpelling
import PropertyTyping.Proofs.ReportTrace
import PropertyTyping.Proofs.ValueEquality

/-! Records written back as objects. Whatever spelling is chosen for each field, what is written is
read as the same record, and the type that is chosen from it as it stands is that of the record. So
reading a record is a normalisation. -/

namespace PropertyTyping

namespace Checked

/-- A list of written items is read as soon as each of them is. -/
theorem list_written {α : Type} {read : Value → Checked α} {write : α → Value}
    (h : ∀ a, read (write a) = .ok a) (as : List α) :
    list read (.list (as.map write)) = .ok as := by
  refine list_eq_ok.mpr ⟨_, rfl, ?_⟩
  rw [List.forall₂_map_left_iff, List.forall₂_same]
  exact fun a _ => h a

theorem text_written (t : Text) : text (.text t) = .ok t := rfl

theorem optional_written (o : Option Text) :
    optional text (PropertyRecord.optionalText o) = .ok o := by
  cases o <;> rfl

end Checked

namespace PropertyRecord

/-- The fields of a record as they are written. -/
def written (r : PropertyRecord) (key : Field → Text) : List (Text × Value) :=
  fields.map fun f => (key f, r.fieldValue f)

variable {key : Field → Text}

theorem nodup_keys_written (r : PropertyRecord) (hkey : ∀ f : Field, f.Spells (key f)) :
    ((r.written key).map (·.1)).Nodup := by
  have hfields : fields.Nodup := by decide
  rw [written, List.map_map]
  refine hfields.map ?_
  intro f g hfg
  have hsame : key f = key g := hfg
  exact Field.Spells.unique (hsame ▸ hkey f) (hkey g)

theorem field?_written (r : PropertyRecord) (hkey : ∀ f : Field, f.Spells (key f)) (f : Field) :
    Value.field? (key f) (r.written key) = some (r.fieldValue f) :=
  Value.field?_of_mem (nodup_keys_written r hkey) (List.mem_map_of_mem (mem_fields f))

theorem field?_written_eq_none (r : PropertyRecord) {k : Text} (h : ∀ f, key f ≠ k) :
    Value.field? k (r.written key) = none := by
  rw [Value.field?, Option.map_eq_none_iff, List.find?_eq_none]
  intro x hx
  obtain ⟨f, _, rfl⟩ := List.mem_map.mp hx
  simpa using h f

/-- A field is found under its first spelling if that is written, else under its second. -/
theorem valueIn_written (r : PropertyRecord) (hkey : ∀ f : Field, f.Spells (key f)) (f : Field) :
    f.valueIn (r.written key) = r.fieldValue f := by
  have hf := field?_written r hkey f
  unfold Field.valueIn Field.find?
  by_cases hcamel : key f = f.camelKey
  · rw [← hcamel, hf]
    rfl
  · have hnone : Value.field? f.camelKey (r.written key) = none := by
      refine field?_written_eq_none r fun g hg => hcamel ?_
      have hgf : g = f := Field.Spells.unique (hg ▸ hkey g) (.inl rfl)
      exact hgf ▸ hg
    rw [hnone, ← (hkey f).resolve_left hcamel, hf]
    rfl

theorem read_types_written (r : PropertyRecord) :
    Checked.optional (Checked.list (Checked.optional Checked.text)) (r.fieldValue .propertyTypes) =
      .ok r.propertyTypes := by
  obtain ⟨_, types, _, _, _, _⟩ := r
  cases types with
  | none => rfl
  | some tags =>
      refine Checked.optional_eq_ok.mpr (.inr ⟨?_, tags, ?_, rfl⟩)
      · intro h
        cases h
      · exact Checked.list_written Checked.optional_written tags

theorem read_labels_written (r : PropertyRecord) :
    readLabels (r.fieldValue .nodeLabels) = .ok r.nodeLabels :=
  Checked.list_written Checked.text_written r.nodeLabels

/-- What is written of a record is read as that record. -/
theorem ofFields_written (r : PropertyRecord) (hkey : ∀ f : Field, f.Spells (key f)) :
    ofFields (r.written key) = .ok r := by
  rw [ofFields_eq_ok]
  simp only [valueIn_written r hkey]
  exact ⟨Checked.optional_written r.propertyName, read_types_written r, rfl,
    Checked.optional_written r.nodeType, read_labels_written r, Checked.optional_written r.relType⟩

theorem ofRaw_written (r : PropertyRecord) (hkey : ∀ f : Field, f.Spells (key f)) :
    Resolution.ofRaw (r.toValue key) = Resolution.ofRecord r := by
  change Resolution.ofRaw (.object (r.written key)) = _
  rw [Resolution.ofRaw_object, valueIn_written r hkey, valueIn_written r hkey]
  rfl

/-- A record that was read from a value, written back in any mixture of spellings, is read again as
the same record, and the type chosen from what was written is that of the record. -/
theorem ofValue_toValue {v : Value} {r : PropertyRecord} (h : ofValue v = .ok r)
    (hkey : ∀ f : Field, key f = f.camelKey ∨ key f = f.snakeKey) :
    ofValue (r.toValue key) = ofValue v ∧
    ∃ c, Resolution.ofRaw (r.toValue key) = .ok c ∧ Resolution.ofRecord r = .ok c := by
  refine ⟨(ofFields_written r hkey).trans h.symm, r.resolution, ?_, r.ofRecord_eq⟩
  rw [ofRaw_written r hkey, r.ofRecord_eq]

/-- A mixture of spellings. -/
def mixedKey (f : Field) : Text :=
  if f = .propertyTypes ∨ f = .nodeLabels then f.snakeKey else f.camelKey

/-- An object with a tag given by its type, a word for a truth and null for no labels. -/
def looseObject : Value :=
  .object [("propertyTypes", .list [.tag ⟨.long, false⟩, .null, .text "Integer"]),
    ("property_name", .text "since"), ("mandatory", .text "YES"), ("nodeLabels", .null)]

def strictRecord : PropertyRecord :=
  ⟨some "since", some [some "Long", none, some "Integer"], true, none, [], none⟩

theorem ofValue_toValue_of_word :
    ofValue looseObject = .ok strictRecord ∧
    ofValue (strictRecord.toValue mixedKey) = .ok strictRecord ∧
    ∃ c, Resolution.ofRaw (strictRecord.toValue mixedKey) = .ok c ∧ c.type.render = "Int!" := by
  have hread : ofValue looseObject = .ok strictRecord := by decide
  have hkey : ∀ f : Field, mixedKey f = f.camelKey ∨ mixedKey f = f.snakeKey := by
    intro f
    exact (ite_eq_or_eq _ _ _).symm
  obtain ⟨hagain, c, hraw, hrecord⟩ := ofValue_toValue hread hkey
  refine ⟨hread, hagain.trans hread, c, hraw, ?_⟩
  cases hrecord
  decide

end PropertyRecord

end PropertyTyping

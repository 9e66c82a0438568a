import PropertyTyping.Proofs.IssuePlaces

/-! Which issues a record has: one for each place where what is asked of the record is not met, in
the order of its declared fields, under the spelling that the record has for the field. -/

namespace PropertyTyping

namespace PropertyRecord.Field

def demand : Field → Demand
  | propertyName | nodeType | relType => .textOrNull
  | propertyTypes | nodeLabels => .listOrNull
  | mandatory => .truthOrNull

/-- What is asked of the items of a field that is a list: a label may not be null. -/
def itemDemand? : Field → Option Demand
  | propertyTypes => some .textOrNull
  | nodeLabels => some .text
  | _ => none

/-- The value that an object has for a field, and the key under which it has it. -/
inductive Stands (f : Field) (fields : List (Text × Value)) : Text → Value → Prop
  | camel {v : Value} : Value.field? f.camelKey fields = some v → Stands f fields f.camelKey v
  | snake {v : Value} : Value.field? f.camelKey fields = none →
      Value.field? f.snakeKey fields = some v → Stands f fields f.snakeKey v

/-- The places in the value of a field, what is asked there, and the value there. -/
inductive Holds (f : Field) (v : Value) : List Step → Demand → Value → Prop
  | whole : Holds f v [] f.demand v
  | item {items : List Value} {i : Nat} {d : Demand} {w : Value} : v = .list items →
      f.itemDemand? = some d → items[i]? = some w → Holds f v [.index i] d w

/-- The same of a field in an object. -/
def HoldsIn (f : Field) (fields : List (Text × Value)) (place : List Step) (d : Demand)
    (w : Value) : Prop :=
  ∃ k v rest, f.Stands fields k v ∧ place = .key k :: rest ∧ f.Holds v rest d w

theorem find?_eq_some_iff {f : Field} {fields : List (Text × Value)} {k : Text} {v : Value} :
    f.find? fields = some (k, v) ↔ f.Stands fields k v := by
  unfold find?
  constructor
  · intro h
    split at h
    · rename_i u hu
      cases h
      exact .camel hu
    · rename_i hnone
      obtain ⟨u, hu, he⟩ := Option.map_eq_some_iff.mp h
      cases he
      exact .snake hnone hu
  · intro h
    cases h with
    | camel h => rw [h]
    | snake hnone h => rw [hnone, h]; rfl

end PropertyRecord.Field

/-- The places in a record, what is asked there, and the value there. -/
inductive PropertyRecord.Holds (v : Value) : List Step → Demand → Value → Prop
  | whole : Holds v [] .object v
  | field {fields : List (Text × Value)} {f : Field} {place : List Step} {d : Demand} {w : Value} :
      v = .object fields → f.HoldsIn fields place d w → Holds v place d w

namespace PropertyRecord

namespace Field

def issues : Field → Value → List Issue
  | propertyName, v | nodeType, v | relType, v => (Checked.optional Checked.text v).issues
  | propertyTypes, v => (Checked.optional (Checked.list (Checked.optional Checked.text)) v).issues
  | mandatory, v => (readMandatory v).issues
  | nodeLabels, v => (readLabels v).issues

/-- A field without items has only its own value to be judged. -/
theorem exact_whole {α : Type} {f : Field} {v : Value} {c : Checked α}
    (hv : f.itemDemand? = none ∨ ∀ items, v ≠ .list items) (h : Judges f.demand v c) :
    Exact c.issues (f.Holds v) := by
  refine h.exact.congr ?_
  intro place d w _
  constructor
  · intro hw
    cases hw with
    | whole => exact ⟨rfl, rfl, rfl⟩
    | item hl hd _ =>
        rcases hv with hn | hn
        · exact absurd (hn.symm.trans hd) nofun
        · exact absurd hl (hn _)
  · rintro ⟨rfl, rfl, rfl⟩
    exact .whole

theorem exact_items {α : Type} {f : Field} {d : Demand} {read : Value → Checked α}
    {items : List Value} (hf : f.demand = .listOrNull) (hd : f.itemDemand? = some d)
    (h : ∀ w, Judges d w (read w)) :
    Exact (Checked.itemsFrom read 0 items).issues (f.Holds (.list items)) := by
  refine (Checked.exact_items (fun w => (h w).exact) items).congr ?_
  intro place e w hw
  constructor
  · intro hh
    cases hh with
    | whole => exact absurd (hf ▸ .inr ⟨items, rfl⟩) hw
    | item he hd' hi =>
        cases he
        cases hd.symm.trans hd'
        exact ⟨_, _, [], hi, rfl, rfl, rfl, rfl⟩
  · rintro ⟨i, u, _, hi, rfl, rfl, rfl, rfl⟩
    exact .item rfl hd hi

theorem exact_list {α : Type} {f : Field} {d : Demand} {read : Value → Checked α} {v : Value}
    (hf : f.demand = .listOrNull) (hd : f.itemDemand? = some d) (h : ∀ w, Judges d w (read w))
    (hv : v ≠ .null) : Exact (Checked.list read v).issues (f.Holds v) := by
  by_cases hl : ∃ items, v = .list items
  · obtain ⟨items, rfl⟩ := hl
    exact exact_items hf hd h
  · refine exact_whole (.inr fun items he => hl ⟨items, he⟩) ?_
    have hn : ¬ f.demand.Meets v := by
      rw [hf]
      exact fun hm => hm.elim hv hl
    have hc : .notList ∈ f.demand.complaints := by
      rw [hf]
      exact List.mem_singleton_self _
    cases v with
    | null => exact absurd rfl hv
    | list items => exact absurd ⟨items, rfl⟩ hl
    | _ => exact .unmet hn hc

theorem exact_null {f : Field} (hf : f.demand = .listOrNull) : Exact [] (f.Holds .null) := by
  have hj : Judges f.demand .null (.ok ()) := by
    rw [hf]
    exact .met (.inl rfl)
  exact exact_whole (v := .null) (.inr nofun) hj

theorem readLabels_of_ne_null {v : Value} (hv : v ≠ .null) :
    readLabels v = Checked.list Checked.text v := by
  cases v with
  | null => exact absurd rfl hv
  | _ => rfl

theorem exact_issues (f : Field) (v : Value) : Exact (f.issues v) (f.Holds v) := by
  cases f with
  | propertyName | nodeType | relType => exact exact_whole (.inl rfl) (Checked.judges_optional v)
  | mandatory => exact exact_whole (.inl rfl) (Checked.judges_mandatory v)
  | propertyTypes =>
      by_cases hv : v = .null
      · rw [hv]
        exact exact_null rfl
      · rw [issues, Checked.optional_of_ne_null _ hv, Checked.issues_map]
        exact exact_list rfl rfl Checked.judges_optional hv
  | nodeLabels =>
      by_cases hv : v = .null
      · rw [hv]
        exact exact_null rfl
      · rw [issues, readLabels_of_ne_null hv]
        exact exact_list rfl rfl Checked.judges_text hv

/-- The issues of a field of an object. A field that the object lacks has none. -/
def issuesIn (f : Field) (fields : List (Text × Value)) : List Issue :=
  match f.find? fields with
  | some (k, v) => (f.issues v).map (·.within (.key k))
  | none => []

theorem exact_issuesIn (f : Field) (fields : List (Text × Value)) :
    Exact (f.issuesIn fields) (f.HoldsIn fields) := by
  unfold issuesIn
  split
  · rename_i k v hkv
    refine ((exact_issues f v).within (.key k)).congr ?_
    intro place d w _
    constructor
    · rintro ⟨k', v', rest, hs, rfl, hw⟩
      obtain ⟨rfl, rfl⟩ := Prod.ext_iff.mp (Option.some.inj
        (hkv.symm.trans (find?_eq_some_iff.mpr hs)))
      exact ⟨rest, rfl, hw⟩
    · rintro ⟨rest, rfl, hw⟩
      exact ⟨k, v, rest, find?_eq_some_iff.mp hkv, rfl, hw⟩
  · rename_i hnone
    refine .nil ?_
    rintro _ _ _ ⟨k, v, _, hs, _⟩
    exact absurd (hnone.symm.trans (find?_eq_some_iff.mpr hs)) nofun

theorem issues_read {α : Type} {f : Field} {read : Value → Checked α}
    {absent : α} (hf : ∀ v, f.issues v = (read v).issues) (fields : List (Text × Value)) :
    (f.read read absent fields).issues = f.issuesIn fields := by
  unfold Field.read issuesIn
  cases f.find? fields with
  | none => rfl
  | some field => rw [Checked.issues_within, ← hf]

/-- A field is declared before another under each spelling of the two. -/
theorem pairwise_fields : PropertyRecord.fields.Pairwise fun f g =>
    ∀ j ∈ [f.camelKey, f.snakeKey], ∀ k ∈ [g.camelKey, g.snakeKey],
      (Step.key j).rank < (Step.key k).rank := by
  decide

theorem Stands.field? {f : Field} {fields : List (Text × Value)} {k : Text} {v : Value}
    (h : f.Stands fields k v) : Value.field? k fields = some v := by
  cases h with
  | camel h => exact h
  | snake _ h => exact h

theorem Stands.mem {f : Field} {fields : List (Text × Value)} {k : Text} {v : Value}
    (h : f.Stands fields k v) : k ∈ [f.camelKey, f.snakeKey] := by
  cases h with
  | camel _ => exact .head _
  | snake _ _ => exact .tail _ (.head _)

end Field

theorem issues_ofFields (fields : List (Text × Value)) :
    (ofFields fields).issues = PropertyRecord.fields.flatMap (·.issuesIn fields) := by
  unfold ofFields
  simp only [Checked.issues_apply, Checked.issues_map]
  rw [Field.issues_read (f := .propertyName) (fun _ => rfl),
    Field.issues_read (f := .propertyTypes) (fun _ => rfl),
    Field.issues_read (f := .mandatory) (fun _ => rfl),
    Field.issues_read (f := .nodeType) (fun _ => rfl),
    Field.issues_read (f := .nodeLabels) (fun _ => rfl),
    Field.issues_read (f := .relType) (fun _ => rfl)]
  simp only [PropertyRecord.fields, List.flatMap_cons, List.flatMap_nil, List.append_assoc,
    List.append_nil]

theorem mem_fields (f : Field) : f ∈ PropertyRecord.fields := by
  cases f <;> decide

theorem exact_ofFields (fields : List (Text × Value)) :
    Exact (ofFields fields).issues (fun place d w => ∃ f, Field.HoldsIn f fields place d w) := by
  rw [issues_ofFields]
  refine (Exact.flatMap (fun f _ => Field.exact_issuesIn f fields) ?_).congr ?_
  · refine Field.pairwise_fields.imp ?_
    rintro f g hfg _ _ _ _ _ _ ⟨j, _, _, hj, rfl, _⟩ ⟨k, _, _, hk, rfl, _⟩
    exact .rel (hfg j hj.mem k hk.mem)
  · intro place d w _
    constructor
    · rintro ⟨f, hw⟩
      exact ⟨f, mem_fields f, hw⟩
    · rintro ⟨f, _, hw⟩
      exact ⟨f, hw⟩

/-- The issues of a record are exactly the places where what is asked of it is not met. -/
theorem exact_ofValue (v : Value) : Exact (ofValue v).issues (Holds v) := by
  by_cases hv : ∃ fields, v = .object fields
  · obtain ⟨fields, rfl⟩ := hv
    refine (exact_ofFields fields).congr ?_
    intro place d w hw
    constructor
    · intro hh
      cases hh with
      | whole => exact absurd ⟨fields, rfl⟩ hw
      | field he hf =>
          cases he
          exact ⟨_, hf⟩
    · rintro ⟨f, hf⟩
      exact .field rfl hf
  · have hj : Judges .object v (ofValue v) := by
      cases v with
      | object fields => exact absurd ⟨fields, rfl⟩ hv
      | _ => exact .unmet hv (List.mem_singleton_self _)
    refine hj.exact.congr ?_
    intro place d w _
    constructor
    · intro hh
      cases hh with
      | whole => exact ⟨rfl, rfl, rfl⟩
      | field he _ => exact absurd ⟨_, he⟩ hv
    · rintro ⟨rfl, rfl, rfl⟩
      exact .whole

/-- A null name hides the one under the other spelling; a label may not be null. -/
example : (ofValue (.object [("node_labels", .list [.text "A", .null]), ("property_name", .int 1),
    ("propertyName", .null), ("mandatory", .text "maybe")])).issues =
      [⟨.unreadableBool, [.key "mandatory"]⟩, ⟨.notText, [.key "node_labels", .index 1]⟩] := by
  decide

theorem Holds.at? {v : Value} {place : List Step} {d : Demand} {w : Value}
    (h : Holds v place d w) : v.at? place = some w := by
  cases h with
  | whole => rfl
  | field he hf =>
      obtain ⟨k, u, rest, hs, rfl, hw⟩ := hf
      rw [he, Value.at?_cons, Step.into?, hs.field?, Option.bind_some]
      cases hw with
      | whole => rfl
      | item hl _ hi => rw [hl, Value.at?_cons, Step.into?, hi, Option.bind_some, Value.at?]

theorem Field.grounded_read {α : Type} {f : Field} {read : Value → Checked α} {absent : α}
    (h : ∀ v, (read v).Grounded) (fields : List (Text × Value)) :
    (f.read read absent fields).Grounded := by
  unfold Field.read
  split
  · exact (h _).within _
  · exact fun _ => ⟨absent, rfl⟩

theorem grounded_readLabels (v : Value) : (readLabels v).Grounded := by
  by_cases hv : v = .null
  · rw [hv]
    exact fun _ => ⟨[], rfl⟩
  · rw [Field.readLabels_of_ne_null hv]
    exact .list (fun w => (Checked.judges_text w).grounded) v

theorem grounded_readTypes (v : Value) :
    (Checked.optional (Checked.list (Checked.optional Checked.text)) v).Grounded := by
  by_cases hv : v = .null
  · rw [hv]
    exact fun _ => ⟨none, rfl⟩
  · rw [Checked.optional_of_ne_null _ hv]
    exact .map some (.list (fun w => (Checked.judges_optional w).grounded) v)

theorem grounded_ofValue (v : Value) : (ofValue v).Grounded := by
  have hname : ∀ v, (Checked.optional Checked.text v).Grounded :=
    fun v => (Checked.judges_optional v).grounded
  have hmandatory : ∀ v, (readMandatory v).Grounded :=
    fun v => (Checked.judges_mandatory v).grounded
  cases v with
  | object fields =>
      refine .apply (.apply (.apply (.apply (.apply (.map mk ?_) ?_) ?_) ?_) ?_) ?_
      · exact Field.grounded_read hname fields
      · exact Field.grounded_read grounded_readTypes fields
      · exact Field.grounded_read hmandatory fields
      · exact Field.grounded_read hname fields
      · exact Field.grounded_read grounded_readLabels fields
      · exact Field.grounded_read hname fields
  | _ => exact nofun

end PropertyRecord

end PropertyTyping

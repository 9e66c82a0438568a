import PropertyTyping.Proofs.RecordIssues
import PropertyTyping.PropertyRecord.Typing

/-! Which keys of an object count. A field is looked up under its first spelling, and under its
second only where the first is missing, by whoever reads the object as a record and by whoever takes
it as it stands. Nothing under any other key is noticed by either, and a field that changes its
spelling is noticed only in the places of issues. -/

namespace PropertyTyping

namespace Value

/-- Objects that have the same under every key but those that are left out. -/
def AgreeBut (out : Text → Prop) (as bs : List (Text × Value)) : Prop :=
  ∀ key, ¬ out key → field? key bs = field? key as

/-- Objects that have the same but for what one has under an old key and the other under a new
one. -/
structure Renamed (old new : Text) (as bs : List (Text × Value)) : Prop where
  moved : field? new bs = field? old as
  gone : field? old bs = none
  kept : ∀ key, key ≠ old → key ≠ new → field? key bs = field? key as

def removeField (fields : List (Text × Value)) (key : Text) : List (Text × Value) :=
  fields.filter (·.1 ≠ key)

def renameField (fields : List (Text × Value)) (old new : Text) : List (Text × Value) :=
  fields.map fun f => (if f.1 = old then new else f.1, f.2)

theorem AgreeBut.trans {out : Text → Prop} {as bs cs : List (Text × Value)}
    (h : AgreeBut out as bs) (k : AgreeBut out bs cs) : AgreeBut out as cs :=
  fun key hk => (k key hk).trans (h key hk)

theorem field?_cons (key : Text) (f : Text × Value) (fields : List (Text × Value)) :
    field? key (f :: fields) = if f.1 = key then some f.2 else field? key fields := by
  by_cases h : f.1 = key
  · simp [field?, h]
  · simp [field?, h]

theorem agreeBut_setField {out : Text → Prop} {key : Text} (h : out key)
    (fields : List (Text × Value)) (v : Value) :
    AgreeBut out fields (setField fields key v) := by
  intro k hk
  have hne : key ≠ k := fun he => hk (he ▸ h)
  have hreplaced : ∀ gs : List (Text × Value),
      field? k (gs.map fun f => if f.1 = key then (key, v) else f) = field? k gs := by
    intro gs
    induction gs with
    | nil => rfl
    | cons g gs ih =>
        rw [List.map_cons, field?_cons, field?_cons, ih]
        by_cases hg : g.1 = key
        · rw [if_pos hg, if_neg hne, if_neg (hg.trans_ne hne)]
        · rw [if_neg hg]
  have hadded : ∀ gs : List (Text × Value), field? k (gs ++ [(key, v)]) = field? k gs := by
    intro gs
    induction gs with
    | nil => rw [List.nil_append, field?_cons, if_neg hne]
    | cons g gs ih => rw [List.cons_append, field?_cons, field?_cons, ih]
  unfold setField
  split
  · exact hreplaced fields
  · exact hadded fields

theorem agreeBut_removeField {out : Text → Prop} {key : Text} (h : out key)
    (fields : List (Text × Value)) : AgreeBut out fields (removeField fields key) := by
  intro k hk
  have hne : key ≠ k := fun he => hk (he ▸ h)
  induction fields with
  | nil => rfl
  | cons f fields ih =>
      by_cases hf : f.1 = key
      · rw [field?_cons, if_neg (hf.trans_ne hne), ← ih, removeField,
          List.filter_cons_of_neg (by simpa using hf)]
        rfl
      · rw [field?_cons, ← ih, removeField, List.filter_cons_of_pos (by simpa using hf),
          field?_cons]
        rfl

theorem renamed_renameField {old new : Text} {fields : List (Text × Value)}
    (h : field? new fields = none) : Renamed old new fields (renameField fields old new) := by
  induction fields with
  | nil => exact ⟨rfl, rfl, fun _ _ _ => rfl⟩
  | cons f fields ih =>
      rw [field?_cons] at h
      split at h
      · cases h
      rename_i hnew
      obtain ⟨hmoved, hgone, hkept⟩ := ih h
      by_cases hold : f.1 = old
      · have hcons : renameField (f :: fields) old new =
            (new, f.2) :: renameField fields old new := by
          rw [renameField, List.map_cons, if_pos hold]
          rfl
        refine ⟨?_, ?_, ?_⟩
        · rw [hcons, field?_cons, field?_cons, if_pos rfl, if_pos hold]
        · rw [hcons, field?_cons, if_neg fun he => hnew (hold.trans he.symm), hgone]
        · intro key ho hn
          rw [hcons, field?_cons, field?_cons, if_neg hn.symm, if_neg (hold.trans_ne ho.symm),
            hkept key ho hn]
      · have hcons : renameField (f :: fields) old new = f :: renameField fields old new := by
          rw [renameField, List.map_cons, if_neg hold]
          rfl
        refine ⟨?_, ?_, ?_⟩
        · rw [hcons, field?_cons, field?_cons, if_neg hnew, if_neg hold, hmoved]
        · rw [hcons, field?_cons, if_neg hold, hgone]
        · intro key ho hn
          rw [hcons, field?_cons, field?_cons, hkept key ho hn]

end Value

namespace Checked

variable {α β : Type}

/-- A reading with each of its issues changed. -/
def mapIssues (g : Issue → Issue) : Checked α → Checked α := Except.mapError (List.map g)

theorem mapIssues_map (g : Issue → Issue) (f : α → β) (c : Checked α) :
    mapIssues g (Except.map f c) = Except.map f (mapIssues g c) := by
  cases c <;> rfl

theorem mapIssues_apply (g : Issue → Issue) (f : Checked (α → β)) (c : Checked α) :
    mapIssues g (f.apply c) = (mapIssues g f).apply (mapIssues g c) := by
  cases f with
  | ok f =>
      cases c with
      | ok a => rfl
      | error is => rfl
  | error is =>
      cases c with
      | ok a => exact congrArg Except.error (List.map_append ..)
      | error js => exact congrArg Except.error (List.map_append ..)

theorem mapIssues_within {g : Issue → Issue} {s t : Step}
    (h : ∀ i : Issue, g (i.within s) = i.within t) (c : Checked α) :
    mapIssues g (c.within s) = c.within t := by
  cases c with
  | ok a => rfl
  | error is =>
      refine congrArg Except.error ?_
      rw [List.map_map]
      exact List.map_congr_left fun i _ => h i

end Checked

namespace PropertyRecord

namespace Field

/-- The field that a key spells. -/
def ofKey? (key : Text) : Option Field :=
  fields.find? fun f => key = f.camelKey ∨ key = f.snakeKey

theorem ofKey?_camelKey (f : Field) : ofKey? f.camelKey = some f := by
  cases f <;> decide

theorem ofKey?_snakeKey (f : Field) : ofKey? f.snakeKey = some f := by
  cases f <;> decide

def Spells (f : Field) (key : Text) : Prop := key = f.camelKey ∨ key = f.snakeKey

theorem Spells.ofKey?_eq {f : Field} {key : Text} (h : f.Spells key) : ofKey? key = some f := by
  rcases h with rfl | rfl
  · exact ofKey?_camelKey f
  · exact ofKey?_snakeKey f

/-- A key spells one field at most. -/
theorem Spells.unique {f g : Field} {key : Text} (h : f.Spells key) (k : g.Spells key) : f = g :=
  Option.some.inj (h.ofKey?_eq.symm.trans k.ofKey?_eq)

/-- The keys of an object that nobody looks up: those that spell no field, and the second spelling
of a field that the object has under the first, whatever it has there. -/
inductive Idle (fields : List (Text × Value)) (key : Text) : Prop
  | foreign : (∀ f : Field, ¬ f.Spells key) → Idle fields key
  | shadowed (f : Field) {v : Value} : key = f.snakeKey → key ≠ f.camelKey →
      Value.field? f.camelKey fields = some v → Idle fields key

theorem not_idle_camelKey (fields : List (Text × Value)) (f : Field) : ¬ Idle fields f.camelKey := by
  intro h
  cases h with
  | foreign hn => exact hn f (.inl rfl)
  | shadowed g hs hc _ =>
      have hfg : f = g := Spells.unique (.inl rfl) (.inr hs)
      exact hc (congrArg camelKey hfg)

theorem not_idle_snakeKey {fields : List (Text × Value)} {f : Field}
    (hf : Value.field? f.camelKey fields = none) : ¬ Idle fields f.snakeKey := by
  intro h
  cases h with
  | foreign hn => exact hn f (.inr rfl)
  | shadowed g hs _ hv =>
      have hfg : f = g := Spells.unique (.inr rfl) (.inr hs)
      rw [← hfg, hf] at hv
      cases hv

theorem find?_agreeBut {as bs : List (Text × Value)} (h : Value.AgreeBut (Idle as) as bs)
    (f : Field) : f.find? bs = f.find? as := by
  unfold find?
  rw [h f.camelKey (not_idle_camelKey as f)]
  split
  · rfl
  · rename_i hnone
    rw [h f.snakeKey (not_idle_snakeKey hnone)]

/-- A key with the second spelling of a field replaced by the first. -/
def respell (f : Field) (key : Text) : Text := if key = f.snakeKey then f.camelKey else key

theorem respell_eq_self {f g : Field} {key : Text} (h : g.Spells key) (hne : g ≠ f) :
    f.respell key = key := by
  refine if_neg ?_
  rintro rfl
  exact hne (Spells.unique h (.inr rfl))

theorem Stands.spells {f : Field} {fields : List (Text × Value)} {key : Text} {v : Value}
    (h : f.Stands fields key v) : f.Spells key := by
  cases h with
  | camel _ => exact .inl rfl
  | snake _ _ => exact .inr rfl

/-- A field that changes its spelling is found with the value that it had. -/
theorem find?_renamed {f : Field} {as bs : List (Text × Value)}
    (hf : Value.field? f.camelKey as = none) (h : Value.Renamed f.snakeKey f.camelKey as bs)
    (g : Field) : g.find? bs = (g.find? as).map fun kv => (f.respell kv.1, kv.2) := by
  by_cases hg : g = f
  · subst hg
    unfold find?
    rw [h.moved, hf, h.gone]
    cases Value.field? g.snakeKey as with
    | none => rfl
    | some v => simp [respell]
  · have hcamel : Value.field? g.camelKey bs = Value.field? g.camelKey as :=
      h.kept _ (fun he => hg (Spells.unique (.inl rfl) (.inr he)))
        (fun he => hg (Spells.unique (.inl rfl) (.inl he)))
    have hsnake : Value.field? g.snakeKey bs = Value.field? g.snakeKey as :=
      h.kept _ (fun he => hg (Spells.unique (.inr rfl) (.inr he)))
        (fun he => hg (Spells.unique (.inr rfl) (.inl he)))
    have hsame : g.find? bs = g.find? as := by
      unfold find?
      rw [hcamel, hsnake]
    rw [hsame]
    cases hkv : g.find? as with
    | none => rfl
    | some kv =>
        have hkey := respell_eq_self (find?_eq_some_iff.mp hkv).spells hg
        rw [Option.map_some, hkey]

end Field

/-- A step to a field, under its first spelling. -/
def Field.respellStep (f : Field) : Step → Step
  | .key k => .key (f.respell k)
  | .index i => .index i

/-- An issue of a record at the same place, where the way to a field goes by its first spelling. -/
def Field.respellIssue (f : Field) (i : Issue) : Issue :=
  { i with place := i.place.modifyHead f.respellStep }

theorem Field.read_renamed {α : Type} {f : Field} {as bs : List (Text × Value)}
    (hf : Value.field? f.camelKey as = none) (h : Value.Renamed f.snakeKey f.camelKey as bs)
    (g : Field) (read : Value → Checked α) (absent : α) :
    g.read read absent bs = (g.read read absent as).mapIssues f.respellIssue := by
  unfold Field.read
  rw [find?_renamed hf h]
  cases g.find? as with
  | none => rfl
  | some kv => exact (Checked.mapIssues_within (fun _ => rfl) (read kv.2)).symm

theorem ofFields_congr {as bs : List (Text × Value)} (h : ∀ f : Field, f.find? bs = f.find? as) :
    ofFields bs = ofFields as := by
  simp only [ofFields, Field.read, h]

theorem ofFields_renamed {f : Field} {as bs : List (Text × Value)}
    (hf : Value.field? f.camelKey as = none) (h : Value.Renamed f.snakeKey f.camelKey as bs) :
    ofFields bs = (ofFields as).mapIssues f.respellIssue := by
  simp only [ofFields, Checked.mapIssues_apply, Checked.mapIssues_map, Field.read_renamed hf h]

end PropertyRecord

namespace Resolution

/-- An object that is taken as it stands is looked at only for tags and the mandatory mark. -/
theorem ofRaw_object (fields : List (Text × Value)) :
    ofRaw (.object fields) = ofObserved (PropertyRecord.Field.propertyTypes.valueIn fields)
      (PropertyRecord.Field.mandatory.valueIn fields).isTruthy := rfl

theorem ofRaw_congr {as bs : List (Text × Value)}
    (h : ∀ f : PropertyRecord.Field, f.valueIn bs = f.valueIn as) :
    ofRaw (.object bs) = ofRaw (.object as) := by
  rw [ofRaw_object, ofRaw_object, h, h]

end Resolution

namespace PropertyRecord

/-- Both readers of an object pass over every key that is idle in it: whatever is changed, added or
removed there, the same record is read or the same issues are found, and the same type is chosen. A
field that is renamed from its second spelling to the first, which is missing, leaves all of this as
it was but for that key in the places of issues. -/
theorem spelling_precedence (as : List (Text × Value)) :
    (∀ bs, Value.AgreeBut (Field.Idle as) as bs →
      ofValue (.object bs) = ofValue (.object as) ∧
      Resolution.ofRaw (.object bs) = Resolution.ofRaw (.object as)) ∧
    ∀ (f : Field) (bs : List (Text × Value)), Value.field? f.camelKey as = none →
      Value.Renamed f.snakeKey f.camelKey as bs →
      ofValue (.object bs) = (ofValue (.object as)).mapIssues f.respellIssue ∧
      Resolution.ofRaw (.object bs) = Resolution.ofRaw (.object as) := by
  constructor
  · intro bs h
    have hfind := Field.find?_agreeBut h
    refine ⟨ofFields_congr hfind, Resolution.ofRaw_congr fun g => ?_⟩
    rw [Field.valueIn, hfind, Field.valueIn]
  · intro f bs hf h
    refine ⟨ofFields_renamed hf h, Resolution.ofRaw_congr fun g => ?_⟩
    rw [Field.valueIn, Field.find?_renamed hf h, Option.map_map, Field.valueIn]
    rfl

/-- A null name hides the one under the other spelling, and a label is null. -/
def shadowedName : List (Text × Value) :=
  [("note", .int 1), ("propertyName", .null), ("property_name", .int 3),
    ("property_types", .list [.text "Long", .text "Integer"]), ("mandatory", .bool true),
    ("node_labels", .list [.text "Person", .null])]

/-- The hidden name changed, a foreign key added and another one removed. -/
def shadowedNameEdited : List (Text × Value) :=
  Value.removeField (Value.setField (Value.setField shadowedName "property_name" (.list []))
    "PropertyName" (.int 4)) "note"

theorem spelling_precedence_of_shadow :
    ofValue (.object shadowedNameEdited) =
      .error [⟨.notText, [.key "node_labels", .index 1]⟩] ∧
    Resolution.ofRaw (.object shadowedNameEdited) = Resolution.ofRaw (.object shadowedName) ∧
    ofValue (.object (Value.renameField shadowedName "node_labels" "nodeLabels")) =
      .error [⟨.notText, [.key "nodeLabels", .index 1]⟩] := by
  have hname : Field.Idle shadowedName "property_name" :=
    .shadowed .propertyName rfl (by decide) (by rfl : _ = some Value.null)
  have hforeign : ∀ key : Text, Field.ofKey? key = none → Field.Idle shadowedName key := by
    intro key h
    refine .foreign fun f hs => ?_
    rw [hs.ofKey?_eq] at h
    cases h
  have hedited : Value.AgreeBut (Field.Idle shadowedName) shadowedName shadowedNameEdited :=
    ((Value.agreeBut_setField hname _ _).trans
      (Value.agreeBut_setField (hforeign _ (by decide)) _ _)).trans
      (Value.agreeBut_removeField (hforeign _ (by decide)) _)
  obtain ⟨hidle, hrename⟩ := spelling_precedence shadowedName
  obtain ⟨hread, hraw⟩ := hidle _ hedited
  obtain ⟨hrenamed, _⟩ := hrename .nodeLabels _ (by rfl) (Value.renamed_renameField (by rfl))
  refine ⟨hread.trans (by decide), hraw, hrenamed.trans (by decide)⟩

end PropertyRecord

end PropertyTyping

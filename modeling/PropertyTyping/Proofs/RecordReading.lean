import Mathlib.Data.List.Forall2
import PropertyTyping.PropertyRecord.Validation

/-! When a record is read. Each way to put readings together succeeds exactly when its parts do, so
a record is read exactly when each of its fields is, and an absent field reads like null. -/

namespace PropertyTyping

namespace Checked

variable {α β : Type}

theorem within_eq_ok {s : Step} {c : Checked α} {a : α} : c.within s = .ok a ↔ c = .ok a := by
  cases c with
  | ok b => rfl
  | error is => exact ⟨nofun, nofun⟩

theorem map_eq_ok {f : α → β} {c : Checked α} {b : β} :
    Except.map f c = .ok b ↔ ∃ a, c = .ok a ∧ f a = b := by
  cases c with
  | ok a =>
      constructor
      · intro h
        exact ⟨a, rfl, Except.ok.inj h⟩
      · rintro ⟨_, h, rfl⟩
        cases h; rfl
  | error is => exact ⟨nofun, nofun⟩

theorem apply_eq_ok {f : Checked (α → β)} {c : Checked α} {b : β} :
    apply f c = .ok b ↔ ∃ g a, f = .ok g ∧ c = .ok a ∧ g a = b := by
  cases f with
  | error is => exact ⟨nofun, nofun⟩
  | ok g =>
      cases c with
      | error is => exact ⟨nofun, nofun⟩
      | ok a =>
          constructor
          · intro h
            exact ⟨g, a, rfl, rfl, Except.ok.inj h⟩
          · rintro ⟨_, _, hg, ha, rfl⟩
            cases hg; cases ha; rfl

theorem cons_eq_ok {c : Checked α} {cs : Checked (List α)} {as : List α} :
    cons c cs = .ok as ↔ ∃ b bs, c = .ok b ∧ cs = .ok bs ∧ b :: bs = as := by
  cases c with
  | error is => exact ⟨nofun, nofun⟩
  | ok b =>
      cases cs with
      | error is => exact ⟨nofun, nofun⟩
      | ok bs =>
          constructor
          · intro h
            exact ⟨b, bs, rfl, rfl, Except.ok.inj h⟩
          · rintro ⟨_, _, hb, hbs, rfl⟩
            cases hb; cases hbs; rfl

/-- Items are read exactly when each of them is. -/
theorem itemsFrom_eq_ok {read : Value → Checked α} {i : Nat} {vs : List Value} {as : List α} :
    itemsFrom read i vs = .ok as ↔ List.Forall₂ (fun v a => read v = .ok a) vs as := by
  induction vs generalizing i as with
  | nil =>
      rw [List.forall₂_nil_left_iff]
      constructor
      · intro h; exact (Except.ok.inj h).symm
      · rintro rfl; rfl
  | cons v vs ih =>
      rw [itemsFrom, cons_eq_ok, List.forall₂_cons_left_iff]
      constructor
      · rintro ⟨b, bs, hb, hbs, rfl⟩
        exact ⟨b, bs, within_eq_ok.mp hb, ih.mp hbs, rfl⟩
      · rintro ⟨b, bs, hb, hbs, rfl⟩
        exact ⟨b, bs, within_eq_ok.mpr hb, ih.mpr hbs, rfl⟩

theorem list_eq_ok {read : Value → Checked α} {v : Value} {as : List α} :
    list read v = .ok as ↔ ∃ vs, v = .list vs ∧ List.Forall₂ (fun v a => read v = .ok a) vs as := by
  constructor
  · intro h
    cases v with
    | list vs => exact ⟨vs, rfl, itemsFrom_eq_ok.mp h⟩
    | _ => cases h
  · rintro ⟨vs, rfl, h⟩
    exact itemsFrom_eq_ok.mpr h

theorem text_eq_ok {v : Value} {t : Text} : text v = .ok t ↔ v.text? = some t := by
  unfold text
  cases v.text? with
  | none => exact ⟨nofun, nofun⟩
  | some u =>
      constructor
      · intro h; exact congrArg some (Except.ok.inj h)
      · intro h; exact congrArg Except.ok (Option.some.inj h)

theorem optional_of_ne_null (read : Value → Checked α) {v : Value} (hv : v ≠ .null) :
    optional read v = Except.map some (read v) := by
  cases v with
  | null => exact absurd rfl hv
  | _ => rfl

theorem optional_eq_ok {read : Value → Checked α} {v : Value} {o : Option α} :
    optional read v = .ok o ↔
      (v = .null ∧ o = none) ∨ (v ≠ .null ∧ ∃ a, read v = .ok a ∧ some a = o) := by
  by_cases hv : v = .null
  · subst hv
    constructor
    · intro h; exact .inl ⟨rfl, (Except.ok.inj h).symm⟩
    · rintro (⟨_, rfl⟩ | ⟨h, _⟩)
      · rfl
      · exact absurd rfl h
  · rw [optional_of_ne_null read hv, map_eq_ok]
    constructor
    · intro h; exact .inr ⟨hv, h⟩
    · rintro (⟨h, _⟩ | ⟨_, h⟩)
      · exact absurd h hv
      · exact h

/-- The name of a storage type spells no truth value. -/
theorem boolOfText_name (s : StorageType) : boolOfText s.name = issue .unreadableBool := by
  rcases s with ⟨p, _ | _⟩ <;> cases p <;> decide

end Checked

namespace PropertyRecord

/-- The value of a field in an object, null if the object lacks the field. -/
def Field.valueIn (f : Field) (fields : List (Text × Value)) : Value :=
  ((f.find? fields).map (·.2)).getD .null

theorem Field.read_eq_ok {α : Type} {f : Field} {read : Value → Checked α} {absent a : α}
    {fields : List (Text × Value)} (h : read .null = .ok absent) :
    f.read read absent fields = .ok a ↔ read (f.valueIn fields) = .ok a := by
  unfold Field.read Field.valueIn
  cases f.find? fields with
  | none => rw [Option.map_none, Option.getD_none, h]
  | some field => exact Checked.within_eq_ok

/-- A record is read exactly when each field is, from its value or from null. -/
theorem ofFields_eq_ok {fields : List (Text × Value)} {r : PropertyRecord} :
    ofFields fields = .ok r ↔
      Checked.optional Checked.text (Field.propertyName.valueIn fields) = .ok r.propertyName ∧
      Checked.optional (Checked.list (Checked.optional Checked.text))
        (Field.propertyTypes.valueIn fields) = .ok r.propertyTypes ∧
      readMandatory (Field.mandatory.valueIn fields) = .ok r.mandatory ∧
      Checked.optional Checked.text (Field.nodeType.valueIn fields) = .ok r.nodeType ∧
      readLabels (Field.nodeLabels.valueIn fields) = .ok r.nodeLabels ∧
      Checked.optional Checked.text (Field.relType.valueIn fields) = .ok r.relType := by
  have hn : ∀ {α : Type} (read : Value → Checked α), Checked.optional read .null = .ok none :=
    fun _ => rfl
  have hm : readMandatory .null = .ok false := rfl
  have hl : readLabels .null = .ok [] := rfl
  constructor
  · intro h
    obtain ⟨_, rel, h5, hrel, rfl⟩ := Checked.apply_eq_ok.mp h
    obtain ⟨_, labels, h4, hlabels, rfl⟩ := Checked.apply_eq_ok.mp h5
    obtain ⟨_, node, h3, hnode, rfl⟩ := Checked.apply_eq_ok.mp h4
    obtain ⟨_, mandatory, h2, hmandatory, rfl⟩ := Checked.apply_eq_ok.mp h3
    obtain ⟨_, types, h1, htypes, rfl⟩ := Checked.apply_eq_ok.mp h2
    obtain ⟨name, hname, rfl⟩ := Checked.map_eq_ok.mp h1
    exact ⟨(Field.read_eq_ok (hn _)).mp hname, (Field.read_eq_ok (hn _)).mp htypes,
      (Field.read_eq_ok hm).mp hmandatory, (Field.read_eq_ok (hn _)).mp hnode,
      (Field.read_eq_ok hl).mp hlabels, (Field.read_eq_ok (hn _)).mp hrel⟩
  · obtain ⟨name, types, mandatory, node, labels, rel⟩ := r
    rintro ⟨hname, htypes, hmandatory, hnode, hlabels, hrel⟩
    refine Checked.apply_eq_ok.mpr ⟨_, _, ?_, (Field.read_eq_ok (hn _)).mpr hrel, rfl⟩
    refine Checked.apply_eq_ok.mpr ⟨_, _, ?_, (Field.read_eq_ok hl).mpr hlabels, rfl⟩
    refine Checked.apply_eq_ok.mpr ⟨_, _, ?_, (Field.read_eq_ok (hn _)).mpr hnode, rfl⟩
    refine Checked.apply_eq_ok.mpr ⟨_, _, ?_, (Field.read_eq_ok hm).mpr hmandatory, rfl⟩
    refine Checked.apply_eq_ok.mpr ⟨_, _, ?_, (Field.read_eq_ok (hn _)).mpr htypes, rfl⟩
    exact Checked.map_eq_ok.mpr ⟨_, (Field.read_eq_ok (hn _)).mpr hname, rfl⟩

end PropertyRecord

end PropertyTyping

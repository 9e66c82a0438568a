import Mathlib.Algebra.Ring.Int.Defs
import Mathlib.Algebra.Ring.Nat
import PropertyTyping.Payload
import PropertyTyping.Proofs.RecordReading

/-! When a payload is read, and how many issues there are when it is not. Every record is read on
its own: the records of a list are those of its items in order, and so are the issues. -/

namespace PropertyTyping

namespace Checked

variable {α : Type}

theorem exists_forall₂_iff {R : Value → α → Prop} {vs : List Value} :
    (∃ as, List.Forall₂ R vs as) ↔ ∀ v ∈ vs, ∃ a, R v a := by
  induction vs with
  | nil => exact iff_of_true ⟨[], .nil⟩ nofun
  | cons v vs ih =>
      rw [List.forall_mem_cons, ← ih]
      constructor
      · rintro ⟨_, h⟩
        obtain ⟨a, as, ha, has, _⟩ := List.forall₂_cons_left_iff.mp h
        exact ⟨⟨a, ha⟩, as, has⟩
      · rintro ⟨⟨a, ha⟩, as, has⟩
        exact ⟨a :: as, .cons ha has⟩

theorem issues_within (s : Step) (c : Checked α) :
    (c.within s).issues = c.issues.map (·.within s) := by
  cases c <;> rfl

theorem issues_cons (c : Checked α) (cs : Checked (List α)) :
    (cons c cs).issues = c.issues ++ cs.issues := by
  cases c <;> cases cs <;> rfl

theorem length_issues_itemsFrom (read : Value → Checked α) (i : Nat) (vs : List Value) :
    (itemsFrom read i vs).issues.length = (vs.map fun v => (read v).issues.length).sum := by
  induction vs generalizing i with
  | nil => rfl
  | cons v vs ih =>
      -- The issues of the head are moved to its index, but none is dropped or repeated.
      rw [itemsFrom, issues_cons, issues_within, List.length_append, List.length_map, ih,
        List.map_cons, List.sum_cons]

end Checked

namespace Payload

/-- A payload offers items to be read as records: it is their list, or an object that has their list
under the key of records. -/
inductive Offers : Value → List Value → Prop
  | bare (items : List Value) : Offers (.list items) items
  | keyed {fields : List (Text × Value)} {items : List Value} :
      Value.field? recordsKey fields = some (.list items) → Offers (.object fields) items

theorem records_object {fields : List (Text × Value)} {items : List Value}
    (h : Value.field? recordsKey fields = some (.list items)) :
    records (.object fields) = records (.list items) := by
  simp only [records, h]

theorem records_offered {payload : Value} {items : List Value} (h : Offers payload items) :
    records payload = records (.list items) := by
  cases h with
  | bare => rfl
  | keyed h => exact records_object h

theorem readRecords_eq_ok {v : Value} {rs : List PropertyRecord} :
    readRecords v = .ok rs ↔ Checked.list PropertyRecord.ofValue v = .ok rs := by
  unfold readRecords
  cases Checked.list PropertyRecord.ofValue v with
  | ok as =>
      change Except.ok as = Except.ok rs ↔ _
      rw [Except.ok.injEq, Except.ok.injEq]
  | error _ => exact ⟨nofun, nofun⟩

theorem records_list_eq_ok {items : List Value} {rs : List PropertyRecord} :
    records (.list items) = .ok rs ↔
      List.Forall₂ (fun v r => PropertyRecord.ofValue v = .ok r) items rs :=
  readRecords_eq_ok.trans Checked.itemsFrom_eq_ok

/-- A payload is read exactly when it offers items and each of them is read as a record. -/
theorem records_eq_ok {payload : Value} {rs : List PropertyRecord} :
    records payload = .ok rs ↔ ∃ items, Offers payload items ∧
      List.Forall₂ (fun v r => PropertyRecord.ofValue v = .ok r) items rs := by
  constructor
  · intro h
    -- Of all kinds of values only two are looked into; any other is refused at once.
    cases payload with
    | list items => exact ⟨items, .bare items, records_list_eq_ok.mp h⟩
    | object fields =>
        simp only [records] at h
        split at h
        · rename_i v hv
          obtain ⟨items, rfl, hitems⟩ := Checked.list_eq_ok.mp (readRecords_eq_ok.mp h)
          exact ⟨items, .keyed hv, hitems⟩
        · cases h
    | _ => cases h
  · rintro ⟨items, hoffers, hitems⟩
    rw [records_offered hoffers]
    exact records_list_eq_ok.mpr hitems

/-- The number of issues of a value as a record: none if it is read. -/
def issueCount (v : Value) : Nat := (PropertyRecord.ofValue v).issues.length

theorem records_list_eq_error {items : List Value} {f : Fault}
    (h : records (.list items) = .error f) :
    ∃ issues, f = .invalid issues ∧ issues.length = (items.map issueCount).sum := by
  have hcount := Checked.length_issues_itemsFrom PropertyRecord.ofValue 0 items
  cases hread : Checked.itemsFrom PropertyRecord.ofValue 0 items with
  | ok rs =>
      have hok : records (.list items) = .ok rs := readRecords_eq_ok.mpr hread
      rw [hok] at h
      cases h
  | error issues =>
      have herror : records (.list items) =
          .error (.invalid (issues.map (·.within (.key recordsKey)))) := by
        rw [records, readRecords, Checked.list, hread]
        rfl
      rw [herror] at h
      rw [hread] at hcount
      refine ⟨_, (Except.error.inj h).symm, ?_⟩
      rw [List.length_map]
      exact hcount

end Payload

end PropertyTyping

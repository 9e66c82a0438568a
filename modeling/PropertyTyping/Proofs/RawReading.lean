import Mathlib.Algebra.Ring.Rat
import Mathlib.Data.List.Forall2
import PropertyTyping.Proofs.RecordReading
import PropertyTyping.Proofs.TypeChoice
import PropertyTyping.PropertyRecord.Typing

/-! The type chosen from an object as it stands, against the type chosen from the record that is
read from it. Both look the same fields up, but one takes whatever holds in a condition as
mandatory and the other reads a truth value, so words that spell a falsehood set them apart. -/

namespace PropertyTyping

namespace Binary64

theorem scale_eq_zero {m : Nat} {q : Int} : scale m q = 0 ↔ m = 0 := by
  unfold scale
  split
  · have hp : Nat.pow 2 q.toNat ≠ 0 := (Nat.two_pow_pos q.toNat).ne'
    rw [Rat.natCast_eq_zero_iff, Nat.mul_eq_zero]
    exact ⟨fun h => h.resolve_right hp, .inl⟩
  · have hp : Nat.pow 2 (-q).toNat ≠ 0 := (Nat.two_pow_pos (-q).toNat).ne'
    rw [Rat.mkRat_eq_zero hp, Int.natCast_eq_zero]

theorem toRat_eq_zero {x : Binary64} : x.toRat = 0 ↔ x.significand = 0 := by
  unfold toRat
  split
  · rw [neg_eq_zero, scale_eq_zero]
  · exact scale_eq_zero

end Binary64

namespace Tag

/-- The text that a finding has, if any. -/
def Finding.text? : Finding → Option Text
  | nothing => none
  | named t => some t

theorem Finding.optionalText_text? (f : Finding) :
    PropertyRecord.optionalText f.text? = f.value := by
  cases f <;> rfl

/-- What is read as a tag is an observation, and what it is read as is its finding. -/
theorem observation_of_read {v : Value} {o : Option Text}
    (h : Checked.optional Checked.text v = .ok o) :
    ∃ x : Observation, v = x.value ∧ o = x.finding.text? := by
  rcases Checked.optional_eq_ok.mp h with ⟨rfl, rfl⟩ | ⟨_, t, ht, rfl⟩
  · exact ⟨.plain .nothing, rfl, rfl⟩
  · have hv := Checked.text_eq_ok.mp ht
    cases v with
    | text _ => cases hv; exact ⟨.plain (.named t), rfl, rfl⟩
    | tag s => cases hv; exact ⟨.member s, rfl, rfl⟩
    | _ => cases hv

theorem observations_of_read {vs : List Value} {ts : List (Option Text)}
    (h : List.Forall₂ (fun v o => Checked.optional Checked.text v = .ok o) vs ts) :
    ∃ os : List Observation, vs = os.map Observation.value ∧ ts = os.map (·.finding.text?) := by
  induction h with
  | nil => exact ⟨[], rfl, rfl⟩
  | cons hx _ ih =>
      obtain ⟨x, rfl, rfl⟩ := observation_of_read hx
      obtain ⟨os, rfl, rfl⟩ := ih
      exact ⟨x :: os, rfl, rfl⟩

/-- The observations as a record keeps them: each by its name. -/
def named (os : List Observation) : List Observation := os.map fun o => .plain o.finding

theorem seen_named (os : List Observation) : seen (named os) = seen os := by
  rw [seen, seen, named, List.filterMap_map]
  rfl

end Tag

namespace PropertyRecord

/-- The tags of a field that was read, and the observations behind them. -/
inductive ReadTags : Value → Option (List (Option Text)) → List Tag.Observation → Prop
  | absent : ReadTags .null none []
  | listed (os : List Tag.Observation) :
      ReadTags (.list (os.map Tag.Observation.value)) (some (os.map (·.finding.text?))) os

theorem readTags_of_read {v : Value} {tags : Option (List (Option Text))}
    (h : Checked.optional (Checked.list (Checked.optional Checked.text)) v = .ok tags) :
    ∃ os, ReadTags v tags os := by
  rcases Checked.optional_eq_ok.mp h with ⟨rfl, rfl⟩ | ⟨_, ts, ht, rfl⟩
  · exact ⟨[], .absent⟩
  · obtain ⟨vs, rfl, hvs⟩ := Checked.list_eq_ok.mp ht
    obtain ⟨os, rfl, rfl⟩ := Tag.observations_of_read hvs
    exact ⟨os, .listed os⟩

/-- A word that spells a falsehood. It is not empty, so it holds in a condition. -/
def SpellsFalse (v : Value) : Prop := ∃ t, v = .text t ∧ Checked.boolOfText t = .ok false

theorem ne_nil_of_boolOfText {t : Text} {b : Bool} (h : Checked.boolOfText t = .ok b) :
    t ≠ [] := by
  rintro rfl
  cases h

theorem boolOfInt_eq_ok {fits : Int → Bool} {n : Int} {b : Bool}
    (h : Checked.boolOfInt fits n = .ok b) : (n != 0) = b := by
  unfold Checked.boolOfInt at h
  split at h
  · subst_vars; exact Except.ok.inj h
  split at h
  · subst_vars; exact Except.ok.inj h
  split at h <;> cases h

theorem isTruthy_of_float {x : Binary64} {b : Bool} (h : readMandatory (.float x) = .ok b) :
    (Value.float x).isTruthy = b := by
  change (if x.isFinite ∧ x.toRat.den = 1 then
    Checked.boolOfInt Checked.fitsWordInside x.toRat.num else _) = _ at h
  split at h
  · rename_i hx
    have hz : x.isZero = decide (x.toRat.num = 0) := by
      rw [Binary64.isZero, hx.1, Bool.true_and, decide_eq_decide, Rat.num_eq_zero,
        Binary64.toRat_eq_zero]
    rw [Value.isTruthy, hz, ← boolOfInt_eq_ok h]
    rfl
  · cases h

/-- What is no text and was read as a truth value is that truth value in a condition. -/
theorem isTruthy_of_read {v : Value} {b : Bool} (h : readMandatory v = .ok b)
    (hv : ∀ t, v ≠ .text t) : v.isTruthy = b := by
  cases v with
  | null => exact Except.ok.inj h
  | bool c => exact Except.ok.inj h
  | int n => exact boolOfInt_eq_ok h
  | float x => exact isTruthy_of_float h
  | text t => exact absurd rfl (hv t)
  | tag s => exact absurd ((Checked.boolOfText_name s).symm.trans h) nofun
  | moment m => cases h
  | list vs => cases h
  | object fields => cases h

/-- A truth value that was read agrees with the condition, but for words that spell a falsehood. -/
theorem isTruthy_iff_of_read {v : Value} {b : Bool} (h : readMandatory v = .ok b) :
    v.isTruthy = b ↔ ¬ SpellsFalse v := by
  by_cases hv : ∃ t, v = .text t
  · obtain ⟨t, rfl⟩ := hv
    have ht : (Value.text t).isTruthy = true := by
      cases t with
      | nil => exact absurd rfl (ne_nil_of_boolOfText h)
      | cons c t => rfl
    rw [ht]
    constructor
    · rintro rfl ⟨u, hu, hf⟩
      cases hu
      cases h.symm.trans hf
    · intro hs
      cases b with
      | true => rfl
      | false => exact absurd ⟨t, rfl, h⟩ hs
  · refine iff_of_true (isTruthy_of_read h fun t ht => hv ⟨t, ht⟩) ?_
    rintro ⟨t, ht, _⟩
    exact hv ⟨t, ht⟩

end PropertyRecord

namespace Resolution

/-- The written type chosen from a value as it stands. -/
def rawTypeName (v : Value) : Except Misuse Text := (ofRaw v).map (·.type.render)

/-- The written type chosen from a record. -/
def recordTypeName (r : PropertyRecord) : Except Misuse Text := (ofRecord r).map (·.type.render)

theorem rawTypeName_object (fields : List (Text × Value)) :
    rawTypeName (.object fields) =
      typeName (PropertyRecord.Field.propertyTypes.valueIn fields)
        (PropertyRecord.Field.mandatory.valueIn fields).isTruthy := rfl

theorem mark_inj {a b : Bool} : mark a = mark b ↔ a = b := by
  cases a <;> cases b <;> decide

/-- Tags settle the same type before and after they are read. -/
theorem typeName_of_readTags {v : Value} {r : PropertyRecord} {os : List Tag.Observation}
    (h : PropertyRecord.ReadTags v r.propertyTypes os) (mandatory : Bool) :
    typeName v mandatory =
        .ok ((Tag.graphType (Tag.broadestOf (Tag.seen os)).value).render ++ mark mandatory) ∧
      typeName (r.fieldValue .propertyTypes) mandatory = typeName v mandatory := by
  generalize hr : r.propertyTypes = tags at h
  cases h with
  | absent =>
      refine ⟨typeName_observed [] mandatory, ?_⟩
      rw [PropertyRecord.fieldValue, hr]
  | listed =>
      refine ⟨typeName_observed os mandatory, ?_⟩
      have hv : r.fieldValue .propertyTypes =
          .list ((Tag.named os).map Tag.Observation.value) := by
        rw [PropertyRecord.fieldValue, hr, Tag.named]
        simp only [List.map_map]
        refine congrArg Value.list (congrArg (List.map · os) ?_)
        funext o
        exact o.finding.optionalText_text?
      rw [hv, typeName_observed, typeName_observed, Tag.seen_named]

/-- The type chosen from an object agrees with the type chosen from the record read from it unless
a word spells that the property is not mandatory: then the object alone makes it mandatory. -/
theorem rawTypeName_eq_iff {fields : List (Text × Value)} {r : PropertyRecord}
    (h : PropertyRecord.ofValue (.object fields) = .ok r) :
    ∃ name, recordTypeName r = .ok name ∧
      (rawTypeName (.object fields) = .ok name ↔
        ¬ PropertyRecord.SpellsFalse (PropertyRecord.Field.mandatory.valueIn fields)) ∧
      (PropertyRecord.SpellsFalse (PropertyRecord.Field.mandatory.valueIn fields) →
        rawTypeName (.object fields) = .ok (name ++ "!")) := by
  obtain ⟨_, htypes, hmandatory, _⟩ := PropertyRecord.ofFields_eq_ok.mp h
  obtain ⟨os, hos⟩ := PropertyRecord.readTags_of_read htypes
  have hbool := PropertyRecord.isTruthy_iff_of_read hmandatory
  obtain ⟨hraw, hrecord⟩ := typeName_of_readTags hos r.mandatory
  refine ⟨_, hrecord.trans hraw, ?_, ?_⟩
  · rw [rawTypeName_object, ← hbool, (typeName_of_readTags hos _).1, Except.ok.injEq,
      List.append_cancel_left_eq, mark_inj]
  · intro hs
    have hne : (PropertyRecord.Field.mandatory.valueIn fields).isTruthy ≠ r.mandatory :=
      fun he => hbool.mp he hs
    obtain ⟨t, ht, hf⟩ := hs
    rw [ht] at hmandatory
    have hm : r.mandatory = false := Except.ok.inj (hmandatory.symm.trans hf)
    rw [hm] at hne ⊢
    rw [rawTypeName_object, (typeName_of_readTags hos _).1, Bool.eq_true_of_not_eq_false hne]
    exact congrArg (fun base => Except.ok (base ++ _)) (List.append_nil _).symm

/-- A record with a number among the spellings that are passed over, a tag given by its type, and a
word for a truth. -/
theorem rawTypeName_eq_of_word :
    PropertyRecord.ofValue (.object [("propertyTypes", .list [.tag ⟨.long, false⟩, .null,
        .text "Integer"]), ("property_types", .int 3), ("mandatory", .text "YES")]) =
      .ok ⟨none, some [some "Long", none, some "Integer"], true, none, [], none⟩ ∧
    ∃ name, recordTypeName ⟨none, some [some "Long", none, some "Integer"], true, none, [], none⟩ =
        .ok name ∧
      rawTypeName (.object [("propertyTypes", .list [.tag ⟨.long, false⟩, .null,
        .text "Integer"]), ("property_types", .int 3), ("mandatory", .text "YES")]) = .ok name := by
  refine ⟨by decide, ?_⟩
  obtain ⟨name, hname, hraw, _⟩ := @rawTypeName_eq_iff
    [("propertyTypes", .list [.tag ⟨.long, false⟩, .null, .text "Integer"]),
      ("property_types", .int 3), ("mandatory", .text "YES")]
    ⟨none, some [some "Long", none, some "Integer"], true, none, [], none⟩ (by decide)
  refine ⟨name, hname, hraw.mpr ?_⟩
  rintro ⟨t, ht, hf⟩
  cases ht
  revert hf
  decide

/-- The word for a falsehood makes the property mandatory in the object and not in the record. -/
theorem rawTypeName_ne_of_false_word :
    PropertyRecord.ofValue (.object [("mandatory", .text "false")]) =
      .ok ⟨none, none, false, none, [], none⟩ ∧
    rawTypeName (.object [("mandatory", .text "false")]) = .ok "String!" ∧
    recordTypeName ⟨none, none, false, none, [], none⟩ = .ok "String" := by
  decide

end Resolution

end PropertyTyping

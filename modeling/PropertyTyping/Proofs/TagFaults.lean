import PropertyTyping.Proofs.TypeChoice
import PropertyTyping.Proofs.ValueEquality

/-! Tags that may be any values. Unequal tags are looked up as a set, which no collection can be
in, and once the string type is reached the tags themselves are put into one. Wherever this happens
first, the fault is the same: that of the first collection among the tags. -/

namespace PropertyTyping

namespace Value

/-- The first collection among some values. -/
def firstCollection? (vs : List Value) : Option Value := vs.find? (!·.isHashable)

theorem checkHashable_eq (vs : List Value) : checkHashable vs =
    match firstCollection? vs with
    | some v => .error (.unhashable v.kind)
    | none => .ok () := rfl

theorem firstCollection?_eq_none {vs : List Value} :
    firstCollection? vs = none ↔ ∀ v ∈ vs, v.isHashable = true := by
  simp only [firstCollection?, List.find?_eq_none, Bool.not_eq_true, Bool.not_eq_false']

theorem firstCollection?_cons (v : Value) (vs : List Value) :
    firstCollection? (v :: vs) = if v.isHashable then firstCollection? vs else some v := by
  rw [firstCollection?, List.find?_cons]
  cases v.isHashable <;> rfl

end Value

namespace Tag

open Value

theorem equals_plain_right (a v : Value) : a.equals (plain v) = a.equals v := by
  cases v with
  | tag s => cases a <;> simp [plain, equals, text?, number?]
  | _ => rfl

theorem equals_plain_left (v b : Value) : (plain v).equals b = v.equals b := by
  cases v with
  | tag s => cases b <;> simp [plain, equals, text?, number?]
  | _ => rfl

theorem isHashable_plain (v : Value) : (plain v).isHashable = v.isHashable := by
  cases v <;> rfl

theorem plain_eq_self {v : Value} (h : v.isHashable = false) : plain v = v := by
  cases v with
  | tag s => cases h
  | _ => rfl

theorem firstCollection?_map_plain (vs : List Value) :
    firstCollection? (vs.map plain) = firstCollection? vs := by
  induction vs with
  | nil => rfl
  | cons v vs ih =>
      rw [List.map_cons, firstCollection?_cons, firstCollection?_cons, isHashable_plain, ih]
      cases h : v.isHashable with
      | true => rfl
      | false => rw [plain_eq_self h]

/-- What has been reached so far is compared as it is, and says something. -/
structure Reached (a : Value) : Prop where
  plain_eq : plain a = a
  ne_null : a ≠ .null

theorem reached_plain {v : Value} (h : isPresent v = true) : Reached (plain v) := by
  refine ⟨plain_plain v, ?_⟩
  cases v with
  | null => cases h
  | _ => exact nofun

theorem reached_string : Reached string := ⟨rfl, nofun⟩

theorem unify_reached {a v : Value} (ha : Reached a) (hv : isPresent v = true) :
    unify a v = if a.equals v then .ok a
      else if a.equals string || v.equals string then .ok string
      else do
        checkHashable [a, plain v]
        return (widen? a (plain v)).getD string := by
  have hn := (reached_plain hv).ne_null
  unfold unify
  rw [ha.plain_eq]
  split
  · exact absurd rfl ha.ne_null
  · rename_i h
    exact absurd h hn
  · rw [equals_plain_right, equals_plain_left]

theorem widen?_cases (a b : Value) :
    widen? a b = none ∨ ∃ p, widen? a b = some (ofPrimitive p) := by
  unfold widen?
  cases widenings.find? _ with
  | none => exact .inl rfl
  | some w => exact .inr ⟨w.2.2, rfl⟩

/-- What a unification with a tag can come to. -/
inductive Unified (a v : Value) : Except Misuse Value → Prop
  | equal : a.equals v = true → Unified a v (.ok a)
  | absorbed : Unified a v (.ok string)
  | widened (p : Primitive) : a.isHashable = true → v.isHashable = true →
      Unified a v (.ok (ofPrimitive p))
  | refused {w : Value} : firstCollection? [a, v] = some w →
      Unified a v (.error (.unhashable w.kind))

theorem unified_unify {a v : Value} (ha : Reached a) (hv : isPresent v = true) :
    Unified a v (unify a v) := by
  have hfirst : firstCollection? [a, plain v] = firstCollection? [a, v] := by
    rw [← firstCollection?_map_plain [a, v], List.map_cons, List.map_singleton, ha.plain_eq]
  rw [unify_reached ha hv, checkHashable_eq, hfirst]
  split
  · rename_i he
    exact .equal he
  split
  · exact .absorbed
  cases hw : firstCollection? [a, v] with
  | some w => exact .refused hw
  | none =>
      have hh := firstCollection?_eq_none.mp hw
      rcases widen?_cases a (plain v) with h | ⟨p, h⟩
      · rw [h]
        exact .absorbed
      · rw [h]
        exact .widened p (hh a List.mem_cons_self)
          (hh v (List.mem_cons_of_mem a List.mem_cons_self))

/-- Once the string type is reached, no tag can change it. -/
theorem foldlM_unify_string {vs : List Value} (hvs : ∀ v ∈ vs, isPresent v = true) :
    vs.foldlM unify string = .ok string := by
  induction vs with
  | nil => rfl
  | cons v vs ih =>
      obtain ⟨hv, hvs⟩ := List.forall_mem_cons.mp hvs
      have hself : string.equals string = true := by decide
      have hstep : unify string v = .ok string := by
        rw [unify_reached reached_string hv, hself, Bool.true_or, if_pos rfl, ite_self]
      rw [List.foldlM_cons, hstep]
      exact ih hvs

theorem foldlM_unify_equal {a : Value} (ha : Reached a) {vs : List Value}
    (hvs : ∀ v ∈ vs, isPresent v = true) (he : ∀ v ∈ vs, a.equals v = true) :
    vs.foldlM unify a = .ok a := by
  induction vs with
  | nil => rfl
  | cons v vs ih =>
      obtain ⟨hv, hvs⟩ := List.forall_mem_cons.mp hvs
      obtain ⟨hav, he⟩ := List.forall_mem_cons.mp he
      rw [List.foldlM_cons, unify_reached ha hv, if_pos hav]
      exact ih hvs he

theorem reached_ofPrimitive (p : Primitive) : Reached (ofPrimitive p) := ⟨rfl, nofun⟩

theorem unifyAll_equal {v : Value} {vs : List Value} (hvs : ∀ w ∈ v :: vs, isPresent w = true)
    (he : ∀ w ∈ vs, v.equals w = true) : unifyAll (v :: vs) = .ok (plain v) := by
  obtain ⟨hv, hvs⟩ := List.forall_mem_cons.mp hvs
  refine foldlM_unify_equal (reached_plain hv) hvs ?_
  intro w hw
  rw [equals_plain_left]
  exact he w hw

end Tag

namespace Resolution

open Tag Value

/-- The tags that say something. -/
def reported (tags : List Value) : List Value := tags.filter isPresent

theorem isPresent_of_mem {tags : List Value} {v : Value} (h : v ∈ reported tags) :
    isPresent v = true := (List.mem_filter.mp h).2

theorem ofTags_several {tags : List Value} (h : 2 ≤ tags.length) (mandatory : Bool) :
    ofTags tags mandatory = do
      let winner ← unifyAll (reported tags)
      let event ← report (reported tags) winner
      return ⟨(graphType winner).required mandatory, some event⟩ := by
  match tags with
  | [] => cases h
  | [_] => exact absurd h (Nat.lt_irrefl 1)
  | _ :: _ :: _ => rfl

end Resolution

end PropertyTyping

import Mathlib.Data.Rat.Defs
import PropertyTyping.Proofs.PayloadReading

/-! Issues and the places where they lie. Something is asked of the values at certain places, and
the issues of a reading are exactly the places where it is not met, each once and in order. -/

namespace PropertyTyping

def Step.into? : Step → Value → Option Value
  | .key k, .object fields => Value.field? k fields
  | .index i, .list items => items[i]?
  | _, _ => none

def Value.at? (v : Value) : List Step → Option Value
  | [] => some v
  | s :: place => (s.into? v).bind (Value.at? · place)

theorem Value.at?_cons (v : Value) (s : Step) (place : List Step) :
    v.at? (s :: place) = (s.into? v).bind (Value.at? · place) :=
  rfl

/-- The order of steps from one value: keys as the fields that they name are declared, and items as
they come. -/
def Step.rank : Step → Nat
  | .key k => PropertyRecord.fields.findIdx fun f => k = f.camelKey ∨ k = f.snakeKey
  | .index i => i

def Step.Before (s t : Step) : Prop := s.rank < t.rank

/-- The order of places: the first steps that differ decide. -/
def Precedes : List Step → List Step → Prop := List.Lex Step.Before

theorem not_precedes_self (place : List Step) : ¬ Precedes place place :=
  List.lex_irrefl (fun s => Nat.lt_irrefl s.rank) place

/-- What is asked of the value at a place. -/
inductive Demand where
  | object
  | text
  | textOrNull
  | listOrNull
  | truthOrNull
  deriving DecidableEq

/-- A truth value, or a number or word that stands for one. -/
inductive SpellsTruth : Value → Prop
  | bool (b : Bool) : SpellsTruth (.bool b)
  | int {n : Int} : n = 0 ∨ n = 1 → SpellsTruth (.int n)
  | float {x : Binary64} : x.isFinite = true → x.toRat = 0 ∨ x.toRat = 1 → SpellsTruth (.float x)
  | word {t : Text} : t.map Checked.lowerCase ∈ Checked.trueWords ++ Checked.falseWords →
      SpellsTruth (.text t)

namespace Demand

/-- When a value is what is asked for. -/
def Meets : Demand → Value → Prop
  | object, v => ∃ fields, v = .object fields
  | text, v => ∃ t, v.text? = some t
  | textOrNull, v => v = .null ∨ ∃ t, v.text? = some t
  | listOrNull, v => v = .null ∨ ∃ items, v = .list items
  | truthOrNull, v => v = .null ∨ SpellsTruth v

/-- What there is to complain about where a demand is not met. -/
def complaints : Demand → List Complaint
  | object => [.notObject]
  | text | textOrNull => [.notText]
  | listOrNull => [.notList]
  | truthOrNull => [.notBool, .unreadableBool]

end Demand

/-- Issues that are exactly the places where a demand is not met, among some places. -/
structure Exact (issues : List Issue) (holds : List Step → Demand → Value → Prop) : Prop where
  sound : ∀ i ∈ issues, ∃ d w, holds i.place d w ∧ ¬ d.Meets w ∧ i.complaint ∈ d.complaints
  complete : ∀ place d w, holds place d w → ¬ d.Meets w → ∃ i ∈ issues, i.place = place
  ordered : issues.Pairwise fun i j => Precedes i.place j.place

namespace Exact

variable {issues : List Issue} {holds : List Step → Demand → Value → Prop}

/-- Only the places where a demand is not met matter. -/
theorem congr {holds' : List Step → Demand → Value → Prop} (h : Exact issues holds)
    (he : ∀ place d w, ¬ d.Meets w → (holds' place d w ↔ holds place d w)) :
    Exact issues holds' := by
  refine ⟨?_, ?_, h.ordered⟩
  · intro i hi
    obtain ⟨d, w, hw, hd, hc⟩ := h.sound i hi
    exact ⟨d, w, (he _ d w hd).mpr hw, hd, hc⟩
  · intro place d w hw hd
    exact h.complete place d w ((he place d w hd).mp hw) hd

theorem nil (h : ∀ place d w, holds place d w → d.Meets w) : Exact [] holds :=
  ⟨nofun, fun place d w hw hd => absurd (h place d w hw) hd, .nil⟩

theorem within (s : Step) (h : Exact issues holds) :
    Exact (issues.map (·.within s))
      (fun place d w => ∃ rest, place = s :: rest ∧ holds rest d w) := by
  refine ⟨?_, ?_, ?_⟩
  · intro i hi
    obtain ⟨j, hj, rfl⟩ := List.mem_map.mp hi
    obtain ⟨d, w, hw, hd, hc⟩ := h.sound j hj
    exact ⟨d, w, ⟨j.place, rfl, hw⟩, hd, hc⟩
  · rintro _ d w ⟨rest, rfl, hw⟩ hd
    obtain ⟨j, hj, rfl⟩ := h.complete rest d w hw hd
    exact ⟨j.within s, List.mem_map_of_mem hj, rfl⟩
  · rw [List.pairwise_map]
    exact h.ordered.imp .cons

/-- Issues of several parts, where all places of a part come before those of the next ones. -/
theorem flatMap {β : Type} {l : List β} {found : β → List Issue}
    {holds : β → List Step → Demand → Value → Prop} (h : ∀ x ∈ l, Exact (found x) (holds x))
    (hl : l.Pairwise fun x y => ∀ p d v q e w, holds x p d v → holds y q e w → Precedes p q) :
    Exact (l.flatMap found) (fun place d w => ∃ x ∈ l, holds x place d w) := by
  refine ⟨?_, ?_, ?_⟩
  · intro i hi
    obtain ⟨x, hx, hi⟩ := List.mem_flatMap.mp hi
    obtain ⟨d, w, hw, hd, hc⟩ := (h x hx).sound i hi
    exact ⟨d, w, ⟨x, hx, hw⟩, hd, hc⟩
  · rintro place d w ⟨x, hx, hw⟩ hd
    obtain ⟨i, hi, hp⟩ := (h x hx).complete place d w hw hd
    exact ⟨i, List.mem_flatMap.mpr ⟨x, hx, hi⟩, hp⟩
  · rw [List.pairwise_flatMap]
    refine ⟨fun x hx => (h x hx).ordered, hl.imp_of_mem ?_⟩
    intro x y hx hy hxy i hi j hj
    obtain ⟨d, v, hv, _⟩ := (h x hx).sound i hi
    obtain ⟨e, w, hw, _⟩ := (h y hy).sound j hj
    exact hxy _ d v _ e w hv hw

end Exact

namespace Checked

variable {α β : Type} {c : Checked α}

/-- A reading that has no issue succeeds. -/
def Grounded (c : Checked α) : Prop := c.issues = [] → ∃ a, c = .ok a

theorem issues_map (f : α → β) (c : Checked α) : issues (Except.map f c) = c.issues := by
  cases c <;> rfl

theorem issues_apply (f : Checked (α → β)) (c : Checked α) :
    (apply f c).issues = f.issues ++ c.issues := by
  cases f <;> cases c <;> rfl

theorem Grounded.map (f : α → β) (hc : c.Grounded) : Grounded (Except.map f c) := by
  intro h
  rw [issues_map] at h
  obtain ⟨a, rfl⟩ := hc h
  exact ⟨f a, rfl⟩

theorem Grounded.within (s : Step) (hc : c.Grounded) : (c.within s).Grounded := by
  intro h
  rw [issues_within, List.map_eq_nil_iff] at h
  obtain ⟨a, rfl⟩ := hc h
  exact ⟨a, rfl⟩

theorem Grounded.apply {f : Checked (α → β)} (hf : f.Grounded) (hc : c.Grounded) :
    (f.apply c).Grounded := by
  intro h
  rw [issues_apply, List.append_eq_nil_iff] at h
  obtain ⟨g, rfl⟩ := hf h.1
  obtain ⟨a, rfl⟩ := hc h.2
  exact ⟨g a, rfl⟩

theorem Grounded.cons {cs : Checked (List α)} (hc : c.Grounded) (hcs : cs.Grounded) :
    (c.cons cs).Grounded := by
  intro h
  rw [issues_cons, List.append_eq_nil_iff] at h
  obtain ⟨a, rfl⟩ := hc h.1
  obtain ⟨as, rfl⟩ := hcs h.2
  exact ⟨a :: as, rfl⟩

theorem Grounded.itemsFrom {read : Value → Checked α} (h : ∀ v, (read v).Grounded) (i : Nat)
    (vs : List Value) : (itemsFrom read i vs).Grounded := by
  induction vs generalizing i with
  | nil => exact fun _ => ⟨[], rfl⟩
  | cons v vs ih => exact ((h v).within (.index i)).cons (ih (i + 1))

theorem Grounded.list {read : Value → Checked α} (h : ∀ v, (read v).Grounded) (v : Value) :
    (list read v).Grounded := by
  cases v with
  | list items => exact .itemsFrom h 0 items
  | _ => exact nofun

end Checked

/-- What a reading with one demand gives: it succeeds if that is met and has else one issue. -/
inductive Judges {α : Type} (d : Demand) (v : Value) : Checked α → Prop
  | met {a : α} : d.Meets v → Judges d v (.ok a)
  | unmet {c : Complaint} : ¬ d.Meets v → c ∈ d.complaints → Judges d v (Checked.issue c)

namespace Judges

variable {α β : Type} {d e : Demand} {v : Value} {c : Checked α}

theorem exact (h : Judges d v c) : Exact c.issues fun place e w => place = [] ∧ e = d ∧ w = v := by
  cases h with
  | met hm =>
      refine .nil ?_
      rintro _ _ _ ⟨_, rfl, rfl⟩
      exact hm
  | unmet hn hc =>
      refine ⟨?_, ?_, List.pairwise_singleton _ _⟩
      · intro i hi
        rw [List.mem_singleton.mp hi]
        exact ⟨d, v, ⟨rfl, rfl, rfl⟩, hn, hc⟩
      · rintro _ _ _ ⟨rfl, rfl, rfl⟩ _
        exact ⟨_, List.mem_singleton_self _, rfl⟩

theorem grounded (h : Judges d v c) : c.Grounded := by
  cases h with
  | met _ => exact fun _ => ⟨_, rfl⟩
  | unmet _ _ => exact nofun

theorem congr (f : α → β) (h : Judges d v c) (he : e.Meets v ↔ d.Meets v)
    (hc : d.complaints ⊆ e.complaints) : Judges e v (Except.map f c) := by
  cases h with
  | met hm => exact .met (he.mpr hm)
  | unmet hn hd => exact .unmet (fun hm => hn (he.mp hm)) (hc hd)

end Judges

namespace Checked

variable {α β : Type}

theorem judges_text (v : Value) : Judges .text v (text v) := by
  unfold text
  cases ht : v.text? with
  | some t => exact .met ⟨t, ht⟩
  | none =>
      refine .unmet (c := .notText) ?_ (List.mem_singleton_self _)
      rintro ⟨t, h⟩
      rw [ht] at h
      cases h

theorem judges_optional (v : Value) : Judges .textOrNull v (optional text v) := by
  by_cases hv : v = .null
  · rw [hv]
    exact .met (.inl rfl)
  · rw [optional_of_ne_null text hv]
    exact (judges_text v).congr some ⟨fun h => h.resolve_left hv, .inr⟩ (List.Subset.refl _)

theorem judges_boolOfInt {fits : Int → Bool} {n : Int} {v : Value}
    (h : Demand.truthOrNull.Meets v ↔ n = 0 ∨ n = 1) :
    Judges .truthOrNull v (boolOfInt fits n) := by
  unfold boolOfInt
  by_cases h0 : n = 0
  · rw [if_pos h0]
    exact .met (h.mpr (.inl h0))
  by_cases h1 : n = 1
  · rw [if_neg h0, if_pos h1]
    exact .met (h.mpr (.inr h1))
  have hv : ¬ Demand.truthOrNull.Meets v := fun hv => (h.mp hv).elim h0 h1
  rw [if_neg h0, if_neg h1]
  split
  · exact .unmet hv (by decide)
  · exact .unmet hv (by decide)

theorem judges_boolOfText (t : Text) : Judges .truthOrNull (.text t) (boolOfText t) := by
  have hv : Demand.truthOrNull.Meets (.text t) ↔ t.map lowerCase ∈ trueWords ++ falseWords := by
    constructor
    · rintro (h | h)
      · cases h
      · cases h with
        | word hw => exact hw
    · intro hw
      exact .inr (.word hw)
  rw [List.mem_append, ← List.contains_iff_mem, ← List.contains_iff_mem] at hv
  unfold boolOfText
  simp only
  split
  · rename_i hw
    exact .met (hv.mpr (.inl hw))
  split
  · rename_i hw
    exact .met (hv.mpr (.inr hw))
  · rename_i h1 h2
    exact .unmet (fun h => (hv.mp h).elim h1 h2) (by decide)

/-- A fraction spells no truth value. -/
theorem judges_float (x : Binary64) :
    Judges .truthOrNull (.float x) (bool (.float x)) := by
  have hv : Demand.truthOrNull.Meets (.float x) ↔
      x.isFinite = true ∧ (x.toRat = 0 ∨ x.toRat = 1) := by
    constructor
    · rintro (h | h)
      · cases h
      · cases h with
        | float hf h => exact ⟨hf, h⟩
    · rintro ⟨hf, h⟩
      exact .inr (.float hf h)
  change Judges _ _ (if x.isFinite = true ∧ x.toRat.den = 1 then
    boolOfInt fitsWordInside x.toRat.num else issue .notBool)
  by_cases hx : x.isFinite = true ∧ x.toRat.den = 1
  · rw [if_pos hx]
    refine judges_boolOfInt (hv.trans ?_)
    rw [and_iff_right hx.1, ← Rat.coe_int_num_of_den_eq_one hx.2]
    norm_cast
  · rw [if_neg hx]
    refine .unmet (fun h => hx ?_) (by decide)
    obtain ⟨hf, h | h⟩ := hv.mp h
    · rw [h]
      exact ⟨hf, rfl⟩
    · rw [h]
      exact ⟨hf, rfl⟩

theorem judges_mandatory (v : Value) : Judges .truthOrNull v (PropertyRecord.readMandatory v) := by
  cases v with
  | null => exact .met (.inl rfl)
  | bool b => exact .met (.inr (.bool b))
  | int n =>
      refine judges_boolOfInt ⟨?_, fun h => .inr (.int h)⟩
      rintro (h | h)
      · cases h
      · cases h with
        | int h => exact h
  | float x => exact judges_float x
  | text t => exact judges_boolOfText t
  | tag s =>
      change Judges _ _ (boolOfText s.name)
      rw [boolOfText_name]
      exact .unmet nofun (by decide)
  | moment _ | list _ | object _ => exact .unmet nofun (by decide)

theorem issues_itemsFrom (read : Value → Checked α) (i : Nat) (vs : List Value) :
    (itemsFrom read i vs).issues =
      (vs.zipIdx i).flatMap fun x => (read x.1).issues.map (·.within (.index x.2)) := by
  induction vs generalizing i with
  | nil => rfl
  | cons v vs ih => rw [itemsFrom, issues_cons, issues_within, ih, List.zipIdx_cons,
      List.flatMap_cons]

theorem pairwise_zipIdx (vs : List Value) (i : Nat) :
    (vs.zipIdx i).Pairwise fun x y => x.2 < y.2 := by
  rw [← List.pairwise_map (R := (· < ·)) (f := Prod.snd), List.zipIdx_map_snd]
  exact List.pairwise_lt_range'

/-- The issues of a list are those of its items, each at its index. -/
theorem exact_items {read : Value → Checked α} {holds : Value → List Step → Demand → Value → Prop}
    (h : ∀ v, Exact (read v).issues (holds v)) (items : List Value) :
    Exact (itemsFrom read 0 items).issues (fun place d w =>
      ∃ i v rest, items[i]? = some v ∧ place = .index i :: rest ∧ holds v rest d w) := by
  rw [issues_itemsFrom]
  refine (Exact.flatMap (fun x _ => (h x.1).within (.index x.2)) ?_).congr ?_
  · refine (pairwise_zipIdx items 0).imp ?_
    rintro x y hxy _ _ _ _ _ _ ⟨_, rfl, _⟩ ⟨_, rfl, _⟩
    exact .rel hxy
  · intro place d w _
    constructor
    · rintro ⟨i, v, rest, hi, rfl, hw⟩
      exact ⟨(v, i), List.mem_zipIdx_iff_getElem?.mpr hi, rest, rfl, hw⟩
    · rintro ⟨⟨v, i⟩, hi, rest, rfl, hw⟩
      exact ⟨i, v, rest, List.mem_zipIdx_iff_getElem?.mp hi, rfl, hw⟩

end Checked

end PropertyTyping

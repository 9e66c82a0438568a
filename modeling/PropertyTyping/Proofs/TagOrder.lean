import Mathlib.Order.Bounds.Basic
import Mathlib.Order.BoundedOrder.Lattice
import PropertyTyping.Tag

/-! Unification as a least upper bound. What tags tell about a property is ordered by breadth:
nothing is below every name, the string type is above every other name, and an integer is below a
long and below a float. No other two findings are comparable. -/

namespace PropertyTyping.Tag

/-- What is known of the storage of a property: nothing, or the name of a type. -/
inductive Finding where
  | nothing
  | named (t : Text)
  deriving DecidableEq

namespace Finding

def value : Finding → Value
  | nothing => .null
  | named t => .text t

def ofPrimitive (p : Primitive) : Finding := named p.name

def broadest : Finding := named StorageType.stringName

/-- The strict part of the order. -/
inductive Narrower : Finding → Finding → Prop
  | nothing (t : Text) : Narrower nothing (named t)
  | string {t : Text} : t ≠ StorageType.stringName → Narrower (named t) broadest
  | long : Narrower (ofPrimitive .integer) (ofPrimitive .long)
  | float : Narrower (ofPrimitive .integer) (ofPrimitive .float)

theorem narrower_named {s t : Text} : Narrower (named s) (named t) ↔
    (s ≠ StorageType.stringName ∧ named t = broadest) ∨
      named s = ofPrimitive .integer ∧
        (named t = ofPrimitive .long ∨ named t = ofPrimitive .float) := by
  constructor
  · intro h
    cases h with
    | string hs => exact .inl ⟨hs, rfl⟩
    | long => exact .inr ⟨rfl, .inl rfl⟩
    | float => exact .inr ⟨rfl, .inr rfl⟩
  · rintro (⟨hs, ht⟩ | ⟨hs, ht | ht⟩)
    · rw [ht]; exact .string hs
    · rw [hs, ht]; exact .long
    · rw [hs, ht]; exact .float

instance : DecidableRel Narrower
  | nothing, nothing => .isFalse nofun
  | nothing, named t => .isTrue (.nothing t)
  | named _, nothing => .isFalse nofun
  | named _, named _ => decidable_of_iff _ narrower_named.symm

/-- Nothing but the string type is above two findings in a row. -/
theorem Narrower.eq_broadest {s : Text} {b c : Finding} (h : Narrower (named s) b)
    (k : Narrower b c) : c = broadest := by
  cases b with
  | nothing => cases h
  | named t =>
      cases c with
      | nothing => cases k
      | named u =>
          rcases narrower_named.mp k with ⟨_, hu⟩ | ⟨ht, _⟩
          · exact hu
          · rcases narrower_named.mp h with ⟨_, hs⟩ | ⟨_, hl | hf⟩
            · exact absurd (ht.symm.trans hs) (by decide)
            · exact absurd (ht.symm.trans hl) (by decide)
            · exact absurd (ht.symm.trans hf) (by decide)

theorem not_narrower_self (a : Finding) : ¬ Narrower a a := by
  intro h
  cases a with
  | nothing => cases h
  | named t =>
      have ht := h.eq_broadest h
      rw [ht] at h
      exact absurd h (by decide)

theorem Narrower.trans {a b c : Finding} (h : Narrower a b) (k : Narrower b c) : Narrower a c := by
  cases a with
  | nothing =>
      cases c with
      | nothing => cases k
      | named u => exact .nothing u
  | named s =>
      have hc := h.eq_broadest k
      subst hc
      refine .string ?_
      rintro rfl
      cases b with
      | nothing => cases h
      | named t =>
          rcases narrower_named.mp h with ⟨hs, _⟩ | ⟨hs, _⟩
          · exact hs rfl
          · exact absurd hs (by decide)

instance : PartialOrder Finding where
  le a b := a = b ∨ Narrower a b
  lt := Narrower
  le_refl a := .inl rfl
  le_trans a b c := by
    rintro (rfl | h) (rfl | k)
    · exact .inl rfl
    · exact .inr k
    · exact .inr h
    · exact .inr (h.trans k)
  lt_iff_le_not_ge a b := by
    constructor
    · intro h
      refine ⟨.inr h, ?_⟩
      rintro (rfl | k)
      · exact not_narrower_self _ h
      · exact not_narrower_self a (h.trans k)
    · rintro ⟨rfl | h, k⟩
      · exact absurd (.inl rfl) k
      · exact h
  le_antisymm a b := by
    rintro (rfl | h) k
    · rfl
    · rcases k with rfl | k
      · rfl
      · exact absurd (h.trans k) (not_narrower_self a)

theorem le_iff {a b : Finding} : a ≤ b ↔ a = b ∨ Narrower a b := Iff.rfl

instance : DecidableLE Finding := fun a b => inferInstanceAs (Decidable (a = b ∨ Narrower a b))

instance : OrderBot Finding where
  bot := nothing
  bot_le a := by
    cases a with
    | nothing => exact .inl rfl
    | named t => exact .inr (.nothing t)

instance : OrderTop Finding where
  top := broadest
  le_top a := by
    cases a with
    | nothing => exact .inr (.nothing _)
    | named t =>
        by_cases h : t = StorageType.stringName
        · exact .inl (congrArg named h)
        · exact .inr (.string h)

/-- Two findings that are not comparable have only the string type above them. -/
theorem eq_top_of_bounds {a b c : Finding} (hab : ¬ a ≤ b) (hba : ¬ b ≤ a) (ha : a ≤ c)
    (hb : b ≤ c) : c = ⊤ := by
  rcases ha with rfl | ha
  · exact absurd hb hba
  rcases hb with rfl | hb
  · exact absurd (.inr ha) hab
  cases a with
  | nothing => exact absurd bot_le hab
  | named s =>
      cases b with
      | nothing => exact absurd bot_le hba
      | named t =>
          cases c with
          | nothing => cases ha
          | named u =>
              rcases narrower_named.mp ha with ⟨_, hu⟩ | ⟨hs, _⟩
              · exact hu
              · rcases narrower_named.mp hb with ⟨_, hu⟩ | ⟨ht, _⟩
                · exact hu
                · exact absurd (.inl (hs.trans ht.symm)) hab

/-- The broader of two findings, or the string type if neither is. -/
def join (a b : Finding) : Finding := if a ≤ b then b else if b ≤ a then a else ⊤

instance : SemilatticeSup Finding where
  sup := join
  le_sup_left a b := by
    unfold join
    split
    · assumption
    · split
      · exact le_rfl
      · exact le_top
  le_sup_right a b := by
    unfold join
    split
    · exact le_rfl
    · split
      · assumption
      · exact le_top
  sup_le a b c ha hb := by
    unfold join
    split
    · exact hb
    · split
      · exact ha
      · rw [eq_top_of_bounds ‹_› ‹_› ha hb]

theorem nothing_eq_bot : nothing = ⊥ := rfl

theorem named_stringName : named StorageType.stringName = ⊤ := rfl

theorem sup_def (a b : Finding) : a ⊔ b = if a ≤ b then b else if b ≤ a then a else ⊤ := rfl

end Finding

/-- A tag as records hold it: null, a text, or a storage type itself. -/
inductive Observation where
  | plain (f : Finding)
  | member (s : StorageType)
  deriving DecidableEq

namespace Observation

def value : Observation → Value
  | plain f => f.value
  | member s => .tag s

/-- What an observation tells. A storage type tells no more than its name. -/
def finding : Observation → Finding
  | plain f => f
  | member s => .named s.name

theorem plain_value (o : Observation) : Tag.plain o.value = o.finding.value := by
  cases o with
  | plain f => cases f <;> rfl
  | member s => rfl

end Observation

@[simp] theorem plain_plain (v : Value) : plain (plain v) = plain v := by
  cases v <;> rfl

theorem unify_plain (a b : Value) : unify (plain a) (plain b) = unify a b := by
  simp only [unify, plain_plain]

theorem equals_text (s t : Text) : (Value.text s).equals (.text t) = decide (s = t) := by
  have h : (Value.text s).equals (.text t) = (s == t) := by
    simp only [Value.equals, Value.text?]
  rw [h, Bool.eq_iff_iff, beq_iff_eq, decide_eq_true_iff]

/-- Only comparable names have a broader type of their own. -/
theorem widen?_eq_none {s t : Text} (h : ¬ Finding.Narrower (.named s) (.named t))
    (k : ¬ Finding.Narrower (.named t) (.named s)) : widen? (.text s) (.text t) = none := by
  simp only [widen?, Option.map_eq_none_iff, List.find?_eq_none]
  intro w hw hc
  simp only [ofPrimitive, equals_text, Bool.or_eq_true, Bool.and_eq_true,
    decide_eq_true_eq] at hc
  simp only [widenings, List.mem_cons, List.not_mem_nil, or_false] at hw
  rcases hw with rfl | rfl
  · rcases hc with ⟨rfl, rfl⟩ | ⟨rfl, rfl⟩
    · exact h .long
    · exact k .long
  · rcases hc with ⟨rfl, rfl⟩ | ⟨rfl, rfl⟩
    · exact h .float
    · exact k .float

theorem unify_text (s t : Text) : unify (.text s) (.text t) =
    .ok (if s = t then .text s
      else if s = StorageType.stringName ∨ t = StorageType.stringName then string
      else (widen? (.text s) (.text t)).getD string) := by
  have hs : (Value.text s).equals string = decide (s = StorageType.stringName) := equals_text _ _
  have ht : (Value.text t).equals string = decide (t = StorageType.stringName) := equals_text _ _
  have hc : Value.checkHashable [.text s, .text t] = .ok () := rfl
  simp only [unify, plain, equals_text, hs, ht, hc, Bool.or_eq_true, decide_eq_true_eq]
  split
  · rfl
  · split <;> rfl

/-- The pairs that widen are those in which one name is below the other. -/
theorem getD_widen? {s t : Text} (hs : s ≠ StorageType.stringName)
    (ht : t ≠ StorageType.stringName) (hst : s ≠ t) :
    (widen? (.text s) (.text t)).getD string = (Finding.named s ⊔ .named t).value := by
  have hne : Finding.named s ≠ .named t := fun h => hst (Finding.named.inj h)
  by_cases h : Finding.Narrower (.named s) (.named t)
  · rw [sup_eq_right.mpr (le_of_lt h)]
    rcases Finding.narrower_named.mp h with ⟨_, hu⟩ | ⟨hi, hl | hf⟩
    · exact absurd (Finding.named.inj hu) ht
    · cases hi; cases hl; rfl
    · cases hi; cases hf; rfl
  by_cases k : Finding.Narrower (.named t) (.named s)
  · rw [sup_eq_left.mpr (le_of_lt k)]
    rcases Finding.narrower_named.mp k with ⟨_, hu⟩ | ⟨hi, hl | hf⟩
    · exact absurd (Finding.named.inj hu) hs
    · cases hi; cases hl; rfl
    · cases hi; cases hf; rfl
  · have hle : ¬ Finding.named s ≤ .named t := fun hle => (Finding.le_iff.mp hle).elim hne h
    have kle : ¬ Finding.named t ≤ .named s := fun hle => (Finding.le_iff.mp hle).elim hne.symm k
    rw [widen?_eq_none h k, Finding.sup_def, if_neg hle, if_neg kle]
    rfl

/-- Unification takes findings to their least upper bound. -/
theorem unify_value (a b : Finding) : unify a.value b.value = .ok (a ⊔ b).value := by
  cases a with
  | nothing => rw [Finding.nothing_eq_bot, bot_sup_eq]; cases b <;> rfl
  | named s =>
      cases b with
      | nothing => rw [Finding.nothing_eq_bot, sup_bot_eq]; rfl
      | named t =>
          refine (unify_text s t).trans (congrArg Except.ok ?_)
          by_cases hst : s = t
          · rw [if_pos hst, hst, sup_idem]; rfl
          rw [if_neg hst]
          by_cases hs : s = StorageType.stringName
          · rw [if_pos (.inl hs), hs, Finding.named_stringName, top_sup_eq]; rfl
          by_cases ht : t = StorageType.stringName
          · rw [if_pos (.inr ht), ht, Finding.named_stringName, sup_top_eq]; rfl
          rw [if_neg (not_or.mpr ⟨hs, ht⟩), getD_widen? hs ht hst]

theorem unify_observed (a b : Observation) :
    unify a.value b.value = .ok (a.finding ⊔ b.finding).value := by
  rw [← unify_plain, a.plain_value, b.plain_value, unify_value]

/-- Unification is the join of the order: its result is above both tags and below all else that is,
so the order of tags, their grouping and their repetition do not matter, null says nothing, the
string type absorbs all, and a storage type counts as its name. -/
theorem unify_least_upper_bound (a b c : Observation) :
    (∃ j : Finding, unify a.value b.value = .ok j.value ∧ IsLUB {a.finding, b.finding} j) ∧
    unify a.value b.value = unify b.value a.value ∧
    (do unify (← unify a.value b.value) c.value) = (do unify a.value (← unify b.value c.value)) ∧
    unify a.value a.value = .ok a.finding.value ∧
    unify .null a.value = .ok a.finding.value ∧ unify a.value .null = .ok a.finding.value ∧
    unify string a.value = .ok string ∧ unify a.value string = .ok string ∧
    ∀ s : StorageType, unify (.tag s) b.value = unify (.text s.name) b.value ∧
      unify a.value (.tag s) = unify a.value (.text s.name) := by
  refine ⟨⟨_, unify_observed a b, isLUB_pair⟩, ?_, ?_, ?_, ?_, ?_, ?_, ?_, ?_⟩
  · rw [unify_observed, unify_observed, sup_comm]
  · rw [unify_observed, unify_observed]
    exact (unify_observed (.plain _) c).trans
      ((congrArg _ (congrArg _ (sup_assoc ..))).trans (unify_observed a (.plain _)).symm)
  · rw [unify_observed, sup_idem]
  · exact (unify_observed (.plain ⊥) a).trans (by rw [Observation.finding, bot_sup_eq])
  · exact (unify_observed a (.plain ⊥)).trans (by rw [Observation.finding, sup_bot_eq])
  · exact (unify_observed (.plain ⊤) a).trans (by rw [Observation.finding, top_sup_eq]; rfl)
  · exact (unify_observed a (.plain ⊤)).trans (by rw [Observation.finding, sup_top_eq]; rfl)
  · intro s
    exact ⟨rfl, rfl⟩

end PropertyTyping.Tag

import Mathlib.Data.Finset.Lattice.Fold
import PropertyTyping.Proofs.TagOrder
import PropertyTyping.Proofs.Writing
import PropertyTyping.Resolution

/-! The type chosen for a property depends only on the set of names seen for it. However many tags
there are, the choice is the type of the least upper bound of those names. -/

namespace PropertyTyping

theorem StorageType.ofName?_name (s : StorageType) : ofName? s.name = some s := by
  rcases s with ⟨p, _ | _⟩ <;> cases p <;> decide

theorem StorageType.name_ne_nil (s : StorageType) : s.name ≠ [] := by
  rcases s with ⟨p, _ | _⟩ <;> cases p <;> decide

theorem GraphType.render_required {t : GraphType} (h : t.isRequired = false) (mandatory : Bool) :
    (t.required mandatory).render = t.render ++ if mandatory then ("!" : Text) else [] := by
  cases mandatory with
  | false => simp only [required, render, h, Bool.false_eq_true, if_false, List.append_nil]; rfl
  | true => simp only [required, render, h, Bool.false_eq_true, if_false, if_true]; rfl

namespace Tag

theorem graphType_plain (v : Value) : graphType (plain v) = graphType v := by
  cases v with
  | tag s => simp only [plain, graphType, storageType?, StorageType.ofName?_name]
  | _ => rfl

theorem graphType_isRequired (v : Value) : (graphType v).isRequired = false := by
  unfold graphType
  split <;> rfl

/-- A finding written out. -/
def Finding.describe : Finding → Text
  | nothing => "None"
  | named t => t.quoted

theorem Finding.describe_value (f : Finding) : f.value.describe = .ok f.describe := by
  cases f <;> rfl

namespace Observation

/-- An observation written out. -/
def describe : Observation → Text
  | plain f => f.describe
  | member s => Value.describeTag s

theorem describe_value (o : Observation) : o.value.describe = .ok o.describe := by
  cases o with
  | plain f => exact f.describe_value
  | member s => rfl

/-- The name that an observation reports. Null and the empty text report none. -/
def name? (o : Observation) : Option Text :=
  match o.finding with
  | .nothing => none
  | .named t => if t = [] then none else some t

theorem finding_of_name {o : Observation} {t : Text} (h : o.name? = some t) :
    o.finding = .named t := by
  unfold name? at h
  split at h
  · cases h
  · rename_i u hu
    split at h
    · cases h
    · rw [hu, Option.some.inj h]

theorem isPresent_value (o : Observation) : isPresent o.value = o.name?.isSome := by
  cases o with
  | plain f =>
      cases f with
      | nothing => rfl
      | named t => cases t <;> rfl
  | member s =>
      simp only [value, isPresent, name?, finding, s.name_ne_nil, if_false, Option.isSome_some]

/-- What reports no name has the same type as nothing. -/
theorem graphType_of_no_name {o : Observation} (h : o.name? = none) :
    graphType o.value = .fallback := by
  cases o with
  | plain f =>
      cases f with
      | nothing => rfl
      | named t =>
          cases t with
          | nil => decide
          | cons c t => cases h
  | member s => simp only [name?, finding, s.name_ne_nil, if_false] at h; cases h

end Observation

/-- The observations that report a name. -/
def present (os : List Observation) : List Observation := os.filter (·.name?.isSome)

theorem filter_isPresent_observed (os : List Observation) :
    (os.map Observation.value).filter isPresent = (present os).map Observation.value := by
  rw [List.filter_map, present]
  refine congrArg (List.map _) (congrArg (List.filter · os) ?_)
  funext o
  exact o.isPresent_value

/-- The names that observations report, as a set. -/
def seen (os : List Observation) : Finset Text := (os.filterMap Observation.name?).toFinset

/-- What a set of names amounts to. -/
def broadestOf (names : Finset Text) : Finding := names.sup Finding.named

theorem seen_cons_none {o : Observation} (h : o.name? = none) (os : List Observation) :
    seen (o :: os) = seen os := by
  simp only [seen, List.filterMap_cons_none h]

theorem seen_cons_some {o : Observation} {t : Text} (h : o.name? = some t)
    (os : List Observation) : seen (o :: os) = insert t (seen os) := by
  simp only [seen, List.filterMap_cons_some h, List.toFinset_cons]

/-- One step of unification from the left, and the join of the finding reached with the next. -/
theorem foldlM_unify (os : List Observation) (f : Finding) :
    (os.map Observation.value).foldlM unify f.value =
      .ok (os.foldl (fun g o => g ⊔ o.finding) f).value := by
  induction os generalizing f with
  | nil => rfl
  | cons o os ih =>
      rw [List.map_cons, List.foldlM_cons, List.foldl_cons, ← ih]
      rw [show unify f.value o.value = _ from unify_observed (.plain f) o]
      rfl

/-- The fold over the tags that report a name is the join of the names they report: the finding
reached so far is the join of the start with all names met. -/
theorem foldl_present (os : List Observation) (f : Finding) :
    (present os).foldl (fun g o => g ⊔ o.finding) f = f ⊔ broadestOf (seen os) := by
  induction os generalizing f with
  | nil => exact (sup_bot_eq f).symm
  | cons o os ih =>
      cases h : o.name? with
      | none =>
          rw [seen_cons_none h, ← ih]
          simp only [present, List.filter_cons, h, Option.isSome_none, Bool.false_eq_true, if_false]
      | some t =>
          rw [seen_cons_some h, broadestOf, Finset.sup_insert, ← sup_assoc]
          simp only [present, List.filter_cons, h, Option.isSome_some, if_true, List.foldl_cons,
            o.finding_of_name h]
          exact ih _

theorem unifyAll_present (os : List Observation) :
    unifyAll ((present os).map Observation.value) = .ok (broadestOf (seen os)).value := by
  refine (foldlM_unify (present os) ⊥).trans ?_
  rw [foldl_present, bot_sup_eq]

theorem mem_seen {os : List Observation} {t : Text} :
    t ∈ seen os ↔ ∃ o ∈ os, o.name? = some t := by
  rw [seen, List.mem_toFinset, List.mem_filterMap]

/-- The sets of two names that widen to one of the two. -/
def longs : Finset Text := {(Primitive.long.name : Text), (Primitive.integer.name : Text)}

def fractions : Finset Text := {(Primitive.integer.name : Text), (Primitive.float.name : Text)}

theorem eq_pair {names : Finset Text} {s t : Text} (h : ∀ u ∈ names, u = s ∨ u = t)
    (h0 : names ≠ ∅) (h1 : ∀ u, names ≠ {u}) : names = {s, t} := by
  have hs := h1 s
  have ht := h1 t
  grind

/-- Any other set of several names has only the string type above it: a bound that is not the
string type leaves room for itself and, below a long or a float, for an integer. -/
theorem broadestOf_eq_top {names : Finset Text} (h0 : names ≠ ∅) (h1 : ∀ t, names ≠ {t})
    (h2 : names ≠ longs) (h3 : names ≠ fractions) : broadestOf names = ⊤ := by
  by_contra htop
  obtain ⟨s, hs⟩ := Finset.nonempty_iff_ne_empty.mpr h0
  have hle : ∀ t ∈ names, Finding.named t ≤ broadestOf names := fun t ht => Finset.le_sup ht
  cases hb : broadestOf names with
  | nothing =>
      have h := hle s hs
      rw [hb] at h
      exact absurd (le_bot_iff.mp h) nofun
  | named u =>
      have hu : Finding.named u ≠ .broadest := by
        rintro h
        exact htop (hb.trans h)
      have hmem : ∀ t ∈ names, t = u ∨ t = (Primitive.integer.name : Text) ∧
          (u = (Primitive.long.name : Text) ∨ u = (Primitive.float.name : Text)) := by
        intro t ht
        have h := hle t ht
        rw [hb] at h
        rcases Finding.le_iff.mp h with h | h
        · exact .inl (Finding.named.inj h)
        · rcases Finding.narrower_named.mp h with ⟨_, h⟩ | ⟨hi, hl | hf⟩
          · exact absurd h hu
          · exact .inr ⟨Finding.named.inj hi, .inl (Finding.named.inj hl)⟩
          · exact .inr ⟨Finding.named.inj hi, .inr (Finding.named.inj hf)⟩
      by_cases hl : u = (Primitive.long.name : Text)
      · refine h2 (eq_pair (fun t ht => ?_) h0 h1)
        rcases hmem t ht with rfl | ⟨hi, _⟩
        · exact .inl hl
        · exact .inr hi
      by_cases hf : u = (Primitive.float.name : Text)
      · refine h3 (eq_pair (fun t ht => ?_) h0 h1)
        rcases hmem t ht with rfl | ⟨hi, _⟩
        · exact .inr hf
        · exact .inl hi
      have hsub : names ⊆ {u} := by
        intro t ht
        rcases hmem t ht with rfl | ⟨_, h | h⟩
        · exact Finset.mem_singleton_self t
        · exact absurd h hl
        · exact absurd h hf
      exact (Finset.subset_singleton_iff.mp hsub).elim h0 (h1 u)

theorem equals_string (f : Finding) : f.value.equals string = decide (f = ⊤) := by
  cases f with
  | nothing => rfl
  | named t =>
      refine (equals_text t _).trans (decide_eq_decide.mpr ?_)
      exact ⟨fun h => congrArg Finding.named h, fun h => Finding.named.inj h⟩

theorem checkHashable_observed (os : List Observation) :
    Value.checkHashable (os.map Observation.value) = .ok () := by
  have h : (os.map Observation.value).find? (!·.isHashable) = none := by
    rw [List.find?_eq_none]
    intro v hv
    obtain ⟨o, _, rfl⟩ := List.mem_map.mp hv
    cases o with
    | plain f => cases f <;> exact Bool.false_ne_true
    | member s => exact Bool.false_ne_true
  rw [Value.checkHashable, h]

/-- The string type is found among the tags exactly when it is one of their names. -/
theorem holds_string (os : List Observation) :
    Value.holds (((present os).map Observation.value).map plain) string =
      decide (StorageType.stringName ∈ seen os) := by
  have hn : StorageType.stringName ≠ [] := by decide
  have ho : ∀ o : Observation, (plain o.value).equals string = true ↔
      o.name? = some StorageType.stringName := by
    intro o
    rw [o.plain_value, equals_string, decide_eq_true_iff]
    constructor
    · intro h
      rw [← Finding.named_stringName] at h
      simp only [Observation.name?, h, hn, if_false]
    · exact Observation.finding_of_name
  rw [Bool.eq_iff_iff, decide_eq_true_iff, mem_seen, Value.holds, List.any_eq_true]
  simp only [List.mem_map, present, List.mem_filter]
  constructor
  · rintro ⟨_, ⟨_, ⟨o, ⟨hm, _⟩, rfl⟩, rfl⟩, he⟩
    exact ⟨o, hm, (ho o).mp he⟩
  · rintro ⟨o, hm, he⟩
    exact ⟨_, ⟨_, ⟨o, ⟨hm, by rw [he]; rfl⟩, rfl⟩, rfl⟩, (ho o).mpr he⟩

end Tag

namespace Resolution

open Tag

/-- Names that have no broader type but the string type, although none of them is that. -/
def Degrades (names : Finset Text) : Prop :=
  broadestOf names = ⊤ ∧ StorageType.stringName ∉ names

instance (names : Finset Text) : Decidable (Degrades names) :=
  inferInstanceAs (Decidable (_ ∧ _))

theorem degrades_iff {names : Finset Text} : Degrades names ↔
    (names ≠ ∅ ∧ (∀ t, names ≠ {t}) ∧ names ≠ longs ∧ names ≠ fractions) ∧
      StorageType.stringName ∉ names := by
  constructor
  · rintro ⟨htop, hstring⟩
    refine ⟨⟨?_, ?_, ?_, ?_⟩, hstring⟩
    · rintro rfl
      exact absurd htop (by decide)
    · rintro t rfl
      have hsingle : broadestOf {t} = .named t := Finset.sup_singleton
      have ht : t = StorageType.stringName := Finding.named.inj (hsingle.symm.trans htop)
      exact hstring (Finset.mem_singleton.mpr ht.symm)
    · rintro rfl
      exact absurd htop (by decide)
    · rintro rfl
      exact absurd htop (by decide)
  · rintro ⟨⟨h0, h1, h2, h3⟩, hstring⟩
    exact ⟨broadestOf_eq_top h0 h1 h2 h3, hstring⟩

/-- Only several tags can be at odds. -/
theorem Degrades.two_le {os : List Observation} (h : Degrades (seen os)) : 2 ≤ os.length := by
  obtain ⟨⟨h0, h1, _⟩, _⟩ := degrades_iff.mp h
  match os with
  | [] => exact absurd rfl h0
  | [o] =>
      cases ho : o.name? with
      | none => exact absurd (seen_cons_none ho []) h0
      | some t => exact absurd (seen_cons_some ho []) (h1 t)
  | _ :: _ :: os => exact Nat.le_add_left 2 os.length

/-- The observations that report a name, written out. -/
def listing (os : List Observation) : Text :=
  ("[" : Text) ++ Text.join ", " ((present os).map Observation.describe) ++ "]"

/-- What is logged about several observations. -/
def eventOf (os : List Observation) : Log.Event :=
  if Degrades (seen os) then degraded (listing os)
  else unified (listing os) (broadestOf (seen os)).describe

theorem level_eventOf (os : List Observation) :
    (eventOf os).level = if Degrades (seen os) then Log.Level.warning else Log.Level.debug := by
  unfold eventOf
  split <;> rfl

theorem logger_eventOf (os : List Observation) : (eventOf os).logger = logger := by
  unfold eventOf
  split <;> rfl

theorem isLoss_observed (os : List Observation) :
    isLoss ((present os).map Observation.value) (broadestOf (seen os)).value =
      .ok (decide (Degrades (seen os))) := by
  rw [isLoss, equals_string, holds_string, checkHashable_observed]
  by_cases ht : broadestOf (seen os) = ⊤
  · rw [if_pos (decide_eq_true ht)]
    by_cases hs : StorageType.stringName ∈ seen os
    · have hd : ¬ Degrades (seen os) := fun h => h.2 hs
      rw [decide_eq_true hs, decide_eq_false hd]
      rfl
    · have hd : Degrades (seen os) := ⟨ht, hs⟩
      rw [decide_eq_false hs, decide_eq_true hd]
      rfl
  · have hd : ¬ Degrades (seen os) := fun h => ht h.1
    rw [if_neg fun h => ht (of_decide_eq_true h), decide_eq_false hd]
    rfl

theorem report_observed (os : List Observation) :
    report ((present os).map Observation.value) (broadestOf (seen os)).value =
      .ok (eventOf os) := by
  have hlisting : (Value.list ((present os).map Observation.value)).describe = .ok (listing os) :=
    Value.describe_list_map Observation.describe_value (present os)
  rw [report, isLoss_observed, hlisting, Finding.describe_value, eventOf]
  by_cases h : Degrades (seen os)
  · rw [decide_eq_true h, if_pos h]
    rfl
  · rw [decide_eq_false h, if_neg h]
    rfl

/-- A single observation is mapped as it stands, which is what the join of its names gives too. -/
theorem graphType_single (o : Observation) :
    graphType o.value = graphType (broadestOf (seen [o])).value := by
  cases h : o.name? with
  | none => rw [o.graphType_of_no_name h, seen_cons_none h]; rfl
  | some t =>
      rw [← graphType_plain, o.plain_value, o.finding_of_name h, seen_cons_some h, broadestOf]
      exact congrArg (fun f => graphType (Finding.value f)) (sup_bot_eq _).symm

/-- Whatever the number of observations, the type is that of the join of their names. -/
theorem ofTags_observed (os : List Observation) (mandatory : Bool) :
    ofTags (os.map Observation.value) mandatory =
      .ok ⟨(graphType (broadestOf (seen os)).value).required mandatory,
        if os.length < 2 then none else some (eventOf os)⟩ := by
  match os with
  | [] => rfl
  | [o] => rw [← graphType_single]; rfl
  | o :: p :: os =>
      have hl : ¬ (o :: p :: os).length < 2 := by simp only [List.length_cons]; omega
      rw [List.map_cons, List.map_cons, ofTags]
      · rw [← List.map_cons, ← List.map_cons, filter_isPresent_observed, unifyAll_present,
          if_neg hl]
        change (report _ _ >>= fun e => _) = _
        rw [report_observed]
        rfl
      · nofun
      · intro _ h; cases h

/-- The written type of a property by the set of names seen for it. -/
inductive Settles : Finset Text → Text → Prop
  | nothing : Settles ∅ "String"
  | single (t : Text) : Settles {t} (graphType (.text t)).render
  | longs : Settles longs "Int"
  | fractions : Settles fractions "Float"
  | other {names} : names ≠ ∅ → (∀ t, names ≠ {t}) → names ≠ longs → names ≠ fractions →
      Settles names "String"

theorem Settles.eq_render {names : Finset Text} {base : Text} (h : Settles names base) :
    base = (graphType (broadestOf names).value).render := by
  cases h with
  | nothing => decide
  | single t => rw [broadestOf, Finset.sup_singleton]; rfl
  | longs => decide
  | fractions => decide
  | other h0 h1 h2 h3 => rw [broadestOf_eq_top h0 h1 h2 h3]; decide

theorem settles_total (names : Finset Text) : ∃ base, Settles names base := by
  by_cases h0 : names = ∅
  · subst h0
    exact ⟨_, .nothing⟩
  by_cases h1 : ∃ t, names = {t}
  · obtain ⟨t, rfl⟩ := h1
    exact ⟨_, .single t⟩
  by_cases h2 : names = Tag.longs
  · subst h2
    exact ⟨_, .longs⟩
  by_cases h3 : names = Tag.fractions
  · subst h3
    exact ⟨_, .fractions⟩
  · exact ⟨_, .other h0 (fun t ht => h1 ⟨t, ht⟩) h2 h3⟩

/-- The written type of a property with the given tags. -/
def typeName (observed : Value) (mandatory : Bool) : Except Misuse Text :=
  (ofObserved observed mandatory).map (·.type.render)

/-- The mark of a value that is always there, where it is due. -/
def mark (mandatory : Bool) : Text := if mandatory then "!" else []

theorem typeName_observed (os : List Observation) (mandatory : Bool) :
    typeName (.list (os.map Observation.value)) mandatory =
      .ok ((graphType (broadestOf (seen os)).value).render ++ mark mandatory) := by
  have h : ofObserved (.list (os.map Observation.value)) mandatory =
      ofTags (os.map Observation.value) mandatory := rfl
  rw [typeName, h, ofTags_observed, mark, ← GraphType.render_required (graphType_isRequired _)]
  rfl

/-- The type depends only on the set of names seen, and each set settles one type. No tags at all
are no different from tags that say nothing. -/
theorem typeName_settled (os : List Observation) (mandatory : Bool) :
    (∃! base, Settles (seen os) base) ∧
    (∀ base, Settles (seen os) base →
      typeName (.list (os.map Observation.value)) mandatory = .ok (base ++ mark mandatory)) ∧
    (∀ ps : List Observation, seen ps = seen os →
      typeName (.list (ps.map Observation.value)) mandatory =
        typeName (.list (os.map Observation.value)) mandatory) ∧
    ∀ base, Settles ∅ base → typeName .null mandatory = .ok (base ++ mark mandatory) := by
  refine ⟨?_, ?_, ?_, ?_⟩
  · obtain ⟨base, h⟩ := settles_total (seen os)
    exact ⟨base, h, fun b hb => hb.eq_render.trans h.eq_render.symm⟩
  · intro base h
    rw [typeName_observed, h.eq_render]
  · intro ps h
    rw [typeName_observed, typeName_observed, h]
  · intro base h
    rw [h.eq_render]
    exact typeName_observed [] mandatory

end Resolution

end PropertyTyping

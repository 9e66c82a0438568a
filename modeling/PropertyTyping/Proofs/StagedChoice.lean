import PropertyTyping.Proofs.LossWarning

/-! A type chosen in stages. Tags are unified in groups, and the type is chosen from what the groups
came to. What tags amount to is the join of what their groups amount to, so the grouping does not
show, nor does the order in which the groups are taken. -/

namespace PropertyTyping

namespace Tag

theorem broadestOf_union (names others : Finset Text) :
    broadestOf (names ∪ others) = broadestOf names ⊔ broadestOf others :=
  Finset.sup_union

/-- What a set of names can amount to: nothing, one of them, or the string type. -/
inductive Amounts (names : Finset Text) : Finding → Prop
  | nothing : Amounts names ⊥
  | named {t : Text} : t ∈ names → Amounts names (.named t)
  | string : Amounts names ⊤

theorem Amounts.sup {names : Finset Text} {a b : Finding} (ha : Amounts names a)
    (hb : Amounts names b) : Amounts names (a ⊔ b) := by
  rcases Finding.sup_cases a b with h | h | h
  · rw [h]
    exact ha
  · rw [h]
    exact hb
  · rw [h]
    exact .string

theorem amounts_broadestOf (names : Finset Text) : Amounts names (broadestOf names) :=
  Finset.sup_induction .nothing (fun _ ha _ hb => ha.sup hb) fun _ ht => .named ht

theorem seen_append (os ps : List Observation) : seen (os ++ ps) = seen os ∪ seen ps := by
  rw [seen, List.filterMap_append, List.toFinset_append, seen, seen]

theorem seen_perm {os ps : List Observation} (h : os.Perm ps) : seen os = seen ps :=
  List.toFinset_eq_of_perm _ _ (h.filterMap _)

theorem nil_notMem_seen (os : List Observation) : [] ∉ seen os := by
  rw [mem_seen]
  rintro ⟨o, _, ho⟩
  have hf := o.finding_of_name ho
  simp only [Observation.name?, hf] at ho
  cases ho

/-- The tag that a group of tags comes to. -/
def winner (os : List Observation) : Observation := .plain (broadestOf (seen os))

theorem unifyAll_group (os : List Observation) :
    unifyAll ((os.map Observation.value).filter isPresent) = .ok (winner os).value := by
  rw [filter_isPresent_observed, unifyAll_present]
  rfl

theorem winner_cases (os : List Observation) : (winner os).value = .null ∨
    (∃ tag ∈ (os.map Observation.value).filter isPresent, plain tag = (winner os).value) ∨
    (winner os).value = string := by
  have h := amounts_broadestOf (seen os)
  rw [winner, Observation.value]
  generalize broadestOf (seen os) = f at h
  cases h with
  | nothing => exact .inl rfl
  | named ht =>
      obtain ⟨o, ho, hname⟩ := mem_seen.mp ht
      refine .inr (.inl ⟨o.value, ?_, ?_⟩)
      · rw [List.mem_filter, o.isPresent_value, hname]
        exact ⟨List.mem_map_of_mem ho, rfl⟩
      · rw [o.plain_value, o.finding_of_name hname]
  | string => exact .inr (.inr rfl)

theorem broadestOf_single {f : Finding} (h : f ≠ .named []) :
    broadestOf (seen [.plain f]) = f := by
  cases f with
  | nothing => rfl
  | named t =>
      have ht : t ≠ [] := fun he => h (congrArg Finding.named he)
      have hname : (Observation.plain (.named t)).name? = some t := if_neg ht
      rw [seen_cons_some hname, broadestOf, Finset.sup_insert]
      exact sup_bot_eq _

/-- What a group comes to says as much as the group. -/
theorem broadestOf_winner (os : List Observation) :
    broadestOf (seen [winner os]) = broadestOf (seen os) := by
  -- The empty text is the only finding that says nothing, and no group comes to it.
  refine broadestOf_single ?_
  have h := amounts_broadestOf (seen os)
  generalize broadestOf (seen os) = f at h
  cases h with
  | nothing => nofun
  | named ht =>
      rintro ⟨⟩
      exact nil_notMem_seen os ht
  | string => decide

/-- What groups amount to together is what all of their tags amount to. -/
theorem broadestOf_winners (groups : List (List Observation)) :
    broadestOf (seen (groups.map winner)) = broadestOf (seen groups.flatten) := by
  induction groups with
  | nil => rfl
  | cons os groups ih =>
      calc broadestOf (seen ((os :: groups).map winner))
          = broadestOf (seen [winner os] ∪ seen (groups.map winner)) := by
            rw [← seen_append, List.map_cons, List.singleton_append]
        _ = broadestOf (seen os) ⊔ broadestOf (seen groups.flatten) := by
            rw [broadestOf_union, broadestOf_winner, ih]
        _ = broadestOf (seen (os :: groups).flatten) := by
            rw [← broadestOf_union, ← seen_append, List.flatten_cons]

/-- Values that are a rearrangement of some tags are tags as well. -/
theorem exists_perm_observed {vs : List Value} {os : List Observation}
    (h : vs.Perm (os.map Observation.value)) :
    ∃ ps : List Observation, vs = ps.map Observation.value ∧ ps.Perm os := by
  have hos : List.Forall₂ (fun v o => v = Observation.value o) (os.map Observation.value) os := by
    rw [List.forall₂_map_left_iff, List.forall₂_same]
    exact fun _ _ => rfl
  obtain ⟨ps, hps, hperm⟩ := List.perm_comp_forall₂ h hos
  refine ⟨ps, ?_, hperm⟩
  rw [← List.forall₂_eq_eq_eq, List.forall₂_map_right_iff]
  exact hps

end Tag

namespace Resolution

open Tag

/-- However tags are grouped, each group comes to null, to one of its own tags or to the string
type, and the type chosen from what the groups come to, in any order, is the type chosen from all of
the tags at once. -/
theorem typeName_staged (groups : List (List Observation)) (mandatory : Bool) :
    ∃ winners : List Value,
      List.Forall₂ (fun os w =>
        unifyAll ((os.map Observation.value).filter isPresent) = .ok w ∧
        (w = .null ∨ (∃ tag ∈ (os.map Observation.value).filter isPresent, plain tag = w) ∨
          w = string)) groups winners ∧
      ∃ name, typeName (.list (groups.flatten.map Observation.value)) mandatory = .ok name ∧
        ∀ ws : List Value, ws.Perm winners → typeName (.list ws) mandatory = .ok name := by
  refine ⟨(groups.map winner).map Observation.value, ?_, _, typeName_observed _ mandatory, ?_⟩
  · rw [List.map_map, List.forall₂_map_right_iff, List.forall₂_same]
    exact fun os _ => ⟨unifyAll_group os, winner_cases os⟩
  · intro ws h
    obtain ⟨ps, rfl, hperm⟩ := exists_perm_observed h
    rw [typeName_observed, seen_perm hperm, broadestOf_winners]

end Resolution

end PropertyTyping

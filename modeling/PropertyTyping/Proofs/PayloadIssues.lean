import PropertyTyping.Proofs.RecordIssues

/-! Which issues a payload has. They are the issues of its records, each at the index of its record,
and a payload is read exactly when there are none. -/

namespace PropertyTyping.Payload

/-- The places in the payload of some items, what is asked there, and the value there. -/
inductive Holds (items : List Value) : List Step → Demand → Value → Prop
  | item {i : Nat} {v : Value} {place : List Step} {d : Demand} {w : Value} :
      items[i]? = some v → PropertyRecord.Holds v place d w →
      Holds items (.key recordsKey :: .index i :: place) d w

theorem Holds.at? {items : List Value} {place : List Step} {d : Demand} {w : Value}
    (h : Holds items place d w) :
    (Value.object [(recordsKey, .list items)]).at? place = some w := by
  cases h with
  | item hi hw =>
      have hf : Value.field? recordsKey [(recordsKey, .list items)] = some (.list items) := rfl
      rw [Value.at?_cons, Step.into?, hf, Option.bind_some, Value.at?_cons, Step.into?, hi,
        Option.bind_some, hw.at?]

/-- The issues of the records that some items describe. -/
def issues (items : List Value) : List Issue :=
  ((Checked.list PropertyRecord.ofValue (.list items)).within (.key recordsKey)).issues

theorem exact_issues (items : List Value) : Exact (issues items) (Holds items) := by
  rw [issues, Checked.issues_within, Checked.list]
  refine ((Checked.exact_items PropertyRecord.exact_ofValue items).within _).congr ?_
  intro place d w _
  constructor
  · intro h
    cases h with
    | item hi hw => exact ⟨_, rfl, _, _, _, hi, rfl, hw⟩
  · rintro ⟨_, rfl, i, v, rest, hi, rfl, hw⟩
    exact .item hi hw

theorem records_list_eq (items : List Value) :
    records (.list items) = ((Checked.list PropertyRecord.ofValue (.list items)).within
      (.key recordsKey)).mapError .invalid :=
  rfl

/-- The records of a list are read, or else all of its issues are reported, which are some. -/
theorem records_list_cases (items : List Value) :
    (∃ rs, records (.list items) = .ok rs) ∧ issues items = [] ∨
      records (.list items) = .error (.invalid (issues items)) ∧ issues items ≠ [] := by
  have hg := (Checked.Grounded.list PropertyRecord.grounded_ofValue (.list items)).within
    (.key recordsKey)
  rw [records_list_eq, issues]
  revert hg
  cases (Checked.list PropertyRecord.ofValue (.list items)).within (.key recordsKey) with
  | ok rs => exact fun _ => .inl ⟨⟨rs, rfl⟩, rfl⟩
  | error is =>
      intro hg
      refine .inr ⟨rfl, fun hn => ?_⟩
      obtain ⟨rs, hr⟩ := hg hn
      cases hr

theorem issues_eq_nil_iff (items : List Value) :
    issues items = [] ↔ ∀ place d w, Holds items place d w → d.Meets w := by
  constructor
  · intro h place d w hw
    by_contra hd
    obtain ⟨i, hi, _⟩ := (exact_issues items).complete place d w hw hd
    rw [h] at hi
    cases hi
  · intro h
    rw [List.eq_nil_iff_forall_not_mem]
    intro i hi
    obtain ⟨d, w, hw, hd, _⟩ := (exact_issues items).sound i hi
    exact hd (h _ d w hw)

/-- The issues that are reported for a list of items are exactly the places in it where what is
asked is not met, in order and each once, and each leads to the value that is at fault. -/
theorem records_list_issues (items : List Value) :
    ∃ issues : List Issue,
      (records (.list items) = .error (.invalid issues) ∨
        issues = [] ∧ ∃ rs, records (.list items) = .ok rs) ∧
      ((∃ rs, records (.list items) = .ok rs) ↔
        ∀ place d w, Holds items place d w → d.Meets w) ∧
      (∀ place, (∃ i ∈ issues, i.place = place) ↔
        ∃ d w, Holds items place d w ∧ ¬ d.Meets w) ∧
      (issues.map Issue.place).Pairwise Precedes ∧ (issues.map Issue.place).Nodup ∧
      ∀ i ∈ issues, ∃ d w, Holds items i.place d w ∧ ¬ d.Meets w ∧
        i.complaint ∈ d.complaints ∧
        (Value.object [(recordsKey, .list items)]).at? i.place = some w := by
  have he := exact_issues items
  have hp : ((issues items).map Issue.place).Pairwise Precedes := List.pairwise_map.mpr he.ordered
  refine ⟨issues items, ?_, ?_, ?_, hp, hp.imp ?_, ?_⟩
  · rcases records_list_cases items with ⟨hok, hn⟩ | ⟨herror, _⟩
    · exact .inr ⟨hn, hok⟩
    · exact .inl herror
  · rw [← issues_eq_nil_iff]
    rcases records_list_cases items with ⟨hok, hn⟩ | ⟨herror, hn⟩
    · exact iff_of_true hok hn
    · refine iff_of_false ?_ hn
      rintro ⟨rs, hok⟩
      rw [herror] at hok
      cases hok
  · intro place
    constructor
    · rintro ⟨i, hi, rfl⟩
      obtain ⟨d, w, hw, hd, _⟩ := he.sound i hi
      exact ⟨d, w, hw, hd⟩
    · rintro ⟨d, w, hw, hd⟩
      exact he.complete place d w hw hd
  · rintro p _ h rfl
    exact not_precedes_self p h
  · intro i hi
    obtain ⟨d, w, hw, hd, hc⟩ := he.sound i hi
    exact ⟨d, w, hw, hd, hc, hw.at?⟩

end PropertyTyping.Payload

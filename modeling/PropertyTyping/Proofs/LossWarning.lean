import PropertyTyping.Proofs.TypeChoice

/-! What is logged when a type is chosen. Several tags are reported once, and the report is a
warning exactly when their names have no broader type but the string type, which is the case as soon
as two of them have none. -/

namespace PropertyTyping

namespace Tag

open Finding

theorem Finding.value_eq_string {f : Finding} : f.value = string ↔ f = ⊤ := by
  cases f with
  | nothing => exact ⟨nofun, nofun⟩
  | named t =>
      constructor
      · intro h
        exact congrArg named (Value.text.inj h)
      · intro h
        exact congrArg Value.text (named.inj h)

theorem unify_text_eq_string {s t : Text} :
    unify (.text s) (.text t) = .ok string ↔ named s ⊔ named t = ⊤ := by
  have h : unify (.text s) (.text t) = .ok (named s ⊔ named t).value :=
    unify_value (named s) (named t)
  rw [h, Except.ok.injEq, value_eq_string]

theorem Finding.sup_cases (a b : Finding) : a ⊔ b = a ∨ a ⊔ b = b ∨ a ⊔ b = ⊤ := by
  rw [sup_def]
  split
  · exact .inr (.inl rfl)
  split
  · exact .inl rfl
  · exact .inr (.inr rfl)

/-- Names of which any two have a broader one among them have a broadest among them. -/
theorem broadestOf_mem {names : Finset Text} (h0 : names.Nonempty)
    (h : ∀ s ∈ names, ∀ t ∈ names, named s ⊔ named t ≠ ⊤) :
    ∃ t ∈ names, broadestOf names = named t := by
  have hclosed : ∀ a ∈ named '' (names : Set Text), ∀ b ∈ named '' (names : Set Text),
      a ⊔ b ∈ named '' (names : Set Text) := by
    rintro _ ⟨s, hs, rfl⟩ _ ⟨t, ht, rfl⟩
    rcases sup_cases (named s) (named t) with he | he | he
    · exact ⟨s, hs, he.symm⟩
    · exact ⟨t, ht, he.symm⟩
    · exact absurd he (h s hs t ht)
  obtain ⟨t, ht, he⟩ := Finset.sup'_mem (named '' (names : Set Text)) hclosed names h0 named
    fun t ht => ⟨t, ht, rfl⟩
  rw [Finset.sup'_eq_sup] at he
  exact ⟨t, ht, he.symm⟩

end Tag

namespace Resolution

open Tag

theorem two_le_card_iff {names : Finset Text} :
    2 ≤ names.card ↔ names ≠ ∅ ∧ ∀ t, names ≠ {t} := by
  constructor
  · intro h
    refine ⟨?_, ?_⟩
    · rintro rfl
      rw [Finset.card_empty] at h
      exact absurd h (by decide)
    · rintro t rfl
      rw [Finset.card_singleton] at h
      exact absurd h (by decide)
  · rintro ⟨h0, h1⟩
    have hcard : names.card ≠ 1 := fun h => (Finset.card_eq_one.mp h).elim h1
    have hpos := Finset.card_ne_zero.mpr (Finset.nonempty_iff_ne_empty.mpr h0)
    omega

theorem degrades_iff_card {names : Finset Text} : Degrades names ↔
    2 ≤ names.card ∧ StorageType.stringName ∉ names ∧ names ≠ longs ∧ names ≠ fractions := by
  rw [degrades_iff, two_le_card_iff]
  tauto

/-- Names amount to the string type without being it as soon as two of them do. -/
theorem degrades_iff_pair {names : Finset Text} : Degrades names ↔
    StorageType.stringName ∉ names ∧
      ∃ s ∈ names, ∃ t ∈ names, unify (.text s) (.text t) = .ok string := by
  simp only [unify_text_eq_string]
  constructor
  · rintro ⟨htop, hstring⟩
    refine ⟨hstring, ?_⟩
    by_contra hpair
    have h0 : names.Nonempty := by
      rw [Finset.nonempty_iff_ne_empty]
      exact (degrades_iff.mp ⟨htop, hstring⟩).1.1
    obtain ⟨t, ht, he⟩ := broadestOf_mem h0 fun s hs t ht he => hpair ⟨s, hs, t, ht, he⟩
    rw [htop] at he
    cases he
    exact hstring ht
  · rintro ⟨hstring, s, hs, t, ht, he⟩
    refine ⟨top_le_iff.mp ?_, hstring⟩
    rw [← he]
    exact sup_le (Finset.le_sup hs) (Finset.le_sup ht)

theorem degrades_iff_unified {os : List Observation} : Degrades (seen os) ↔
    StorageType.stringName ∉ seen os ∧
      unifyAll ((os.map Observation.value).filter isPresent) = .ok string := by
  rw [filter_isPresent_observed, unifyAll_present, Except.ok.injEq, Finding.value_eq_string]
  exact and_comm

theorem level_eventOf_eq_warning {os : List Observation} :
    (eventOf os).level = Log.Level.warning ↔ Degrades (seen os) := by
  rw [level_eventOf]
  split
  · rename_i h
    exact iff_of_true rfl h
  · rename_i h
    exact iff_of_false (by decide) h

/-- A choice of type logs nothing if there are fewer than two tags, and one event if there are more.
That is a warning exactly when several names are seen that are not the string type and not a pair
that widens. In other words, the tags unify to the string type although none of them is it, and two
of them do so alone. So its level depends only on the set of names. -/
theorem events_of_observed (os : List Observation) (mandatory : Bool) :
    ∃ r, ofObserved (.list (os.map Observation.value)) mandatory = .ok r ∧
    (os.length < 2 → events [r] = []) ∧
    (2 ≤ os.length → ∃ e, events [r] = [e] ∧ e.logger = logger ∧
      (e.level = Log.Level.warning ∨ e.level = Log.Level.debug) ∧
      (e.level = Log.Level.warning ↔ 2 ≤ (seen os).card ∧ StorageType.stringName ∉ seen os ∧
        seen os ≠ longs ∧ seen os ≠ fractions) ∧
      (e.level = Log.Level.warning ↔ StorageType.stringName ∉ seen os ∧
        unifyAll ((os.map Observation.value).filter isPresent) = .ok string) ∧
      (e.level = Log.Level.warning ↔ StorageType.stringName ∉ seen os ∧
        ∃ s ∈ seen os, ∃ t ∈ seen os, unify (.text s) (.text t) = .ok string)) ∧
    ∀ ps : List Observation, seen ps = seen os → 2 ≤ os.length → 2 ≤ ps.length →
      ∃ s, ofObserved (.list (ps.map Observation.value)) mandatory = .ok s ∧
        (events [s]).map (·.level) = (events [r]).map (·.level) := by
  have several : ∀ {qs : List Observation}, 2 ≤ qs.length →
      (if qs.length < 2 then none else some (eventOf qs)) = some (eventOf qs) :=
    fun h => if_neg (Nat.not_lt.mpr h)
  refine ⟨_, ofTags_observed os mandatory, ?_, ?_, ?_⟩
  · intro h
    rw [if_pos h]
    rfl
  · intro h
    rw [several h]
    refine ⟨eventOf os, rfl, logger_eventOf os, ?_, ?_, ?_, ?_⟩
    · rw [level_eventOf]
      exact ite_eq_or_eq _ _ _
    · rw [level_eventOf_eq_warning, degrades_iff_card]
    · rw [level_eventOf_eq_warning, degrades_iff_unified]
    · rw [level_eventOf_eq_warning, degrades_iff_pair]
  · intro ps hseen hos hps
    refine ⟨_, ofTags_observed ps mandatory, ?_⟩
    rw [several hos, several hps]
    change [(eventOf ps).level] = [(eventOf os).level]
    rw [level_eventOf, level_eventOf, hseen]

end Resolution

end PropertyTyping

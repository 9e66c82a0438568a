import PropertyTyping.Value.Display

/-! What can be written out. Writing fails for one reason only, an integer of more than 4300 digits,
and a value cannot be written exactly when there is such an integer in it, however deep. -/

namespace PropertyTyping

theorem bind_eq_ok {ε α β : Type} {x : Except ε α} {next : α → Except ε β} {b : β} :
    x >>= next = .ok b ↔ ∃ a, x = .ok a ∧ next a = .ok b := by
  cases x with
  | error e => exact ⟨nofun, nofun⟩
  | ok a =>
      constructor
      · intro h
        exact ⟨a, rfl, h⟩
      · rintro ⟨_, ha, h⟩
        cases ha
        exact h

/-- Writing that fails exactly on a condition. -/
inductive Writing {α : Type} (stops : Prop) : Except Misuse α → Prop
  | written (a : α) : ¬ stops → Writing stops (.ok a)
  | stopped : stops → Writing stops (.error .longInteger)

namespace Writing

variable {α β : Type} {p q : Prop} {x : Except Misuse α}

theorem congr (h : Writing p x) (hpq : p ↔ q) : Writing q x := by
  cases h with
  | written a hp => exact .written a (mt hpq.mpr hp)
  | stopped hp => exact .stopped (hpq.mp hp)

/-- One piece of writing after another stops on either condition. -/
theorem bind (h : Writing p x) {next : α → Except Misuse β} (hn : ∀ a, Writing q (next a)) :
    Writing (p ∨ q) (x >>= next) := by
  cases h with
  | written a hp => exact (hn a).congr (or_iff_right hp).symm
  | stopped hp => exact .stopped (.inl hp)

theorem map (h : Writing p x) (f : α → β) : Writing p (x >>= fun a => pure (f a)) := by
  cases h with
  | written a hp => exact .written (f a) hp
  | stopped hp => exact .stopped hp

theorem eq_error_iff (h : Writing p x) {m : Misuse} : x = .error m ↔ m = .longInteger ∧ p := by
  cases h with
  | written a hp => exact iff_of_false nofun fun hm => hp hm.2
  | stopped hp =>
      constructor
      · rintro ⟨⟩
        exact ⟨rfl, hp⟩
      · rintro ⟨rfl, _⟩
        rfl

theorem eq_error (h : Writing p x) (hp : p) : x = .error .longInteger :=
  h.eq_error_iff.mpr ⟨rfl, hp⟩

end Writing

namespace Value

/-- The least number of more than 4300 digits. -/
def leastLong : Nat := Nat.pow 10 4300

theorem lt_leastLong {n : Nat} (h : n ≤ 4300) : n < leastLong := by
  unfold leastLong
  generalize 4300 = limit at h ⊢
  exact Nat.lt_of_le_of_lt h (Nat.lt_pow_self (by decide))

/-- An integer of more than 4300 digits, or a list or an object with one in it. -/
inductive HoldsLongInteger : Value → Prop
  | int {n : Int} : leastLong ≤ n.natAbs → HoldsLongInteger (int n)
  | item {v : Value} {items : List Value} : v ∈ items → HoldsLongInteger v →
      HoldsLongInteger (list items)
  | field {f : Text × Value} {fields : List (Text × Value)} : f ∈ fields →
      HoldsLongInteger f.2 → HoldsLongInteger (object fields)

theorem holdsLongInteger_int {n : Int} : HoldsLongInteger (int n) ↔ leastLong ≤ n.natAbs := by
  constructor
  · rintro ⟨h⟩
    exact h
  · exact .int

theorem holdsLongInteger_list {items : List Value} :
    HoldsLongInteger (list items) ↔ ∃ v ∈ items, HoldsLongInteger v := by
  constructor
  · intro h
    cases h with
    | item hv h => exact ⟨_, hv, h⟩
  · rintro ⟨v, hv, h⟩
    exact .item hv h

theorem holdsLongInteger_object {fields : List (Text × Value)} :
    HoldsLongInteger (object fields) ↔ ∃ f ∈ fields, HoldsLongInteger f.2 := by
  constructor
  · intro h
    cases h with
    | field hf h => exact ⟨_, hf, h⟩
  · rintro ⟨f, hf, h⟩
    exact .field hf h

theorem fits_iff {n : Int} : Digits.fits n ↔ n.natAbs < leastLong := by
  unfold leastLong
  generalize hlimit : 4300 = limit
  have hlimit : Digits.limit = limit := hlimit
  rw [Digits.fits, hlimit, decide_eq_true_iff]

theorem describeInt_of_short {n : Int} (h : n.natAbs < leastLong) :
    describeInt n = .ok (Text.ofInt n) :=
  if_pos (fits_iff.mpr h)

theorem writing_describeInt (n : Int) : Writing (leastLong ≤ n.natAbs) (describeInt n) := by
  unfold describeInt
  split
  · rename_i h
    exact .written _ (Nat.not_le.mpr (fits_iff.mp h))
  · rename_i h
    exact .stopped (Nat.not_lt.mp (mt fits_iff.mpr h))

mutual

theorem writing_describe : (v : Value) → Writing (HoldsLongInteger v) v.describe
  | null => .written _ nofun
  | bool _ => .written _ nofun
  | int n => (writing_describeInt n).congr holdsLongInteger_int.symm
  | float _ => .written _ nofun
  | text _ => .written _ nofun
  | tag _ => .written _ nofun
  | moment _ => .written _ nofun
  | list items => by
      rw [describe]
      exact ((writing_describeItems items).map _).congr holdsLongInteger_list.symm
  | object fields => by
      rw [describe]
      exact ((writing_describeFields fields).map _).congr holdsLongInteger_object.symm

theorem writing_describeItems :
    (vs : List Value) → Writing (∃ v ∈ vs, HoldsLongInteger v) (describeItems vs)
  | [] => .written [] fun ⟨_, h, _⟩ => List.not_mem_nil h
  | v :: vs => by
      rw [describeItems]
      refine ((writing_describe v).bind fun t => (writing_describeItems vs).map _).congr ?_
      simp only [List.mem_cons, exists_eq_or_imp]

theorem writing_describeFields : (fields : List (Text × Value)) →
    Writing (∃ f ∈ fields, HoldsLongInteger f.2) (describeFields fields)
  | [] => .written [] fun ⟨_, h, _⟩ => List.not_mem_nil h
  | (k, v) :: fields => by
      rw [describeFields]
      refine ((writing_describe v).bind fun t => (writing_describeFields fields).map _).congr ?_
      simp only [List.mem_cons, exists_eq_or_imp]

end

/-- A value that cannot be written out holds an integer of too many digits. -/
theorem describe_eq_error_iff {v : Value} {m : Misuse} :
    v.describe = .error m ↔ m = .longInteger ∧ HoldsLongInteger v :=
  (writing_describe v).eq_error_iff

/-- The list of values that can all be written out. -/
theorem describe_list_map {α : Type} {value : α → Value} {text : α → Text}
    (h : ∀ a, (value a).describe = .ok (text a)) (as : List α) :
    (list (as.map value)).describe =
      .ok (("[" : Text) ++ Text.join ", " (as.map text) ++ "]") := by
  have hitems : describeItems (as.map value) = .ok (as.map text) := by
    induction as with
    | nil => rfl
    | cons a as ih =>
        rw [List.map_cons, describeItems, h, ih]
        rfl
  rw [describe, hitems]
  rfl

end Value

end PropertyTyping

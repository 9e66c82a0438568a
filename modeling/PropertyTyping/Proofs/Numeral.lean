import PropertyTyping.Number.Digits
import PropertyTyping.Text.Quoted

/-! Numerals: the digits that are written for a number, and the number that is read from them. -/

namespace PropertyTyping.Digits

theorem hex?_digitChar {d : Nat} (h : d < 16) : hex? d.digitChar = some d := by
  have all : ∀ d : Fin 16, hex? (d : Nat).digitChar = some (d : Nat) := by decide
  exact all ⟨d, h⟩

theorem isDecimal_of_isDigit {c : Char} (h : c.isDigit) : isDecimal c := by
  rw [Char.isDigit, Bool.and_eq_true, decide_eq_true_iff, decide_eq_true_iff] at h
  rw [isDecimal, Bool.and_eq_true, decide_eq_true_iff, decide_eq_true_iff]
  exact h

theorem isDecimal_of_mem {n : Nat} {c : Char} (h : c ∈ Nat.toDigits 10 n) : isDecimal c :=
  isDecimal_of_isDigit (Nat.isDigit_of_mem_toDigits (by decide) (by decide) h)

theorem number_append (base : Nat) (ds : List Char) (d : Char) :
    number base (ds ++ [d]) = base * number base ds + (hex? d).getD 0 := by
  rw [number, List.foldl_append]
  rfl

/-- The digits of a number spell it in any base up to sixteen. The last digit is the remainder and
the digits before it are those of the quotient. -/
theorem number_toDigits {base : Nat} (h1 : 1 < base) (h16 : base ≤ 16) (n : Nat) :
    number base (Nat.toDigits base n) = n := by
  induction n using Nat.strongRecOn with
  | _ n ih =>
      rw [Nat.toDigits_eq_if h1]
      split
      · rename_i hlt
        rw [number, List.foldl_cons, List.foldl_nil, hex?_digitChar (by omega), Option.getD_some]
        omega
      · rename_i hge
        have hd : n % base < base := Nat.mod_lt n (by omega)
        have hq : n / base < n := Nat.div_lt_self (by omega) h1
        rw [number_append, ih _ hq, hex?_digitChar (by omega), Option.getD_some, Nat.div_add_mod]

theorem isSome_hex?_of_mem {base : Nat} (h1 : 1 < base) (h16 : base ≤ 16) {n : Nat} {c : Char}
    (h : c ∈ Nat.toDigits base n) : (hex? c).isSome := by
  induction n using Nat.strongRecOn with
  | _ n ih =>
      rw [Nat.toDigits_eq_if h1] at h
      split at h
      · rename_i hlt
        rw [List.mem_singleton.mp h, hex?_digitChar (by omega)]
        rfl
      · rename_i hge
        have hd : n % base < base := Nat.mod_lt n (by omega)
        have hq : n / base < n := Nat.div_lt_self (by omega) h1
        rcases List.mem_append.mp h with h | h
        · exact ih _ hq h
        · rw [List.mem_singleton.mp h, hex?_digitChar (by omega)]
          rfl

theorem hexNumber?_eq_number {ds : List Char} (h : ∀ d ∈ ds, (hex? d).isSome) :
    hexNumber? ds = some (number 16 ds) := by
  have step : ∀ m, ds.foldlM (fun n d => (hex? d).map (16 * n + ·)) m =
      some (ds.foldl (fun n d => 16 * n + (hex? d).getD 0) m) := by
    induction ds with
    | nil => intro m; rfl
    | cons d ds ih =>
        intro m
        obtain ⟨e, he⟩ := Option.isSome_iff_exists.mp (h d List.mem_cons_self)
        rw [List.foldlM_cons, List.foldl_cons, he]
        exact ih (fun c hc => h c (List.mem_cons_of_mem d hc)) (16 * m + e)
  exact step 0

/-- A digit that is read stands for a number, and no other character is one. -/
theorem isSome_hex?_of_hexNumber? {ds : List Char} {n : Nat} (h : hexNumber? ds = some n) :
    ∀ d ∈ ds, (hex? d).isSome := by
  have step : ∀ m, ds.foldlM (fun n d => (hex? d).map (16 * n + ·)) m = some n →
      ∀ d ∈ ds, (hex? d).isSome := by
    clear h
    induction ds with
    | nil => nofun
    | cons d ds ih =>
        intro m h
        rw [List.foldlM_cons] at h
        cases hd : hex? d with
        | none => rw [hd] at h; cases h
        | some k =>
            rw [hd] at h
            intro e he
            rcases List.mem_cons.mp he with rfl | he
            · rw [hd]; rfl
            · exact ih _ h e he
  exact step 0 h

theorem number_zeros (base k : Nat) (ds : List Char) :
    number base (List.replicate k '0' ++ ds) = number base ds := by
  induction k with
  | zero => rfl
  | succ k ih =>
      rw [List.replicate_succ, List.cons_append, ← ih]
      have h0 : base * 0 + (hex? '0').getD 0 = 0 := by
        rw [Nat.mul_zero]; rfl
      rw [number, List.foldl_cons, h0]
      rfl

theorem isSome_hex?_of_mem_hex {width n : Nat} {c : Char} (h : c ∈ Text.hex width n) :
    (hex? c).isSome := by
  rcases List.mem_append.mp h with h | h
  · rw [(List.mem_replicate.mp h).2]
    rfl
  · exact isSome_hex?_of_mem (by decide) (by decide) h

/-- A number in hexadecimal is read back whatever the width to which it was filled. -/
theorem hexNumber?_hex (width n : Nat) : hexNumber? (Text.hex width n) = some n := by
  rw [hexNumber?_eq_number fun _ => isSome_hex?_of_mem_hex]
  exact congrArg some ((number_zeros 16 _ _).trans (number_toDigits (by decide) (by decide) n))

theorem length_hex {width n : Nat} (h : (Nat.toDigits 16 n).length ≤ width) :
    (Text.hex width n).length = width := by
  rw [Text.hex, List.length_append, List.length_replicate]
  omega

/-- No number but zero is written with a zero in front. -/
theorem toDigits_head {n : Nat} {ds : List Char} (h : Nat.toDigits 10 n = '0' :: ds) : n = 0 := by
  induction n using Nat.strongRecOn generalizing ds with
  | _ n ih =>
      rw [Nat.toDigits_eq_if (by decide)] at h
      split at h
      · exact Nat.digitChar_eq_zero.mp (List.cons.inj h).1
      · rename_i hge
        cases hq : Nat.toDigits 10 (n / 10) with
        | nil => exact absurd hq Nat.toDigits_ne_nil
        | cons d es =>
            rw [hq] at h
            have hd : d = '0' := (List.cons.inj h).1
            have h0 := ih _ (Nat.div_lt_self (by omega) (by decide)) (hd ▸ hq)
            omega

end PropertyTyping.Digits

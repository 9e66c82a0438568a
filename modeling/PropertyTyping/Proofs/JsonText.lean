import Mathlib.Data.List.Chain
import PropertyTyping.Json.Printer
import PropertyTyping.Json.Reader
import PropertyTyping.Proofs.Numeral

/-! Strings in JSON text: what is printed for a text is read back as that text, but for halves of a
surrogate pair that stand side by side, which become one character. -/

namespace PropertyTyping

theorem CodePoint.ofNat?_value (c : CodePoint) : ofNat? c.value = some c := by
  cases c with
  | scalar c =>
      have h : c.toNat.isValidChar := c.valid
      rw [value, ofNat?, dif_pos h]
      rfl
  | surrogate k =>
      have hk := k.isLt
      have hn : ¬ (0xD800 + k.val).isValidChar := by
        rintro (h | h) <;> omega
      have hr : 0xD800 ≤ 0xD800 + k.val ∧ 0xD800 + k.val < 0xE000 := by omega
      rw [value, ofNat?, dif_neg hn, dif_pos hr]
      simp only [Nat.add_sub_cancel_left]

theorem CodePoint.value_lt (c : CodePoint) : c.value < 0x110000 := by
  cases c with
  | scalar c =>
      rw [value]
      rcases c.valid with h | h
      · exact Nat.lt_trans h (by decide)
      · exact h.2
  | surrogate k =>
      have hk := k.isLt
      rw [value]
      omega

namespace Json

/-- What the reader takes for a code point at first: a character of more than sixteen bits comes in
two halves. -/
def halves (c : CodePoint) : Text :=
  if c.value < 0x10000 then [c]
  else [.surrogate (Fin.ofNat 0x800 ((c.value - 0x10000) / 0x400)),
    .surrogate (Fin.ofNat 0x800 (0x400 + (c.value - 0x10000) % 0x400))]

theorem halves_small {c : CodePoint} (h : c.value < 0x10000) : halves c = [c] := if_pos h

theorem halves_large {c : CodePoint} (h : ¬ c.value < 0x10000) : halves c =
    [.surrogate (Fin.ofNat 0x800 ((c.value - 0x10000) / 0x400)),
      .surrogate (Fin.ofNat 0x800 (0x400 + (c.value - 0x10000) % 0x400))] := if_neg h

theorem halves_surrogate (k : Fin 0x800) : halves (.surrogate k) = [.surrogate k] := by
  refine halves_small ?_
  have hk := k.isLt
  rw [CodePoint.value]
  omega

variable {rest left : List Char} {t : Text}

theorem scan_short {c p : Char} (hp : shortEscape? c = some p) (h : scan rest = .ok (t, left)) :
    scan ('\\' :: c :: rest) = .ok (.scalar p :: t, left) := by
  have hu : c ≠ 'u' := by
    rintro rfl
    cases hp
  rw [scan]
  · rw [hp, h]; rfl
  · intro a b d e f g hc
    exact absurd hc hu
  · exact hu

theorem scan_plain {c : Char} (hq : c ≠ '"') (hb : c ≠ '\\') (hc : 0x20 ≤ c.toNat)
    (h : scan rest = .ok (t, left)) : scan (c :: rest) = .ok (.scalar c :: t, left) := by
  rw [scan]
  · rw [if_neg (Nat.not_lt.mpr hc), h]; rfl
  · exact hq
  · exact fun _ _ _ _ _ _ h => absurd h hb
  · exact fun _ h => absurd h hb
  · exact fun h => absurd h hb
  · exact fun _ _ h => absurd h hb

/-- Four hexadecimal digits behind a mark are the code point of their number. -/
theorem scan_unitEscape {n : Nat} {p : CodePoint} (hn : n < 0x10000)
    (hp : CodePoint.ofNat? n = some p) (h : scan rest = .ok (t, left)) :
    scan (unitEscape n ++ rest) = .ok (p :: t, left) := by
  have hdigits : (Nat.toDigits 16 n).length ≤ 4 :=
    (Nat.length_toDigits_le_iff (by decide) (by decide)).mpr hn
  have hl := Digits.length_hex hdigits
  have hd := Digits.hexNumber?_hex 4 n
  rw [unitEscape]
  match Text.hex 4 n, hl, hd with
  | [a, b, c, d], _, hd =>
      cases rest with
      | nil => cases h
      | cons e rest =>
          change scan ('\\' :: 'u' :: a :: b :: c :: d :: e :: rest) = _
          rw [scan, hd, Option.bind_some, hp, h]
          rfl

theorem ofNat?_surrogate {k : Nat} (h : k < 0x800) :
    CodePoint.ofNat? (0xD800 + k) = some (.surrogate (Fin.ofNat 0x800 k)) := by
  have hv : (CodePoint.surrogate (Fin.ofNat 0x800 k)).value = 0xD800 + k := by
    rw [CodePoint.value, Fin.val_ofNat, Nat.mod_eq_of_lt h]
  rw [← hv, CodePoint.ofNat?_value]

theorem scan_escape (c : CodePoint) (h : scan rest = .ok (t, left)) :
    scan (escape c ++ rest) = .ok (halves c ++ t, left) := by
  have hlt := c.value_lt
  unfold escape
  split
  · subst_vars; exact scan_short rfl h
  split
  · subst_vars; exact scan_short rfl h
  split
  · subst_vars; exact scan_short rfl h
  split
  · subst_vars; exact scan_short rfl h
  split
  · subst_vars; exact scan_short rfl h
  split
  · subst_vars; exact scan_short rfl h
  split
  · subst_vars; exact scan_short rfl h
  split
  · rename_i hq hb _ _ _ _ _ hc
    rw [halves_small (by omega)]
    cases c with
    | scalar c =>
        refine scan_plain (fun he => hq (congrArg _ he)) (fun he => hb (congrArg _ he)) hc.1 h
    | surrogate k => rw [CodePoint.value] at hc; omega
  split
  · rename_i hc
    rw [halves_small hc]
    exact scan_unitEscape hc c.ofNat?_value h
  · rename_i hc
    rw [halves_large hc, List.append_assoc]
    have hhigh : (c.value - 0x10000) / 0x400 < 0x800 := by omega
    have hlow : 0x400 + (c.value - 0x10000) % 0x400 < 0x800 := by omega
    refine scan_unitEscape (by omega) (ofNat?_surrogate hhigh) ?_
    refine scan_unitEscape (by omega) ?_ h
    rw [← ofNat?_surrogate hlow, ← Nat.add_assoc]

theorem scan_flatMap (t : Text) (left : List Char) :
    scan (t.flatMap escape ++ '"' :: left) = .ok (t.flatMap halves, left) := by
  induction t with
  | nil => rfl
  | cons c t ih =>
      rw [List.flatMap_cons, List.flatMap_cons, List.append_assoc]
      exact scan_escape c ih

/-- A low surrogate is what can turn a high one before it into a character. -/
def startsLow : Text → Bool
  | .surrogate k :: _ => decide (0x400 ≤ k.val)
  | _ => false

theorem joinSurrogates_pair {k l : Fin 0x800} {p : CodePoint} (h : pair? k l = some p) :
    joinSurrogates (.surrogate k :: .surrogate l :: t) = p :: joinSurrogates t := by
  rw [joinSurrogates, h]

theorem joinSurrogates_apart {k l : Fin 0x800} (h : pair? k l = none) :
    joinSurrogates (.surrogate k :: .surrogate l :: t) =
      .surrogate k :: joinSurrogates (.surrogate l :: t) := by
  rw [joinSurrogates, h]

theorem joinSurrogates_scalar (c : Char) :
    joinSurrogates (.scalar c :: t) = .scalar c :: joinSurrogates t := by
  rw [joinSurrogates]
  nofun

theorem joinSurrogates_high {k : Fin 0x800} (h : startsLow t = false ∨ 0x400 ≤ k.val) :
    joinSurrogates (.surrogate k :: t) = .surrogate k :: joinSurrogates t := by
  cases t with
  | nil => rfl
  | cons c t =>
      cases c with
      | scalar c => rw [joinSurrogates]; nofun
      | surrogate l =>
          have hp : pair? k l = none := by
            refine if_neg ?_
            rintro ⟨hk, hl⟩
            rcases h with h | h
            · exact absurd hl (of_decide_eq_false h)
            · omega
          exact joinSurrogates_apart hp

/-- The two halves of a character make it again. -/
theorem pair?_halves {n : Nat} (h : 0x10000 ≤ n) (hn : n < 0x110000) :
    pair? (Fin.ofNat 0x800 ((n - 0x10000) / 0x400))
      (Fin.ofNat 0x800 (0x400 + (n - 0x10000) % 0x400)) = CodePoint.ofNat? n := by
  have hhigh : (n - 0x10000) / 0x400 < 0x400 := by omega
  have hlow : 0x400 + (n - 0x10000) % 0x400 < 0x800 := by omega
  rw [pair?, Fin.val_ofNat, Fin.val_ofNat, Nat.mod_eq_of_lt (by omega), Nat.mod_eq_of_lt hlow,
    if_pos ⟨hhigh, by omega⟩]
  exact congrArg CodePoint.ofNat? (by omega)

theorem startsLow_halves (h : ∀ k u, t ≠ .surrogate k :: u) :
    startsLow (t.flatMap halves) = false := by
  match t, h with
  | [], _ => rfl
  | .surrogate k :: u, h => exact absurd rfl (h k u)
  | .scalar c :: u, _ =>
      have hlt := (CodePoint.scalar c).value_lt
      rw [List.flatMap_cons]
      by_cases hc : (CodePoint.scalar c).value < 0x10000
      · rw [halves_small hc]; rfl
      · rw [halves_large hc]
        refine decide_eq_false ?_
        rw [Fin.val_ofNat, Nat.mod_eq_of_lt (by omega)]
        omega

/-- Joining what the reader takes for the code points is joining the code points themselves. -/
theorem joinSurrogates_halves (t : Text) :
    joinSurrogates (t.flatMap halves) = joinSurrogates t := by
  fun_induction joinSurrogates t with
  | case1 high low rest p hp ih =>
      rw [List.flatMap_cons, List.flatMap_cons, halves_surrogate, halves_surrogate, ← ih]
      exact joinSurrogates_pair hp
  | case2 high low rest hp ih =>
      rw [← ih, List.flatMap_cons, List.flatMap_cons, halves_surrogate, halves_surrogate]
      exact joinSurrogates_apart hp
  | case3 c rest hne ih =>
      rw [List.flatMap_cons, ← ih]
      cases c with
      | surrogate k =>
          have hs : startsLow (rest.flatMap halves) = false :=
            startsLow_halves fun l u he => hne k l u rfl he
          rw [halves_surrogate]
          exact joinSurrogates_high (.inl hs)
      | scalar c =>
          by_cases hc : (CodePoint.scalar c).value < 0x10000
          · rw [halves_small hc]
            exact joinSurrogates_scalar c
          · have hp := pair?_halves (Nat.not_lt.mp hc) (CodePoint.scalar c).value_lt
            rw [CodePoint.ofNat?_value] at hp
            rw [halves_large hc]
            exact joinSurrogates_pair hp
  | case4 => rfl

/-- A printed text is read back, its surrogate pairs joined. -/
theorem string_renderText (t : Text) (left : List Char) :
    string (t.flatMap escape ++ '"' :: left) = .ok (joinSurrogates t, left) := by
  rw [string, scan_flatMap]
  exact congrArg (fun u => Except.ok (u, left)) (joinSurrogates_halves t)

/-- A text in which no two halves of a character stand beside each other. -/
def Whole (t : Text) : Prop :=
  t.IsChain fun c d => ∀ high low, c = .surrogate high → d = .surrogate low → pair? high low = none

theorem length_joinSurrogates_le (t : Text) : (joinSurrogates t).length ≤ t.length := by
  fun_induction joinSurrogates t with
  | case1 high low rest p hp ih =>
      simp only [List.length_cons]
      omega
  | case2 high low rest hp ih => exact Nat.succ_le_succ ih
  | case3 c rest hne ih => exact Nat.succ_le_succ ih
  | case4 => exact Nat.le_refl 0

/-- Only a text in which two halves stand beside each other is changed. -/
theorem joinSurrogates_eq_self_iff (t : Text) : joinSurrogates t = t ↔ Whole t := by
  fun_induction joinSurrogates t with
  | case1 high low rest p hp ih =>
      constructor
      · intro h
        have hl := length_joinSurrogates_le rest
        have he := congrArg List.length h
        simp only [List.length_cons] at he
        omega
      · intro h
        have hn := (List.isChain_cons_cons.mp h).1 high low rfl rfl
        rw [hp] at hn
        cases hn
  | case2 high low rest hp ih =>
      rw [List.cons.injEq, ih, Whole, Whole, List.isChain_cons_cons]
      refine ⟨fun h => ⟨?_, h.2⟩, fun h => ⟨rfl, h.2⟩⟩
      rintro _ _ ⟨⟩ ⟨⟩
      exact hp
  | case3 c rest hne ih =>
      rw [List.cons.injEq, ih, Whole, Whole]
      cases rest with
      | nil => exact ⟨fun _ => .singleton c, fun _ => ⟨rfl, .nil⟩⟩
      | cons d rest =>
          rw [List.isChain_cons_cons]
          refine ⟨fun h => ⟨?_, h.2⟩, fun h => ⟨rfl, h.2⟩⟩
          rintro high low rfl rfl
          exact absurd rfl (hne high low rest rfl)
  | case4 => exact ⟨fun _ => List.IsChain.nil, fun _ => rfl⟩

instance : DecidablePred Whole := fun t => decidable_of_iff _ (joinSurrogates_eq_self_iff t)

end Json
end PropertyTyping

import PropertyTyping.Json.Reader
import PropertyTyping.Proofs.Numeral
import PropertyTyping.Proofs.Writing

/-! The characters of JSON documents. Outside its strings a document has only few characters, and
inside them none that controls, so that some lines of text are part of no document. -/

namespace PropertyTyping

namespace Json

/-- Where a character of a document stands. -/
inductive Zone where
  | outside
  | inside
  | escaped
  deriving DecidableEq

/-- What stands outside of strings besides digits. -/
def marks : List Char := "[]\x7b\x7d:,+-. \t\n\rnulltruefalseNaNInfinityE".toList

/-- The zone behind a character, where the character may stand in the zone. -/
def Zone.next : Zone → Char → Option Zone
  | outside, c =>
    if c = '"' then some inside
    else if Digits.isDecimal c ∨ c ∈ marks then some outside
    else none
  | inside, c =>
    if c = '"' then some outside
    else if c = '\\' then some escaped
    else if c.toNat < 0x20 then none
    else some inside
  | escaped, c => if c = 'u' ∨ (shortEscape? c).isSome then some inside else none

/-- The zone behind some characters. -/
def Zone.through (z : Zone) (cs : List Char) : Option Zone := cs.foldlM next z

/-- Some characters in front, from a zone on, are those of a document up to the end of a value or of
a part of one. What is left follows them. -/
def Passes (z : Zone) (cs left : List Char) : Prop :=
  ∃ used, cs = used ++ left ∧ z.through used = some .outside

variable {z z' : Zone} {c : Char} {cs mid left : List Char}

theorem Passes.refl (cs : List Char) : Passes .outside cs cs := ⟨[], rfl, rfl⟩

theorem Passes.cons (hc : z.next c = some z') (h : Passes z' cs left) :
    Passes z (c :: cs) left := by
  obtain ⟨used, rfl, hu⟩ := h
  refine ⟨c :: used, rfl, ?_⟩
  rw [Zone.through, List.foldlM_cons, hc]
  exact hu

theorem Passes.trans (h : Passes z cs mid) (h' : Passes .outside mid left) :
    Passes z cs left := by
  obtain ⟨used, rfl, hu⟩ := h
  obtain ⟨more, rfl, hm⟩ := h'
  refine ⟨used ++ more, (List.append_assoc _ _ _).symm, ?_⟩
  rw [Zone.through] at hu
  rw [Zone.through, List.foldlM_append, hu]
  exact hm

theorem next_digit (h : Digits.isDecimal c) : Zone.outside.next c = some .outside := by
  have hq : c ≠ '"' := by
    rintro rfl
    exact absurd h (by decide)
  rw [Zone.next, if_neg hq, if_pos (.inl h)]

theorem next_mark (h : c ∈ marks) : Zone.outside.next c = some .outside := by
  have all : marks.all (fun c => decide (Zone.outside.next c = some .outside)) = true := by
    decide
  exact of_decide_eq_true (List.all_eq_true.mp all c h)

theorem passes_digits (cs : List Char) :
    Passes .outside cs (cs.dropWhile Digits.isDecimal) := by
  induction cs with
  | nil => exact .refl []
  | cons c cs ih =>
      by_cases h : Digits.isDecimal c = true
      · rw [List.dropWhile_cons_of_pos h]
        exact ih.cons (next_digit h)
      · rw [List.dropWhile_cons_of_neg h]
        exact .refl _

theorem passes_skipBlanks (cs : List Char) : Passes .outside cs (skipBlanks cs) := by
  induction cs with
  | nil => exact .refl []
  | cons c cs ih =>
      by_cases h : isBlank c = true
      · rw [skipBlanks, List.dropWhile_cons_of_pos h]
        refine ih.cons (next_mark ?_)
        simp only [isBlank, Bool.or_eq_true, beq_iff_eq] at h
        rcases h with ((rfl | rfl) | rfl) | rfl <;> decide
      · rw [skipBlanks, List.dropWhile_cons_of_neg h]
        exact .refl _

theorem next_hex (h : (Digits.hex? c).isSome) : Zone.inside.next c = some .inside := by
  have hq : c ≠ '"' := by
    rintro rfl
    exact absurd h (by decide)
  have hb : c ≠ '\\' := by
    rintro rfl
    exact absurd h (by decide)
  have hs : ¬ c.toNat < 0x20 := by
    intro hc
    have key : ∀ d : Char, 0x20 ≤ d.toNat → ¬ d ≤ c := by
      intro d hd hle
      have hle : d.toNat ≤ c.toNat := hle
      omega
    have hnone : Digits.hex? c = none := by
      rw [Digits.hex?, if_neg fun h => key '0' (by decide) h.1,
        if_neg fun h => key 'a' (by decide) h.1, if_neg fun h => key 'A' (by decide) h.1]
    rw [hnone] at h
    cases h
  rw [Zone.next, if_neg hq, if_neg hb, if_neg hs]

/-- A string that is read ends with the first quote that is not escaped. -/
theorem passes_scan {t : Text} (h : scan cs = .ok (t, left)) : Passes .inside cs left := by
  fun_induction scan cs generalizing t with
  | case1 => cases h
  | case2 =>
      cases h
      exact (Passes.refl left).cons rfl
  | case3 a b c d e rest p hp ih =>
      obtain ⟨⟨u, _⟩, hs, hr⟩ := bind_eq_ok.mp h
      cases hr
      obtain ⟨n, hn, _⟩ := Option.bind_eq_some_iff.mp hp
      have hx := Digits.isSome_hex?_of_hexNumber? hn
      have hpass := ih hs
      refine .cons rfl (.cons rfl ?_)
      refine .cons (next_hex (hx a (by simp))) (.cons (next_hex (hx b (by simp))) ?_)
      exact .cons (next_hex (hx c (by simp))) (.cons (next_hex (hx d (by simp))) hpass)
  | case4 => cases h
  | case5 => cases h
  | case6 => cases h
  | case7 c rest _ _ p hp ih =>
      obtain ⟨⟨u, _⟩, hs, hr⟩ := bind_eq_ok.mp h
      cases hr
      refine .cons rfl (.cons (if_pos (.inr ?_)) (ih hs))
      rw [hp]
      rfl
  | case8 => cases h
  | case9 => cases h
  | case10 c rest hq _ _ hend hmore hc ih =>
      obtain ⟨⟨u, _⟩, hs, hr⟩ := bind_eq_ok.mp h
      cases hr
      have hb : c ≠ '\\' := by
        rintro rfl
        cases rest with
        | nil => exact hend rfl rfl
        | cons d rest => exact hmore d rest rfl rfl
      refine .cons ?_ (ih hs)
      rw [Zone.next, if_neg hq, if_neg hb, if_neg hc]

theorem passes_string {t : Text} (h : string cs = .ok (t, left)) : Passes .inside cs left := by
  unfold string at h
  split at h
  · rename_i hs
    cases h
    exact passes_scan hs
  · cases h
  · cases h

theorem passes_wholePart {whole : List Char} (h : wholePart? cs = some (whole, left)) :
    Passes .outside cs left := by
  unfold wholePart? at h
  split at h
  · cases h
    exact (Passes.refl left).cons rfl
  · simp only at h
    split at h
    · cases h
    · cases h
      exact passes_digits cs

theorem passes_fractionPart (cs : List Char) : Passes .outside cs (fractionPart cs).2 := by
  unfold fractionPart
  split
  · simp only
    split
    · exact .refl _
    · exact (passes_digits _).cons rfl
  · exact .refl cs

theorem passes_signPart (cs : List Char) : Passes .outside cs (Digits.signPart cs).2 := by
  unfold Digits.signPart
  split
  · exact (Passes.refl _).cons rfl
  · exact (Passes.refl _).cons rfl
  · exact .refl cs

theorem passes_exponentPart (cs : List Char) : Passes .outside cs (exponentPart cs).2 := by
  unfold exponentPart
  split
  · rename_i c rest
    split
    · rename_i hc
      have hn : Zone.outside.next c = some .outside := by
        rcases hc with rfl | rfl <;> rfl
      simp only
      split
      · exact .refl _
      · exact ((passes_signPart rest).trans (passes_digits _)).cons hn
    · exact .refl _
  · exact .refl []

theorem passes_number {v : Value} (h : number cs = .ok (v, left)) : Passes .outside cs left := by
  unfold number at h
  split at h
  rename_i negative body hb
  have hbody : Passes .outside cs body := by
    split at hb
    · cases hb
      exact (Passes.refl body).cons rfl
    · cases hb
      exact .refl cs
  split at h
  · cases h
  · rename_i whole afterWhole hw
    obtain ⟨w, _, hr⟩ := bind_eq_ok.mp h
    cases hr
    refine (hbody.trans (passes_wholePart hw)).trans ?_
    exact (passes_fractionPart afterWhole).trans (passes_exponentPart _)

theorem passes_word {v : Value} (h : word? cs = some (v, left)) : Passes .outside cs left := by
  have hwords : ∀ w ∈ words, Zone.outside.through w.1 = some .outside := by
    unfold words
    decide
  unfold word? at h
  obtain ⟨w, hw, he⟩ := Option.map_eq_some_iff.mp h
  cases he
  have hp := List.find?_some hw
  obtain ⟨rest, rfl⟩ := List.isPrefixOf_iff_prefix.mp hp
  refine ⟨w.1, ?_, hwords w (List.mem_of_find?_eq_some hw)⟩
  rw [List.drop_left]

/-- Whatever the readers read with some fuel passes as a part of a document. -/
structure Passing (fuel : Nat) : Prop where
  value : ∀ {room cs v left}, value room fuel cs = .ok (v, left) → Passes .outside cs left
  items : ∀ {room cs vs left}, items room fuel cs = .ok (vs, left) → Passes .outside cs left
  members : ∀ {room cs fields left}, members room fuel cs = .ok (fields, left) →
    Passes .outside cs left

theorem Passing.value_succ {fuel room : Nat} {v : Value} (h : Passing fuel)
    (hv : Json.value room (fuel + 1) cs = .ok (v, left)) : Passes .outside cs left := by
  rw [Json.value.eq_def] at hv
  simp only at hv
  split at hv
  · obtain ⟨⟨t, _⟩, hs, hr⟩ := bind_eq_ok.mp hv
    cases hr
    exact (passes_string hs).cons rfl
  · rename_i rest
    have hblank := passes_skipBlanks rest
    split at hv
    · cases hv
    · split at hv
      · rename_i hskip
        cases hv
        rw [hskip] at hblank
        exact (hblank.trans ((Passes.refl left).cons rfl)).cons rfl
      · obtain ⟨⟨vs, _⟩, hi, hr⟩ := bind_eq_ok.mp hv
        cases hr
        exact (hblank.trans (h.items hi)).cons rfl
  · rename_i rest
    have hblank := passes_skipBlanks rest
    split at hv
    · cases hv
    · split at hv
      · rename_i hskip
        cases hv
        rw [hskip] at hblank
        exact (hblank.trans ((Passes.refl left).cons rfl)).cons rfl
      · obtain ⟨⟨fields, _⟩, hm, hr⟩ := bind_eq_ok.mp hv
        cases hr
        exact (hblank.trans (h.members hm)).cons rfl
  · split at hv
    · rename_i hw
      cases hv
      exact passes_word hw
    · exact passes_number hv

/-- Behind an item comes a mark, and behind a comma the next item. -/
theorem Passing.items_succ {fuel room : Nat} {vs : List Value} (h : Passing fuel)
    (hi : Json.items room (fuel + 1) cs = .ok (vs, left)) : Passes .outside cs left := by
  rw [Json.items] at hi
  obtain ⟨⟨v, rest⟩, hv, hi⟩ := bind_eq_ok.mp hi
  have hblank := (h.value hv).trans (passes_skipBlanks rest)
  simp only at hi
  split at hi
  · rename_i hskip
    cases hi
    rw [hskip] at hblank
    exact hblank.trans ((Passes.refl left).cons rfl)
  · rename_i next hskip
    obtain ⟨⟨ws, _⟩, hw, hr⟩ := bind_eq_ok.mp hi
    cases hr
    rw [hskip] at hblank
    exact hblank.trans (((passes_skipBlanks next).trans (h.items hw)).cons rfl)
  · cases hi

theorem Passing.members_succ {fuel room : Nat} {fields : List (Text × Value)} (h : Passing fuel)
    (hm : Json.members room (fuel + 1) cs = .ok (fields, left)) : Passes .outside cs left := by
  rw [Json.members.eq_def] at hm
  simp only at hm
  split at hm
  · rename_i text
    obtain ⟨⟨key, rest⟩, hs, hm⟩ := bind_eq_ok.mp hm
    have hkey : Passes .outside ('"' :: text) (skipBlanks rest) :=
      ((passes_string hs).trans (passes_skipBlanks rest)).cons rfl
    simp only at hm
    split at hm
    · rename_i behind hcolon
      rw [hcolon] at hkey
      obtain ⟨⟨v, more⟩, hv, hm⟩ := bind_eq_ok.mp hm
      have hvalue := (passes_skipBlanks behind).trans (h.value hv)
      have hblank := hkey.trans ((hvalue.trans (passes_skipBlanks more)).cons rfl)
      simp only at hm
      split at hm
      · rename_i hskip
        cases hm
        rw [hskip] at hblank
        exact hblank.trans ((Passes.refl left).cons rfl)
      · rename_i next hskip
        obtain ⟨⟨others, _⟩, ho, hr⟩ := bind_eq_ok.mp hm
        cases hr
        rw [hskip] at hblank
        exact hblank.trans (((passes_skipBlanks next).trans (h.members ho)).cons rfl)
      · cases hm
    · cases hm
  · cases hm

theorem passing (fuel : Nat) : Passing fuel := by
  induction fuel with
  | zero => exact ⟨nofun, nofun, nofun⟩
  | succ fuel ih => exact ⟨ih.value_succ, ih.items_succ, ih.members_succ⟩

/-- A document is made of characters that may stand where they stand. -/
theorem through_of_parse {v : Value} (h : parse cs = .ok v) :
    Zone.outside.through cs = some .outside := by
  unfold parse at h
  split at h
  · rename_i w hd
    unfold document at hd
    split at hd
    · cases hd
    · obtain ⟨⟨x, rest⟩, hv, hr⟩ := bind_eq_ok.mp hd
      have hp := (passes_skipBlanks cs).trans ((passing _).value hv)
      simp only at hr
      split at hr
      · rename_i hskip
        obtain ⟨used, hu, ht⟩ := hp.trans (hskip ▸ passes_skipBlanks rest)
        rw [hu, List.append_nil]
        exact ht
      · cases hr
  · cases h
  · cases h
  · cases h

/-- Characters that may stand together nowhere stand in no document. -/
theorem parse_ne_ok {word before behind : List Char} (h : ∀ z : Zone, z.through word = none)
    (v : Value) : parse (before ++ (word ++ behind)) ≠ .ok v := by
  intro hp
  have ht := through_of_parse hp
  rw [Zone.through, List.foldlM_append] at ht
  obtain ⟨z, _, ht⟩ := Option.bind_eq_some_iff.mp ht
  rw [List.foldlM_append] at ht
  obtain ⟨y, hz, _⟩ := Option.bind_eq_some_iff.mp ht
  have hnone : some y = none := hz.symm.trans (h z)
  cases hnone

end Json
end PropertyTyping

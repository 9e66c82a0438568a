import PropertyTyping.Proofs.JsonReading

/-! The characters of printed JSON. Whatever value is printed, its text is made of line feeds and of
ASCII characters that show, so it is the same in any encoding of files that extends ASCII. -/

namespace PropertyTyping.Json

/-- A line feed, or a character of ASCII that shows. -/
def Plain (c : Char) : Prop := c = '\n' ∨ 0x20 ≤ c.toNat ∧ c.toNat < 0x7F

instance (c : Char) : Decidable (Plain c) := inferInstanceAs (Decidable (_ ∨ _))

theorem Plain.toNat_lt {c : Char} (h : Plain c) : c.toNat < 0x80 := by
  rcases h with rfl | h
  · decide
  · exact Nat.lt_of_lt_of_le h.2 (by decide)

theorem Plain.ne_return {c : Char} (h : Plain c) : c ≠ '\r' := by
  rintro rfl
  exact absurd h (by decide)

/-- A text of fixed characters is checked one character after the other. -/
theorem plain_of_all {cs : List Char} (h : cs.all (Plain ·)) : ∀ c ∈ cs, Plain c := by
  intro c hc
  exact of_decide_eq_true (List.all_eq_true.mp h c hc)

theorem plain_of_hex {c : Char} (h : (Digits.hex? c).isSome) : Plain c := by
  have between : ∀ low high : Char, 0x20 ≤ low.toNat ∧ high.toNat < 0x7F →
      low ≤ c ∧ c ≤ high → Plain c := by
    intro low high hbounds hc
    exact .inr ⟨Nat.le_trans hbounds.1 hc.1, Nat.lt_of_le_of_lt hc.2 hbounds.2⟩
  unfold Digits.hex? at h
  split at h
  · exact between '0' '9' (by decide) ‹_›
  split at h
  · exact between 'a' 'f' (by decide) ‹_›
  split at h
  · exact between 'A' 'F' (by decide) ‹_›
  · cases h

theorem plain_of_mem_toDigits {n : Nat} {c : Char} (h : c ∈ Nat.toDigits 10 n) : Plain c :=
  plain_of_hex (Digits.isSome_hex?_of_mem (by decide) (by decide) h)

theorem plain_replicate {d : Char} (h : Plain d) (k : Nat) : ∀ c ∈ List.replicate k d, Plain c := by
  intro c hc
  rw [List.eq_of_mem_replicate hc]
  exact h

theorem plain_unitEscape (n : Nat) : ∀ c ∈ unitEscape n, Plain c := by
  simp only [unitEscape, List.forall_mem_cons]
  refine ⟨by decide, by decide, ?_⟩
  intro c hc
  exact plain_of_hex (Digits.isSome_hex?_of_mem_hex hc)

/-- A character that does not show, or lies beyond ASCII, is escaped. -/
theorem plain_escape (p : CodePoint) : ∀ c ∈ escape p, Plain c := by
  unfold escape
  split
  · exact plain_of_all (by decide)
  split
  · exact plain_of_all (by decide)
  split
  · exact plain_of_all (by decide)
  split
  · exact plain_of_all (by decide)
  split
  · exact plain_of_all (by decide)
  split
  · exact plain_of_all (by decide)
  split
  · exact plain_of_all (by decide)
  split
  · rename_i hp
    rw [List.forall_mem_singleton]
    cases p with
    | scalar c => exact .inr hp
    | surrogate k =>
        rw [CodePoint.value] at hp
        omega
  split
  · exact plain_unitEscape _
  · rw [List.forall_mem_append]
    exact ⟨plain_unitEscape _, plain_unitEscape _⟩

theorem plain_renderText (t : Text) : ∀ c ∈ renderText t, Plain c := by
  simp only [renderText, List.cons_append, List.forall_mem_cons, List.forall_mem_append]
  refine ⟨by decide, ?_, by decide, List.forall_mem_nil _⟩
  intro c hc
  obtain ⟨p, _, hc⟩ := List.mem_flatMap.mp hc
  exact plain_escape p c hc

theorem plain_ofInt (n : Int) : ∀ c ∈ (Text.ofInt n).map CodePoint.toChar, Plain c := by
  cases n with
  | ofNat m =>
      rw [Text.ofInt, Text.ofNat, Text.toChar_ofChars]
      exact fun c => plain_of_mem_toDigits
  | negSucc m =>
      rw [Text.ofInt, Text.ofNat, List.map_cons, Text.toChar_ofChars, List.forall_mem_cons]
      exact ⟨by decide, fun c => plain_of_mem_toDigits⟩

variable {ds : List Char}

theorem plain_fixed (h : ∀ d ∈ ds, Plain d) (power : Int) :
    ∀ c ∈ NumberLayout.fixed ds power, Plain c := by
  have hzeros := plain_replicate (d := '0') (by decide)
  unfold NumberLayout.fixed
  split
  · simp only [List.cons_append, List.forall_mem_cons, List.forall_mem_append]
    exact ⟨by decide, by decide, hzeros _, h⟩
  · simp only [List.forall_mem_cons, List.forall_mem_append, and_assoc]
    refine ⟨fun c hc => h c (List.mem_of_mem_take hc), hzeros _, by decide, ?_⟩
    split
    · exact plain_of_all (by decide)
    · exact fun c hc => h c (List.mem_of_mem_drop hc)

theorem plain_scientific (h : ∀ d ∈ ds, Plain d) (l : NumberLayout) (power : Int) :
    ∀ c ∈ l.scientific ds power, Plain c := by
  have hzeros := plain_replicate (d := '0') (by decide)
  simp only [NumberLayout.scientific, List.forall_mem_cons, List.forall_mem_append, and_assoc]
  refine ⟨?_, by decide, ?_, hzeros _, fun c => plain_of_mem_toDigits⟩
  · split
    · simp only [List.forall_mem_cons] at h ⊢
      exact ⟨h.1, by decide, h.2⟩
    · exact h
  · split <;> decide

theorem plain_write (l : NumberLayout) (d : Decimal) : ∀ c ∈ l.write d, Plain c := by
  simp only [NumberLayout.write]
  split
  · exact plain_fixed (fun c => plain_of_mem_toDigits) _
  · exact plain_scientific (fun c => plain_of_mem_toDigits) _ _

theorem plain_renderFloat (x : Binary64) : ∀ c ∈ renderFloat x, Plain c := by
  have hsigned : ∀ magnitude : Text, (∀ c ∈ magnitude.map CodePoint.toChar, Plain c) →
      ∀ c ∈ (if x.isNegative then .scalar '-' :: magnitude else magnitude).map CodePoint.toChar,
        Plain c := by
    intro magnitude h
    split
    · rw [List.map_cons, List.forall_mem_cons]
      exact ⟨by decide, h⟩
    · exact h
  unfold renderFloat
  split
  · exact plain_of_all (by decide)
  split
  · split <;> exact plain_of_all (by decide)
  · rename_i hnan hfinite
    rw [Binary64.toText, if_neg hnan]
    refine hsigned _ ?_
    rw [if_neg hfinite]
    split
    · exact plain_of_all (by decide)
    · rw [Text.toChar_ofChars]
      exact plain_write _ _

theorem plain_newLine (level : Nat) : ∀ c ∈ newLine level, Plain c := by
  rw [newLine, List.forall_mem_cons]
  exact ⟨by decide, plain_replicate (by decide) _⟩

mutual

theorem plain_renderAt (level : Nat) : (v : Value) → ∀ c ∈ renderAt level v, Plain c
  | .null => by rw [renderAt]; exact plain_of_all (by decide)
  | .bool b => by rw [renderAt]; cases b <;> exact plain_of_all (by decide)
  | .int n => by rw [renderAt]; exact plain_ofInt n
  | .float x => by rw [renderAt]; exact plain_renderFloat x
  | .text t => by rw [renderAt]; exact plain_renderText t
  | .tag s => by rw [renderAt]; exact plain_renderText s.name
  | .moment m => by rw [renderAt]; exact plain_renderText m.toText
  | .list [] => by rw [renderAt]; exact plain_of_all (by decide)
  | .list (v :: vs) => by
      have hv := plain_renderAt (level + 1) v
      have hvs := plain_renderItems (level + 1) vs
      simp only [renderAt, List.cons_append, List.forall_mem_cons, List.forall_mem_append,
        and_assoc]
      exact ⟨by decide, plain_newLine _, hv, hvs, plain_newLine _, by decide, List.forall_mem_nil _⟩
  | .object [] => by rw [renderAt]; exact plain_of_all (by decide)
  | .object ((k, v) :: fields) => by
      have hv := plain_renderAt (level + 1) v
      have hfields := plain_renderFields (level + 1) fields
      simp only [renderAt, List.cons_append, List.forall_mem_cons, List.forall_mem_append,
        and_assoc]
      exact ⟨by decide, plain_newLine _, plain_renderText k, by decide, by decide, hv, hfields,
        plain_newLine _, by decide, List.forall_mem_nil _⟩

theorem plain_renderItems (level : Nat) : (vs : List Value) → ∀ c ∈ renderItems level vs, Plain c
  | [] => List.forall_mem_nil _
  | v :: vs => by
      have hv := plain_renderAt level v
      have hvs := plain_renderItems level vs
      simp only [renderItems, List.cons_append, List.forall_mem_cons, List.forall_mem_append,
        and_assoc]
      exact ⟨by decide, plain_newLine _, hv, hvs⟩

theorem plain_renderFields (level : Nat) :
    (fields : List (Text × Value)) → ∀ c ∈ renderFields level fields, Plain c
  | [] => List.forall_mem_nil _
  | (k, v) :: fields => by
      have hv := plain_renderAt level v
      have hfields := plain_renderFields level fields
      simp only [renderFields, List.cons_append, List.forall_mem_cons, List.forall_mem_append,
        and_assoc]
      exact ⟨by decide, plain_newLine _, plain_renderText k, by decide, by decide, hv, hfields⟩

end

/-- Whatever value is printed, its text is plain. -/
theorem plain_render (v : Value) : ∀ c ∈ render v, Plain c := plain_renderAt 0 v

end PropertyTyping.Json

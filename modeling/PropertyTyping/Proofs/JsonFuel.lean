import PropertyTyping.Proofs.JsonLexicon

/-! How much work reading takes. The readers do not depend on the bound of their work once it covers
the text that is left: two for each character, and one or two more. So no text is refused because
the bound was met. -/

namespace PropertyTyping.Json

/-- What is done next counts only for what was read. -/
theorem bind_congr_of_ok {ε α β : Type} {x : Except ε α} {next next' : α → Except ε β}
    (h : ∀ a, x = .ok a → next a = next' a) : x >>= next = x >>= next' := by
  cases x with
  | error e => rfl
  | ok a => exact h a rfl

variable {cs left : List Char}

theorem Passes.length_le {z : Zone} (h : Passes z cs left) : left.length ≤ cs.length := by
  obtain ⟨used, rfl, _⟩ := h
  exact (List.length_append ▸ Nat.le_add_left ..)

theorem length_skipBlanks_le (cs : List Char) : (skipBlanks cs).length ≤ cs.length :=
  (passes_skipBlanks cs).length_le

/-- The readers read the same with a fuel as with any other, if both cover the text. -/
structure Covering (n : Nat) : Prop where
  value : ∀ {m room : Nat} {cs : List Char}, 2 * cs.length + 1 ≤ n → 2 * cs.length + 1 ≤ m →
    Json.value room n cs = Json.value room m cs
  items : ∀ {m room : Nat} {cs : List Char}, 2 * cs.length + 2 ≤ n → 2 * cs.length + 2 ≤ m →
    Json.items room n cs = Json.items room m cs
  members : ∀ {m room : Nat} {cs : List Char}, 2 * cs.length + 2 ≤ n → 2 * cs.length + 2 ≤ m →
    Json.members room n cs = Json.members room m cs

namespace Covering

variable {n m room : Nat}

/-- The opening of a collection leaves the text shorter by one. -/
theorem value_succ (h : Covering n) (hn : 2 * cs.length ≤ n) (hm : 2 * cs.length ≤ m) :
    Json.value room (n + 1) cs = Json.value room (m + 1) cs := by
  rw [Json.value.eq_def, Json.value.eq_def]
  simp only
  split
  · rfl
  · rename_i rest
    have hlength := length_skipBlanks_le rest
    rw [List.length_cons] at hn hm
    split
    · rfl
    · split
      · rfl
      · rw [h.items (m := m) (by omega) (by omega)]
  · rename_i rest
    have hlength := length_skipBlanks_le rest
    rw [List.length_cons] at hn hm
    split
    · rfl
    · split
      · rfl
      · rw [h.members (m := m) (by omega) (by omega)]
  · rfl

/-- The first item is read from the same text, and what is behind its comma is shorter. -/
theorem items_succ (h : Covering n) (hn : 2 * cs.length + 1 ≤ n) (hm : 2 * cs.length + 1 ≤ m) :
    Json.items room (n + 1) cs = Json.items room (m + 1) cs := by
  rw [Json.items, Json.items, ← h.value (m := m) hn hm]
  refine bind_congr_of_ok ?_
  rintro ⟨v, rest⟩ hv
  have hrest := ((passing n).value hv).length_le
  have hblank := length_skipBlanks_le rest
  simp only
  split
  · rfl
  · rename_i behind hskip
    have hbehind := length_skipBlanks_le behind
    rw [hskip, List.length_cons] at hblank
    rw [h.items (m := m) (by omega) (by omega)]
  · rfl

/-- The name of a field is read already where its value is, and all is shorter there. -/
theorem members_succ (h : Covering n) (hn : 2 * cs.length + 1 ≤ n) (hm : 2 * cs.length + 1 ≤ m) :
    Json.members room (n + 1) cs = Json.members room (m + 1) cs := by
  rw [Json.members.eq_def, Json.members.eq_def]
  simp only
  split
  · rename_i opened
    rw [List.length_cons] at hn hm
    refine bind_congr_of_ok ?_
    rintro ⟨key, named⟩ hkey
    have hnamed := (passes_string hkey).length_le
    have hblank := length_skipBlanks_le named
    simp only
    split
    · rename_i behind hskip
      have hbehind := length_skipBlanks_le behind
      rw [hskip, List.length_cons] at hblank
      rw [← h.value (m := m) (by omega) (by omega)]
      refine bind_congr_of_ok ?_
      rintro ⟨v, rest⟩ hv
      have hrest := ((passing n).value hv).length_le
      have hblank' := length_skipBlanks_le rest
      simp only
      split
      · rfl
      · rename_i next hskip'
        have hnext := length_skipBlanks_le next
        rw [hskip', List.length_cons] at hblank'
        rw [h.members (m := m) (by omega) (by omega)]
      · rfl
    · rfl
  · rfl

end Covering

theorem covering (n : Nat) : Covering n := by
  induction n with
  | zero => exact ⟨fun h => by omega, fun h => by omega, fun h => by omega⟩
  | succ n ih =>
      refine ⟨?_, ?_, ?_⟩
      · intro m room cs hn hm
        cases m with
        | zero => omega
        | succ m => exact ih.value_succ (by omega) (by omega)
      · intro m room cs hn hm
        cases m with
        | zero => omega
        | succ m => exact ih.items_succ (by omega) (by omega)
      · intro m room cs hn hm
        cases m with
        | zero => omega
        | succ m => exact ih.members_succ (by omega) (by omega)

/-- Reading a document does not depend on the bound of the work, for any bound that is no less than
the one that is taken. -/
theorem document_eq_of_le {fuel : Nat} (h : 2 * cs.length + 2 ≤ fuel)
    (hmark : ∀ rest, cs ≠ '\uFEFF' :: rest) : document cs = (do
      let (v, rest) ← value nestingLimit fuel (skipBlanks cs)
      match skipBlanks rest with
      | [] => return v
      | rest => fault .extraData rest) := by
  have hblank := length_skipBlanks_le cs
  have hdocument := document.eq_2 cs hmark
  rw [(covering _).value (m := fuel) (by omega) (by omega)] at hdocument
  exact hdocument

end PropertyTyping.Json

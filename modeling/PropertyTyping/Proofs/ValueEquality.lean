import Mathlib.Data.List.Forall2
import Mathlib.Data.List.Perm.Subperm
import PropertyTyping.Value.Equality
import PropertyTyping.Value.Misuse

/-! Equality of values as an equivalence. What is no collection has a key and is equal to what has
the same key; lists are equal item by item and objects key by key. Only a number that is none and a
key that occurs twice could spoil this. -/

namespace PropertyTyping.Value

/-- What a value that is no collection is compared by. -/
inductive Key where
  | null
  | moment (m : Moment)
  | text (t : Text)
  | number (n : NumberKey)
  deriving DecidableEq

/-- The key of a value. Collections have none, nor has a number that is none. -/
def key? : Value → Option Key
  | null => some .null
  | moment m => some (.moment m)
  | text t => some (.text t)
  | tag s => some (.text s.name)
  | v => v.number?.map .number

/-- Where each key occurs once, every field is the field of its key. -/
theorem field?_of_mem {fields : List (Text × Value)} (hn : (fields.map (·.1)).Nodup)
    {f : Text × Value} (h : f ∈ fields) : field? f.1 fields = some f.2 := by
  induction fields with
  | nil => cases h
  | cons g fields ih =>
      obtain ⟨hg, hn⟩ := List.nodup_cons.mp hn
      rcases List.mem_cons.mp h with rfl | h
      · simp [field?]
      · have hne : g.1 ≠ f.1 := by
          intro he
          exact hg (List.mem_map.mpr ⟨f, h, he.symm⟩)
        rw [← ih hn h]
        simp [field?, hne]

end PropertyTyping.Value

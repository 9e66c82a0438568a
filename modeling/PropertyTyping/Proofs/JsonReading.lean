import Mathlib.Data.List.TakeWhile
import PropertyTyping.Proofs.JsonText

/-! Whole JSON documents: what is printed for a value is read back as that value, its surrogate
pairs joined. Only fractions are left aside. -/

namespace PropertyTyping

theorem Text.toChar_ofChars (cs : List Char) : (ofChars cs).map CodePoint.toChar = cs := by
  rw [ofChars, List.map_map]
  exact List.map_id cs

namespace Json

/-- The characters behind a number do not go on with it. -/
def Ends (rest : List Char) : Prop :=
  ∀ c ∈ rest.head?, Digits.isDecimal c = false ∧ c ≠ '.' ∧ c ≠ 'e' ∧ c ≠ 'E'

variable {rest : List Char}

theorem Ends.fractionPart (h : Ends rest) : fractionPart rest = ([], rest) := by
  cases rest with
  | nil => rfl
  | cons c rest =>
      rw [Json.fractionPart]
      intro _ he
      obtain ⟨rfl, _⟩ := List.cons.inj he
      exact absurd rfl (h _ rfl).2.1

theorem Ends.exponentPart (h : Ends rest) : exponentPart rest = (none, rest) := by
  cases rest with
  | nil => rfl
  | cons c rest =>
      have hc := (h c rfl).2.2
      rw [Json.exponentPart, if_neg (not_or.mpr hc)]

theorem span_digits {ds : List Char} (hd : ∀ d ∈ ds, Digits.isDecimal d) (h : Ends rest) :
    (ds ++ rest).takeWhile Digits.isDecimal = ds ∧
      (ds ++ rest).dropWhile Digits.isDecimal = rest := by
  induction ds with
  | nil =>
      cases rest with
      | nil => exact ⟨rfl, rfl⟩
      | cons c rest =>
          have hc := (h c rfl).1
          exact ⟨List.takeWhile_cons_of_neg (by rw [hc]; exact Bool.false_ne_true),
            List.dropWhile_cons_of_neg (by rw [hc]; exact Bool.false_ne_true)⟩
  | cons d ds ih =>
      obtain ⟨htake, hdrop⟩ := ih fun e he => hd e (List.mem_cons_of_mem d he)
      have hd := hd d List.mem_cons_self
      refine ⟨?_, ?_⟩
      · rw [List.cons_append, List.takeWhile_cons_of_pos hd, htake]
      · rw [List.cons_append, List.dropWhile_cons_of_pos hd, hdrop]

/-- The digits of a number are the whole part of what begins with them. -/
theorem wholePart?_toDigits (n : Nat) (h : Ends rest) :
    wholePart? (Nat.toDigits 10 n ++ rest) = some (Nat.toDigits 10 n, rest) := by
  have hd : ∀ d ∈ Nat.toDigits 10 n, Digits.isDecimal d := fun _ => Digits.isDecimal_of_mem
  obtain ⟨htake, hdrop⟩ := span_digits hd h
  cases hn : Nat.toDigits 10 n with
  | nil => exact absurd hn Nat.toDigits_ne_nil
  | cons d ds =>
      by_cases h0 : d = '0'
      · subst h0
        have hz := Digits.toDigits_head hn
        rw [hz, Nat.toDigits_zero] at hn
        obtain ⟨_, rfl⟩ := List.cons.inj hn
        rfl
      · rw [hn] at htake hdrop
        rw [List.cons_append] at htake hdrop ⊢
        rw [wholePart?, htake, hdrop]
        · rfl
        · intro es he
          exact absurd (List.cons.inj he).1 h0

/-- What is read for a number that was printed: digits beyond the limit are refused. -/
def rereadInt (n : Int) : Except Halt Value :=
  let digits := (Nat.toDigits 10 n.natAbs).length
  if Digits.limit < digits then .error (.longInteger digits) else .ok (.int n)

theorem numberOfParts_toDigits (negative : Bool) (n : Nat) :
    numberOfParts negative (Nat.toDigits 10 n) [] none =
      rereadInt (Digits.signed negative n) := by
  have hs : (Digits.signed negative n).natAbs = n := by
    cases negative with
    | false => rfl
    | true => exact Int.natAbs_neg n
  have hp : ([] : List Char).isEmpty ∧ (none : Option Int).isNone := ⟨rfl, rfl⟩
  rw [numberOfParts, if_pos hp, rereadInt, hs, Digits.decimal,
    Digits.number_toDigits (by decide) (by decide)]

/-- A number begins with a digit or with a minus sign before one. -/
theorem head_toDigits (n : Nat) :
    ∃ d ds, Nat.toDigits 10 n = d :: ds ∧ Digits.isDecimal d := by
  cases h : Nat.toDigits 10 n with
  | nil => exact absurd h Nat.toDigits_ne_nil
  | cons d ds =>
      have hd : d ∈ Nat.toDigits 10 n := by
        rw [h]
        exact List.mem_cons_self
      exact ⟨d, ds, rfl, Digits.isDecimal_of_mem hd⟩

theorem number_ofInt (n : Int) (h : Ends rest) :
    number ((Text.ofInt n).map CodePoint.toChar ++ rest) = (rereadInt n).map (·, rest) := by
  cases n with
  | ofNat m =>
      have hn : Digits.signed false m = Int.ofNat m := rfl
      have hw := wholePart?_toDigits m h
      rw [Text.ofInt, Text.ofNat, Text.toChar_ofChars, ← hn, ← numberOfParts_toDigits]
      unfold number
      split
      rename_i negative body hb
      split at hb
      · rename_i he
        obtain ⟨d, ds, hd, hdec⟩ := head_toDigits m
        rw [hd] at he
        rw [(List.cons.inj he).1] at hdec
        exact absurd hdec (by decide)
      · obtain ⟨rfl, rfl⟩ := Prod.mk.inj hb
        rw [hw]
        simp only [h.fractionPart, h.exponentPart]
        cases numberOfParts false (Nat.toDigits 10 m) [] none <;> rfl
  | negSucc m =>
      have hn : Digits.signed true (m + 1) = Int.negSucc m := rfl
      have hw := wholePart?_toDigits (m + 1) h
      rw [Text.ofInt, Text.ofNat, List.map_cons, Text.toChar_ofChars, ← hn,
        ← numberOfParts_toDigits, List.cons_append]
      unfold number
      simp only [CodePoint.toChar, hw, h.fractionPart, h.exponentPart]
      cases numberOfParts true (Nat.toDigits 10 (m + 1)) [] none <;> rfl

theorem word?_eq_none {d : Char} {cs : List Char} (h : Digits.isDecimal d) :
    word? (d :: cs) = none ∧ word? ('-' :: d :: cs) = none := by
  have key : ∀ c : Char, Digits.isDecimal c = false → (c == d) = false := by
    intro c hc
    rw [beq_eq_false_iff_ne]
    rintro rfl
    rw [hc] at h
    cases h
  have hn := key 'n' (by decide)
  have ht := key 't' (by decide)
  have hf := key 'f' (by decide)
  have hN := key 'N' (by decide)
  have hI := key 'I' (by decide)
  have hm := key '-' (by decide)
  constructor
  · simp [word?, words, List.find?, List.isPrefixOf, hn, ht, hf, hN, hI, hm]
  · simp [word?, words, List.find?, List.isPrefixOf, hI]

mutual

/-- The value that is read where a value was printed. -/
def rejoined : Value → Value
  | .text t => .text (joinSurrogates t)
  | .tag s => .text (joinSurrogates s.name)
  | .moment m => .text (joinSurrogates m.toText)
  | .list vs => .list (rejoinedItems vs)
  | .object fields => .object (rejoinedFields fields)
  | v => v

def rejoinedItems : List Value → List Value
  | [] => []
  | v :: vs => rejoined v :: rejoinedItems vs

def rejoinedFields : List (Text × Value) → List (Text × Value)
  | [] => []
  | (k, v) :: fields => (joinSurrogates k, rejoined v) :: rejoinedFields fields

end

/-- A value without fractions, with collections inside each other up to a depth, with integers of
not too many digits, and with objects whose keys stay apart when they are read. -/
inductive Fits : Nat → Value → Prop
  | null {room} : Fits room .null
  | bool {room} (b : Bool) : Fits room (.bool b)
  | int {room} {n : Int} : (Nat.toDigits 10 n.natAbs).length ≤ Digits.limit → Fits room (.int n)
  | text {room} (t : Text) : Fits room (.text t)
  | tag {room} (s : StorageType) : Fits room (.tag s)
  | moment {room} (m : Moment) : Fits room (.moment m)
  | list {room vs} : (∀ v ∈ vs, Fits room v) → Fits (room + 1) (.list vs)
  | object {room fields} : (∀ f ∈ fields, Fits room f.2) →
      (fields.map fun f => joinSurrogates f.1).Nodup → Fits (room + 1) (.object fields)

/-- Characters that are neither blank, nor close a collection, nor mark the byte order. -/
def Opens (c : Char) : Prop := isBlank c = false ∧ c ≠ ']' ∧ c ≠ '\uFEFF'

instance (c : Char) : Decidable (Opens c) := inferInstanceAs (Decidable (_ ∧ _))

theorem opens_of_digit {d : Char} (h : Digits.isDecimal d) : Opens d := by
  refine ⟨Bool.eq_false_iff.mpr fun hb => ?_, ?_, ?_⟩
  · simp only [isBlank, Bool.or_eq_true, beq_iff_eq] at hb
    rcases hb with ((rfl | rfl) | rfl) | rfl <;> exact absurd h (by decide)
  · rintro rfl
    exact absurd h (by decide)
  · rintro rfl
    exact absurd h (by decide)

theorem head_ofInt (n : Int) :
    ∃ c cs, (Text.ofInt n).map CodePoint.toChar = c :: cs ∧ Opens c := by
  cases n with
  | ofNat m =>
      obtain ⟨d, ds, hd, hdec⟩ := head_toDigits m
      refine ⟨d, ds, ?_, opens_of_digit hdec⟩
      rw [Text.ofInt, Text.ofNat, Text.toChar_ofChars, hd]
  | negSucc m => exact ⟨_, _, rfl, by decide⟩

theorem head_renderAt {room : Nat} {v : Value} (h : Fits room v) (level : Nat) :
    ∃ c cs, renderAt level v = c :: cs ∧ Opens c := by
  cases h with
  | null => exact ⟨_, _, rfl, by decide⟩
  | bool b => cases b <;> exact ⟨_, _, rfl, by decide⟩
  | int _ => exact head_ofInt _
  | text t => exact ⟨_, _, rfl, by decide⟩
  | tag s => exact ⟨_, _, rfl, by decide⟩
  | moment m => exact ⟨_, _, rfl, by decide⟩
  | @list _ vs _ => cases vs <;> exact ⟨_, _, rfl, by decide⟩
  | @object _ fields _ => cases fields <;> exact ⟨_, _, rfl, by decide⟩

/-- A number is read where neither a string, nor a collection, nor a word begins. -/
theorem value_of_digit {d : Char} (h : Digits.isDecimal d) (room fuel : Nat) (cs : List Char) :
    value room (fuel + 1) (d :: cs) = number (d :: cs) ∧
      value room (fuel + 1) ('-' :: d :: cs) = number ('-' :: d :: cs) := by
  have key : ∀ c : Char, Digits.isDecimal c = false → ∀ es, d :: cs = c :: es → False := by
    intro c hc es he
    rw [(List.cons.inj he).1, hc] at h
    cases h
  constructor
  · rw [value]
    · rw [(word?_eq_none h).1]
    · exact key '"' (by decide)
    · exact key '[' (by decide)
    · exact key '\x7b' (by decide)
  · rw [value]
    · rw [(word?_eq_none h).2]
    · nofun
    · nofun
    · nofun

theorem value_ofInt (n : Int) (h : Ends rest) (room fuel : Nat) :
    value room (fuel + 1) ((Text.ofInt n).map CodePoint.toChar ++ rest) =
      (rereadInt n).map (·, rest) := by
  rw [← number_ofInt n h]
  cases n with
  | ofNat m =>
      obtain ⟨d, ds, hd, hdec⟩ := head_toDigits m
      rw [Text.ofInt, Text.ofNat, Text.toChar_ofChars, hd]
      exact (value_of_digit hdec room fuel _).1
  | negSucc m =>
      obtain ⟨d, ds, hd, hdec⟩ := head_toDigits (m + 1)
      rw [Text.ofInt, List.map_cons, Text.ofNat, Text.toChar_ofChars, hd]
      exact (value_of_digit hdec room fuel _).2

theorem renderText_append (t : Text) (rest : List Char) :
    renderText t ++ rest = '"' :: (t.flatMap escape ++ '"' :: rest) := by
  rw [renderText, List.cons_append, List.cons_append, List.append_assoc, List.singleton_append]

theorem value_text (t : Text) (room fuel : Nat) :
    value room (fuel + 1) (renderText t ++ rest) = .ok (.text (joinSurrogates t), rest) := by
  rw [renderText_append, value, string_renderText]
  rfl

theorem skipBlanks_cons {c : Char} {cs : List Char} (h : isBlank c = false) :
    skipBlanks (c :: cs) = c :: cs :=
  List.dropWhile_cons_of_neg (by rw [h]; exact Bool.false_ne_true)

theorem skipBlanks_newLine {c : Char} {cs : List Char} (h : isBlank c = false) (level : Nat) :
    skipBlanks (newLine level ++ c :: cs) = c :: cs := by
  have hb : ∀ k, skipBlanks (List.replicate k ' ' ++ c :: cs) = c :: cs := by
    intro k
    induction k with
    | zero => exact skipBlanks_cons h
    | succ k ih => exact ih
  exact hb (2 * level)

theorem skipBlanks_render {room : Nat} {v : Value} (h : Fits room v) {level : Nat} :
    skipBlanks (newLine level ++ (renderAt level v ++ rest)) = renderAt level v ++ rest := by
  obtain ⟨c, cs, hc, hb, _⟩ := head_renderAt h level
  rw [hc]
  exact skipBlanks_newLine hb level

/-- A printed value is read wherever it stands, with as much fuel as it has characters. -/
def ReadsBack (room : Nat) (v : Value) : Prop :=
  ∀ (level fuel : Nat) (rest : List Char), Ends rest → (renderAt level v).length ≤ fuel →
    value room fuel (renderAt level v ++ rest) = .ok (rejoined v, rest)

theorem ends_comma (cs : List Char) : Ends (',' :: cs) := by
  rintro _ ⟨⟩
  decide

theorem ends_newLine (level : Nat) (cs : List Char) : Ends (newLine level ++ cs) := by
  rintro _ ⟨⟩
  decide

/-- The items of a list up to its closing bracket. What stands behind an item is a comma with the
next one, or the line of the bracket. -/
theorem items_render {room : Nat} (level fuel : Nat) (rest : List Char) {v : Value}
    {vs : List Value} (hfits : ∀ w ∈ v :: vs, Fits room w)
    (hreads : ∀ w ∈ v :: vs, ReadsBack room w)
    (hfuel : (renderAt (level + 1) v).length + (renderItems (level + 1) vs).length < fuel) :
    items room fuel (renderAt (level + 1) v ++ (renderItems (level + 1) vs ++
      (newLine level ++ ']' :: rest))) = .ok (rejoinedItems (v :: vs), rest) := by
  induction vs generalizing v fuel with
  | nil =>
      obtain ⟨fuel, rfl⟩ : ∃ m, fuel = m + 1 := ⟨fuel - 1, by omega⟩
      have hv := hreads v List.mem_cons_self (level + 1) fuel (newLine level ++ ']' :: rest)
        (ends_newLine level _) (by omega)
      rw [renderItems, List.nil_append, items, hv]
      simp only [bind, Except.bind]
      rw [skipBlanks_newLine (by decide)]
      rfl
  | cons w vs ih =>
      obtain ⟨fuel, rfl⟩ : ∃ m, fuel = m + 1 := ⟨fuel - 1, by omega⟩
      have hlen : (renderItems (level + 1) (w :: vs)).length =
          2 + 2 * (level + 1) + (renderAt (level + 1) w).length +
            (renderItems (level + 1) vs).length := by
        simp only [renderItems, newLine, List.length_cons, List.length_append,
          List.length_replicate]
        omega
      have hv := hreads v List.mem_cons_self (level + 1) fuel
        (renderItems (level + 1) (w :: vs) ++ (newLine level ++ ']' :: rest))
        (ends_comma _) (by omega)
      have hw : Fits room w := hfits w (List.mem_cons_of_mem v List.mem_cons_self)
      have hvs := ih fuel (fun x hx => hfits x (List.mem_cons_of_mem v hx))
        (fun x hx => hreads x (List.mem_cons_of_mem v hx)) (by omega)
      have hcomma : renderItems (level + 1) (w :: vs) ++ (newLine level ++ ']' :: rest) =
          ',' :: (newLine (level + 1) ++ (renderAt (level + 1) w ++
            (renderItems (level + 1) vs ++ (newLine level ++ ']' :: rest)))) := by
        simp only [renderItems, List.cons_append, List.append_assoc]
      rw [items, hv, hcomma]
      simp only [bind, Except.bind]
      rw [skipBlanks_cons (by decide)]
      simp only
      rw [skipBlanks_render hw, hvs]
      rfl

/-- The key of a field is read before its value, which stands behind a colon and a blank. -/
theorem members_cons {room fuel : Nat} {k : Text} {cs : List Char} :
    members room (fuel + 1) (renderText k ++ ':' :: ' ' :: cs) =
      (do
        let (v, rest) ← value room fuel (skipBlanks cs)
        match skipBlanks rest with
        | '\x7d' :: left => return ([(joinSurrogates k, v)], left)
        | ',' :: rest =>
          let (fields, left) ← members room fuel (skipBlanks rest)
          return ((joinSurrogates k, v) :: fields, left)
        | rest => fault .comma rest) := by
  rw [renderText_append, members, string_renderText]
  rfl

/-- The next field stands behind a comma on a line of its own. -/
theorem members_comma {room fuel level : Nat} {k l : Text} {v : Value} {c : Char}
    {cs more : List Char} (hc : isBlank c = false)
    (h : value room fuel (c :: cs) = .ok (v, ',' :: (newLine level ++ (renderText l ++ more)))) :
    members room (fuel + 1) (renderText k ++ ':' :: ' ' :: c :: cs) =
      (members room fuel (renderText l ++ more)).map fun p =>
        ((joinSurrogates k, v) :: p.1, p.2) := by
  have hskip : skipBlanks (newLine level ++ (renderText l ++ more)) = renderText l ++ more :=
    skipBlanks_newLine (by decide) level
  rw [members_cons, skipBlanks_cons hc, h]
  change members room fuel (skipBlanks (newLine level ++ (renderText l ++ more))) >>= _ = _
  rw [hskip]
  cases members room fuel (renderText l ++ more) <;> rfl

/-- The fields of an object up to its closing brace, likewise. -/
theorem members_render {room : Nat} (level fuel : Nat) (rest : List Char) {k : Text}
    {v : Value} {fields : List (Text × Value)} (hfits : ∀ f ∈ (k, v) :: fields, Fits room f.2)
    (hreads : ∀ f ∈ (k, v) :: fields, ReadsBack room f.2)
    (hfuel : (renderAt (level + 1) v).length + (renderFields (level + 1) fields).length < fuel) :
    members room fuel (renderText k ++ ':' :: ' ' :: (renderAt (level + 1) v ++
      (renderFields (level + 1) fields ++ (newLine level ++ '\x7d' :: rest)))) =
      .ok (rejoinedFields ((k, v) :: fields), rest) := by
  induction fields generalizing k v fuel with
  | nil =>
      obtain ⟨fuel, rfl⟩ : ∃ m, fuel = m + 1 := ⟨fuel - 1, by omega⟩
      have hfit : Fits room v := hfits (k, v) List.mem_cons_self
      have hread : ReadsBack room v := hreads (k, v) List.mem_cons_self
      obtain ⟨c, cs, hc, hb, _⟩ := head_renderAt hfit (level + 1)
      have hv := hread (level + 1) fuel (newLine level ++ '\x7d' :: rest)
        (ends_newLine level _) (by omega)
      rw [renderFields, List.nil_append]
      rw [hc, List.cons_append] at hv ⊢
      rw [members_cons, skipBlanks_cons hb, hv]
      simp only [bind, Except.bind]
      rw [skipBlanks_newLine (by decide)]
      rfl
  | cons f fields ih =>
      obtain ⟨l, w⟩ := f
      obtain ⟨fuel, rfl⟩ : ∃ m, fuel = m + 1 := ⟨fuel - 1, by omega⟩
      have hlen : (renderFields (level + 1) ((l, w) :: fields)).length =
          4 + 2 * (level + 1) + (renderText l).length + (renderAt (level + 1) w).length +
            (renderFields (level + 1) fields).length := by
        simp only [renderFields, newLine, List.length_cons, List.length_append,
          List.length_replicate]
        omega
      have hfit : Fits room v := hfits (k, v) List.mem_cons_self
      have hread : ReadsBack room v := hreads (k, v) List.mem_cons_self
      obtain ⟨c, cs, hc, hb, _⟩ := head_renderAt hfit (level + 1)
      have hv := hread (level + 1) fuel
        (renderFields (level + 1) ((l, w) :: fields) ++ (newLine level ++ '\x7d' :: rest))
        (ends_comma _) (by omega)
      have hcomma : renderFields (level + 1) ((l, w) :: fields) ++
            (newLine level ++ '\x7d' :: rest) =
          ',' :: (newLine (level + 1) ++ (renderText l ++ ':' :: ' ' :: (renderAt (level + 1) w ++
            (renderFields (level + 1) fields ++ (newLine level ++ '\x7d' :: rest))))) := by
        simp only [renderFields, List.cons_append, List.append_assoc]
      have hfields := ih fuel (fun x hx => hfits x (List.mem_cons_of_mem _ hx))
        (fun x hx => hreads x (List.mem_cons_of_mem _ hx)) (by omega)
      rw [hcomma, hc, List.cons_append] at hv ⊢
      rw [members_comma hb hv, hfields]
      rfl

/-- An object that is not empty is read by its fields. -/
theorem value_object {room fuel level : Nat} {k : Text} {cs : List Char} :
    value (room + 1) (fuel + 1) ('\x7b' :: (newLine level ++ (renderText k ++ cs))) =
      (members room fuel (renderText k ++ cs)).map fun p => (Value.ofFields p.1, p.2) := by
  have hskip : skipBlanks (newLine level ++ (renderText k ++ cs)) = renderText k ++ cs :=
    skipBlanks_newLine (by decide) level
  rw [value, if_neg (Nat.succ_ne_zero room), hskip, renderText_append, Nat.add_sub_cancel]
  split
  · rename_i he
    exact absurd (List.cons.inj he).1 (by decide)
  · cases members room fuel _ <;> rfl

/-- Fields of different keys make an object of just these fields: each comes last in turn. -/
theorem ofFields_eq_object {fields : List (Text × Value)} (h : (fields.map (·.1)).Nodup) :
    Value.ofFields fields = .object fields := by
  have step : ∀ seen : List (Text × Value), ((seen ++ fields).map (·.1)).Nodup →
      fields.foldl (fun fs f => Value.setField fs f.1 f.2) seen = seen ++ fields := by
    clear h
    induction fields with
    | nil => intro seen _; exact (List.append_nil seen).symm
    | cons f fields ih =>
        intro seen hn
        have hnew : seen.any (fun g => decide (g.1 = f.1)) = false := by
          rw [List.any_eq_false]
          intro g hg he
          rw [List.map_append, List.map_cons, List.nodup_append] at hn
          exact hn.2.2 _ (List.mem_map_of_mem hg) _ List.mem_cons_self (of_decide_eq_true he)
        rw [List.foldl_cons, Value.setField, hnew, if_neg Bool.false_ne_true,
          ih _ (by rw [List.append_assoc]; exact hn), List.append_assoc]
        rfl
  exact congrArg Value.object (step [] h)

theorem rejoinedFields_keys (fields : List (Text × Value)) :
    (rejoinedFields fields).map (·.1) = fields.map fun f => joinSurrogates f.1 := by
  induction fields with
  | nil => rfl
  | cons f fields ih => rw [rejoinedFields, List.map_cons, List.map_cons, ih]

/-- A printed value has a character, so that there is fuel for a step. -/
theorem ReadsBack.of_step {room : Nat} {v : Value} (h : Fits room v)
    (hstep : ∀ (level fuel : Nat) (rest : List Char), Ends rest →
      (renderAt level v).length ≤ fuel + 1 →
        value room (fuel + 1) (renderAt level v ++ rest) = .ok (rejoined v, rest)) :
    ReadsBack room v := by
  intro level fuel rest hrest hfuel
  obtain ⟨c, cs, hc, _⟩ := head_renderAt h level
  cases fuel with
  | zero =>
      rw [hc] at hfuel
      exact absurd hfuel (Nat.not_succ_le_zero _)
  | succ fuel => exact hstep level fuel rest hrest hfuel

/-- What fits into the room that is left is read back. -/
theorem readsBack {room : Nat} {v : Value} (h : Fits room v) : ReadsBack room v := by
  induction h with
  | null => exact .of_step .null fun _ _ _ _ _ => rfl
  | bool b => exact .of_step (.bool b) fun _ _ _ _ _ => by cases b <;> rfl
  | @int _ n h =>
      refine .of_step (.int h) fun level fuel rest hrest _ => ?_
      have hr : rereadInt n = .ok (.int n) := if_neg (Nat.not_lt.mpr h)
      rw [renderAt, value_ofInt n hrest, hr]
      rfl
  | text t => exact .of_step (.text t) fun _ fuel _ _ _ => value_text t _ fuel
  | tag s => exact .of_step (.tag s) fun _ fuel _ _ _ => value_text s.name _ fuel
  | moment m => exact .of_step (.moment m) fun _ fuel _ _ _ => value_text m.toText _ fuel
  | @list room vs h ih =>
      refine .of_step (.list h) fun level fuel rest _ hfuel => ?_
      cases vs with
      | nil => rfl
      | cons v vs =>
          rw [renderAt] at hfuel ⊢
          simp only [List.length_cons, List.length_append, newLine] at hfuel
          obtain ⟨c, cs, hc, _, hne, _⟩ := head_renderAt (h v List.mem_cons_self) (level + 1)
          have hitems := items_render level fuel rest h ih (by omega)
          simp only [List.cons_append, List.append_assoc, List.nil_append]
          rw [value, if_neg (Nat.succ_ne_zero room), skipBlanks_render (h v List.mem_cons_self)]
          rw [hc, List.cons_append] at hitems ⊢
          split
          · rename_i he
            exact absurd (List.cons.inj he).1 hne
          · rw [Nat.add_sub_cancel, hitems]
            rfl
  | @object room fields h hk ih =>
      refine .of_step (.object h hk) fun level fuel rest _ hfuel => ?_
      cases fields with
      | nil => rfl
      | cons f fields =>
          obtain ⟨k, v⟩ := f
          rw [renderAt] at hfuel ⊢
          simp only [List.length_cons, List.length_append, newLine] at hfuel
          have hmembers := members_render level fuel rest h ih (by omega)
          have hobject : Value.ofFields (rejoinedFields ((k, v) :: fields)) =
              rejoined (.object ((k, v) :: fields)) := by
            rw [rejoined]
            exact ofFields_eq_object (by rw [rejoinedFields_keys]; exact hk)
          simp only [List.cons_append, List.append_assoc, List.nil_append]
          rw [value_object, hmembers, ← hobject]
          rfl

theorem Ends.of_blank {tail : List Char} (h : ∀ c ∈ tail, isBlank c) : Ends tail := by
  intro c hc
  have hb := h c (List.mem_of_mem_head? hc)
  simp only [isBlank, Bool.or_eq_true, beq_iff_eq] at hb
  rcases hb with ((rfl | rfl) | rfl) | rfl <;> decide

theorem skipBlanks_blank {tail : List Char} (h : ∀ c ∈ tail, isBlank c) : skipBlanks tail = [] :=
  List.dropWhile_eq_nil_iff.mpr h

/-- What is printed for a value is the document of that value, whatever blanks stand behind it. -/
theorem parse_render {v : Value} (h : Fits nestingLimit v) {tail : List Char}
    (htail : ∀ c ∈ tail, isBlank c) : parse (render v ++ tail) = .ok (rejoined v) := by
  obtain ⟨c, cs, hc, hb, _, hmark⟩ := head_renderAt h 0
  have hread : value nestingLimit (2 * (render v ++ tail).length + 2) (render v ++ tail) =
      .ok (rejoined v, tail) :=
    readsBack h 0 _ tail (.of_blank htail) (by rw [List.length_append, render]; omega)
  have hdocument : document (render v ++ tail) = .ok (rejoined v) := by
    rw [document]
    · have hskip : skipBlanks (render v ++ tail) = render v ++ tail := by
        rw [render, hc]
        exact skipBlanks_cons hb
      rw [hskip, hread]
      simp only [bind, Except.bind]
      rw [skipBlanks_blank htail]
      rfl
    · intro es he
      rw [render, hc] at he
      exact hmark (List.cons.inj he).1
  rw [parse, hdocument]

end Json
end PropertyTyping

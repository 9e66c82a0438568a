import PropertyTyping.Proofs.TagFaults

/-! The types that properties receive as a closed language. Whatever the tags are, a type that is
settled is one of nine names, alone or in brackets, and the brackets are there exactly when all of
the tags report one and the same array type. Arrays have no broader type but the string type. -/

namespace PropertyTyping

/-- The names of the language. -/
def scalarNames : List Text :=
  ["Int", "Float", "String", "Boolean", "Date", "DateTime", "LocalTime", "LocalDateTime", "Time"]

theorem Scalar.name_mem (s : Scalar) : (s.name : Text) ∈ scalarNames := by
  cases s <;> decide

theorem append_ne_bracketed {n : Text} (hn : n ∈ scalarNames) (rest inner : Text) :
    n ++ rest ≠ "[" ++ inner := by
  have hhead : ∀ n ∈ scalarNames, n.head?.any (· ≠ .scalar '[') = true := by decide
  intro he
  have h := hhead n hn
  cases n with
  | nil => cases h
  | cons c n =>
      obtain ⟨rfl, _⟩ := List.cons.inj he
      rw [List.head?_cons] at h
      exact absurd h (by decide)

namespace GraphType

theorem render_of_not_required {t : GraphType} (h : t.isRequired = false) :
    t.render = if t.isList then ("[" : Text) ++ t.scalar.name ++ "]" else t.scalar.name := by
  simp only [render, h, Bool.false_eq_true, if_false]

end GraphType

namespace Tag

open Value

theorem equals_iff_text?_right {v u : Value} {t : Text} (hv : v.text? = some t) :
    u.equals v = true ↔ u.text? = some t := by
  cases v with
  | text s =>
      cases hv
      cases u <;> simp [equals, text?, number?]
  | tag s =>
      cases hv
      cases u <;> simp [equals, text?, number?]
  | _ => cases hv

theorem equals_iff_text?_left {v u : Value} {t : Text} (hv : v.text? = some t) :
    v.equals u = true ↔ u.text? = some t := by
  cases hu : u.text? with
  | some s =>
      rw [equals_iff_text?_right hu, hv]
      exact eq_comm
  | none =>
      refine iff_of_false ?_ nofun
      cases v with
      | text s => cases u <;> simp_all [equals, text?, number?]
      | tag s => cases u <;> simp_all [equals, text?, number?]
      | _ => cases hv

theorem storageType?_eq (v : Value) : storageType? v = v.text?.bind StorageType.ofName? := by
  cases v with
  | tag s => exact s.ofName?_name.symm
  | _ => rfl

theorem isArray_congr {v u : Value} (h : v.text? = u.text?) : isArray v = isArray u := by
  rw [isArray, isArray, storageType?_eq, storageType?_eq, h]

theorem exists_text?_of_isArray {v : Value} (h : isArray v = true) : ∃ t, v.text? = some t := by
  cases v with
  | text t => exact ⟨t, rfl⟩
  | tag s => exact ⟨s.name, rfl⟩
  | _ => cases h

theorem isArray_plain (v : Value) : isArray (plain v) = isArray v := by
  cases v <;> exact isArray_congr rfl

theorem isArray_ofPrimitive (p : Primitive) : isArray (ofPrimitive p) = false := by
  cases p <;> decide

theorem isArray_string : isArray string = false := by decide

theorem isArray_of_equals_primitive {v : Value} {p : Primitive}
    (h : v.equals (ofPrimitive p) = true) : isArray v = false := by
  have ht : (ofPrimitive p).text? = some (p.name : Text) := rfl
  rw [isArray_congr (((equals_iff_text?_right ht).mp h).trans ht.symm), isArray_ofPrimitive]

theorem isPresent_of_isArray {v : Value} (h : isArray v = true) : isPresent v = true := by
  cases v with
  | text t =>
      cases t with
      | nil => exact absurd h (by decide)
      | cons c t => rfl
  | tag s => rfl
  | _ => cases h

theorem graphType_isList (v : Value) : (graphType v).isList = isArray v := by
  unfold graphType isArray
  cases storageType? v <;> rfl

theorem isArray_of_equals {a v : Value} (h : a.equals v = true) (hv : isArray v = true) :
    isArray a = true := by
  obtain ⟨t, ht⟩ := exists_text?_of_isArray hv
  rw [isArray_congr (((equals_iff_text?_right ht).mp h).trans ht.symm), hv]

/-- Only scalars have a broader type of their own. -/
theorem scalars_of_widen? {a v w : Value} (h : widen? a v = some w) :
    isArray a = false ∧ isArray v = false := by
  obtain ⟨⟨p, q, _⟩, hfind, _⟩ := Option.map_eq_some_iff.mp h
  have hpair := List.find?_some hfind
  simp only [Bool.or_eq_true, Bool.and_eq_true] at hpair
  rcases hpair with ⟨ha, hv⟩ | ⟨ha, hv⟩
  · exact ⟨isArray_of_equals_primitive ha, isArray_of_equals_primitive hv⟩
  · exact ⟨isArray_of_equals_primitive ha, isArray_of_equals_primitive hv⟩

/-- Two tags that are not equal come to the string type unless both are scalars. -/
theorem unify_of_not_equals {a v w : Value} (ha : Reached a) (hv : isPresent v = true)
    (hne : a.equals v ≠ true) (h : unify a v = .ok w) :
    w = string ∨ (isArray a = false ∧ isArray v = false) ∧ ∃ p, w = ofPrimitive p := by
  rw [unify_reached ha hv, if_neg hne] at h
  split at h
  · exact .inl (Except.ok.inj h).symm
  cases hc : checkHashable [a, plain v] with
  | error m =>
      rw [hc] at h
      cases h
  | ok u =>
      rw [hc] at h
      have hw : (widen? a (plain v)).getD string = w := Except.ok.inj h
      rcases widen?_cases a (plain v) with hnone | ⟨p, hp⟩
      · rw [hnone] at hw
        exact .inl hw.symm
      · have hscalars := scalars_of_widen? hp
        rw [isArray_plain] at hscalars
        rw [hp] at hw
        exact .inr ⟨hscalars, p, hw.symm⟩

/-- Where an array is reached, nothing else was met. -/
theorem foldlM_unify_isArray {a w : Value} (ha : Reached a) {vs : List Value}
    (hvs : ∀ v ∈ vs, isPresent v = true) (h : vs.foldlM unify a = .ok w)
    (hw : isArray w = true) : w = a ∧ ∀ v ∈ vs, a.equals v = true := by
  induction vs generalizing a with
  | nil =>
      cases h
      exact ⟨rfl, nofun⟩
  | cons v vs ih =>
      obtain ⟨hv, hvs⟩ := List.forall_mem_cons.mp hvs
      have hstep := unified_unify ha hv
      rw [List.foldlM_cons] at h
      generalize unify a v = r at hstep h
      cases hstep with
      | equal he =>
          obtain ⟨hwa, hall⟩ := ih ha hvs h
          exact ⟨hwa, List.forall_mem_cons.mpr ⟨he, hall⟩⟩
      | absorbed =>
          obtain ⟨rfl, _⟩ := ih reached_string hvs h
          rw [isArray_string] at hw
          cases hw
      | widened p _ _ =>
          obtain ⟨rfl, _⟩ := ih (reached_ofPrimitive p) hvs h
          rw [isArray_ofPrimitive] at hw
          cases hw
      | refused _ => cases h

/-- An array was reached or is to come, and what is to come is not all equal to what was reached. -/
structure Mixed (reached : Value) (coming : List Value) : Prop where
  array : ∃ u ∈ reached :: coming, isArray u = true
  unequal : ∃ u ∈ coming, reached.equals u ≠ true

theorem Mixed.step {a v b : Value} {vs : List Value} (ha : Reached a) (hv : isPresent v = true)
    (hm : Mixed a (v :: vs)) (h : unify a v = .ok b) : b = string ∨ Reached b ∧ Mixed b vs := by
  obtain ⟨u, hu, harray⟩ := hm.array
  by_cases he : a.equals v = true
  · rw [unify_reached ha hv, if_pos he] at h
    cases h
    refine .inr ⟨ha, ?_, ?_⟩
    · rcases List.mem_cons.mp hu with rfl | hu
      · exact ⟨u, List.mem_cons_self, harray⟩
      rcases List.mem_cons.mp hu with rfl | hu
      · exact ⟨a, List.mem_cons_self, isArray_of_equals he harray⟩
      · exact ⟨u, List.mem_cons_of_mem a hu, harray⟩
    · obtain ⟨w, hw, haw⟩ := hm.unequal
      rcases List.mem_cons.mp hw with rfl | hw
      · exact absurd he haw
      · exact ⟨w, hw, haw⟩
  -- What is widened is no array, so the array is still to come, and no primitive equals it.
  · rcases unify_of_not_equals ha hv he h with hb | ⟨⟨hna, hnv⟩, p, rfl⟩
    · exact .inl hb
    · have hmem : u ∈ vs := by
        rcases List.mem_cons.mp hu with rfl | hu
        · exact absurd harray (Bool.eq_false_iff.mp hna)
        rcases List.mem_cons.mp hu with rfl | hu
        · exact absurd harray (Bool.eq_false_iff.mp hnv)
        · exact hu
      have hne : (ofPrimitive p).equals u ≠ true := by
        intro hpu
        have hp := isArray_of_equals hpu harray
        rw [isArray_ofPrimitive] at hp
        cases hp
      exact .inr ⟨reached_ofPrimitive p, ⟨u, List.mem_cons_of_mem _ hmem, harray⟩, u, hmem, hne⟩

/-- Where an array is met among tags that are not all equal, only the string type is reached. -/
theorem foldlM_unify_mixed {a w : Value} (ha : Reached a) {vs : List Value}
    (hvs : ∀ v ∈ vs, isPresent v = true) (hm : Mixed a vs) (h : vs.foldlM unify a = .ok w) :
    w = string := by
  induction vs generalizing a with
  | nil =>
      obtain ⟨u, hu, _⟩ := hm.unequal
      cases hu
  | cons v vs ih =>
      obtain ⟨hv, hvs⟩ := List.forall_mem_cons.mp hvs
      rw [List.foldlM_cons] at h
      cases hr : unify a v with
      | error m =>
          rw [hr] at h
          cases h
      | ok b =>
          rw [hr] at h
          rcases hm.step ha hv hr with rfl | ⟨hb, hm⟩
          · exact Except.ok.inj (h.symm.trans (foldlM_unify_string hvs))
          · exact ih hb hvs hm h

/-- Tags of one array type: there are some, all of them are equal, and each is an array. -/
structure OneArray (tags : List Value) : Prop where
  ne_nil : tags ≠ []
  equal : ∀ a ∈ tags, ∀ b ∈ tags, a.equals b = true
  array : ∀ a ∈ tags, isArray a = true

theorem oneArray_cons_iff {v : Value} {vs : List Value} :
    OneArray (v :: vs) ↔ isArray v = true ∧ ∀ u ∈ vs, v.equals u = true := by
  constructor
  · intro h
    exact ⟨h.array v List.mem_cons_self, fun u hu =>
      h.equal v List.mem_cons_self u (List.mem_cons_of_mem v hu)⟩
  · rintro ⟨hv, hvs⟩
    obtain ⟨t, ht⟩ := exists_text?_of_isArray hv
    have htexts : ∀ u ∈ v :: vs, u.text? = some t :=
      List.forall_mem_cons.mpr ⟨ht, fun u hu => (equals_iff_text?_left ht).mp (hvs u hu)⟩
    refine ⟨List.cons_ne_nil v vs, ?_, ?_⟩
    · intro a ha b hb
      exact (equals_iff_text?_left (htexts a ha)).mpr (htexts b hb)
    · intro a ha
      rw [isArray_congr ((htexts a ha).trans ht.symm), hv]

theorem unifyAll_isArray_iff {tags : List Value} {w : Value}
    (hp : ∀ v ∈ tags, isPresent v = true) (h : unifyAll tags = .ok w) :
    isArray w = true ↔ OneArray tags := by
  cases tags with
  | nil =>
      cases h
      exact iff_of_false nofun fun h => h.ne_nil rfl
  | cons v vs =>
      rw [oneArray_cons_iff]
      constructor
      · intro hw
        obtain ⟨hv, hvs⟩ := List.forall_mem_cons.mp hp
        obtain ⟨rfl, hall⟩ := foldlM_unify_isArray (reached_plain hv) hvs h hw
        rw [isArray_plain] at hw
        exact ⟨hw, fun u hu => (equals_plain_left v u).symm.trans (hall u hu)⟩
      · rintro ⟨hv, hall⟩
        rw [unifyAll_equal hp hall] at h
        cases h
        rw [isArray_plain, hv]

theorem unifyAll_mixed {tags : List Value} {a b w : Value}
    (hp : ∀ v ∈ tags, isPresent v = true) (ha : a ∈ tags) (harray : isArray a = true)
    (hb : b ∈ tags) (hab : a.equals b ≠ true) (h : unifyAll tags = .ok w) : w = string := by
  cases tags with
  | nil => cases ha
  | cons v vs =>
      obtain ⟨hv, hvs⟩ := List.forall_mem_cons.mp hp
      have hne : ∃ u ∈ vs, v.equals u ≠ true := by
        by_contra hall
        have hequal : ∀ u ∈ vs, v.equals u = true := by simpa using hall
        have hone : OneArray (v :: vs) := by
          refine oneArray_cons_iff.mpr ⟨?_, hequal⟩
          rcases List.mem_cons.mp ha with rfl | ha
          · exact harray
          · exact isArray_of_equals (hequal a ha) harray
        exact hab (hone.equal a ha b hb)
      refine foldlM_unify_mixed (reached_plain hv) hvs ⟨?_, ?_⟩ h
      · rcases List.mem_cons.mp ha with rfl | ha
        · exact ⟨plain a, List.mem_cons_self, (isArray_plain a).trans harray⟩
        · exact ⟨a, List.mem_cons_of_mem _ ha, harray⟩
      · obtain ⟨u, hu, hvu⟩ := hne
        exact ⟨u, hu, (equals_plain_left v u).symm ▸ hvu⟩

end Tag

namespace Resolution

open Tag

/-- What counts as the tags of a value: the items of a list, the code points of a text, the keys of
an object. -/
inductive Observes : Value → List Value → Prop
  | null : Observes .null []
  | list (items : List Value) : Observes (.list items) items
  | text (t : Text) : Observes (.text t) (t.map fun c => .text [c])
  | tag (s : StorageType) : Observes (.tag s) (s.name.map fun c => .text [c])
  | object (fields : List (Text × Value)) :
      Observes (.object fields) (fields.map fun f => .text f.1)

theorem observes_of_ofObserved {v : Value} {mandatory : Bool} {r : Resolution}
    (h : ofObserved v mandatory = .ok r) :
    ∃ tags, Observes v tags ∧ ofTags tags mandatory = .ok r := by
  cases v with
  | null => exact ⟨_, .null, h⟩
  | list items => exact ⟨_, .list items, h⟩
  | text t => exact ⟨_, .text t, h⟩
  | tag s => exact ⟨_, .tag s, h⟩
  | object fields => exact ⟨_, .object fields, h⟩
  | _ => cases h

/-- A tag whose type is the type of all the tags: it is an array exactly if they report one, and
the string type if an array is among tags that are not all equal. -/
structure Settling (tags : List Value) (v : Value) : Prop where
  array : isArray v = true ↔ OneArray (reported tags)
  mixed : ∀ a ∈ reported tags, isArray a = true → ∀ b ∈ reported tags, a.equals b ≠ true →
    v = string

theorem settling_nil : Settling [] .null :=
  ⟨iff_of_false nofun fun h => h.ne_nil rfl, nofun⟩

theorem settling_single (v : Value) : Settling [v] v := by
  by_cases hv : isPresent v = true
  · have hself : reported [v] = [v] := List.filter_cons_of_pos hv
    have hone : isArray v = true ↔ OneArray [v] := by
      rw [oneArray_cons_iff, and_iff_left nofun]
    refine ⟨by rw [hself, hone], ?_⟩
    rw [hself]
    intro a ha harray b hb hab
    rw [List.mem_singleton.mp ha] at harray
    exact absurd ((hone.mp harray).equal a ha b hb) hab
  · have hnone : reported [v] = [] := List.filter_cons_of_neg hv
    refine ⟨?_, ?_⟩
    · rw [hnone]
      exact iff_of_false (fun h => hv (isPresent_of_isArray h)) fun h => h.ne_nil rfl
    · rw [hnone]
      exact nofun

theorem settling_unifyAll {tags : List Value} {w : Value} (h : unifyAll (reported tags) = .ok w) :
    Settling tags w := by
  have hp : ∀ v ∈ reported tags, isPresent v = true := fun _ => isPresent_of_mem
  exact ⟨unifyAll_isArray_iff hp h, fun a ha harray b hb hab =>
    unifyAll_mixed hp ha harray hb hab h⟩

theorem settling_of_ofTags {tags : List Value} {mandatory : Bool} {r : Resolution}
    (h : ofTags tags mandatory = .ok r) :
    ∃ v, Settling tags v ∧ r.type = (graphType v).required mandatory := by
  match tags with
  | [] =>
      cases h
      exact ⟨_, settling_nil, rfl⟩
  | [v] =>
      cases h
      exact ⟨v, settling_single v, rfl⟩
  | a :: b :: tags =>
      have hl : 2 ≤ (a :: b :: tags).length := Nat.le_add_left 2 tags.length
      rw [ofTags_several hl] at h
      cases hu : unifyAll (reported (a :: b :: tags)) with
      | error m =>
          rw [hu] at h
          cases h
      | ok w =>
          rw [hu] at h
          change (report _ _ >>= fun e => _) = _ at h
          cases hr : report (reported (a :: b :: tags)) w with
          | error m =>
              rw [hr] at h
              cases h
          | ok event =>
              rw [hr] at h
              cases h
              exact ⟨w, settling_unifyAll hu, rfl⟩

theorem render_of_array {v : Value} (h : isArray v = true) :
    (graphType v).render = ("[" : Text) ++ (graphType v).scalar.name ++ "]" := by
  rw [GraphType.render_of_not_required (graphType_isRequired v), graphType_isList, if_pos h]

theorem render_of_scalar {v : Value} (h : isArray v ≠ true) :
    (graphType v).render = (graphType v).scalar.name := by
  rw [GraphType.render_of_not_required (graphType_isRequired v), graphType_isList, if_neg h]

/-- Whatever the tags are, a type that is settled is one of nine names, alone or in brackets, with
the mark exactly if the property is mandatory. It has the brackets exactly if there are tags that
say something and all of these are equal and name an array, and an array among other tags makes it
the string type. -/
theorem typeName_shape {observed : Value} {mandatory : Bool} {name : Text}
    (h : typeName observed mandatory = .ok name) :
    ∃ tags, Observes observed tags ∧
      (∃ n ∈ scalarNames, name = n ++ mark mandatory ∨
        name = "[" ++ n ++ "]" ++ mark mandatory) ∧
      ((∃ n ∈ scalarNames, name = "[" ++ n ++ "]" ++ mark mandatory) ↔
        OneArray (reported tags)) ∧
      ∀ a ∈ reported tags, isArray a = true → ∀ b ∈ reported tags, a.equals b ≠ true →
        name = "String" ++ mark mandatory := by
  cases hr : ofObserved observed mandatory with
  | error m =>
      rw [typeName, hr] at h
      cases h
  | ok r =>
      obtain ⟨tags, htags, hof⟩ := observes_of_ofObserved hr
      obtain ⟨v, hv, htype⟩ := settling_of_ofTags hof
      have hname : name = (graphType v).render ++ mark mandatory := by
        rw [typeName, hr] at h
        rw [mark, ← GraphType.render_required (graphType_isRequired v), ← htype]
        exact (Except.ok.inj h).symm
      refine ⟨tags, htags, ⟨_, (graphType v).scalar.name_mem, ?_⟩, ?_, ?_⟩
      · by_cases harray : isArray v = true
        · rw [hname, render_of_array harray]
          exact .inr rfl
        · rw [hname, render_of_scalar harray]
          exact .inl rfl
      · rw [← hv.array]
        constructor
        · rintro ⟨n, _, hn⟩
          by_contra harray
          rw [hname, render_of_scalar harray, List.append_assoc, List.append_assoc] at hn
          exact append_ne_bracketed (graphType v).scalar.name_mem _ _ hn
        · intro harray
          refine ⟨_, (graphType v).scalar.name_mem, ?_⟩
          rw [hname, render_of_array harray]
      · intro a ha harray b hb hab
        have hstring : (graphType string).render = ("String" : Text) := by decide
        rw [hname, hv.mixed a ha harray b hb hab, hstring]

/-- Tags of one array type, in both forms, among others that say nothing. -/
def arrayTags : List Value := [.null, .tag ⟨.long, true⟩, .text "", .text "LongArray"]

theorem typeName_shape_of_arrays :
    typeName (.list arrayTags) true = .ok "[Int]!" ∧ OneArray (reported arrayTags) := by
  have hname : typeName (.list arrayTags) true = .ok "[Int]!" := by decide
  obtain ⟨tags, htags, _, harray, _⟩ := typeName_shape hname
  cases htags
  exact ⟨hname, harray.mp ⟨"Int", by decide, by decide⟩⟩

end Resolution

end PropertyTyping

import PropertyTyping.Proofs.JsonReading
import PropertyTyping.Report

/-! The document of a report. It is read back as it was printed unless a name holds the halves of a
character side by side, or the count has more digits than are read. -/

namespace PropertyTyping

open Json (Fits rejoined rejoinedItems rejoinedFields)

theorem Json.rejoinedItems_eq_map (vs : List Value) : rejoinedItems vs = vs.map rejoined := by
  induction vs with
  | nil => rfl
  | cons v vs ih => rw [rejoinedItems, List.map_cons, ih]

theorem GraphType.joinSurrogates_render (t : GraphType) :
    Json.joinSurrogates t.render = t.render := by
  rcases t with ⟨s, l, q⟩
  cases s <;> cases l <;> cases q <;> rfl

namespace ReportEntry

/-- Names in which no two halves of a character stand beside each other. -/
def Whole (e : ReportEntry) : Prop :=
  (∀ t ∈ e.typeName, Json.Whole t) ∧ ∀ t ∈ e.propertyName, Json.Whole t

instance (e : ReportEntry) : Decidable e.Whole := inferInstanceAs (Decidable (_ ∧ _))

theorem rejoined_optionalText (o : Option Text) :
    rejoined (PropertyRecord.optionalText o) = PropertyRecord.optionalText o ↔
      ∀ t ∈ o, Json.Whole t := by
  cases o with
  | none => exact iff_of_true rfl nofun
  | some t =>
      rw [PropertyRecord.optionalText, rejoined, Value.text.injEq, Json.joinSurrogates_eq_self_iff]
      constructor
      · rintro h _ ⟨⟩
        exact h
      · intro h
        exact h t rfl

theorem rejoined_toValue (e : ReportEntry) : rejoined e.toValue = e.toValue ↔ e.Whole := by
  have hkeys : rejoined e.toValue =
      .object [("typeName", rejoined (PropertyRecord.optionalText e.typeName)),
        ("propertyName", rejoined (PropertyRecord.optionalText e.propertyName)),
        ("graphqlType", .text (Json.joinSurrogates e.graphType.render))] := rfl
  rw [hkeys, e.graphType.joinSurrogates_render, toValue, Value.object.injEq]
  simp only [List.cons.injEq, Prod.mk.injEq, true_and, and_true]
  exact and_congr (rejoined_optionalText _) (rejoined_optionalText _)

theorem fits_toValue (room : Nat) (e : ReportEntry) : Fits (room + 1) e.toValue := by
  have hname : ∀ o, Fits room (PropertyRecord.optionalText o) := by
    intro o
    cases o with
    | none => exact .null
    | some t => exact .text t
  have hkeys : ([("typeName" : Text), "propertyName", "graphqlType"].map
      Json.joinSurrogates).Nodup := by decide
  refine .object ?_ hkeys
  simp only [List.forall_mem_cons]
  exact ⟨hname _, hname _, .text _, List.forall_mem_nil _⟩

end ReportEntry

namespace Report

/-- Reports whose names are whole. -/
def Whole (r : Report) : Prop := ∀ e ∈ r.entries, e.Whole

instance (r : Report) : Decidable r.Whole := inferInstanceAs (Decidable (∀ e ∈ _, _))

/-- Reports whose count has no more digits than are read. -/
def Countable (r : Report) : Prop :=
  (Nat.toDigits 10 r.entries.length).length ≤ Digits.limit

instance (r : Report) : Decidable r.Countable := inferInstanceAs (Decidable (_ ≤ _))

theorem rejoined_toValue (r : Report) : rejoined r.toValue = r.toValue ↔ r.Whole := by
  have hkeys : rejoined r.toValue =
      .object [("status", .text "success"), ("count", .int r.entries.length),
        ("properties", .list (rejoinedItems (r.entries.map ReportEntry.toValue)))] := rfl
  rw [hkeys, Json.rejoinedItems_eq_map, toValue, Value.object.injEq]
  simp only [List.cons.injEq, Prod.mk.injEq, true_and, and_true, Value.list.injEq]
  rw [List.map_map, List.map_inj_left]
  exact forall₂_congr fun e _ => e.rejoined_toValue

theorem fits_toValue {r : Report} (h : r.Countable) : Fits Json.nestingLimit r.toValue := by
  have hkeys : ([("status" : Text), "count", "properties"].map Json.joinSurrogates).Nodup := by
    decide
  refine .object ?_ hkeys
  simp only [List.forall_mem_cons]
  refine ⟨.text _, .int h, .list ?_, List.forall_mem_nil _⟩
  intro v hv
  obtain ⟨e, _, rfl⟩ := List.mem_map.mp hv
  exact e.fits_toValue _

/-- A count of too many digits stops the reader. -/
theorem members_count {n : Nat} (h : Digits.limit < (Nat.toDigits 10 n).length) (room fuel : Nat)
    (behind : List Char) :
    Json.members room (fuel + 2) (Json.renderText "count" ++ ':' :: ' ' ::
      ((Text.ofInt n).map CodePoint.toChar ++ ',' :: behind)) =
        .error (.longInteger (Nat.toDigits 10 n).length) := by
  obtain ⟨c, cs, hc, hb, _⟩ := Json.head_ofInt n
  have hcount : Json.rereadInt n = .error (.longInteger (Nat.toDigits 10 n).length) := if_pos h
  have hvalue := Json.value_ofInt n (Json.ends_comma behind) room fuel
  rw [hc, List.cons_append] at hvalue ⊢
  rw [Json.members_cons, Json.skipBlanks_cons hb, hvalue, hcount]
  rfl

/-- What is printed for a report, up to its count. -/
theorem render_count (r : Report) (tail : List Char) : ∃ behind,
    Json.render r.toValue ++ tail = '\x7b' :: (Json.newLine 1 ++ (Json.renderText "status" ++
      ':' :: ' ' :: (Json.renderText "success" ++ ',' :: (Json.newLine 1 ++
        (Json.renderText "count" ++ ':' :: ' ' ::
          ((Text.ofInt r.entries.length).map CodePoint.toChar ++ ',' :: behind)))))) := by
  simp only [Json.render, toValue, Json.renderAt, Json.renderFields, List.cons_append,
    List.append_assoc]
  exact ⟨_, rfl⟩

theorem parse_render_of_not_countable {r : Report} (h : ¬ r.Countable) (tail : List Char)
    (v : Value) : Json.parse (Json.render r.toValue ++ tail) ≠ .ok v := by
  obtain ⟨behind, hrender⟩ := r.render_count tail
  obtain ⟨fuel, hfuel⟩ : ∃ m, 2 * (Json.render r.toValue ++ tail).length + 2 = m + 4 := by
    rw [hrender]
    exact ⟨_, rfl⟩
  have hroom : Json.nestingLimit = Json.nestingLimit - 1 + 1 := rfl
  have hcount := members_count (Nat.not_le.mp h) (Json.nestingLimit - 1) fuel behind
  have hdocument : Json.document (Json.render r.toValue ++ tail) =
      .error (.longInteger (Nat.toDigits 10 r.entries.length).length) := by
    rw [Json.document]
    · rw [hfuel, hrender, Json.skipBlanks_cons (by decide), hroom, Json.value_object]
      rw [Json.renderText_append "success", Json.members_comma (by decide), hcount]
      · rfl
      · rw [← Json.renderText_append]
        exact Json.value_text "success" _ _
    · intro es he
      rw [hrender] at he
      exact absurd (List.cons.inj he).1 (by decide)
  rw [Json.parse, hdocument]
  intro he
  cases he

/-- The document of a report is read back as the report, whatever blanks stand behind it. -/
theorem parse_render_append_iff (r : Report) {tail : List Char}
    (htail : ∀ c ∈ tail, Json.isBlank c) :
    Json.parse (Json.render r.toValue ++ tail) = .ok r.toValue ↔ r.Whole ∧ r.Countable := by
  by_cases h : r.Countable
  · rw [Json.parse_render (fits_toValue h) htail, Except.ok.injEq, rejoined_toValue, and_iff_left h]
  · exact iff_of_false (parse_render_of_not_countable h tail _) fun hw => h hw.2

theorem parse_render_iff (r : Report) :
    Json.parse (Json.render r.toValue ++ ['\n']) = .ok r.toValue ↔ r.Whole ∧ r.Countable :=
  r.parse_render_append_iff (List.forall_mem_singleton.mpr (by decide))

end Report

end PropertyTyping

import PropertyTyping.Proofs.LogHistory

/-! The current run through entering and leaving. The answer to entering a run leads back once, to
the run that was current just before, whatever happened in between; and where every run that is
entered is left again in reverse order, the current run is the same at the end. -/

namespace PropertyTyping.Log

theorem getElem?_concat_eq_some {α : Type} {as : List α} {a b : α} {i : Nat}
    (h : (as ++ [a])[i]? = some b) : as[i]? = some b ∨ i = as.length ∧ a = b := by
  rcases Nat.lt_trichotomy i as.length with hi | hi | hi
  · exact .inl (List.getElem?_append_left hi ▸ h)
  · subst hi
    rw [List.getElem?_concat_length] at h
    exact .inr ⟨rfl, Option.some.inj h⟩
  · rw [List.getElem?_eq_none (by rw [List.length_append]; exact hi)] at h
    cases h

def Action.enters : Action → Bool
  | .push _ => true
  | _ => false

namespace Session

variable {s t : Session}

theorem SameRuns.step_self (stamp : Text) (s : Session) {a : Action} (ha : a.concernsRuns = false) :
    SameRuns (s.step stamp a).session s :=
  step_left ⟨rfl, rfl, rfl⟩ stamp ha

theorem step_push_of_truthy {runId : Value} (h : runId.isTruthy) (stamp : Text) (s : Session) :
    s.step stamp (.push runId) =
      ⟨⟨{ s.state with runId, tickets := s.state.tickets ++ [⟨s.state.runId, false⟩] },
        s.answers ++ [some s.state.tickets.length]⟩, .entered true, []⟩ := by
  rw [step, State.push_of_truthy h]
  rfl

theorem step_push_of_not_truthy {runId : Value} (h : ¬ runId.isTruthy) (stamp : Text)
    (s : Session) : s.step stamp (.push runId) =
      ⟨{ s with answers := s.answers ++ [none] }, .entered false, []⟩ := by
  rw [step, State.push_of_not_truthy h]
  rfl

/-- The ticket that an answer which was kept gave. -/
def ticketOf (s : Session) (answer : Option Nat) : Option Nat :=
  answer.bind fun i => (s.answers[i]?).join

theorem step_reset (stamp : Text) (s : Session) (answer : Option Nat) :
    s.step stamp (.reset answer) = s.changed (s.state.reset (s.ticketOf answer)) := rfl

theorem step_reset_of_none {answer : Option Nat} (h : s.ticketOf answer = none) (stamp : Text) :
    s.step stamp (.reset answer) = ⟨s, .done, []⟩ := by
  rw [step_reset, h]
  rfl

theorem ticketOf_eq_some {answer : Option Nat} {k : Nat} (h : s.ticketOf answer = some k) :
    ∃ i, answer = some i ∧ s.answers[i]? = some (some k) := by
  cases answer with
  | none => cases h
  | some i => exact ⟨i, rfl, Option.join_eq_some_iff.mp h⟩

theorem length_answers_step (stamp : Text) (s : Session) (a : Action) :
    (s.step stamp a).session.answers.length = s.answers.length + [a].countP Action.enters := by
  cases ha : a.concernsRuns with
  | false =>
      rw [(SameRuns.step_self stamp s ha).answers]
      cases a with
      | push runId => cases ha
      | reset answer => cases ha
      | configure level => rfl
      | addHandler => rfl
      | log logger level message => rfl
      | resolve tags mandatory => rfl
  | true =>
      cases a with
      | push runId => exact List.length_append
      | reset answer => rfl
      | configure level => cases ha
      | addHandler => cases ha
      | log logger level message => cases ha
      | resolve tags mandatory => cases ha

theorem length_answers_after (stamp : Text) (s : Session) (as : List Action) :
    (s.after stamp as).answers.length = s.answers.length + as.countP Action.enters := by
  induction as generalizing s with
  | nil => rfl
  | cons a as ih =>
      have hcount : (a :: as).countP Action.enters =
          [a].countP Action.enters + as.countP Action.enters := by
        rw [← List.countP_append]
        rfl
      rw [after_cons, ih, length_answers_step, hcount, Nat.add_assoc]

/-- An answer stays what it was. -/
theorem getElem?_answers_step {i : Nat} {answer : Option Nat} (h : s.answers[i]? = some answer)
    (stamp : Text) (a : Action) : (s.step stamp a).session.answers[i]? = some answer := by
  cases a with
  | push runId =>
      have hi := (List.getElem?_eq_some_iff.mp h).1
      exact (List.getElem?_append_left hi).trans h
  | reset answer => exact h
  | configure level => exact h
  | addHandler => exact h
  | log logger level message =>
      rw [(SameRuns.step_self stamp s rfl).answers]
      exact h
  | resolve tags mandatory =>
      rw [session_resolve]
      exact h

theorem getElem?_answers_after {i : Nat} {answer : Option Nat} (h : s.answers[i]? = some answer)
    (stamp : Text) (as : List Action) : (s.after stamp as).answers[i]? = some answer := by
  induction as generalizing s with
  | nil => exact h
  | cons a as ih => exact ih (getElem?_answers_step h stamp a)

/-- The answers that were kept lead to tickets that were given out, and no two of them to one. -/
structure Kept (s : Session) : Prop where
  lt : ∀ {i k : Nat}, s.answers[i]? = some (some k) → k < s.state.tickets.length
  unique : ∀ {i j k : Nat}, s.answers[i]? = some (some k) → s.answers[j]? = some (some k) → i = j

theorem Kept.of_sameRuns (h : Kept s) (hs : SameRuns t s) : Kept t where
  lt := by rw [hs.answers, hs.tickets]; exact h.lt
  unique := by rw [hs.answers]; exact h.unique

theorem Kept.step (h : Kept s) (stamp : Text) (a : Action) : Kept (s.step stamp a).session := by
  cases a with
  | push runId =>
      by_cases hrun : runId.isTruthy
      · rw [step_push_of_truthy hrun]
        constructor
        · intro i k hi
          rw [List.length_append]
          rcases getElem?_concat_eq_some hi with hi | ⟨_, he⟩
          · exact Nat.lt_succ_of_lt (h.lt hi)
          · cases he
            exact Nat.lt_succ_self _
        · intro i j k hi hj
          rcases getElem?_concat_eq_some hi with hi | ⟨hi, he⟩
          · rcases getElem?_concat_eq_some hj with hj | ⟨hj, he⟩
            · exact h.unique hi hj
            · cases he
              exact absurd (h.lt hi) (Nat.lt_irrefl _)
          · rcases getElem?_concat_eq_some hj with hj | ⟨hj, _⟩
            · cases he
              exact absurd (h.lt hj) (Nat.lt_irrefl _)
            · exact hi.trans hj.symm
      · rw [step_push_of_not_truthy hrun]
        have hold : ∀ {i k : Nat}, (s.answers ++ [none])[i]? = some (some k) →
            s.answers[i]? = some (some k) := by
          intro i k hi
          rcases getElem?_concat_eq_some hi with hi | ⟨_, he⟩
          · exact hi
          · cases he
        exact ⟨fun hi => h.lt (hold hi), fun hi hj => h.unique (hold hi) (hold hj)⟩
  | reset answer =>
      rw [step_reset]
      refine ⟨?_, h.unique⟩
      intro i k hi
      have hlt := h.lt hi
      rcases s.state.reset_cases (s.ticketOf answer) with hsame | ⟨_, _, _, _, hback⟩
      · simp only [changed, hsame]
        exact hlt
      · simp only [changed, hback, List.length_set]
        exact hlt
  | configure level => exact h.of_sameRuns (.step_self stamp s rfl)
  | addHandler => exact h.of_sameRuns (.step_self stamp s rfl)
  | log logger level message => exact h.of_sameRuns (.step_self stamp s rfl)
  | resolve tags mandatory => exact h.of_sameRuns (.step_self stamp s rfl)

theorem Kept.after (h : Kept s) (stamp : Text) (as : List Action) : Kept (s.after stamp as) := by
  induction as generalizing s with
  | nil => exact h
  | cons a as ih => exact ih (h.step stamp a)

theorem kept_initial : Kept initial := ⟨nofun, nofun⟩

/-- An answer that was kept, with its ticket, the run that it leads back to, and whether it was
used. -/
structure Tracked (i k : Nat) (saved : Value) (used : Bool) (s : Session) : Prop where
  answer : s.answers[i]? = some (some k)
  ticket : s.state.tickets[k]? = some ⟨saved, used⟩

namespace Tracked

variable {i k : Nat} {saved : Value} {used : Bool}

theorem of_sameRuns (h : Tracked i k saved used s) (hs : SameRuns t s) :
    Tracked i k saved used t where
  answer := hs.answers ▸ h.answer
  ticket := hs.tickets ▸ h.ticket

theorem of_push {runId : Value} (h : runId.isTruthy) (stamp : Text) (s : Session) :
    Tracked s.answers.length s.state.tickets.length s.state.runId false
      (s.step stamp (.push runId)).session := by
  rw [step_push_of_truthy h]
  exact ⟨List.getElem?_concat_length, List.getElem?_concat_length⟩

theorem reset_unused (h : Tracked i k saved false s) (stamp : Text) :
    s.step stamp (.reset (some i)) = ⟨{ s with state := { s.state with
      runId := saved, tickets := s.state.tickets.set k ⟨saved, true⟩ } }, .done, []⟩ := by
  have hticket : s.ticketOf (some i) = some k := Option.join_eq_some_iff.mpr h.answer
  rw [step_reset, hticket, State.reset_unused h.ticket]
  rfl

theorem reset_used (h : Tracked i k saved true s) (stamp : Text) :
    s.step stamp (.reset (some i)) = ⟨s, .failed .usedTicket, []⟩ := by
  have hticket : s.ticketOf (some i) = some k := Option.join_eq_some_iff.mpr h.answer
  rw [step_reset, hticket, State.reset_used h.ticket]
  rfl

/-- Any step but leaving by the answer itself keeps the way back as it is. -/
theorem step (h : Tracked i k saved used s) (hs : Kept s) (stamp : Text) {a : Action}
    (ha : a ≠ .reset (some i)) : Tracked i k saved used (s.step stamp a).session := by
  refine ⟨getElem?_answers_step h.answer stamp a, ?_⟩
  cases a with
  | push runId =>
      by_cases hrun : runId.isTruthy
      · rw [step_push_of_truthy hrun]
        exact (List.getElem?_append_left (hs.lt h.answer)).trans h.ticket
      · rw [step_push_of_not_truthy hrun]
        exact h.ticket
  | reset answer =>
      rw [step_reset]
      rcases s.state.reset_cases (s.ticketOf answer) with hsame | ⟨l, other, hl, _, hback⟩
      · simp only [changed, hsame]
        exact h.ticket
      · obtain ⟨j, rfl, hj⟩ := ticketOf_eq_some hl
        have hne : l ≠ k := by
          rintro rfl
          exact ha (congrArg (fun n => Action.reset (some n)) (hs.unique hj h.answer))
        simp only [changed, hback, List.getElem?_set_ne hne]
        exact h.ticket
  | configure level => exact (h.of_sameRuns (.step_self stamp s rfl)).ticket
  | addHandler => exact h.ticket
  | log logger level message => exact (h.of_sameRuns (.step_self stamp s rfl)).ticket
  | resolve tags mandatory => exact (h.of_sameRuns (.step_self stamp s rfl)).ticket

theorem after (h : Tracked i k saved used s) (hs : Kept s) (stamp : Text) {as : List Action}
    (has : .reset (some i) ∉ as) : Tracked i k saved used (s.after stamp as) := by
  induction as generalizing s with
  | nil => exact h
  | cons a as ih =>
      have ha : a ≠ .reset (some i) := fun he => has (he ▸ List.mem_cons_self)
      exact ih (h.step hs stamp ha) (hs.step stamp a) fun hm => has (List.mem_cons_of_mem a hm)

theorem after_used (h : Tracked i k saved true s) (hs : Kept s) (stamp : Text)
    (as : List Action) : Tracked i k saved true (s.after stamp as) := by
  induction as generalizing s with
  | nil => exact h
  | cons a as ih =>
      rw [after_cons]
      by_cases ha : a = .reset (some i)
      · rw [ha, h.reset_used]
        exact ih h hs
      · exact ih (h.step hs stamp ha) (hs.step stamp a)

/-- The first leaving by the answer uses the ticket up. -/
theorem after_mem (h : Tracked i k saved false s) (hs : Kept s) (stamp : Text) {as : List Action}
    (has : .reset (some i) ∈ as) : Tracked i k saved true (s.after stamp as) := by
  induction as generalizing s with
  | nil => cases has
  | cons a as ih =>
      by_cases ha : a = .reset (some i)
      · have hk := (List.getElem?_eq_some_iff.mp h.ticket).1
        have hused : Tracked i k saved true (s.step stamp a).session := by
          rw [ha, h.reset_unused]
          exact ⟨h.answer, List.getElem?_set_self hk⟩
        exact hused.after_used (hs.step stamp a) stamp as
      · refine ih (h.step hs stamp ha) (hs.step stamp a) ?_
        exact (List.mem_cons.mp has).resolve_left (Ne.symm ha)

end Tracked

end Session

end PropertyTyping.Log

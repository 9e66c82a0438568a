import Mathlib.Data.List.Induction
import PropertyTyping.Proofs.RunTickets

/-! Which run is current. It is always one that was entered, or none; and after actions in which
every run that is entered is left again, the last one first, it is the one from before them. -/

namespace PropertyTyping.Log

/-- What can be the current run after some actions: no run, which has a mark of its own, or one that
was entered. -/
def Supplied (as : List Action) (runId : Value) : Prop :=
  runId = .text "-" ∨ .push runId ∈ as ∧ runId.isTruthy

theorem Supplied.append {as : List Action} {runId : Value} (h : Supplied as runId)
    (bs : List Action) : Supplied (as ++ bs) runId :=
  h.imp_right fun hp => ⟨List.mem_append_left bs hp.1, hp.2⟩

/-- Actions in which each run that is entered is left by the answer that entering it gave, with such
actions in between. The number says how many answers were kept before. -/
inductive Nested : Nat → List Action → Prop
  | nil {n : Nat} : Nested n []
  | other {n : Nat} {a : Action} {as : List Action} : a.concernsRuns = false → Nested n as →
      Nested n (a :: as)
  | enclosed {n : Nat} {runId : Value} {inner rest : List Action} : Nested (n + 1) inner →
      Nested (n + 1 + inner.countP Action.enters) rest →
      Nested n (.push runId :: (inner ++ .reset (some n) :: rest))

/-- Only runs that are entered within are left within. -/
theorem Nested.le_of_mem {n i : Nat} {as : List Action} (h : Nested n as)
    (hi : .reset (some i) ∈ as) : n ≤ i := by
  induction h with
  | nil => cases hi
  | other ha _ ih =>
      rcases List.mem_cons.mp hi with rfl | hi
      · cases ha
      · exact ih hi
  | @enclosed n runId inner rest _ _ ihinner ihrest =>
      simp only [List.mem_cons, List.mem_append, reduceCtorEq, false_or, Action.reset.injEq,
        Option.some.injEq] at hi
      rcases hi with hi | hi | hi
      · exact Nat.le_of_succ_le (ihinner hi)
      · exact Nat.le_of_eq hi.symm
      · have hle := ihrest hi
        omega

namespace Session

variable {s : Session}

/-- Where runs come from: the current one, and those that tickets lead back to. -/
structure Traceable (as : List Action) (s : Session) : Prop where
  current : Supplied as s.state.runId
  saved : ∀ t ∈ s.state.tickets, Supplied as t.saved

theorem traceable_initial : Traceable [] initial := ⟨.inl rfl, nofun⟩

theorem Traceable.step {as : List Action} (h : Traceable as s) (stamp : Text) (a : Action) :
    Traceable (as ++ [a]) (s.step stamp a).session := by
  have hkeep : Traceable (as ++ [a]) s :=
    ⟨h.current.append [a], fun t ht => (h.saved t ht).append [a]⟩
  have hsame : ∀ {t : Session}, SameRuns t s → Traceable (as ++ [a]) t := by
    intro t ht
    exact ⟨ht.runId ▸ hkeep.current, ht.tickets ▸ hkeep.saved⟩
  cases a with
  | push runId =>
      by_cases hrun : runId.isTruthy
      · rw [step_push_of_truthy hrun]
        refine ⟨.inr ⟨List.mem_append_right as (List.mem_singleton_self _), hrun⟩, ?_⟩
        intro t ht
        rcases List.mem_append.mp ht with ht | ht
        · exact hkeep.saved t ht
        · rw [List.mem_singleton.mp ht]
          exact hkeep.current
      · rw [step_push_of_not_truthy hrun]
        exact ⟨hkeep.current, hkeep.saved⟩
  | reset answer =>
      rw [step_reset]
      rcases s.state.reset_cases (s.ticketOf answer) with hnone | ⟨k, saved, _, hk, hback⟩
      · simp only [changed, hnone]
        exact ⟨hkeep.current, hkeep.saved⟩
      · have hsaved := hkeep.saved _ (List.mem_of_getElem? hk)
        simp only [changed, hback]
        refine ⟨hsaved, ?_⟩
        intro t ht
        rcases List.mem_or_eq_of_mem_set ht with ht | rfl
        · exact hkeep.saved t ht
        · exact hsaved
  | configure level => exact hsame (.step_self stamp s rfl)
  | addHandler => exact hsame (.step_self stamp s rfl)
  | log logger level message => exact hsame (.step_self stamp s rfl)
  | resolve tags mandatory => exact hsame (.step_self stamp s rfl)

theorem traceable_after (stamp : Text) (as : List Action) :
    Traceable as (initial.after stamp as) := by
  induction as using List.reverseRecOn with
  | nil => exact traceable_initial
  | append_singleton as a ih =>
      rw [after_concat]
      exact ih.step stamp a

/-- How it goes to leave a run by the answer that entering it gave. An answer without a ticket does
nothing, one with a ticket leads back to the run before, and it is refused once it was used. -/
structure LeavesOnce (stamp : Text) (s : Session) (runId : Value) (later : List Action) : Prop where
  idle : ¬ runId.isTruthy →
    (s.after stamp (.push runId :: later)).step stamp (.reset (some s.answers.length)) =
      ⟨s.after stamp (.push runId :: later), .done, []⟩
  back : runId.isTruthy → .reset (some s.answers.length) ∉ later →
    ((s.after stamp (.push runId :: later)).step stamp
      (.reset (some s.answers.length))).outcome = .done ∧
    ((s.after stamp (.push runId :: later)).step stamp
      (.reset (some s.answers.length))).session.state.runId = s.state.runId
  refused : runId.isTruthy → .reset (some s.answers.length) ∈ later →
    (s.after stamp (.push runId :: later)).step stamp (.reset (some s.answers.length)) =
      ⟨s.after stamp (.push runId :: later), .failed .usedTicket, []⟩

theorem leavesOnce (hs : Kept s) (stamp : Text) (runId : Value) (later : List Action) :
    LeavesOnce stamp s runId later where
  idle := by
    intro hrun
    refine step_reset_of_none ?_ stamp
    have hanswer : (s.step stamp (.push runId)).session.answers[s.answers.length]? = some none := by
      rw [step_push_of_not_truthy hrun]
      exact List.getElem?_concat_length
    exact congrArg Option.join (getElem?_answers_after hanswer stamp later)
  back := by
    intro hrun hlater
    have htracked := (Tracked.of_push hrun stamp s).after (hs.step stamp _) stamp hlater
    rw [after_cons, htracked.reset_unused]
    exact ⟨rfl, rfl⟩
  refused := by
    intro hrun hlater
    have htracked := (Tracked.of_push hrun stamp s).after_mem (hs.step stamp _) stamp hlater
    exact htracked.reset_used stamp

/-- After nested actions the current run is the one from before them. -/
theorem runId_after_nested {n : Nat} {block : List Action} (h : Nested n block) (hs : Kept s)
    (hn : s.answers.length = n) (stamp : Text) :
    (s.after stamp block).state.runId = s.state.runId := by
  induction h generalizing s with
  | nil => rfl
  | @other n a as ha _ ih =>
      have hsame := SameRuns.step_self stamp s ha
      rw [after_cons, ih (hs.step stamp a) (by rw [hsame.answers, hn]), hsame.runId]
  | @enclosed n runId inner rest hinner _ ihinner ihrest =>
      subst hn
      have hentered : (s.step stamp (.push runId)).session.answers.length = s.answers.length + 1 :=
        length_answers_step stamp s (.push runId)
      have hinside := ihinner (hs.step stamp (.push runId)) hentered
      have hleft : ((s.after stamp (.push runId :: inner)).step stamp
          (.reset (some s.answers.length))).session.state.runId = s.state.runId := by
        have hunused : .reset (some s.answers.length) ∉ inner :=
          fun hm => Nat.not_succ_le_self _ (hinner.le_of_mem hm)
        have hleaves := leavesOnce hs stamp runId inner
        by_cases hrun : runId.isTruthy
        · exact (hleaves.back hrun hunused).2
        · -- No run was entered, so none is left, and the actions in between are nested.
          rw [hleaves.idle hrun, after_cons]
          simp only
          rw [hinside, step_push_of_not_truthy hrun]
      have hkept : Kept ((s.after stamp (.push runId :: inner)).step stamp
          (.reset (some s.answers.length))).session :=
        (hs.after stamp _).step stamp _
      have hlength : ((s.after stamp (.push runId :: inner)).step stamp
          (.reset (some s.answers.length))).session.answers.length =
            s.answers.length + 1 + inner.countP Action.enters := by
        rw [length_answers_step, after_cons, length_answers_after, hentered]
        rfl
      rw [← List.cons_append, after_append, after_cons, ihrest hkept hlength, hleft]

/-- After any actions, the current run is one that was entered or none. A run that is entered then
can be left once by the answer to that, whatever happens in between, and the run before is current
again. After nested actions it is current without further ado. -/
theorem run_left_once (stamp : Text) (before : List Action) :
    Supplied before (initial.after stamp before).state.runId ∧
    (∀ (runId : Value) (later : List Action),
      LeavesOnce stamp (initial.after stamp before) runId later) ∧
    ∀ block : List Action, Nested (initial.after stamp before).answers.length block →
      (initial.after stamp (before ++ block)).state.runId =
        (initial.after stamp before).state.runId := by
  have hkept := kept_initial.after stamp before
  refine ⟨(traceable_after stamp before).current, leavesOnce hkept stamp, ?_⟩
  intro block hblock
  rw [after_append]
  exact runId_after_nested hblock hkept rfl stamp

/-- Runs that are not left in reverse order do not lead back to the start. -/
example : (initial.after "" [.push (.text "a"), .push (.text "b"), .reset (some 0),
    .reset (some 1)]).state.runId = .text "a" := rfl

end Session

end PropertyTyping.Log

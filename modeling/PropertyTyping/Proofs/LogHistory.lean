import PropertyTyping.Log.Session

/-! Histories of logging: the session that several actions lead to, and what each kind of action
leaves alone. Entering and leaving runs does not touch the settings, and nothing else touches the
current run. -/

namespace PropertyTyping.Log

namespace State

theorem push_of_truthy {runId : Value} (h : runId.isTruthy) (s : State) : s.push runId =
    ({ s with runId, tickets := s.tickets ++ [⟨s.runId, false⟩] }, some s.tickets.length) :=
  if_pos h

theorem push_of_not_truthy {runId : Value} (h : ¬ runId.isTruthy) (s : State) :
    s.push runId = (s, none) :=
  if_neg h

theorem reset_unused {s : State} {k : Nat} {saved : Value}
    (h : s.tickets[k]? = some ⟨saved, false⟩) : s.reset (some k) =
      ({ s with runId := saved, tickets := s.tickets.set k ⟨saved, true⟩ }, .ok ()) := by
  simp only [reset, h, Bool.false_eq_true, if_false]

theorem reset_used {s : State} {k : Nat} {saved : Value}
    (h : s.tickets[k]? = some ⟨saved, true⟩) : s.reset (some k) = (s, .error .usedTicket) := by
  simp only [reset, h, if_true]

/-- Leaving changes nothing, or goes back by a ticket that was not used. -/
theorem reset_cases (ticket : Option Nat) (s : State) :
    (s.reset ticket).1 = s ∨ ∃ k saved, ticket = some k ∧ s.tickets[k]? = some ⟨saved, false⟩ ∧
      (s.reset ticket).1 =
        { s with runId := saved, tickets := s.tickets.set k ⟨saved, true⟩ } := by
  cases ticket with
  | none => exact .inl rfl
  | some k =>
      cases hk : s.tickets[k]? with
      | none => exact .inl (by simp only [reset, hk])
      | some t =>
          obtain ⟨saved, used⟩ := t
          cases used with
          | true =>
              rw [reset_used hk]
              exact .inl rfl
          | false =>
              refine .inr ⟨k, saved, rfl, hk, ?_⟩
              rw [reset_unused hk]

theorem push_frame (runId : Value) (s : State) :
    ∃ current tickets, (s.push runId).1 = { s with runId := current, tickets } := by
  by_cases h : runId.isTruthy
  · exact ⟨_, _, by rw [push_of_truthy h]⟩
  · exact ⟨s.runId, s.tickets, by rw [push_of_not_truthy h]⟩

theorem reset_frame (ticket : Option Nat) (s : State) :
    ∃ current tickets, (s.reset ticket).1 = { s with runId := current, tickets } := by
  rcases s.reset_cases ticket with h | ⟨_, _, _, _, h⟩
  · exact ⟨s.runId, s.tickets, h⟩
  · exact ⟨_, _, h⟩

theorem withConsole_of_mem {s : State} (h : .console ∈ s.handlers) : s.withConsole = s :=
  if_pos (List.contains_iff_mem.mpr h)

theorem packageLevel_withConsole (s : State) : s.withConsole.packageLevel = s.packageLevel := by
  unfold withConsole
  split <;> rfl

theorem withConsole_of_not_mem {s : State} (h : .console ∉ s.handlers) : s.withConsole =
    { s with handlers := s.handlers ++ [.console], rootLevel := Level.info } :=
  if_neg fun hc => h (List.contains_iff_mem.mp hc)

theorem configure_of_ok {request : Value} {l : Level} (h : LevelRequest.resolve request = .ok l)
    (s : State) : s.configure request =
      ({ s.withConsole with packageLevel := l, decisions := [] }, .ok ()) := by
  rw [configure, h]

theorem configure_of_error {request : Value} {f : Fault}
    (h : LevelRequest.resolve request = .error f) (s : State) :
    s.configure request = (s.withConsole, .error f) := by
  rw [configure, h]

theorem configure_frame (request : Value) (s : State) :
    ∃ handlers rootLevel packageLevel decisions,
      (s.configure request).1 = { s with handlers, rootLevel, packageLevel, decisions } := by
  have hconsole : ∃ handlers rootLevel, s.withConsole = { s with handlers, rootLevel } := by
    by_cases h : .console ∈ s.handlers
    · exact ⟨s.handlers, s.rootLevel, withConsole_of_mem h⟩
    · exact ⟨_, _, withConsole_of_not_mem h⟩
  obtain ⟨handlers, rootLevel, hconsole⟩ := hconsole
  cases h : LevelRequest.resolve request with
  | ok l => exact ⟨handlers, rootLevel, l, [], by rw [configure_of_ok h, hconsole]⟩
  | error f =>
      exact ⟨handlers, rootLevel, s.packageLevel, s.decisions,
        by rw [configure_of_error h, hconsole]⟩

theorem withLogger_frame (logger : Text) (s : State) :
    ∃ loggers, s.withLogger logger = { s with loggers } := by
  unfold withLogger
  split
  · exact ⟨s.loggers, rfl⟩
  · exact ⟨_, rfl⟩

/-- Asking a logger brings nothing about but the logger itself and what it found. -/
theorem ask_frame (logger : Text) (level : Level) (s : State) :
    ∃ loggers decisions, (s.ask logger level).1 = { s with loggers, decisions } := by
  obtain ⟨loggers, hlogger⟩ := s.withLogger_frame logger
  simp only [ask, hlogger]
  split
  · exact ⟨loggers, s.decisions, rfl⟩
  · split
    · exact ⟨loggers, _, rfl⟩
    · exact ⟨loggers, s.decisions, rfl⟩

end State

def Action.concernsRuns : Action → Bool
  | .push _ => true
  | .reset _ => true
  | _ => false

namespace Session

/-- The session that several actions lead to. -/
def after (stamp : Text) (s : Session) (as : List Action) : Session :=
  as.foldl (fun s a => (s.step stamp a).session) s

variable (stamp : Text) (s : Session)

theorem after_cons (a : Action) (as : List Action) :
    s.after stamp (a :: as) = (s.step stamp a).session.after stamp as := rfl

theorem after_append (as bs : List Action) :
    s.after stamp (as ++ bs) = (s.after stamp as).after stamp bs :=
  List.foldl_append

theorem after_concat (as : List Action) (a : Action) :
    s.after stamp (as ++ [a]) = ((s.after stamp as).step stamp a).session :=
  after_append stamp s as [a]

theorem length_run (as : List Action) : (run stamp s as).length = as.length := by
  induction as generalizing s with
  | nil => rfl
  | cons a as ih => simp only [run, List.length_cons, ih]

theorem run_append (as bs : List Action) :
    run stamp s (as ++ bs) = run stamp s as ++ run stamp (s.after stamp as) bs := by
  induction as generalizing s with
  | nil => rfl
  | cons a as ih =>
      simp only [List.cons_append, run, ih]
      rfl

theorem session_resolve (tags : Value) (mandatory : Bool) :
    (s.step stamp (.resolve tags mandatory)).session = s := by
  rw [step]
  split <;> rfl

theorem session_logged (e : Event) :
    (s.logged stamp e).session = { s with state := (s.state.ask e.logger e.level).1 } := by
  unfold logged
  obtain ⟨state, isEnabled⟩ := s.state.ask e.logger e.level
  cases isEnabled with
  | true => cases e.level.name <;> rfl
  | false => rfl

theorem session_log (logger : Text) (level : Level) (message : Text) :
    ∃ loggers decisions, (s.step stamp (.log logger level message)).session =
      { s with state := { s.state with loggers, decisions } } := by
  obtain ⟨loggers, decisions, hframe⟩ :=
    s.state.ask_frame (if logger = [] then rootLogger else logger) level
  refine ⟨loggers, decisions, ?_⟩
  rw [step, session_logged, hframe]

theorem step_configure_of_ok {request : Value} {l : Level}
    (h : LevelRequest.resolve request = .ok l) : s.step stamp (.configure request) =
      ⟨{ s with state := { s.state.withConsole with packageLevel := l, decisions := [] } }, .done,
        []⟩ := by
  rw [step, State.configure_of_ok h]
  rfl

theorem step_configure_of_error {request : Value} {f : Fault}
    (h : LevelRequest.resolve request = .error f) : s.step stamp (.configure request) =
      ⟨{ s with state := s.state.withConsole }, .failed f, []⟩ := by
  rw [step, State.configure_of_error h]
  rfl

/-- Sessions that agree on the current run and on the ways back from it. -/
structure SameRuns (s t : Session) : Prop where
  runId : s.state.runId = t.state.runId
  tickets : s.state.tickets = t.state.tickets
  answers : s.answers = t.answers

namespace SameRuns

variable {s t : Session}

theorem step_left (h : SameRuns s t) (stamp : Text) {a : Action} (ha : a.concernsRuns = false) :
    SameRuns (s.step stamp a).session t := by
  cases a with
  | push runId => cases ha
  | reset answer => cases ha
  | configure level =>
      obtain ⟨_, _, _, _, hframe⟩ := s.state.configure_frame level
      change SameRuns { s with state := (s.state.configure level).1 } t
      rw [hframe]
      exact ⟨h.runId, h.tickets, h.answers⟩
  | addHandler => exact ⟨h.runId, h.tickets, h.answers⟩
  | log logger level message =>
      obtain ⟨_, _, hframe⟩ := session_log stamp s logger level message
      rw [hframe]
      exact ⟨h.runId, h.tickets, h.answers⟩
  | resolve tags mandatory =>
      rw [session_resolve]
      exact h

end SameRuns

end Session

end PropertyTyping.Log

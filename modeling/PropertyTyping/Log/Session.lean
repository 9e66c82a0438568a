import PropertyTyping.Log.State
import PropertyTyping.Resolution

/-! Sessions of logging: steps taken one after another in one state. Every answer to entering a run
is kept, so that a later step may name it by its number. -/

namespace PropertyTyping.Log

inductive Action where
  /-- Entering a run. -/
  | push (runId : Value)
  /-- Leaving by a kept answer, or by none. -/
  | reset (answer : Option Nat)
  | configure (level : Value)
  | addHandler
  | log (logger : Text) (level : Level) (message : Text)
  | resolve (tags : Value) (mandatory : Bool)

structure Session where
  state : State
  /-- The tickets that entering gave, or did not give, in order. -/
  answers : List (Option Nat)

/-- What a step brings besides the change of state. -/
inductive Outcome where
  | done
  | entered (hasTicket : Bool)
  | resolved (type : GraphType)
  | failed (f : Fault)

/-- A step that was taken: the session after it, what it brought, and what it wrote. -/
structure Taken where
  session : Session
  outcome : Outcome
  printed : Text

namespace Session

def initial : Session := ⟨.initial, []⟩

/-- A change of state that may fail. -/
def changed (s : Session) (result : State × Except Fault Unit) : Taken :=
  let outcome := match result.2 with
    | .ok _ => .done
    | .error f => .failed f
  ⟨{ s with state := result.1 }, outcome, []⟩

/-- An event that is logged in the current run, if its logger is found to be enabled. A level whose
name cannot be written makes no record. -/
def logged (stamp : Text) (s : Session) (e : Event) : Taken :=
  let (state, isEnabled) := s.state.ask e.logger e.level
  let s := { s with state }
  if isEnabled then
    match e.level.name with
    | .ok _ => ⟨s, .done, state.written stamp (e.inRun state.runId)⟩
    | .error m => ⟨s, .failed (.misuse m), []⟩
  else ⟨s, .done, []⟩

/-- What the library logs by itself needs no decision that is kept: its own loggers are in the package
whatever other loggers there are. -/
def step (stamp : Text) (s : Session) : Action → Taken
  | .push runId =>
    let (state, ticket) := s.state.push runId
    ⟨⟨state, s.answers ++ [ticket]⟩, .entered ticket.isSome, []⟩
  | .reset answer => s.changed (s.state.reset (answer.bind fun i => (s.answers[i]?).join))
  | .configure level => s.changed (s.state.configure level)
  | .addHandler => ⟨{ s with state := s.state.addHandler .other }, .done, []⟩
  | .log logger level message =>
    s.logged stamp ⟨level, if logger = [] then rootLogger else logger, message⟩
  | .resolve tags mandatory =>
    match Resolution.ofObserved tags mandatory with
    | .ok r =>
      let records := r.event?.toList.map (·.inRun s.state.runId)
      ⟨s, .resolved r.type, s.state.lines stamp records⟩
    | .error m => ⟨s, .failed (.misuse m), []⟩

/-- The steps of several actions in order. -/
def run (stamp : Text) (s : Session) : List Action → List Taken
  | [] => []
  | a :: as =>
    let t := s.step stamp a
    t :: run stamp t.session as

end Session

end PropertyTyping.Log

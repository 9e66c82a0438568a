import PropertyTyping.Log.Hierarchy
import PropertyTyping.Text.Capital

/-! The state of logging: which handlers listen, which loggers there are, how urgent an event must
be to reach the handlers, and the run that is current. Entering a run gives a ticket that leads back,
once, to the run before. -/

namespace PropertyTyping.Log

/-- The console writes lines with the run they belong to; what else listens is of no interest. -/
inductive Handler where
  | console
  | other
  deriving DecidableEq

/-- The run that was current before another was entered, and whether the way back was taken. -/
structure Ticket where
  saved : Value
  isUsed : Bool

/-- What was found when a logger was asked whether it is enabled for a level. -/
structure Decision where
  logger : Text
  level : Level
  isEnabled : Bool

structure State where
  handlers : List Handler
  rootLevel : Level
  packageLevel : Level
  runId : Value
  /-- The tickets given out so far, the first one first. -/
  tickets : List Ticket
  /-- The names of the loggers that there are. -/
  loggers : List Text
  /-- What was found since the level of the package was set. It counts although loggers may have
  come into being since. -/
  decisions : List Decision

/-- What is asked for as a level. -/
inductive LevelRequest where
  | level (l : Level)
  /-- The line format that goes by a name among those of levels. -/
  | lineFormat
  /-- The table of line formats, likewise. -/
  | formatTable
  deriving DecidableEq

/-- Why logging cannot be set up or left. -/
inductive Fault where
  | unknownLevel
  | notLevel
  | misuse (m : Misuse)
  | usedTicket
  deriving DecidableEq

def lineFormat : Text := "%(levelname)s:%(name)s:%(message)s"

/-- The line formats by the mark that starts a placeholder, as the table shows them. -/
def formatTable : List (Text × Text × Text) :=
  [("%", "PercentStyle", lineFormat),
   ("\x7b", "StrFormatStyle", "\x7blevelname\x7d:\x7bname\x7d:\x7bmessage\x7d"),
   ("$", "StringTemplateStyle", "$\x7blevelname\x7d:$\x7bname\x7d:$\x7bmessage\x7d")]

def describeFormat (f : Text × Text × Text) : Text :=
  f.1.quoted ++ ": (<class 'logging." ++ f.2.1 ++ "'>, " ++ f.2.2.quoted ++ ")"

def Fault.message : Fault → Text
  | .unknownLevel => ("Unknown level: " : Text) ++ lineFormat.quoted
  | .notLevel => ("Level not an integer or a valid string: \x7b" : Text)
      ++ Text.join ", " (formatTable.map describeFormat) ++ "\x7d"
  | .misuse m => m.message
  | .usedTicket => "the ticket has already been used once"

namespace LevelRequest

/-- The names of levels. Two of them have two names. -/
def levels : List (Text × Level) :=
  [("CRITICAL", Level.critical), ("FATAL", Level.critical), ("ERROR", Level.error),
   ("WARNING", Level.warning), ("WARN", Level.warning), ("INFO", Level.info),
   ("DEBUG", Level.debug), ("NOTSET", Level.notSet)]

/-- What a name in any case asks for; an unknown name asks for the level of information. -/
def ofText (t : Text) : LevelRequest :=
  let capitals := t.asciiCapitals
  if capitals = Text.ofString "BASIC_FORMAT" then lineFormat
  else if capitals = Text.ofString "_STYLES" then formatTable
  else match levels.find? (·.1 = capitals) with
    | some (_, l) => level l
    | none => level Level.info

/-- The level that a value asks for. -/
def resolve (v : Value) : Except Fault Level :=
  match v.text? with
  | none => .error (.misuse (.noCapitals v.kind))
  | some t => match ofText t with
    | level l => .ok l
    | lineFormat => .error .unknownLevel
    | formatTable => .error .notLevel

end LevelRequest

namespace State

/-- No handlers, no run, no loggers but those of the package, and the level of warnings for all that
sets none. -/
def initial : State where
  handlers := []
  rootLevel := Level.warning
  packageLevel := Level.notSet
  runId := .text "-"
  tickets := []
  loggers := [package, package ++ ".cli", package ++ ".types.resolver"]
  decisions := []

def hasConsole (s : State) : Bool := s.handlers.contains .console

def addHandler (h : Handler) (s : State) : State := { s with handlers := s.handlers ++ [h] }

/-- The console, with the root at the level of information, if it does not listen yet. -/
def withConsole (s : State) : State :=
  if s.hasConsole then s else { s.addHandler .console with rootLevel := Level.info }

/-- The console is there in any case; the level of the package changes only if one is asked for, and
then nothing that was decided before counts any more. -/
def configure (request : Value) (s : State) : State × Except Fault Unit :=
  let s := s.withConsole
  match LevelRequest.resolve request with
  | .ok l => ({ s with packageLevel := l, decisions := [] }, .ok ())
  | .error f => (s, .error f)

/-- Enters a run. A value that does not hold in a condition names none, and there is no ticket. -/
def push (runId : Value) (s : State) : State × Option Nat :=
  if runId.isTruthy then
    ({ s with runId, tickets := s.tickets ++ [⟨s.runId, false⟩] }, some s.tickets.length)
  else (s, none)

/-- Goes back to the run before the one that a ticket was given for, whatever was entered since. -/
def reset (ticket : Option Nat) (s : State) : State × Except Fault Unit :=
  match ticket with
  | none => (s, .ok ())
  | some i => match s.tickets[i]? with
    | none => (s, .ok ())
    | some t =>
      if t.isUsed then (s, .error .usedTicket)
      else ({ s with runId := t.saved, tickets := s.tickets.set i { t with isUsed := true } }, .ok ())

/-- The level that an event of a logger must have: that of the package where it sets one and the
logger inherits it. -/
def threshold (s : State) (logger : Text) : Level :=
  if Hierarchy.isInPackage s.loggers logger ∧ s.packageLevel ≠ Level.notSet then s.packageLevel
  else s.rootLevel

/-- Whether a logger is enabled for a level, by the levels that are set. None is for what is below
every level. -/
def enables (s : State) (logger : Text) (level : Level) : Bool :=
  decide (Level.notSet < level) && decide (s.threshold logger ≤ level)

/-- The state in which there is a logger of a name. -/
def withLogger (logger : Text) (s : State) : State :=
  if logger = rootLogger ∨ s.loggers.contains logger then s
  else { s with loggers := s.loggers ++ [logger] }

/-- What was found about a logger and a level, if that counts still. -/
def decision? (s : State) (logger : Text) (level : Level) : Option Decision :=
  s.decisions.find? fun d => d.logger = logger ∧ d.level = level

/-- Asks a logger whether it is enabled for a level. What is found counts from then on. Until the
console is set up nothing has to be kept: the levels stay what they are and no level is set for the
package, so it would be found again, and setting up the console makes it count no more. -/
def ask (logger : Text) (level : Level) (s : State) : State × Bool :=
  let s := s.withLogger logger
  match s.decision? logger level with
  | some d => (s, d.isEnabled)
  | none =>
    let isEnabled := s.enables logger level
    if s.hasConsole then
      ({ s with decisions := s.decisions ++ [⟨logger, level, isEnabled⟩] }, isEnabled)
    else (s, isEnabled)

/-- What the console writes for a record. One that cannot be written out leaves no line. -/
def written (s : State) (stamp : Text) (r : Record) : Text :=
  if s.hasConsole then (r.line stamp).toOption.getD [] else []

/-- What the console writes for some records, as far as their loggers are enabled. -/
def lines (s : State) (stamp : Text) (rs : List Record) : Text :=
  (rs.filter fun r => s.enables r.event.logger r.event.level).flatMap (s.written stamp)

end State

end PropertyTyping.Log

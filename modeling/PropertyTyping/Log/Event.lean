import PropertyTyping.Value.Display

/-! What the library reports about its own work: events, and the records they become once the run
that they belong to is known. -/

namespace PropertyTyping.Log

/-- Levels are numbers, and a greater number is more urgent. -/
abbrev Level := Int

namespace Level

def notSet : Level := 0
def debug : Level := 10
def info : Level := 20
def warning : Level := 30
def error : Level := 40
def critical : Level := 50

/-- The name shown for a level. A level between the named ones shows its number, which must not be
too long for that. -/
def name (level : Level) : Except Misuse Text :=
  if level = critical then .ok "CRITICAL"
  else if level = error then .ok "ERROR"
  else if level = warning then .ok "WARNING"
  else if level = info then .ok "INFO"
  else if level = debug then .ok "DEBUG"
  else if level = notSet then .ok "NOTSET"
  else do return ("Level " : Text) ++ (← Value.describeInt level)

end Level

/-- The name under which all loggers of the package stand. -/
def package : Text := "graphtypes"

structure Event where
  level : Level
  logger : Text
  message : Text
  deriving DecidableEq

/-- An event of a run. The run's identity may be any value. -/
structure Record where
  event : Event
  runId : Value

def Event.inRun (e : Event) (runId : Value) : Record := ⟨e, runId⟩

/-- The line of a record: when, how urgent, from where, of which run, and what. -/
def Record.line (stamp : Text) (r : Record) : Except Misuse Text := do
  let level ← r.event.level.name
  let run ← r.runId.shown
  return Text.join " | " [stamp, level.padRight 8, r.event.logger, ("run=" : Text) ++ run,
    r.event.message] ++ "\n"

end PropertyTyping.Log

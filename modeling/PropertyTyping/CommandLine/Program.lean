import PropertyTyping.CommandLine.Request
import PropertyTyping.Json.Printer
import PropertyTyping.Run

/-! The program: what it writes and how it exits, as a function of its arguments and of what it
finds. -/

namespace PropertyTyping.CommandLine

/-- What the program finds: files, the time, and an identity that no other run has. -/
structure Environment where
  source : FileSource
  stamp : Text
  freshRunId : Text

structure Output where
  exitCode : Nat
  standard : Text
  error : Text

/-- The level of logging that is asked for. -/
def levelName (verbose : Bool) : Text := if verbose then "DEBUG" else "WARNING"

def resolveFailed (f : Failure) : Log.Event where
  level := .error
  logger := Report.logger
  message := ("Resolve failed: " : Text) ++ f.message

/-- The state of logging while a file is resolved. -/
def configured (verbose : Bool) : Log.State :=
  (Log.State.initial.configure (.text (levelName verbose))).1

/-- The report on a file behind the lines that were logged, or those lines alone. -/
def resolve (env : Environment) (path : Text) (verbose : Bool) : Output :=
  let r := Report.run env.source path none env.freshRunId (configured verbose)
  match r.answer with
  | .ok report =>
    ⟨0, r.state.lines env.stamp r.records ++ Text.ofChars (Json.render report.toValue) ++ "\n", []⟩
  | .error f =>
    let last := (resolveFailed f).inRun r.state.runId
    ⟨1, r.state.lines env.stamp (r.records ++ [last]), []⟩

/-- A line for each label. -/
def label (labels : List Text) : Output :=
  ⟨0, labels.flatMap fun l => Label.typeName l ++ "\n", []⟩

def run (env : Environment) (arguments : List Text) : Output :=
  match Request.ofArguments arguments with
  | .ok .help => ⟨0, mainGrammar.help, []⟩
  | .ok (.resolve path verbose) => resolve env path verbose
  | .ok (.label labels) => label labels
  | .error (.help text) => ⟨0, text, []⟩
  | .error (.refusal program usage message) =>
    ⟨2, [], usage ++ program ++ ": error: " ++ message ++ "\n"⟩

end PropertyTyping.CommandLine

import PropertyTyping.CommandLine.Grammar

/-! The commands of the program and what its arguments ask for. -/

namespace PropertyTyping.CommandLine

def helpOptions : List (Text × Flag) := [("-h", .help), ("--help", .help)]

def verboseOptions : List (Text × Flag) := [("--verbose", .verbose), ("-v", .verbose)]

def program : Text := "graphtypes"

def mainUsage : Text := "usage: graphtypes [-h] \x7bresolve,label\x7d ...\n"

def mainGrammar : Grammar where
  program := program
  usage := mainUsage
  help := mainUsage ++ "
Resolve GraphQL types from Neo4j property schema information

positional arguments:
  \x7bresolve,label\x7d  Command to execute
    resolve        Resolve GraphQL types for a file of property records
    label          Convert Neo4j labels to GraphQL type names

options:
  -h, --help       show this help message and exit
"
  options := helpOptions
  operand := .command

def resolveUsage : Text := "usage: graphtypes resolve [-h] [--verbose] path\n"

def resolveGrammar : Grammar where
  program := program ++ " resolve"
  usage := resolveUsage
  help := resolveUsage ++ "
positional arguments:
  path           Path to property records (JSON or YAML)

options:
  -h, --help     show this help message and exit
  --verbose, -v  Enable verbose logging
"
  options := helpOptions ++ verboseOptions
  operand := .one "path"

def labelUsage : Text := "usage: graphtypes label [-h] labels [labels ...]\n"

def labelGrammar : Grammar where
  program := program ++ " label"
  usage := labelUsage
  help := labelUsage ++ "
positional arguments:
  labels      One or more labels

options:
  -h, --help  show this help message and exit
"
  options := helpOptions
  operand := .many "labels"

/-- What is to be done. -/
inductive Request where
  | help
  | resolve (path : Text) (verbose : Bool)
  | label (labels : List Text)

/-- What the main grammar could not place, then what the command could not, must both be nothing. -/
def withoutExtras (main command : Reading) (request : Request) : Except Stop Request :=
  let extras := main.extras ++ command.extras
  if extras.isEmpty then .ok request
  else mainGrammar.refuse (("unrecognized arguments: " : Text) ++ Text.join " " extras)

def unknownCommand (name : Text) : Except Stop Request :=
  mainGrammar.refuse (("argument command: invalid choice: " : Text) ++ name.quoted
    ++ " (choose from 'resolve', 'label')")

def Request.ofArguments (arguments : List Text) : Except Stop Request := do
  let main ← mainGrammar.read arguments
  match main.operands with
  | none | some [] => withoutExtras main ⟨false, none, []⟩ .help
  | some (name :: arguments) =>
    if name = Text.ofString "resolve" then
      let r ← resolveGrammar.read arguments
      withoutExtras main r (.resolve ((r.operands.getD []).headD []) r.verbose)
    else if name = Text.ofString "label" then
      let r ← labelGrammar.read arguments
      withoutExtras main r (.label (r.operands.getD []))
    else unknownCommand name

end PropertyTyping.CommandLine

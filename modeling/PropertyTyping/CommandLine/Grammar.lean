import PropertyTyping.Text.Digit
import PropertyTyping.Text.Quoted

/-! The grammar of the arguments of one command: options, which a dash starts and which may be
shortened, and operands. Two dashes alone make operands of all that follows. -/

namespace PropertyTyping.CommandLine

inductive Flag where
  | help
  | verbose
  deriving DecidableEq

/-- What a command expects besides options. -/
inductive Operand where
  /-- The name of another command and all that follows it; it may be missing. -/
  | command
  /-- One operand that must be there. -/
  | one (name : Text)
  /-- One operand at least. -/
  | many (name : Text)

structure Grammar where
  program : Text
  usage : Text
  help : Text
  /-- The spellings of options, in the order in which they are declared. -/
  options : List (Text × Flag)
  operand : Operand

/-- Why reading arguments ends before a command can run. -/
inductive Stop where
  | help (text : Text)
  | refusal (program usage message : Text)

/-- What an option's text means: a flag under one of its spellings, with text attached to it. -/
structure Meaning where
  flag : Flag
  spelling : Text
  attached : Option Text

inductive Word where
  | operand (t : Text)
  | separator
  | option (t : Text) (meaning : Option Meaning)

def dash : CodePoint := .scalar '-'

def twoDashes : Text := [dash, dash]

def Word.text : Word → Text
  | .operand t => t
  | .separator => twoDashes
  | .option t _ => t

/-- The text before and after the first equals sign. -/
def splitAtEquals (t : Text) : Text × Option Text :=
  let name := t.takeWhile (· ≠ .scalar '=')
  match t.drop name.length with
  | [] => (name, none)
  | _ :: value => (name, some value)

/-- A dash with digits and perhaps a point among them, and perhaps a line end, is a number. -/
def isNegativeNumber (t : Text) : Bool :=
  let body := if t.getLast? = some (.scalar '\n') then t.dropLast else t
  match body with
  | c :: rest =>
    let whole := rest.takeWhile CodePoint.isDecimalDigit
    match rest.drop whole.length with
    | [] => c == dash && !whole.isEmpty
    | point :: places =>
      c == dash && point == .scalar '.' && !places.isEmpty && places.all CodePoint.isDecimalDigit
  | [] => false

/-- Whether an option is spelled with one dash. -/
def isShort : Text → Bool
  | a :: b :: _ => a == dash && b != dash
  | _ => false

namespace Grammar

def flag? (g : Grammar) (spelling : Text) : Option Flag :=
  (g.options.find? (·.1 = spelling)).map (·.2)

/-- The options that a text may stand for: one dash and a letter with text attached to them, or the
beginning of a spelling with two dashes. -/
def candidates (g : Grammar) (t : Text) : List Meaning :=
  if isShort t then
    (g.options.filter (·.1 = t.take 2)).map fun o => ⟨o.2, o.1, some (t.drop 2)⟩
  else
    let (start, attached) := splitAtEquals t
    (g.options.filter fun o => start.isPrefixOf o.1).map fun o => ⟨o.2, o.1, attached⟩

def refuse {α : Type} (g : Grammar) (message : Text) : Except Stop α :=
  .error (.refusal g.program g.usage message)

/-- The word of a text that starts with a dash and is no exact spelling. -/
def guess (g : Grammar) (t : Text) : Except Stop Word :=
  match g.candidates t with
  | [m] => .ok (.option t (some m))
  | [] =>
    if isNegativeNumber t ∨ t.contains (.scalar ' ') then .ok (.operand t) else .ok (.option t none)
  | ms => g.refuse (("ambiguous option: " : Text) ++ t ++ " could match "
      ++ Text.join ", " (ms.map (·.spelling)))

/-- The word of one argument, as long as no separator came before. -/
def word (g : Grammar) (t : Text) : Except Stop Word :=
  if t.head? ≠ some dash ∨ t = [dash] then .ok (.operand t)
  else match g.flag? t with
    | some f => .ok (.option t (some ⟨f, t, none⟩))
    | none =>
      let (name, attached) := splitAtEquals t
      match g.flag? name, attached with
      | some f, some a => .ok (.option t (some ⟨f, name, some a⟩))
      | _, _ => g.guess t

/-- The words of all arguments. -/
def words (g : Grammar) : List Text → Except Stop (List Word)
  | [] => .ok []
  | t :: ts =>
    if t = twoDashes then .ok (.separator :: ts.map .operand)
    else do return (← g.word t) :: (← g.words ts)

/-- A flag by all its spellings. -/
def flagName (g : Grammar) (f : Flag) : Text :=
  Text.join "/" ((g.options.filter (·.2 = f)).map (·.1))

def refuseAttached {α : Type} (g : Grammar) (f : Flag) (attached : Text) : Except Stop α :=
  g.refuse (("argument " : Text) ++ g.flagName f ++ ": ignored explicit argument "
    ++ attached.quoted)

/-- The flags of a cluster: behind a flag with one dash, each letter is such a flag again. -/
def cluster (g : Grammar) (f : Flag) : Text → Except Stop (List Flag)
  | [] => .ok [f]
  | c :: rest => match g.flag? [dash, c] with
    | some next => do return f :: (← g.cluster next rest)
    | none => g.refuseAttached f (c :: rest)

/-- The flags that an option sets. No flag takes a value. -/
def flags (g : Grammar) (m : Meaning) : Except Stop (List Flag) :=
  match m.attached with
  | none => .ok [m.flag]
  | some a =>
    if isShort m.spelling ∧ a ≠ [] then g.cluster m.flag a else g.refuseAttached m.flag a

end Grammar

/-- What arguments amount to: whether output is verbose, the operands, and what fits nowhere. -/
structure Reading where
  verbose : Bool
  operands : Option (List Text)
  extras : List Text

namespace Operand

def isOption : Word → Bool
  | .option _ _ => true
  | _ => false

def operandText? : Word → Option Text
  | .operand t => some t
  | _ => none

def isSeparator : Word → Bool
  | .separator => true
  | _ => false

/-- The operands that the words begin with, and the words after them. Separators around them are
passed over; only a further command keeps what it is given. -/
def take? (o : Operand) (ws : List Word) : Option (List Text × List Word) :=
  match ws.dropWhile isSeparator with
  | .operand t :: rest =>
    match o with
    | .command => some (ws.map Word.text, [])
    | .one _ => some ([t], rest.dropWhile isSeparator)
    | .many _ =>
      let more := rest.takeWhile (!isOption ·)
      some (t :: more.filterMap operandText?, rest.drop more.length)
  | _ => none

/-- The name of an operand that must be there. -/
def required? : Operand → Option Text
  | .command => none
  | .one name | .many name => some name

end Operand

namespace Grammar

/-- Flags take effect in order, and help ends it all. -/
def applyFlags (g : Grammar) (r : Reading) : List Flag → Except Stop Reading
  | [] => .ok r
  | .help :: _ => .error (.help g.help)
  | .verbose :: fs => g.applyFlags { r with verbose := true } fs

/-- One word that no operand begins with. -/
def readWord (g : Grammar) (r : Reading) : Word → Except Stop Reading
  | .option _ (some m) => do g.applyFlags r (← g.flags m)
  | w => .ok { r with extras := r.extras ++ [w.text] }

/-- The words from left to right. Operands are taken where the first of them stands. -/
def readWords (g : Grammar) : Nat → Reading → List Word → Except Stop Reading
  | 0, r, _ | _, r, [] => .ok r
  | n + 1, r, w :: ws =>
    match r.operands, g.operand.take? (w :: ws) with
    | none, some (taken, rest) => g.readWords n { r with operands := some taken } rest
    | _, _ => do g.readWords n (← g.readWord r w) ws

def read (g : Grammar) (arguments : List Text) : Except Stop Reading := do
  let ws ← g.words arguments
  let r ← g.readWords ws.length ⟨false, none, []⟩ ws
  match r.operands, g.operand.required? with
  | none, some name => g.refuse (("the following arguments are required: " : Text) ++ name)
  | _, _ => return r

end Grammar

end PropertyTyping.CommandLine

import PropertyTyping.Yaml.Scalar
import PropertyTyping.Yaml.Source

/-! The tokens of an indented document. Indentation becomes tokens that open and close blocks. A key
without a mark of its own is known only by the colon behind it, so its place is remembered until
the line ends, and the tokens that mark it are put there afterwards. A fault of the text is a token
too, since a reader that stops before it never meets it. -/

namespace PropertyTyping.Yaml

inductive Token where
  | documentStart
  | documentEnd
  | blockSequenceStart
  | blockMappingStart
  | blockEnd
  | flowSequenceStart
  | flowSequenceEnd
  | flowMappingStart
  | flowMappingEnd
  | blockEntry
  | flowEntry
  | key
  | value
  | scalar (t : Text) (isPlain : Bool)
  | halt (f : Fault)
  deriving DecidableEq

/-- A place where a key may have started. -/
structure KeyStart where
  /-- The number of brackets open there. -/
  level : Nat
  /-- The number of tokens before it. -/
  count : Nat
  /-- Whether the text breaks a rule unless it is a key. -/
  isRequired : Bool
  place : Place

structure Scan where
  cursor : Cursor
  /-- The tokens so far, the last one first. -/
  tokens : List Token
  count : Nat
  count_eq : count = tokens.length
  /-- The columns of the open blocks, the innermost first. -/
  indents : List Int
  level : Nat
  keyAllowed : Bool
  keyStarts : List KeyStart

namespace Scan

def start (cs : List Char) : Scan where
  cursor := match cs with
    | '\uFEFF' :: rest => ⟨Place.start.after '\uFEFF', rest⟩
    | _ => ⟨.start, cs⟩
  tokens := []
  count := 0
  count_eq := rfl
  indents := []
  level := 0
  keyAllowed := true
  keyStarts := []

/-- The column of the innermost open block, or one column before the text. -/
def indent (s : Scan) : Int := s.indents.headD (-1)

def column (s : Scan) : Int := s.cursor.place.column

def inFlow (s : Scan) : Bool := s.level != 0

def push (t : Token) (s : Scan) : Scan :=
  { s with
    tokens := t :: s.tokens
    count := s.count + 1
    count_eq := by simp [s.count_eq] }

/-- The token put in where the first `count` tokens end. -/
def insert (count : Nat) (t : Token) (s : Scan) : Scan :=
  { s with
    tokens := s.tokens.insertIdx (s.count - count) t
    count := s.count + 1
    count_eq := by simp [List.length_insertIdx, ← s.count_eq] }

def skip (n : Nat) (s : Scan) : Scan := { s with cursor := s.cursor.skip n }

/-- What lies before the next token: blanks, comments and line breaks. Outside brackets a line
break lets a key start. -/
def skipSpace : Bool → Place → List Char → Bool → Cursor × Bool
  | _, p, [], crossed => (⟨p, []⟩, crossed)
  | inComment, p, c :: rest, crossed =>
    if isBreak c then skipSpace false (p.after c) rest true
    else if inComment || c == ' ' then skipSpace inComment (p.after c) rest crossed
    else if c == '#' then skipSpace true (p.after c) rest crossed
    else (⟨p, c :: rest⟩, crossed)

def toToken (s : Scan) : Scan :=
  let (cursor, crossed) := skipSpace false s.cursor.place s.cursor.rest false
  { s with cursor, keyAllowed := s.keyAllowed || crossed && !s.inFlow }

/-- A key fits in one line and is not too long. -/
def isStale (s : Scan) (k : KeyStart) : Bool :=
  k.place.line != s.cursor.place.line || decide (1024 < s.cursor.place.index - k.place.index)

def dropStale (s : Scan) : Except Fault Scan :=
  if s.keyStarts.any fun k => s.isStale k && k.isRequired then refuse .unfinishedKey
  else .ok { s with keyStarts := s.keyStarts.filter fun k => !s.isStale k }

/-- Closes the blocks that are indented more than a column. -/
def closeBlocks (column : Int) (s : Scan) : Scan :=
  if s.inFlow then s
  else
    let closed := s.indents.takeWhile (column < ·)
    { s with
      tokens := closed.map (fun _ => Token.blockEnd) ++ s.tokens
      count := closed.length + s.count
      count_eq := by simp [s.count_eq]
      indents := s.indents.drop closed.length }

/-- A block indented more than the open ones, with the token that opens it. -/
def openBlock (column : Int) (t : Token) (count : Nat) (s : Scan) : Scan :=
  if s.indent < column then { s.insert count t with indents := column :: s.indents } else s

/-- The place where a key may have started among the brackets that are open now is given up. -/
def dropKeyStart (s : Scan) : Except Fault Scan :=
  if s.keyStarts.any fun k => k.level == s.level && k.isRequired then refuse .unfinishedKey
  else .ok { s with keyStarts := s.keyStarts.filter fun k => k.level != s.level }

/-- A key may start here, if one may at all. -/
def noteKeyStart (s : Scan) : Except Fault Scan :=
  if s.keyAllowed then do
    let isRequired := !s.inFlow && decide (s.indent = s.column)
    let s ← s.dropKeyStart
    return { s with keyStarts := ⟨s.level, s.count, isRequired, s.cursor.place⟩ :: s.keyStarts }
  else .ok s

def forbidKey (s : Scan) : Scan := { s with keyAllowed := false }

def division (t : Token) (s : Scan) : Except Fault Scan := do
  let s ← (s.closeBlocks (-1)).dropKeyStart
  return (s.forbidKey.push t).skip 3

def openBracket (t : Token) (s : Scan) : Except Fault Scan := do
  let s ← s.noteKeyStart
  return ({ s with level := s.level + 1, keyAllowed := true }.push t).skip 1

def closeBracket (t : Token) (s : Scan) : Except Fault Scan := do
  if s.level = 0 then refuse .unexpectedToken
  let s ← s.dropKeyStart
  return ({ s with level := s.level - 1, keyAllowed := false }.push t).skip 1

def flowEntry (s : Scan) : Except Fault Scan := do
  let s ← s.dropKeyStart
  return ({ s with keyAllowed := true }.push .flowEntry).skip 1

def blockEntry (s : Scan) : Except Fault Scan := do
  if !s.inFlow && !s.keyAllowed then refuse .misplacedEntry
  let s := if s.inFlow then s else s.openBlock s.column .blockSequenceStart s.count
  let s ← { s with keyAllowed := true }.dropKeyStart
  return (s.push .blockEntry).skip 1

def markedKey (s : Scan) : Except Fault Scan := do
  if !s.inFlow && !s.keyAllowed then refuse .misplacedKey
  let s := if s.inFlow then s else s.openBlock s.column .blockMappingStart s.count
  let s ← { s with keyAllowed := !s.inFlow }.dropKeyStart
  return (s.push .key).skip 1

/-- A colon makes a key of what started at the place that was noted, if one was. -/
def colon (s : Scan) : Except Fault Scan :=
  match s.keyStarts.find? (·.level == s.level) with
  | some k =>
    let s := { s with keyStarts := s.keyStarts.filter fun k => k.level != s.level }
    let s := s.insert k.count .key
    let s := if s.inFlow then s else s.openBlock k.place.column .blockMappingStart k.count
    .ok ((s.forbidKey.push .value).skip 1)
  | none => do
    if !s.inFlow && !s.keyAllowed then refuse .misplacedValue
    let s := if s.inFlow then s else s.openBlock s.column .blockMappingStart s.count
    let s ← { s with keyAllowed := !s.inFlow }.dropKeyStart
    return (s.push .value).skip 1

/-- A scalar in quotes. The number is at least that of the characters left, here and in what
follows. -/
def quotedScalar (n : Nat) (double : Bool) (s : Scan) : Except Fault Scan := do
  let s ← s.noteKeyStart
  let (t, cursor) ← Quoted.read double n (s.cursor.skip 1)
  return { s with cursor, keyAllowed := false }.push (.scalar t false)

def plainScalar (n : Nat) (s : Scan) : Except Fault Scan := do
  let s ← s.noteKeyStart
  let r := Plain.read s.inFlow (s.indent + 1) n s.cursor
  return { s with cursor := r.cursor, keyAllowed := r.crossedLine }.push
    (.scalar (Text.ofChars r.text) true)

/-- The characters that no plain scalar starts with. The first three may start one where no blank
follows. -/
def indicators : List Char := "-?:,[]\x7b\x7d#&*!|>'\"%@\x60".toList

def startsPlain (inFlow : Bool) (c : Char) (rest : List Char) : Bool :=
  !isBlank c && !isBreak c && !indicators.contains c
    || !endsWord rest && (c == '-' || !inFlow && (c == '?' || c == ':'))

/-- The next token, from a place where neither a blank nor a comment stands. -/
def token (n : Nat) (s : Scan) (c : Char) (rest : List Char) : Except Fault Scan :=
  if s.cursor.place.column = 0 && c == '%' then refuse .unsupported
  else if s.cursor.place.column = 0 && dividesDocuments (c :: rest) then
    s.division (if c == '-' then .documentStart else .documentEnd)
  else if c == '[' then s.openBracket .flowSequenceStart
  else if c == '\x7b' then s.openBracket .flowMappingStart
  else if c == ']' then s.closeBracket .flowSequenceEnd
  else if c == '\x7d' then s.closeBracket .flowMappingEnd
  else if c == ',' then s.flowEntry
  else if c == '-' && endsWord rest then s.blockEntry
  else if c == '?' && (s.inFlow || endsWord rest) then s.markedKey
  else if c == ':' && (s.inFlow || endsWord rest) then s.colon
  else if c == '\'' then s.quotedScalar n false
  else if c == '"' then s.quotedScalar n true
  else if startsPlain s.inFlow c rest then s.plainScalar n
  else if "*&!|>".toList.contains c then refuse .unsupported
  else refuse .unexpectedCharacter

/-- What a step through the text comes to. -/
inductive Progress where
  | more (s : Scan)
  | finished (s : Scan)

/-- One token, or the end. The fault behind the text takes the place of its end. -/
def step (n : Nat) (behind : Option Fault) (s : Scan) : Except Fault Progress := do
  let s ← s.toToken.dropStale
  let s := s.closeBlocks s.column
  match s.cursor.rest, behind with
  | [], some f => .error f
  | [], none => return .finished (← (s.closeBlocks (-1)).dropKeyStart)
  | c :: rest, _ => return .more (← s.token n c rest)

/-- Whether the text is used up. The end of a token is known only by what follows it. -/
def isExhausted (s : Scan) : Bool := s.cursor.rest.isEmpty

/-- The tokens that were certain before a fault was met, and the fault. A token that may yet turn
out to be a key is not certain, nor is any after it. -/
def haltedBy (s : Scan) (f : Fault) : List Token :=
  let pending := s.keyStarts.filter fun k => !s.isStale k
  let certain := pending.foldl (fun n k => min n k.count) s.count
  s.tokens.reverse.take certain ++ [.halt f]

/-- A scalar without an end in sight lacks only what is behind the text. -/
def cause (behind : Option Fault) (f : Fault) : Fault :=
  if f = .syntaxFault .unfinishedScalar then behind.getD f else f

/-- The tokens up to the end. Every token takes a character, so the number of characters bounds
their number. -/
def all (behind : Option Fault) : Nat → Scan → List Token
  | 0, s => s.tokens.reverse
  | n + 1, s =>
    match s.step n behind, behind with
    | .error f, _ => s.haltedBy (cause behind f)
    | .ok (.finished t), _ => t.tokens.reverse
    | .ok (.more t), some f => if t.isExhausted then s.haltedBy f else all behind n t
    | .ok (.more t), none => all behind n t

end Scan

/-- The tokens of a text. -/
def Token.scan (s : Source) : List Token :=
  Scan.all s.fault? (s.chars.length + 1) (Scan.start s.chars)

end PropertyTyping.Yaml

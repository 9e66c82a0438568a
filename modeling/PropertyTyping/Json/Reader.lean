import PropertyTyping.Number.Digits
import PropertyTyping.Value

/-! Reading JSON text. Beyond the standard, the names of infinities and of the number that is none
are read. A reader returns what it read and the characters left over; a fault is located by the
characters that were left when it was met. -/

namespace PropertyTyping.Json

/-- What the text lacks at a place. -/
inductive Cause where
  | byteOrderMark
  | value
  | extraData
  | propertyName
  | colon
  | comma
  | closingQuote
  | plainCharacter
  | escape
  | unicodeEscape
  deriving DecidableEq

def Cause.message : Cause → String
  | .byteOrderMark => "Unexpected UTF-8 BOM (decode using utf-8-sig)"
  | .value => "Expecting value"
  | .extraData => "Extra data"
  | .propertyName => "Expecting property name enclosed in double quotes"
  | .colon => "Expecting ':' delimiter"
  | .comma => "Expecting ',' delimiter"
  | .closingQuote => "Unterminated string starting at"
  | .plainCharacter => "Invalid control character at"
  | .escape => "Invalid \\escape"
  | .unicodeEscape => "Invalid \\uXXXX escape"

inductive Collection where
  | array
  | object
  deriving DecidableEq

/-- A fault where a number of characters is left, an integer of too many digits, or a collection
inside too many others. -/
inductive Halt where
  | syntaxFault (cause : Cause) (left : Nat)
  | longInteger (digits : Nat)
  | tooDeep (c : Collection)

/-- The fault met before the given characters. -/
def fault {α : Type} (cause : Cause) (cs : List Char) : Except Halt α :=
  .error (.syntaxFault cause cs.length)

def isBlank (c : Char) : Bool := c == ' ' || c == '\t' || c == '\n' || c == '\r'

def skipBlanks (cs : List Char) : List Char := cs.dropWhile isBlank

/-- The character that a backslash and a letter stand for. -/
def shortEscape? : Char → Option Char
  | '"' => some '"'
  | '\\' => some '\\'
  | '/' => some '/'
  | 'b' => some '\x08'
  | 'f' => some '\x0C'
  | 'n' => some '\n'
  | 'r' => some '\r'
  | 't' => some '\t'
  | _ => none

/-- Why a string is not read: it has no closing quote, or there is a fault inside. -/
inductive StringHalt where
  | unclosed
  | inside (h : Halt)

/-- The fault met inside a string before the given characters. -/
def faultInside {α : Type} (cause : Cause) (cs : List Char) : Except StringHalt α :=
  (fault cause cs).mapError .inside

/-- The code points up to the closing quote, and the characters after it. -/
def scan : List Char → Except StringHalt (Text × List Char)
  | [] => .error .unclosed
  | '"' :: rest => .ok ([], rest)
  | '\\' :: 'u' :: a :: b :: c :: d :: e :: rest =>
    match (Digits.hexNumber? [a, b, c, d]).bind CodePoint.ofNat? with
    | some p => do
      let (t, left) ← scan (e :: rest)
      return (p :: t, left)
    | none => faultInside .unicodeEscape ('u' :: a :: b :: c :: d :: e :: rest)
  | '\\' :: 'u' :: rest => faultInside .unicodeEscape ('u' :: rest)
  | ['\\'] => .error .unclosed
  | '\\' :: c :: rest =>
    match shortEscape? c with
    | some p => do
      let (t, left) ← scan rest
      return (.scalar p :: t, left)
    | none => faultInside .escape ('\\' :: c :: rest)
  | c :: rest =>
    if c.toNat < 0x20 then faultInside .plainCharacter (c :: rest)
    else do
      let (t, left) ← scan rest
      return (.scalar c :: t, left)

/-- The character of a surrogate pair, the halves given by their distances from U+D800. -/
def pair? (high low : Fin 0x800) : Option CodePoint :=
  if high.val < 0x400 ∧ 0x400 ≤ low.val then
    CodePoint.ofNat? (0x10000 + high.val * 0x400 + (low.val - 0x400))
  else none

/-- Each high surrogate that a low one follows becomes one character with it. -/
def joinSurrogates : Text → Text
  | .surrogate high :: .surrogate low :: rest =>
    match pair? high low with
    | some p => p :: joinSurrogates rest
    | none => .surrogate high :: joinSurrogates (.surrogate low :: rest)
  | c :: rest => c :: joinSurrogates rest
  | [] => []

/-- A string after its opening quote. Without a closing quote, the whole string and the opening
quote count as left. -/
def string (cs : List Char) : Except Halt (Text × List Char) :=
  match scan cs with
  | .ok (t, left) => .ok (joinSurrogates t, left)
  | .error .unclosed => .error (.syntaxFault .closingQuote (cs.length + 1))
  | .error (.inside h) => .error h

/-- The digits before the point: a zero alone, or digits that do not start with one. -/
def wholePart? : List Char → Option (List Char × List Char)
  | '0' :: rest => some (['0'], rest)
  | cs =>
    let ds := cs.takeWhile Digits.isDecimal
    if ds.isEmpty then none else some (ds, cs.dropWhile Digits.isDecimal)

/-- The digits after a point. A point that no digit follows does not belong to the number. -/
def fractionPart : List Char → List Char × List Char
  | '.' :: rest =>
    let ds := rest.takeWhile Digits.isDecimal
    if ds.isEmpty then ([], '.' :: rest) else (ds, rest.dropWhile Digits.isDecimal)
  | cs => ([], cs)

/-- The power of ten after its letter, if digits follow. -/
def exponentPart : List Char → Option Int × List Char
  | c :: rest =>
    if c = 'e' ∨ c = 'E' then
      let (negative, cs) := Digits.signPart rest
      let ds := cs.takeWhile Digits.isDecimal
      if ds.isEmpty then (none, c :: rest)
      else
        (some (Digits.signed negative (Digits.decimal ds)), cs.dropWhile Digits.isDecimal)
    else (none, c :: rest)
  | [] => (none, [])

/-- The number of its parts: an integer unless a fraction or an exponent is there. -/
def numberOfParts (negative : Bool) (whole fraction : List Char) (exponent : Option Int) :
    Except Halt Value :=
  if fraction.isEmpty ∧ exponent.isNone then
    if Digits.limit < whole.length then .error (.longInteger whole.length)
    else .ok (.int (Digits.signed negative (Digits.decimal whole)))
  else .ok (.float (.ofDecimal negative (Digits.decimal (whole ++ fraction))
    (exponent.getD 0 - fraction.length)))

/-- A number, if one stands here. -/
def number (cs : List Char) : Except Halt (Value × List Char) :=
  let (negative, body) := match cs with
    | '-' :: rest => (true, rest)
    | _ => (false, cs)
  match wholePart? body with
  | none => fault .value cs
  | some (whole, afterWhole) => do
    let (fraction, afterFraction) := fractionPart afterWhole
    let (exponent, left) := exponentPart afterFraction
    return (← numberOfParts negative whole fraction exponent, left)

/-- The words that are values. -/
def words : List (List Char × Value) :=
  [("null".toList, .null), ("true".toList, .bool true), ("false".toList, .bool false),
   ("NaN".toList, .float .nan), ("Infinity".toList, .float (.infinity false)),
   ("-Infinity".toList, .float (.infinity true))]

/-- The word that the characters begin with, if one does. -/
def word? (cs : List Char) : Option (Value × List Char) :=
  (words.find? fun w => w.1.isPrefixOf cs).map fun w => (w.2, cs.drop w.1.length)

mutual

/-- A value, with room for so many collections inside each other. The second argument bounds the
length of the work; two for each character and two more are always enough, since only the opening
of a collection costs two. -/
def value (room : Nat) : Nat → List Char → Except Halt (Value × List Char)
  | 0, cs => fault .value cs
  | n + 1, cs =>
    match cs with
    | '"' :: rest => do
      let (t, left) ← string rest
      return (.text t, left)
    | '[' :: rest =>
      if room = 0 then .error (.tooDeep .array)
      else match skipBlanks rest with
        | ']' :: left => .ok (.list [], left)
        | rest => do
          let (vs, left) ← items (room - 1) n rest
          return (.list vs, left)
    | '\x7b' :: rest =>
      if room = 0 then .error (.tooDeep .object)
      else match skipBlanks rest with
        | '\x7d' :: left => .ok (.object [], left)
        | rest => do
          let (fields, left) ← members (room - 1) n rest
          return (Value.ofFields fields, left)
    | cs => match word? cs with
      | some result => .ok result
      | none => number cs

/-- The items of a list up to its closing bracket. -/
def items (room : Nat) : Nat → List Char → Except Halt (List Value × List Char)
  | 0, cs => fault .value cs
  | n + 1, cs => do
    let (v, rest) ← value room n cs
    match skipBlanks rest with
    | ']' :: left => return ([v], left)
    | ',' :: rest =>
      let (vs, left) ← items room n (skipBlanks rest)
      return (v :: vs, left)
    | rest => fault .comma rest

/-- The fields of an object up to its closing brace. -/
def members (room : Nat) : Nat → List Char → Except Halt (List (Text × Value) × List Char)
  | 0, cs => fault .value cs
  | n + 1, cs =>
    match cs with
    | '"' :: rest => do
      let (key, rest) ← string rest
      match skipBlanks rest with
      | ':' :: rest =>
        let (v, rest) ← value room n (skipBlanks rest)
        match skipBlanks rest with
        | '\x7d' :: left => return ([(key, v)], left)
        | ',' :: rest =>
          let (fields, left) ← members room n (skipBlanks rest)
          return ((key, v) :: fields, left)
        | rest => fault .comma rest
      | rest => fault .colon rest
    | cs => fault .propertyName cs

end

/-- The most collections that may lie inside each other. -/
def nestingLimit : Nat := 988

/-- The value of a whole document. -/
def document (cs : List Char) : Except Halt Value :=
  match cs with
  | '\uFEFF' :: _ => fault .byteOrderMark cs
  | _ => do
    let (v, rest) ← value nestingLimit (2 * cs.length + 2) (skipBlanks cs)
    match skipBlanks rest with
    | [] => return v
    | rest => fault .extraData rest

/-- A fault by its place in the document. -/
structure SyntaxFault where
  cause : Cause
  line : Nat
  column : Nat
  offset : Nat
  deriving DecidableEq

/-- The place before which some characters of a document are left. Lines and columns count from
one, the offset from zero. -/
def SyntaxFault.locate (cs : List Char) (cause : Cause) (left : Nat) : SyntaxFault :=
  let offset := cs.length - left
  let before := cs.take offset
  ⟨cause, before.count '\n' + 1, (before.reverse.takeWhile (· ≠ '\n')).length + 1, offset⟩

def SyntaxFault.message (f : SyntaxFault) : Text :=
  (f.cause.message : Text) ++ ": line " ++ Text.ofNat f.line ++ " column " ++ Text.ofNat f.column
    ++ " (char " ++ Text.ofNat f.offset ++ ")"

/-- Why a text is no document. -/
inductive Fault where
  | syntaxFault (f : SyntaxFault)
  | longInteger (digits : Nat)
  | tooDeep (c : Collection)
  deriving DecidableEq

def Collection.name : Collection → String
  | .array => "array"
  | .object => "object"

def Fault.message : Fault → Text
  | .syntaxFault f => f.message
  | .longInteger digits => Digits.tooManyMessage digits
  | .tooDeep c => ("maximum recursion depth exceeded while decoding a JSON " : Text) ++ c.name
      ++ " from a unicode string"

/-- The value that a text is a document of. -/
def parse (cs : List Char) : Except Fault Value :=
  match document cs with
  | .ok v => .ok v
  | .error (.syntaxFault cause left) => .error (.syntaxFault (.locate cs cause left))
  | .error (.longInteger digits) => .error (.longInteger digits)
  | .error (.tooDeep c) => .error (.tooDeep c)

end PropertyTyping.Json

import PropertyTyping.Text.Quoted
import PropertyTyping.Value

/-! Writing JSON text. Every character beyond ASCII is escaped, in two halves where it has no
escape of its own, and nested values are indented by two blanks a level. -/

namespace PropertyTyping.Json

/-- One half of a character, or all of it, as an escape. -/
def unitEscape (n : Nat) : List Char := '\\' :: 'u' :: Text.hex 4 n

/-- A code point inside a string. -/
def escape (c : CodePoint) : List Char :=
  if c = .scalar '"' then ['\\', '"']
  else if c = .scalar '\\' then ['\\', '\\']
  else if c = .scalar '\n' then ['\\', 'n']
  else if c = .scalar '\r' then ['\\', 'r']
  else if c = .scalar '\t' then ['\\', 't']
  else if c = .scalar '\x08' then ['\\', 'b']
  else if c = .scalar '\x0C' then ['\\', 'f']
  else if 0x20 ≤ c.value ∧ c.value < 0x7F then [c.toChar]
  else if c.value < 0x10000 then unitEscape c.value
  else unitEscape (0xD800 + (c.value - 0x10000) / 0x400)
    ++ unitEscape (0xDC00 + (c.value - 0x10000) % 0x400)

def renderText (t : Text) : List Char := '"' :: t.flatMap escape ++ ['"']

def renderFloat (x : Binary64) : List Char :=
  if x.isNaN then "NaN".toList
  else if !x.isFinite then (if x.isNegative then "-Infinity" else "Infinity").toList
  else x.toText.map CodePoint.toChar

/-- A new line at a level. -/
def newLine (level : Nat) : List Char := '\n' :: List.replicate (2 * level) ' '

mutual

/-- A value at a level of nesting. -/
def renderAt (level : Nat) : Value → List Char
  | .null => "null".toList
  | .bool b => (if b then "true" else "false").toList
  | .int n => (Text.ofInt n).map CodePoint.toChar
  | .float x => renderFloat x
  | .text t => renderText t
  | .tag s => renderText s.name
  | .moment m => renderText m.toText
  | .list [] => ['[', ']']
  | .list (v :: vs) =>
    '[' :: newLine (level + 1) ++ renderAt (level + 1) v ++ renderItems (level + 1) vs
      ++ newLine level ++ [']']
  | .object [] => ['\x7b', '\x7d']
  | .object ((k, v) :: fields) =>
    '\x7b' :: newLine (level + 1) ++ renderText k ++ ':' :: ' ' :: renderAt (level + 1) v
      ++ renderFields (level + 1) fields ++ newLine level ++ ['\x7d']

/-- The items after the first. -/
def renderItems (level : Nat) : List Value → List Char
  | [] => []
  | v :: vs => ',' :: newLine level ++ renderAt level v ++ renderItems level vs

/-- The fields after the first. -/
def renderFields (level : Nat) : List (Text × Value) → List Char
  | [] => []
  | (k, v) :: fields =>
    ',' :: newLine level ++ renderText k ++ ':' :: ' ' :: renderAt level v
      ++ renderFields level fields

end

def render (v : Value) : List Char := renderAt 0 v

end PropertyTyping.Json

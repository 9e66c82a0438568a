import PropertyTyping.Text

/-! Octets read as UTF-8. A character is completed octet by octet, so what is left at the end of the
input is the start of a character, and a fault is found at the first octet that cannot go on. -/

namespace PropertyTyping.Utf8

inductive Reason where
  | startByte
  | continuationByte
  | endOfData
  deriving DecidableEq

def Reason.message : Reason → String
  | .startByte => "invalid start byte"
  | .continuationByte => "invalid continuation byte"
  | .endOfData => "unexpected end of data"

/-- The octets that form no character, and how many octets stand before them. -/
structure Fault where
  octets : List UInt8
  position : Nat
  reason : Reason
  deriving DecidableEq

def Fault.message (f : Fault) : Text :=
  let place : Text := match f.octets with
    | [b] => ("byte 0x" : Text) ++ Text.ofNat16 b.toNat ++ " in position " ++ Text.ofNat f.position
    | bs => ("bytes in position " : Text) ++ Text.ofNat f.position ++ "-"
        ++ Text.ofNat (f.position + bs.length - 1)
  ("'utf-8' codec can't decode " : Text) ++ place ++ ": " ++ f.reason.message

/-- An unfinished character: its octets, the number they spell so far, the bounds of the octet that
must follow, and how many must follow. -/
structure Pending where
  octets : List UInt8
  number : Nat
  low : UInt8
  high : UInt8
  missing : Nat

/-- What a first octet beyond ASCII promises. The bounds of the second octet rule out surrogates,
numbers beyond U+10FFFF and forms longer than needed. -/
def Pending.start? (b : UInt8) : Option Pending :=
  let first (number : Nat) := Pending.mk [b] number
  if 0xC2 ≤ b ∧ b ≤ 0xDF then some (first (b.toNat - 0xC0) 0x80 0xBF 1)
  else if b = 0xE0 then some (first 0 0xA0 0xBF 2)
  else if b = 0xED then some (first 0xD 0x80 0x9F 2)
  else if 0xE1 ≤ b ∧ b ≤ 0xEF then some (first (b.toNat - 0xE0) 0x80 0xBF 2)
  else if b = 0xF0 then some (first 0 0x90 0xBF 3)
  else if 0xF1 ≤ b ∧ b ≤ 0xF3 then some (first (b.toNat - 0xF0) 0x80 0xBF 3)
  else if b = 0xF4 then some (first 4 0x80 0x8F 3)
  else none

def Pending.accepts (p : Pending) (b : UInt8) : Bool := decide (p.low ≤ b) && decide (b ≤ p.high)

def Pending.extend (p : Pending) (b : UInt8) : Pending :=
  ⟨p.octets ++ [b], p.number * 64 + (b.toNat - 0x80), 0x80, 0xBF, p.missing - 1⟩

/-- The characters of a run of octets that starts at a position, and the octets of a last character
that is still unfinished. -/
def decodeRun (position : Nat) : Option Pending → List UInt8 → Except Fault (List Char × List UInt8)
  | pending, [] => .ok ([], (pending.map Pending.octets).getD [])
  | none, b :: rest =>
    if b < 0x80 then do
      let (cs, left) ← decodeRun (position + 1) none rest
      return (Char.ofNat b.toNat :: cs, left)
    else match Pending.start? b with
      | none => .error ⟨[b], position, .startByte⟩
      | some p => decodeRun position (some p) rest
  | some p, b :: rest =>
    if !p.accepts b then .error ⟨p.octets, position, .continuationByte⟩
    else
      let q := p.extend b
      if q.missing = 0 then do
        let (cs, left) ← decodeRun (position + q.octets.length) none rest
        return (Char.ofNat q.number :: cs, left)
      else decodeRun position (some q) rest

/-- The characters of a complete run of octets. -/
def decode (octets : List UInt8) : Except Fault (List Char) := do
  let (cs, left) ← decodeRun 0 none octets
  if left.isEmpty then return cs
  else .error ⟨left, octets.length - left.length, .endOfData⟩

/-- An octet pair that would start a surrogate. Where it ends a block it is held back, since the
block alone does not show that its character cannot be completed. -/
def isSurrogateStart : List UInt8 → Bool
  | [a, b] => decide (a = 0xED) && decide (0xA0 ≤ b) && decide (b ≤ 0xBF)
  | _ => false

/-- The characters of one block of octets among several, and the octets that it leaves over. -/
def decodeBlock (octets : List UInt8) : Except Fault (List Char × List UInt8) :=
  let tail := octets.drop (octets.length - 2)
  if isSurrogateStart tail then do
    let (cs, left) ← decodeRun 0 none (octets.take (octets.length - 2))
    if left.isEmpty then return (cs, tail) else decodeRun 0 none octets
  else decodeRun 0 none octets

end PropertyTyping.Utf8

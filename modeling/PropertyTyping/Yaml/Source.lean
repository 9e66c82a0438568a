import PropertyTyping.Text.Newline
import PropertyTyping.Yaml.Fault

/-! The text of an indented document as it arrives, block by block. A block that cannot be taken in
is a fault only once the reader comes to it. -/

namespace PropertyTyping.Yaml

/-- The characters that arrive, and the fault behind them if not all do. -/
structure Source where
  chars : List Char
  fault? : Option Fault

namespace Source

/-- The fewest octets that are decoded at a time. -/
def octetBlock : Nat := 8192

/-- The characters that are handed over at a time. -/
def charBlock : Nat := 4096

/-- The state between two blocks of octets. -/
structure Intake where
  /-- The number of characters so far. -/
  count : Nat
  /-- The octets of an unfinished character. -/
  left : List UInt8
  /-- A carriage return that waits for what follows it. -/
  held : List Char
  /-- The octets of the last block. -/
  taken : Nat
  /-- The characters that the last block came to. -/
  given : Nat

namespace Intake

def start : Intake := ⟨0, [], [], 0, 0⟩

/-- The octets of the next block: as many as the characters still missing are expected to take. -/
def blockSize (i : Intake) : Nat :=
  max octetBlock (i.taken * (charBlock - i.count % charBlock) / i.given)

/-- The characters with a waiting return, and the return at their end that waits in turn. -/
def hold (i : Intake) (cs : List Char) : List Char × List Char :=
  if cs.isEmpty then ([], i.held)
  else
    let cs := i.held ++ cs
    if cs.getLast? = some '\r' then (cs.dropLast, ['\r']) else (cs, [])

/-- The characters that a block adds, and the state after it. -/
def take (i : Intake) (octets : List UInt8) : Except Utf8.Fault (List Char × Intake) := do
  let (cs, left) ← Utf8.decodeBlock (i.left ++ octets)
  let (cs, held) := i.hold cs
  let cs := unifyNewlines cs
  return (cs, ⟨i.count + cs.length, left, held, octets.length, cs.length⟩)

/-- The characters after the last block. -/
def finish (i : Intake) : Except Utf8.Fault (List Char) := do
  return unifyNewlines (i.held ++ (← Utf8.decode i.left))

/-- The characters of the remaining octets, up to the first block with a fault. The number bounds
the blocks; that of the octets, and one, is enough. -/
def run (i : Intake) : Nat → List UInt8 → List Char × Option Utf8.Fault
  | 0, _ => ([], none)
  | n + 1, octets =>
    if octets.isEmpty then
      match i.finish with
      | .ok cs => (cs, none)
      | .error f => ([], some f)
    else
      match i.take (octets.take i.blockSize) with
      | .ok (cs, next) =>
        let (more, fault) := next.run n (octets.drop i.blockSize)
        (cs ++ more, fault)
      | .error f => ([], some f)

end Intake

/-- The characters that a document may be written in. -/
def isPrintable (c : Char) : Bool :=
  let n := c.toNat
  c == '\t' || c == '\n' || c == '\r' || decide (0x20 ≤ n ∧ n ≤ 0x7E) || c == '\u0085'
    || decide (0xA0 ≤ n ∧ n ≤ 0xD7FF) || decide (0xE000 ≤ n ∧ n ≤ 0xFFFD) || decide (0x10000 ≤ n)

/-- Only what is handed over before the character of an index. The first two blocks of characters
are handed over together. -/
def upTo (cs : List Char) (index : Nat) (f : Fault) : Source :=
  let blocks := index / charBlock
  ⟨if blocks < 2 then [] else cs.take (blocks * charBlock), some f⟩

/-- A document ends before the block of its first character that it may not be written in. -/
def checked (s : Source) : Source :=
  let printable := s.chars.takeWhile isPrintable
  if printable.length < s.chars.length then
    upTo s.chars printable.length (.syntaxFault .unprintable)
  else s

def ofOctets (octets : List UInt8) : Source :=
  match Intake.start.run (octets.length + 1) octets with
  | (cs, none) => checked ⟨cs, none⟩
  | (cs, some f) => checked (upTo cs cs.length (.undecodable f))

end Source

end PropertyTyping.Yaml

/-! Text as a sequence of Unicode code points. A document may name half of a surrogate pair by an
escape, so a lone surrogate is a code point here although no encoded file can hold one. -/

namespace PropertyTyping

/-- A scalar value, or a lone surrogate given by its distance from U+D800. -/
inductive CodePoint where
  | scalar (c : Char)
  | surrogate (offset : Fin 0x800)
  deriving DecidableEq

namespace CodePoint

def value : CodePoint → Nat
  | scalar c => c.toNat
  | surrogate offset => 0xD800 + offset.val

/-- The code point of a number; there is none beyond U+10FFFF. -/
def ofNat? (n : Nat) : Option CodePoint :=
  if h : n.isValidChar then some (scalar (Char.ofNatAux n h))
  else if h : 0xD800 ≤ n ∧ n < 0xE000 then some (surrogate ⟨n - 0xD800, by omega⟩)
  else none

/-- The character written for a code point; a lone surrogate has no encoding and is replaced. -/
def toChar : CodePoint → Char
  | scalar c => c
  | surrogate _ => '\uFFFD'

end CodePoint

abbrev Text := List CodePoint

namespace Text

def ofChars (cs : List Char) : Text := cs.map .scalar

def ofString (s : String) : Text := ofChars s.toList

instance : Coe String Text := ⟨ofString⟩

def toString (t : Text) : String := String.ofList (t.map CodePoint.toChar)

/-- The decimal digits of a natural number. -/
def ofNat (n : Nat) : Text := ofChars (Nat.toDigits 10 n)

/-- A minus sign and digits for a negative number, digits alone for any other. -/
def ofInt : Int → Text
  | .ofNat n => ofNat n
  | .negSucc n => .scalar '-' :: ofNat (n + 1)

/-- A number in lower-case hexadecimal. -/
def ofNat16 (n : Nat) : Text := ofChars (Nat.toDigits 16 n)

/-- The texts in order with a separator between neighbours. -/
def join (separator : Text) (ts : List Text) : Text := separator.intercalate ts

/-- The text with each code point of the first kind replaced by the second. -/
def replaceEach (old : CodePoint → Bool) (new : CodePoint) (t : Text) : Text :=
  t.map fun c => if old c then new else c

/-- The text with blanks added on the right up to a width. -/
def padRight (width : Nat) (t : Text) : Text :=
  t ++ List.replicate (width - t.length) (.scalar ' ')

/-- Whether the second text occurs in the first as a run of neighbours. -/
def hasPart : Text → Text → Bool
  | [], part => part.isEmpty
  | c :: rest, part => part.isPrefixOf (c :: rest) || hasPart rest part

/-- Cuts the text at each occurrence of a code point. -/
def cut (mark : CodePoint) : Text → List Text
  | [] => [[]]
  | c :: rest =>
    if c = mark then [] :: cut mark rest
    else match cut mark rest with
      | [] => [[c]]
      | piece :: pieces => (c :: piece) :: pieces

end Text

end PropertyTyping

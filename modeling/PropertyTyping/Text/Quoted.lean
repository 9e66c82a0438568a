import PropertyTyping.Text.Printable

/-! A text as it is quoted in messages: between quotation marks, with an escape for each code point
that a line of output could not show. -/

namespace PropertyTyping.Text

/-- A number in lower-case hexadecimal, filled with zeros up to a width. -/
def hex (width n : Nat) : List Char :=
  let digits := Nat.toDigits 16 n
  List.replicate (width - digits.length) '0' ++ digits

/-- Single marks, unless the text holds one and no double mark. -/
def quotationMark (t : Text) : Char :=
  if t.contains (.scalar '\'') && !t.contains (.scalar '"') then '"' else '\''

/-- A hidden code point by its number, in the shortest of three widths. -/
def numericEscape (n : Nat) : List Char :=
  if n < 0x100 then '\\' :: 'x' :: hex 2 n
  else if n < 0x10000 then '\\' :: 'u' :: hex 4 n
  else '\\' :: 'U' :: hex 8 n

/-- One code point inside quotation marks of a given kind. -/
def quotedPoint (mark : Char) (c : CodePoint) : List Char :=
  if c = .scalar mark ∨ c = .scalar '\\' then ['\\', c.toChar]
  else if c = .scalar '\t' then ['\\', 't']
  else if c = .scalar '\n' then ['\\', 'n']
  else if c = .scalar '\r' then ['\\', 'r']
  else if c.isPrintable then [c.toChar]
  else numericEscape c.value

/-- The text between quotation marks, free of surrogates and of hidden characters. -/
def quoted (t : Text) : Text :=
  let mark := t.quotationMark
  ofChars (mark :: t.flatMap (quotedPoint mark) ++ [mark])

end PropertyTyping.Text

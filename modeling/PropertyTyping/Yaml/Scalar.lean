import PropertyTyping.Yaml.Fault
import PropertyTyping.Yaml.Place

/-! The texts of scalars, plain and quoted. A scalar may run over several lines: blanks around a
line break fall away, a single break becomes a blank, and further breaks are kept. -/

namespace PropertyTyping.Yaml

/-- Where reading has come to: the place, and the characters from there on. -/
structure Cursor where
  place : Place
  rest : List Char

namespace Cursor

/-- The cursor behind the first characters of the rest. -/
def skip (n : Nat) (c : Cursor) : Cursor :=
  ⟨c.place.afterAll (c.rest.take n), c.rest.drop n⟩

/-- The first characters of a class, and the cursor behind them. -/
def takeWhile (p : Char → Bool) (c : Cursor) : List Char × Cursor :=
  let cs := c.rest.takeWhile p
  (cs, c.skip cs.length)

end Cursor

/-- The further breaks after a first one, and the start of the first line that is not empty. -/
structure Breaks where
  text : List Char
  cursor : Cursor
  /-- Whether a division of documents was met at the start of a line. -/
  divided : Bool

/-- The breaks of the empty lines from here on. Blanks of the given class may fill those lines. The
number is at least that of the characters left, here and in what follows. -/
def foldLines (isFill : Char → Bool) : Nat → Cursor → Breaks
  | 0, c => ⟨[], c, false⟩
  | n + 1, c =>
    if dividesDocuments c.rest then ⟨[], c, true⟩
    else
      let (_, c) := c.takeWhile isFill
      match c.rest with
      | b :: _ =>
        if isBreak b then
          let more := foldLines isFill n (c.skip 1)
          { more with text := breakText b ++ more.text }
        else ⟨[], c, false⟩
      | [] => ⟨[], c, false⟩

/-- What a first break and those after it amount to. -/
def folded (first : Char) (more : List Char) : List Char :=
  (if breakText first ≠ ['\n'] then [first] else if more.isEmpty then [' '] else []) ++ more

namespace Plain

/-- Whether a character ends a run of a plain scalar, seen together with what follows it. -/
def endsRun (inFlow : Bool) (c : Char) (rest : List Char) : Bool :=
  isBlank c || isBreak c
    || c == ':' && (endsWord rest || inFlow && (rest.head?.any fun d => ",[]\x7b\x7d".toList.contains d))
    || inFlow && ",?[]\x7b\x7d".toList.contains c

/-- The longest run of a plain scalar that holds no blank. -/
def run (inFlow : Bool) : List Char → List Char
  | [] => []
  | c :: rest => if endsRun inFlow c rest then [] else c :: run inFlow rest

/-- What stands between two runs: the text it amounts to, nothing if the scalar ends before it. -/
structure Gap where
  text : List Char
  cursor : Cursor
  crossedLine : Bool

def gap (n : Nat) (c : Cursor) : Gap :=
  let (blanks, c) := c.takeWhile (· == ' ')
  match c.rest with
  | b :: _ =>
    if isBreak b then
      let more := foldLines (· == ' ') n (c.skip 1)
      ⟨if more.divided then [] else folded b more.text, more.cursor, true⟩
    else ⟨blanks, c, false⟩
  | [] => ⟨blanks, c, false⟩

/-- A plain scalar, where reading goes on, and whether a simple key may start there. -/
structure Reading where
  text : List Char
  cursor : Cursor
  crossedLine : Bool

/-- The runs of a plain scalar and the gaps between them. Outside brackets, a run that is indented
less than the scalar does not belong to it. -/
def read (inFlow : Bool) (indent : Int) : Nat → Cursor → Reading
  | 0, c => ⟨[], c, false⟩
  | n + 1, c =>
    let cs := run inFlow c.rest
    if cs.isEmpty then ⟨[], c, false⟩
    else
      let g := gap n (c.skip cs.length)
      let atComment := g.cursor.rest.head? == some '#'
      if g.text.isEmpty || atComment || !inFlow && decide ((g.cursor.place.column : Int) < indent) then
        ⟨cs, g.cursor, g.crossedLine⟩
      else
        let more := read inFlow indent n g.cursor
        if more.text.isEmpty then ⟨cs, more.cursor, g.crossedLine⟩
        else { more with text := cs ++ g.text ++ more.text }

end Plain

namespace Quoted

/-- The character that a backslash and another character stand for. -/
def escape? : Char → Option Char
  | '0' => some '\x00'
  | 'a' => some '\x07'
  | 'b' => some '\x08'
  | 't' | '\t' => some '\t'
  | 'n' => some '\n'
  | 'v' => some '\x0B'
  | 'f' => some '\x0C'
  | 'r' => some '\r'
  | 'e' => some '\x1B'
  | ' ' => some ' '
  | '"' => some '"'
  | '\\' => some '\\'
  | '/' => some '/'
  | 'N' => some '\u0085'
  | '_' => some '\u00A0'
  | 'L' => some '\u2028'
  | 'P' => some '\u2029'
  | _ => none

/-- The number of hexadecimal digits that follow a letter of an escape. -/
def escapeWidth? : Char → Option Nat
  | 'x' => some 2
  | 'u' => some 4
  | 'U' => some 8
  | _ => none

/-- The code point of an escape by number. -/
def numbered (width : Nat) (cs : List Char) : Except Fault CodePoint :=
  let ds := cs.take width
  match Digits.hexNumber? ds with
  | none => refuse .unknownEscape
  | some n =>
    if ds.length < width then refuse .unfinishedScalar
    else match CodePoint.ofNat? n with
      | some p => .ok p
      | none => .error (if n < Nat.pow 2 31 then .noCodePoint else .hugeCodePoint)

/-- What an escape stands for, and the cursor behind it. A break that is escaped stands for
nothing. -/
def escaped (n : Nat) (c : Cursor) : Except Fault (Text × Cursor) :=
  match c.rest with
  | [] => refuse .unfinishedScalar
  | e :: rest =>
    match escape? e, escapeWidth? e with
    | some p, _ => .ok ([.scalar p], c.skip 1)
    | none, some width => do return ([← numbered width rest], c.skip (width + 1))
    | none, none =>
      if isBreak e then
        let more := foldLines isBlank n (c.skip 1)
        if more.divided then refuse .divisionInScalar
        else .ok (Text.ofChars more.text, more.cursor)
      else refuse .unknownEscape

/-- What blanks and line breaks inside quotes amount to, and the cursor behind them. -/
def space (n : Nat) (c : Cursor) : Except Fault (Text × Cursor) :=
  let (blanks, c) := c.takeWhile isBlank
  match c.rest with
  | b :: _ =>
    if isBreak b then
      let more := foldLines isBlank n (c.skip 1)
      if more.divided then refuse .divisionInScalar
      else .ok (Text.ofChars (folded b more.text), more.cursor)
    else .ok (Text.ofChars blanks, c)
  | [] => refuse .unfinishedScalar

/-- The text up to the closing quote, and the cursor behind it. A single quote is written twice
inside single quotes; escapes work inside double ones. -/
def read (double : Bool) : Nat → Cursor → Except Fault (Text × Cursor)
  | 0, _ => refuse .unfinishedScalar
  | n + 1, c =>
    let continueWith (t : Text) (c : Cursor) : Except Fault (Text × Cursor) := do
      let (more, c) ← read double n c
      return (t ++ more, c)
    match c.rest with
    | [] => refuse .unfinishedScalar
    | d :: rest =>
      if d == '\'' && !double then
        if rest.head? == some '\'' then continueWith [.scalar '\''] (c.skip 2)
        else .ok ([], c.skip 1)
      else if d == '"' && double then .ok ([], c.skip 1)
      else if d == '\\' && double then do
        let (t, c) ← escaped n (c.skip 1)
        continueWith t c
      else if isBlank d || isBreak d then do
        let (t, c) ← space n c
        continueWith t c
      else continueWith [.scalar d] (c.skip 1)

end Quoted

end PropertyTyping.Yaml

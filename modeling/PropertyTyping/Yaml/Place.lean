/-! Places in an indented document, and the classes of characters that its rules speak of. -/

namespace PropertyTyping.Yaml

/-- A place by the characters, lines and columns before it. -/
structure Place where
  index : Nat
  line : Nat
  column : Nat
  deriving DecidableEq

def isBreak (c : Char) : Bool := c == '\n' || c == '\u0085' || c == '\u2028' || c == '\u2029'

def isBlank (c : Char) : Bool := c == ' ' || c == '\t'

/-- Whether a word ends here: before a blank, a line break or the end. -/
def endsWord : List Char → Bool
  | [] => true
  | c :: _ => isBlank c || isBreak c

/-- Three dashes or dots that stand for themselves; at the start of a line they divide documents. -/
def dividesDocuments : List Char → Bool
  | '-' :: '-' :: '-' :: rest => endsWord rest
  | '.' :: '.' :: '.' :: rest => endsWord rest
  | _ => false

/-- The line feed that most breaks count as; two of them stay what they are. -/
def breakText (c : Char) : List Char := if c == '\n' || c == '\u0085' then ['\n'] else [c]

namespace Place

def start : Place := ⟨0, 0, 0⟩

/-- The place after a character. A byte order mark takes no column. -/
def after (p : Place) (c : Char) : Place :=
  if isBreak c then ⟨p.index + 1, p.line + 1, 0⟩
  else if c == '\uFEFF' then { p with index := p.index + 1 }
  else ⟨p.index + 1, p.line, p.column + 1⟩

def afterAll (p : Place) (cs : List Char) : Place := cs.foldl after p

end Place

end PropertyTyping.Yaml

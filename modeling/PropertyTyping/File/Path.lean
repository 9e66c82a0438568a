import PropertyTyping.Text

/-! File paths as they are understood: a root, if the path is absolute, and the names on the way.
Empty names and single dots say nothing and are dropped. -/

namespace PropertyTyping

structure Path where
  /-- Nothing for a relative path, else one slash or two. -/
  root : Text
  names : List Text
  deriving DecidableEq

namespace Path

def slash : CodePoint := .scalar '/'

def dot : CodePoint := .scalar '.'

/-- Exactly two slashes in front are a root of their own; any other number is the root of one. -/
def rootOf (t : Text) : Text :=
  match (t.takeWhile (· = slash)).length with
  | 0 => []
  | 2 => [slash, slash]
  | _ => [slash]

def ofText (t : Text) : Path :=
  ⟨rootOf t, (t.cut slash).filter fun name => name ≠ [] ∧ name ≠ [dot]⟩

/-- The path written out. A path that says nothing is where one is already. -/
def render (p : Path) : Text :=
  if p.root = [] ∧ p.names = [] then [dot] else p.root ++ Text.join [slash] p.names

def name (p : Path) : Text := p.names.getLast?.getD []

/-- The end of a name from its last dot on. A dot at either end of the name starts no suffix. -/
def suffixOf (name : Text) : Text :=
  let ending := (name.reverse.takeWhile (· ≠ dot)).reverse
  let stem := name.take (name.length - ending.length - 1)
  if stem = [] ∨ ending = [] then [] else dot :: ending

def suffix (p : Path) : Text := suffixOf p.name

/-- The number of octets of a text in a file name. -/
def octetCount (t : Text) : Nat := t.foldl (fun n c => n + c.toChar.utf8Size) 0

end Path

end PropertyTyping

import PropertyTyping.File.Path

/-! A tree of files around a working directory, and what a path leads to in it. -/

namespace PropertyTyping

/-- What a path leads to. -/
inductive Found where
  | missing
  | nameTooLong
  | directory
  | file (octets : List UInt8)

/-- What stands at a place in the tree. A directory needs no entry if something lies below it. -/
inductive FileNode where
  | directory
  | file (octets : List UInt8)

/-- The entries by the names that lead to them from the working directory. A later entry replaces
an earlier one. -/
structure FileTree where
  entries : List (List Text × FileNode)

namespace FileTree

/-- A place reached on the way: below the working directory, or above it, where nothing is known. -/
inductive Place where
  | inside (names : List Text)
  | above

/-- The longest name and the longest path, in octets. -/
def nameLimit : Nat := 255

def pathLimit : Nat := 4095

/-- What stands below the working directory under the given names. -/
def node? (t : FileTree) (names : List Text) : Option FileNode :=
  match t.entries.reverse.find? (·.1 = names) with
  | some (_, node) => some node
  | none =>
    if names = [] ∨ t.entries.any (fun e => names.isPrefixOf e.1) then some .directory else none

/-- What the remaining names lead to from a directory. -/
def walk (t : FileTree) : Place → List Text → Found
  | _, [] => .directory
  | place, name :: rest =>
    if name = [Path.dot, Path.dot] then
      match place with
      | .inside (n :: ns) => walk t (.inside (n :: ns).dropLast) rest
      | _ => walk t .above rest
    else if nameLimit < Path.octetCount name then .nameTooLong
    else
      match place with
      | .above => .missing
      | .inside names =>
        match t.node? (names ++ [name]) with
        | none => .missing
        | some .directory => walk t (.inside (names ++ [name])) rest
        | some (.file octets) => if rest = [] then .file octets else .missing

def find (t : FileTree) (p : Path) : Found :=
  if pathLimit < Path.octetCount p.render then .nameTooLong
  else walk t (if p.root = [] then .inside [] else .above) p.names

end FileTree

end PropertyTyping

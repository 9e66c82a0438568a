import PropertyTyping.File.Tree
import PropertyTyping.Json.Reader
import PropertyTyping.Text.Newline
import PropertyTyping.Text.Quoted
import PropertyTyping.Text.Utf8

/-! Loading a document from a file. Whether the path leads anywhere comes first, then whether the
file can be opened, then its format by the end of its name, and only then its content. Indented
documents are read by a reader that comes from elsewhere, if there is one. -/

namespace PropertyTyping

/-- A failure of a reader: the name of its category, and its message. -/
structure ReaderFault where
  category : Text
  message : Text
  deriving DecidableEq

/-- A reader of indented documents. From the octets of a file it makes the value of the document in
it, or it fails. -/
abbrev IndentedReader := List UInt8 → Except ReaderFault Value

/-- Where documents come from: what each path leads to, and the reader of indented documents, if one
is installed. -/
structure FileSource where
  find : Path → Found
  indented? : Option IndentedReader

/-- The formats of documents. -/
inductive Format where
  | json
  | yaml
  deriving DecidableEq

/-- The format that the end of a file's name tells. -/
def Format.ofSuffix? (suffix : Text) : Option Format :=
  if suffix = Text.ofString ".json" then some .json
  else if suffix = Text.ofString ".yaml" ∨ suffix = Text.ofString ".yml" then some .yaml
  else none

/-- Why a file yields no document. -/
inductive LoadFault where
  | nameTooLong (path : Path)
  | notFound (path : Text)
  | isDirectory (path : Path)
  | unknownFormat (suffix : Text)
  | yamlUnavailable
  | undecodable (f : Utf8.Fault)
  | json (f : Json.Fault)
  | yaml (f : ReaderFault)
  deriving DecidableEq

def LoadFault.message : LoadFault → Text
  | .nameTooLong path => ("[Errno 36] File name too long: " : Text) ++ path.render.quoted
  | .notFound path => ("Property schema file not found: " : Text) ++ path
  | .isDirectory path => ("[Errno 21] Is a directory: " : Text) ++ path.render.quoted
  | .unknownFormat suffix =>
    ("Unsupported input format: " : Text) ++ suffix ++ ". Use .json or .yaml"
  | .yamlUnavailable =>
    "PyYAML required for YAML input. Install with: pip install graphtypes[yaml]"
  | .undecodable f => f.message
  | .json f => f.message
  | .yaml f => f.message

namespace FileSource

/-- What a written path leads to. No name holds the zero character. -/
def lookup (s : FileSource) (path : Text) : Found :=
  if path.contains (.scalar '\x00') then .missing else s.find (Path.ofText path)

/-- The document of a file's octets. -/
def read (s : FileSource) (octets : List UInt8) : Format → Except LoadFault Value
  | .json => do
    let cs ← (Utf8.decode octets).mapError .undecodable
    (Json.parse (unifyNewlines cs)).mapError .json
  | .yaml => match s.indented? with
    | none => .error .yamlUnavailable
    | some read => (read octets).mapError .yaml

/-- The document that a written path leads to. -/
def load (s : FileSource) (path : Text) : Except LoadFault Value :=
  match s.lookup path with
  | .nameTooLong => .error (.nameTooLong (Path.ofText path))
  | .missing => .error (.notFound path)
  | .directory => .error (.isDirectory (Path.ofText path))
  | .file octets =>
    let suffix := (Path.ofText path).suffix
    match Format.ofSuffix? suffix with
    | some format => s.read octets format
    | none => .error (.unknownFormat suffix)

end FileSource

end PropertyTyping

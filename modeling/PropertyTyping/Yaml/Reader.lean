import PropertyTyping.File.Load
import PropertyTyping.Yaml.Draft

/-! The reader of indented documents that the program is built with. -/

namespace PropertyTyping.Yaml

/-- The name of the category that a fault belongs to. -/
def Fault.category : Fault → String
  | .syntaxFault _ => "YAMLError"
  | .undecodable _ => "UnicodeDecodeError"
  | .tooDeep => "RecursionError"
  | .hugeCodePoint | .manyParts => "OverflowError"
  | .noCodePoint | .longInteger _ | .noDigits _ | .moment _ => "ValueError"

def reader : IndentedReader := fun octets =>
  (parse (.ofOctets octets)).mapError fun f => ⟨f.category, f.message⟩

end PropertyTyping.Yaml

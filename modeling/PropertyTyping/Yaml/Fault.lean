import PropertyTyping.Moment
import PropertyTyping.Number.Digits
import PropertyTyping.Text.Utf8

/-! What is wrong with an indented document: its text breaks a rule of the format, or it spells
something that there is not. -/

namespace PropertyTyping.Yaml

/-- What keeps a text from being a document. -/
inductive Cause where
  | unprintable
  | unexpectedCharacter
  | unfinishedKey
  | misplacedEntry
  | misplacedKey
  | misplacedValue
  | unfinishedScalar
  | divisionInScalar
  | unknownEscape
  | unexpectedToken
  | severalDocuments
  | collectionAsKey
  | unsupported
  deriving DecidableEq

def Cause.message : Cause → String
  | .unprintable => "unacceptable character"
  | .unexpectedCharacter => "found a character that cannot start any token"
  | .unfinishedKey => "could not find expected ':'"
  | .misplacedEntry => "sequence entries are not allowed here"
  | .misplacedKey => "mapping keys are not allowed here"
  | .misplacedValue => "mapping values are not allowed here"
  | .unfinishedScalar => "found unexpected end of a quoted scalar"
  | .divisionInScalar => "found unexpected document separator"
  | .unknownEscape => "found unknown escape character"
  | .unexpectedToken => "did not find expected node content"
  | .severalDocuments => "expected a single document"
  | .collectionAsKey => "found unhashable key"
  | .unsupported => "found a construct that is not supported"

inductive Fault where
  | syntaxFault (cause : Cause)
  | undecodable (f : Utf8.Fault)
  /-- A collection inside too many others. -/
  | tooDeep
  /-- The number of no code point. -/
  | noCodePoint
  /-- A number that not even a machine word for code points holds. -/
  | hugeCodePoint
  /-- An integer of too many digits. -/
  | longInteger (digits : Nat)
  /-- An integer of a base, without any digit. -/
  | noDigits (base : Nat)
  /-- A fraction in base sixty of more parts than a floating-point number can weigh. -/
  | manyParts
  | moment (f : Moment.Fault)
  deriving DecidableEq

def Fault.message : Fault → Text
  | .syntaxFault cause => cause.message
  | .undecodable f => f.message
  | .tooDeep => "maximum recursion depth exceeded"
  | .noCodePoint => "chr() arg not in range(0x110000)"
  | .hugeCodePoint => "Python int too large to convert to C int"
  | .longInteger digits => Digits.tooManyMessage digits
  | .noDigits base =>
    ("invalid literal for int() with base " : Text) ++ Text.ofNat base ++ ": ''"
  | .manyParts => "int too large to convert to float"
  | .moment f => f.message

/-- The failure of a rule of the format. -/
def refuse {α : Type} (c : Cause) : Except Fault α := .error (.syntaxFault c)

end PropertyTyping.Yaml

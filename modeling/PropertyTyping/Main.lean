import PropertyTyping.CommandLine.Program
import PropertyTyping.Yaml.Reader
import Std.Time.Format

/-! The program as it runs: it looks up the file it was given, the time and a random identity, and
writes what the library says. -/

namespace PropertyTyping.CommandLine

/-- What a path leads to here. -/
def lookUp (path : Path) : IO Found := do
  try
    let octets ← IO.FS.readBinFile path.render.toString
    return .file octets.toList
  catch
    | .inappropriateType _ _ "Is a directory" => return .directory
    | .invalidArgument _ _ "name too long" => return .nameTooLong
    | _ => return .missing

/-- The files that some arguments ask about. -/
def sourceFor (arguments : List Text) : IO FileSource := do
  match Request.ofArguments arguments with
  | .ok (.resolve path _) =>
    let found ← lookUp (Path.ofText path)
    return ⟨fun _ => found, some Yaml.reader⟩
  | _ => return ⟨fun _ => .missing, some Yaml.reader⟩

end PropertyTyping.CommandLine

open PropertyTyping PropertyTyping.CommandLine in
def main (arguments : List String) : IO UInt32 := do
  let arguments := arguments.map Text.ofString
  let now ← Std.Time.PlainDateTime.now
  let octets ← IO.getRandomBytes 16
  let source ← sourceFor arguments
  let stamp := Text.ofString (now.format "uuuu-MM-dd HH:mm:ss")
  let output := run ⟨source, stamp, randomIdentity octets.toList⟩ arguments
  IO.print output.standard.toString
  IO.eprint output.error.toString
  return output.exitCode.toUInt32

import PropertyTyping.Log.Event

/-! The hierarchy of loggers. A logger inherits from the nearest logger above it, and what stands
above a name are the names that it begins with, each up to a dot. -/

namespace PropertyTyping.Log

/-- The logger above all others, by a name that is not in the hierarchy. -/
def rootLogger : Text := "root"

namespace Hierarchy

def dot : CodePoint := .scalar '.'

/-- Whether the way up from a logger leads to the package. The name of the logger is given from its
end on. A name above it that is no logger's is passed over together with the code point before its
dot, so that of two dots side by side only the second is seen. -/
def leadsToPackage (loggers : List Text) : List CodePoint → Bool
  | c :: d :: rest =>
    if c = dot then
      let above := (d :: rest).reverse
      if loggers.contains above then above = package || leadsToPackage loggers (d :: rest)
      else leadsToPackage loggers rest
    else leadsToPackage loggers (d :: rest)
  | _ => false

/-- Whether a logger is that of the package or inherits from it. -/
def isInPackage (loggers : List Text) (logger : Text) : Bool :=
  logger = package || leadsToPackage loggers logger.reverse

end Hierarchy

end PropertyTyping.Log

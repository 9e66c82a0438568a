import PropertyTyping.Log.Event
import PropertyTyping.Tag

/-! The choice of one GraphQL type for a property from all the tags seen for it. A single tag is
mapped as it stands; several are unified, and what came of that is logged. Nothing known is the
string type. -/

namespace PropertyTyping

/-- The type chosen for a property, and the event that reports a unification. -/
structure Resolution where
  type : GraphType
  event? : Option Log.Event
  deriving DecidableEq

namespace Resolution

def logger : Text := Log.package ++ ".types.resolver"

/-- Tags, written out, that have no broader type but the string type, although none of them is
that. -/
def degraded (tags : Text) : Log.Event where
  level := .warning
  logger := logger
  message := ("Inconsistent property types " : Text) ++ tags ++ " cannot be widened; using String"

/-- Tags, written out, that were unified without loss. -/
def unified (tags winner : Text) : Log.Event where
  level := .debug
  logger := logger
  message := ("Unified property types " : Text) ++ tags ++ " -> " ++ winner

/-- Whether a unification is a loss: the string type is one unless it was among the tags. -/
def isLoss (present : List Value) (winner : Value) : Except Misuse Bool :=
  if winner.equals Tag.string then do
    Value.checkHashable present
    return !Value.holds (present.map Tag.plain) Tag.string
  else return false

/-- What is logged about a unification. The tags are written out whether or not it is shown. -/
def report (present : List Value) (winner : Value) : Except Misuse Log.Event := do
  let lost ← isLoss present winner
  let tags ← (Value.list present).describe
  if lost then return degraded tags
  else return unified tags (← winner.describe)

/-- The type of a property with the given tags. -/
def ofTags (tags : List Value) (mandatory : Bool) : Except Misuse Resolution :=
  match tags with
  | [] => .ok ⟨GraphType.fallback.required mandatory, none⟩
  | [tag] => .ok ⟨(Tag.graphType tag).required mandatory, none⟩
  | tags => do
    let present := tags.filter Tag.isPresent
    let winner ← Tag.unifyAll present
    let event ← report present winner
    return ⟨(Tag.graphType winner).required mandatory, some event⟩

/-- The type of a property whose tags are the members of a value; null has none. -/
def ofObserved (observed : Value) (mandatory : Bool) : Except Misuse Resolution := do
  let tags ← match observed with
    | .null => pure []
    | v => v.members
  ofTags tags mandatory

/-- The events of several resolutions, in order. -/
def events (rs : List Resolution) : List Log.Event := rs.filterMap (·.event?)

end Resolution

end PropertyTyping

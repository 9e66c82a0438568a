import PropertyTyping.Failure
import PropertyTyping.Log.Event

/-! Work that logs events and may fail. The events up to a failure stay logged. -/

namespace PropertyTyping

/-- What was logged on the way to an answer, and the answer. -/
structure Traced (α : Type) where
  events : List Log.Event
  answer : Except Failure α

namespace Traced

variable {α β : Type}

def pure (a : α) : Traced α := ⟨[], .ok a⟩

def fail (f : Failure) : Traced α := ⟨[], .error f⟩

def log (e : Log.Event) : Traced Unit := ⟨[e], .ok ()⟩

/-- One piece of work after another: a failure of the first leaves the second undone. -/
def bind (t : Traced α) (next : α → Traced β) : Traced β :=
  match t.answer with
  | .ok a => ⟨t.events ++ (next a).events, (next a).answer⟩
  | .error f => ⟨t.events, .error f⟩

instance : Monad Traced where
  pure := Traced.pure
  bind := Traced.bind

def ofExcept : Except Failure α → Traced α
  | .ok a => .pure a
  | .error f => .fail f

end Traced

end PropertyTyping

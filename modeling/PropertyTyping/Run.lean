import PropertyTyping.Log.State
import PropertyTyping.Report

/-! Runs: work under an identity of its own, which all that it logs carries and which is given up
when the work is over, however it ends. -/

namespace PropertyTyping

/-- The state of logging after a run, what the run logged, and what came of it. -/
structure Run (α : Type) where
  state : Log.State
  records : List Log.Record
  answer : Except Failure α

/-- The work done under an identity, from a state of logging. -/
def Traced.inRun {α : Type} (t : Traced α) (runId : Value) (s : Log.State) : Run α :=
  let (entered, ticket) := s.push runId
  ⟨(entered.reset ticket).1, t.events.map (·.inRun entered.runId), t.answer⟩

/-- The identity of a run: the one asked for, or a fresh one if none is. -/
def runIdentity (asked : Option Text) (fresh : Text) : Value :=
  match asked with
  | some t => .text (if t.isEmpty then fresh else t)
  | none => .text fresh

/-- The identity made of sixteen random octets. Six of their bits tell that they are random. -/
def randomIdentity (octets : List UInt8) : Text :=
  let marked := octets.mapIdx fun i b =>
    if i = 6 then 0x40 ||| (b &&& 0x0F) else if i = 8 then 0x80 ||| (b &&& 0x3F) else b
  let digits := marked.flatMap fun b => Text.hex 2 b.toNat
  Text.join "-" ([(0, 8), (8, 4), (12, 4), (16, 4), (20, 12)].map fun (start, length) =>
    Text.ofChars ((digits.drop start).take length))

/-- The report on the payload in a file, as a run. -/
def Report.run (source : FileSource) (path : Text) (asked : Option Text) (fresh : Text)
    (s : Log.State) : Run Report :=
  (Report.ofFile source path).inRun (runIdentity asked fresh) s

end PropertyTyping

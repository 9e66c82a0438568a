import PropertyTyping.Yaml.Token

/-! The tree of a document's tokens. A scalar that the tokens leave out is a plain one without
text. -/

namespace PropertyTyping.Yaml

inductive Node where
  | scalar (t : Text) (isPlain : Bool)
  | sequence (items : List Node)
  | mapping (entries : List (Node × Node))

namespace Node

def empty : Node := .scalar [] true

/-- Where a node may stand, by the tokens that may open it. -/
inductive Position where
  /-- Between brackets: no indented blocks. -/
  | flow
  /-- Where an indented block may start. -/
  | block
  /-- After a key, where the entries of a sequence need no indentation. -/
  | blockOrEntries

/-- The tokens that end the node before them without being part of one. -/
def stops (stop : List Token) (ts : List Token) : Bool :=
  match ts with
  | t :: _ => stop.contains t
  | [] => true

/-- The failure to go on before some tokens, which is the fault of the text if that comes next. -/
def unexpected {α : Type} : List Token → Except Fault α
  | .halt f :: _ => .error f
  | _ => refuse .unexpectedToken

/-- The most collections that may lie inside each other. -/
def nestingLimit : Nat := 490

/-- The room for collections inside one more. -/
def enter : Nat → Except Fault Nat
  | 0 => .error .tooDeep
  | room + 1 => .ok room

mutual

/-- A node, and the tokens after it, with room for so many collections inside each other. The number
that follows bounds the length of the work; three for each token are always enough. -/
def read (room : Nat) (position : Position) : Nat → List Token → Except Fault (Node × List Token)
  | 0, ts => unexpected ts
  | n + 1, ts =>
    match position, ts with
    | _, .scalar t isPlain :: rest => .ok (.scalar t isPlain, rest)
    | _, .flowSequenceStart :: rest => do
      let room ← enter room
      let (items, rest) ← flowItems room true n rest
      return (.sequence items, rest)
    | _, .flowMappingStart :: rest => do
      let room ← enter room
      let (entries, rest) ← flowEntries room true n rest
      return (.mapping entries, rest)
    | .flow, ts => unexpected ts
    | _, .blockSequenceStart :: rest => do
      let room ← enter room
      let (items, rest) ← blockItems room n rest
      match rest with
      | .blockEnd :: rest => return (.sequence items, rest)
      | rest => unexpected rest
    | _, .blockMappingStart :: rest => do
      let room ← enter room
      let (entries, rest) ← blockEntries room n rest
      return (.mapping entries, rest)
    | .blockOrEntries, .blockEntry :: rest => do
      let room ← enter room
      let (items, rest) ← blockItems room n (.blockEntry :: rest)
      return (.sequence items, rest)
    | _, ts => unexpected ts
termination_by structural n => n

/-- A node that may be left out before certain tokens. -/
def readUnless (room : Nat) (stop : List Token) (position : Position) :
    Nat → List Token → Except Fault (Node × List Token)
  | 0, ts => unexpected ts
  | n + 1, ts => if stops stop ts then .ok (empty, ts) else read room position n ts
termination_by structural n => n

/-- The entries of a sequence in a block, as far as they go. -/
def blockItems (room : Nat) : Nat → List Token → Except Fault (List Node × List Token)
  | 0, ts => unexpected ts
  | n + 1, .blockEntry :: rest => do
    let (item, rest) ← readUnless room [.blockEntry, .key, .value, .blockEnd] .block n rest
    let (items, rest) ← blockItems room n rest
    return (item :: items, rest)
  | _ + 1, ts => .ok ([], ts)
termination_by structural n => n

/-- The entries of a mapping in a block, up to its end. -/
def blockEntries (room : Nat) : Nat → List Token → Except Fault (List (Node × Node) × List Token)
  | 0, ts => unexpected ts
  | n + 1, .key :: rest => do
    let stop := [Token.key, Token.value, Token.blockEnd]
    let (key, rest) ← readUnless room stop .blockOrEntries n rest
    let (value, rest) ← match rest with
      | .value :: rest => readUnless room stop .blockOrEntries n rest
      | _ => .ok (empty, rest)
    let (entries, rest) ← blockEntries room n rest
    return ((key, value) :: entries, rest)
  | _ + 1, .blockEnd :: rest => .ok ([], rest)
  | _ + 1, ts => unexpected ts
termination_by structural n => n

/-- The items of a bracketed sequence, up to the closing bracket. An item may be a single entry of
a mapping. -/
def flowItems (room : Nat) (first : Bool) : Nat → List Token → Except Fault (List Node × List Token)
  | 0, ts => unexpected ts
  | _ + 1, .flowSequenceEnd :: rest => .ok ([], rest)
  | n + 1, ts => do
    match first, ts with
    | false, .flowEntry :: .flowSequenceEnd :: rest => return ([], rest)
    | true, ts | false, .flowEntry :: ts =>
      let (item, rest) ← match ts with
        | .key :: rest => do
          let room ← enter room
          let (entry, rest) ← flowPair room .flowSequenceEnd n rest
          pure (Node.mapping [entry], rest)
        | ts => read room .flow n ts
      let (items, rest) ← flowItems room false n rest
      return (item :: items, rest)
    | _, ts => unexpected ts
termination_by structural n => n

/-- A key and its value between brackets; both may be left out. -/
def flowPair (room : Nat) (close : Token) :
    Nat → List Token → Except Fault ((Node × Node) × List Token)
  | 0, ts => unexpected ts
  | n + 1, ts => do
    let (key, rest) ← readUnless room [.value, .flowEntry, close] .flow n ts
    let (value, rest) ← match rest with
      | .value :: rest => readUnless room [.flowEntry, close] .flow n rest
      | _ => .ok (empty, rest)
    return ((key, value), rest)
termination_by structural n => n

/-- The entries of a bracketed mapping, up to the closing brace. An entry without a colon is a key
alone. -/
def flowEntries (room : Nat) (first : Bool) :
    Nat → List Token → Except Fault (List (Node × Node) × List Token)
  | 0, ts => unexpected ts
  | _ + 1, .flowMappingEnd :: rest => .ok ([], rest)
  | n + 1, ts => do
    match first, ts with
    | false, .flowEntry :: .flowMappingEnd :: rest => return ([], rest)
    | true, ts | false, .flowEntry :: ts =>
      let (entry, rest) ← match ts with
        | .key :: rest => flowPair room .flowMappingEnd n rest
        | ts => do
          let (key, rest) ← read room .flow n ts
          pure ((key, empty), rest)
      let (entries, rest) ← flowEntries room false n rest
      return (entry :: entries, rest)
    | _, ts => unexpected ts
termination_by structural n => n

end

/-- The tokens without those that end a document. -/
def dropEnds (ts : List Token) : List Token := ts.dropWhile (· == .documentEnd)

/-- The node of the only document among the tokens, if there is one. -/
def ofTokens? (ts : List Token) : Except Fault (Option Node) := do
  let enough := 3 * ts.length + 3
  let finish (node : Node) (rest : List Token) : Except Fault (Option Node) :=
    match dropEnds rest with
    | [] => .ok (some node)
    | .halt f :: _ => .error f
    | _ => refuse .severalDocuments
  match ts with
  | [] => return none
  | .documentStart :: rest =>
    let (node, rest) ← readUnless nestingLimit [.documentStart, .documentEnd] .block enough rest
    finish node rest
  | ts =>
    let (node, rest) ← read nestingLimit .block enough ts
    finish node rest

end Node

end PropertyTyping.Yaml

/-
# `FaasOperator.Yaml.Event` — what the tokens of a text amount to

A sequence of events: scalars, mentions of named values, and the starts and ends of collections and
documents.  A stack of goals holds what is still to come, and a missing scalar is an empty one.
Reading makes a bounded number of steps for each token (`stepsPerToken`).
-/
import FaasOperator.Yaml.Tokens

namespace FaasOperator.Yaml

/-- What may stand in front of a value. -/
structure Properties where
  /-- The name by which the value can be mentioned. -/
  anchor : Option String
  tag : Option String
deriving DecidableEq, Repr

/-- An event.  Where a value starts is kept. -/
inductive Event where
  | alias (name : String) (mark : Mark)
  | scalar (properties : Properties) (text : String) (style : Style) (mark : Mark)
  | sequenceStart (properties : Properties) (mark : Mark)
  | sequenceEnd
  | mappingStart (properties : Properties) (mark : Mark)
  | mappingEnd
  | documentEnd
deriving DecidableEq, Repr

structure Events where
  events : List Event
  flaw : Option Flaw

namespace Events

/-- The kinds of values that may be expected. -/
inductive Position where
  /-- A value that may be a block collection. -/
  | block
  /-- The same, or a sequence whose items are not indented. -/
  | indentless
  /-- A value inside a flow collection. -/
  | flow
deriving DecidableEq, Repr

/-- What is still to come. -/
inductive Goal where
  | firstDocument
  | nextDocument
  | content
  | documentEnd
  | value (position : Position)
  | blockItem (start : Mark)
  | indentlessItem
  | blockKey (start : Mark)
  | blockValue (start : Mark)
  | flowItem (first : Bool) (start : Mark)
  | pairKey
  | pairValue
  | pairEnd
  | flowKey (first : Bool) (start : Mark)
  | flowValue (start : Mark)
  | flowNoValue (start : Mark)
deriving DecidableEq, Repr

/-- What the handles of tags are short for. -/
abbrev Handles := List (String × String)

/-- What handles are short for where nothing is said. -/
def Handles.standard : Handles := [("!", "!"), ("!!", "tag:yaml.org,2002:")]

/-- How far the tokens have been read. -/
structure Reading where
  tokens : List Token
  /-- The flaw behind the tokens. -/
  flaw : Option Flaw
  goals : List Goal
  handles : Handles
  events : Array Event

/-- Reading stops at a flaw, if only that of the tokens. -/
abbrev Result := Except (Option Flaw)

def fail (fault : Fault) (place : Mark) (reading : Option (Activity × Mark) := none) : Result α :=
  .error (some ⟨fault, place, reading⟩)

namespace Reading

def peek (r : Reading) : Result Token :=
  match r.tokens with
  | [] => .error r.flaw
  | t :: _ => .ok t

def skip (r : Reading) : Reading := { r with tokens := r.tokens.drop 1 }

def emit (e : Event) (r : Reading) : Reading := { r with events := r.events.push e }

/-- Adds goals, the first of which comes next. -/
def expect (goals : List Goal) (r : Reading) : Reading := { r with goals := goals ++ r.goals }

/-- Adds a scalar that is missing at a place. -/
def emitEmpty (mark : Mark) (r : Reading) : Reading :=
  r.emit (.scalar ⟨none, none⟩ "" .plain mark)

/-! ## Documents -/

/-- Reads directives.  Gives the handles and the tokens from the first that is no directive. -/
def directives (flaw : Option Flaw) : Bool → Handles → List Token → Result (Handles × List Token)
  | _, _, [] => .error flaw
  | versioned, handles, t :: ts =>
      match t.kind with
      | .versionDirective major minor =>
          if versioned then fail .repeatedVersion t.start
          else if major = 1 ∧ (minor = 1 ∨ minor = 2) then directives flaw true handles ts
          else fail .unknownVersion t.start
      | .tagDirective handle expansion =>
          if (handles.lookup handle).isSome then fail .repeatedTagHandle t.start
          else directives flaw versioned (handles ++ [(handle, expansion)]) ts
      | _ => .ok (handles, t :: ts)

/-- A document behind its directives and its mark, or the end of the text. -/
def markedDocument (r : Reading) : Result Reading := do
  let t ← r.peek
  if t.kind = .streamEnd then return { r with goals := [] }
  let (handles, tokens) ← directives r.flaw false [] r.tokens
  let r := { r with handles, tokens }
  let t ← r.peek
  if t.kind = .documentStart then return r.skip.expect [.content, .documentEnd]
  fail .missingDocumentStart t.start

/-- The first document, which needs no mark. -/
def firstDocument (r : Reading) : Result Reading := do
  match (← r.peek).kind with
  | .versionDirective _ _ | .tagDirective _ _ | .documentStart | .streamEnd => r.markedDocument
  | _ => return r.expect [.value .block, .documentEnd]

/-- A document behind another one. -/
def nextDocument (r : Reading) : Result Reading :=
  { r with tokens := r.tokens.dropWhile (·.kind == Token.Kind.documentEnd) }.markedDocument

/-- What a document holds; it may be nothing. -/
def content (r : Reading) : Result Reading := do
  let t ← r.peek
  match t.kind with
  | .versionDirective _ _ | .tagDirective _ _ | .documentStart | .documentEnd | .streamEnd =>
      return r.emitEmpty t.start
  | _ => return r.expect [.value .block]

/-- The end of a document, which may be marked. -/
def documentEnd (r : Reading) : Result Reading := do
  let r := if (← r.peek).kind = .documentEnd then r.skip else r
  return { (r.emit .documentEnd).expect [.nextDocument] with handles := [] }

/-! ## Values -/

/-- Reads the anchor and the tag in front of a value, in either order.  The tag comes as its handle
and the rest of its text, with its place. -/
def properties (r : Reading) :
    Result (Option String × Option (String × String × Mark) × Reading) := do
  let t ← r.peek
  match t.kind with
  | .anchor name =>
      let r := r.skip
      let t ← r.peek
      match t.kind with
      | .tag handle rest => return (some name, some (handle, rest, t.start), r.skip)
      | _ => return (some name, none, r)
  | .tag handle rest =>
      let r := r.skip
      match (← r.peek).kind with
      | .anchor name => return (some name, some (handle, rest, t.start), r.skip)
      | _ => return (none, some (handle, rest, t.start), r)
  | _ => return (none, none, r)

/-- The full text of a tag. -/
def fullTag (r : Reading) (start : Mark) : Option (String × String × Mark) → Result (Option String)
  | none => .ok none
  | some ("", rest, _) => .ok (some rest)
  | some (handle, rest, mark) =>
      match (r.handles ++ Handles.standard).lookup handle with
      | some expansion => .ok (some (expansion ++ rest))
      | none => fail .unknownTagHandle mark (some (.node, start))

def value (position : Position) (r : Reading) : Result Reading := do
  let first ← r.peek
  if let .alias name := first.kind then return r.skip.emit (.alias name first.start)
  let (anchor, tag, r) ← r.properties
  let t ← r.peek
  let tag ← r.fullTag first.start tag
  let properties : Properties := ⟨anchor, tag⟩
  let sequence := fun goal (r : Reading) =>
    (r.emit (.sequenceStart properties first.start)).expect [goal]
  let mapping := fun goal (r : Reading) =>
    (r.emit (.mappingStart properties first.start)).expect [goal]
  match t.kind, position with
  | .blockEntry, .indentless => return sequence .indentlessItem r
  | .scalar text style, _ => return r.skip.emit (.scalar properties text style first.start)
  | .flowSequenceStart, _ => return sequence (.flowItem true t.start) r.skip
  | .flowMappingStart, _ => return mapping (.flowKey true t.start) r.skip
  | .blockSequenceStart, .block | .blockSequenceStart, .indentless =>
      return sequence (.blockItem t.start) r.skip
  | .blockMappingStart, .block | .blockMappingStart, .indentless =>
      return mapping (.blockKey t.start) r.skip
  | _, _ =>
      if anchor.isSome || tag.isSome then
        return r.emit (.scalar properties "" .plain first.start)
      else
        let activity : Activity := if position = .flow then .flowNode else .blockNode
        fail .missingContent t.start (some (activity, first.start))

/-! ## Block collections -/

/-- An item of a block sequence, or its end. -/
def blockItem (start : Mark) (r : Reading) : Result Reading := do
  let t ← r.peek
  match t.kind with
  | .blockEntry =>
      let r := r.skip.expect [.blockItem start]
      match (← r.peek).kind with
      | .blockEntry | .blockEnd => return r.emitEmpty t.stop
      | _ => return r.expect [.value .block]
  | .blockEnd => return r.skip.emit .sequenceEnd
  | _ => fail .missingDash t.start (some (.blockSequence, start))

/-- An item of a sequence that is not indented, or its end. -/
def indentlessItem (r : Reading) : Result Reading := do
  let t ← r.peek
  match t.kind with
  | .blockEntry =>
      let r := r.skip.expect [.indentlessItem]
      match (← r.peek).kind with
      | .blockEntry | .key | .value | .blockEnd => return r.emitEmpty t.stop
      | _ => return r.expect [.value .block]
  | _ => return r.emit .sequenceEnd

/-- A key of a block mapping, or its end. -/
def blockKey (start : Mark) (r : Reading) : Result Reading := do
  let t ← r.peek
  match t.kind with
  | .key =>
      let r := r.skip.expect [.blockValue start]
      match (← r.peek).kind with
      | .key | .value | .blockEnd => return r.emitEmpty t.stop
      | _ => return r.expect [.value .indentless]
  | .blockEnd => return r.skip.emit .mappingEnd
  | _ => fail .missingKey t.start (some (.blockMapping, start))

def blockValue (start : Mark) (r : Reading) : Result Reading := do
  let t ← r.peek
  match t.kind with
  | .value =>
      let r := r.skip.expect [.blockKey start]
      match (← r.peek).kind with
      | .key | .value | .blockEnd => return r.emitEmpty t.stop
      | _ => return r.expect [.value .indentless]
  | _ => return (r.emitEmpty t.start).expect [.blockKey start]

/-! ## Flow collections -/

/-- Passes the comma between two entries of a flow collection. -/
def separator (first : Bool) (fault : Fault) (activity : Activity) (start : Mark) (r : Reading) :
    Result Reading := do
  let t ← r.peek
  if first then return r
  if t.kind = .flowEntry then return r.skip
  fail fault t.start (some (activity, start))

/-- An item of a flow sequence, or its end.  A key begins a mapping of one entry. -/
def flowItem (first : Bool) (start : Mark) (r : Reading) : Result Reading := do
  if (← r.peek).kind = .flowSequenceEnd then return r.skip.emit .sequenceEnd
  let r ← r.separator first .missingCommaOrBracket .flowSequence start
  let t ← r.peek
  match t.kind with
  | .flowSequenceEnd => return r.skip.emit .sequenceEnd
  | .key =>
      return (r.skip.emit (.mappingStart ⟨none, none⟩ t.start)).expect
        [.pairKey, .flowItem false start]
  | _ => return r.expect [.value .flow, .flowItem false start]

/-- The key of a mapping of one entry.  A token in place of a missing key is passed. -/
def pairKey (r : Reading) : Result Reading := do
  let t ← r.peek
  match t.kind with
  | .value | .flowEntry | .flowSequenceEnd => return (r.skip.emitEmpty t.stop).expect [.pairValue]
  | _ => return r.expect [.value .flow, .pairValue]

def pairValue (r : Reading) : Result Reading := do
  let t ← r.peek
  let r := r.expect [.pairEnd]
  if t.kind ≠ .value then return r.emitEmpty t.start
  let r := r.skip
  let t ← r.peek
  match t.kind with
  | .flowEntry | .flowSequenceEnd => return r.emitEmpty t.start
  | _ => return r.expect [.value .flow]

def pairEnd (r : Reading) : Result Reading := do
  let _ ← r.peek
  return r.emit .mappingEnd

/-- A key of a flow mapping, or its end. -/
def flowKey (first : Bool) (start : Mark) (r : Reading) : Result Reading := do
  if (← r.peek).kind = .flowMappingEnd then return r.skip.emit .mappingEnd
  let r ← r.separator first .missingCommaOrBrace .flowMapping start
  match (← r.peek).kind with
  | .flowMappingEnd => return r.skip.emit .mappingEnd
  | .key =>
      let r := r.skip.expect [.flowValue start]
      let t ← r.peek
      match t.kind with
      | .value | .flowEntry | .flowMappingEnd => return r.emitEmpty t.start
      | _ => return r.expect [.value .flow]
  | _ => return r.expect [.value .flow, .flowNoValue start]

def flowValue (start : Mark) (r : Reading) : Result Reading := do
  let t ← r.peek
  let r := r.expect [.flowKey false start]
  if t.kind ≠ .value then return r.emitEmpty t.start
  let r := r.skip
  let t ← r.peek
  match t.kind with
  | .flowEntry | .flowMappingEnd => return r.emitEmpty t.start
  | _ => return r.expect [.value .flow]

/-- The value of a key that has none. -/
def flowNoValue (start : Mark) (r : Reading) : Result Reading := do
  let t ← r.peek
  return (r.emitEmpty t.start).expect [.flowKey false start]

/-! ## Reading on -/

def reach (r : Reading) : Goal → Result Reading
  | .firstDocument => r.firstDocument
  | .nextDocument => r.nextDocument
  | .content => r.content
  | .documentEnd => r.documentEnd
  | .value position => r.value position
  | .blockItem start => r.blockItem start
  | .indentlessItem => r.indentlessItem
  | .blockKey start => r.blockKey start
  | .blockValue start => r.blockValue start
  | .flowItem first start => r.flowItem first start
  | .pairKey => r.pairKey
  | .pairValue => r.pairValue
  | .pairEnd => r.pairEnd
  | .flowKey first start => r.flowKey first start
  | .flowValue start => r.flowValue start
  | .flowNoValue start => r.flowNoValue start

/-- Reads on to the end or to a flaw, in at most so many steps. -/
def finish : Nat → Reading → Events
  | 0, r => ⟨r.events.toList, none⟩
  | n + 1, r =>
      match r.goals with
      | [] => ⟨r.events.toList, none⟩
      | goal :: goals =>
          match { r with goals }.reach goal with
          | .error flaw => ⟨r.events.toList, flaw⟩
          | .ok r => finish n r

end Reading

/-- The most steps that are made between two tokens. -/
def stepsPerToken : Nat := 8

def ofTokens (ts : Tokens) : Events :=
  Reading.finish (stepsPerToken * (ts.tokens.length + 1))
    ⟨ts.tokens, ts.flaw, [.firstDocument], [], #[]⟩

def ofText (text : List Char) : Events := ofTokens (.ofText text)

end Events

end FaasOperator.Yaml

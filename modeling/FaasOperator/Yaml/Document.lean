/-
# `FaasOperator.Yaml.Document` — the documents of a text

Each is put together from the events of the text, one after the other, with a stack of the
collections that are still open; a mention stands for the value that has been given the name.  What
comes first in the text and cannot be is the problem of the text.
-/
import FaasOperator.Yaml.Event
import FaasOperator.Yaml.Value

namespace FaasOperator.Yaml

/-- The way to a value: keys and positions.  The document itself has none. -/
abbrev Path := Option String

namespace Path

/-- The way to an item. -/
def item (index : Nat) (p : Path) : Path := some (p.getD "." ++ "[" ++ toString index ++ "]")

/-- The way to the value of a key; a key that is no scalar is not told. -/
def member (key : Option String) (p : Path) : Path :=
  match p, key with
  | none, none => some "?"
  | none, some key => some key
  | some p, none => some (p ++ ".?")
  | some p, some key => some (p ++ "." ++ key)

/-- How the way is told in front of a message. -/
def lead (p : Path) : String := if p.getD "." = "." then "" else p.getD "" ++ ": "

end Path

inductive Problem where
  /-- A character that may not be in a text, so many bytes behind its start. -/
  | controlCharacter (offset : Nat)
  | flaw (f : Flaw)
  | misfit (m : Misfit) (path : Path) (mark : Mark)
  | unknownAnchor (mark : Mark)
  /-- Collections are nested too deeply. -/
  | tooDeep (mark : Mark)

def Problem.message : Problem → String
  | .controlCharacter offset =>
      "control characters are not allowed" ++
        if offset = 0 then "" else " at position " ++ toString offset
  | .flaw f => f.message
  | .misfit m path mark => path.lead ++ m.message ++ mark.suffix
  | .unknownAnchor mark => "unknown anchor" ++ mark.suffix
  | .tooDeep mark => "recursion limit exceeded" ++ mark.suffix

/-- The documents of a text, up to a problem. -/
structure Documents where
  values : List Value
  problem : Option Problem

namespace Documents

/-- A collection that is still open. -/
inductive Contents where
  /-- The items so far, the last one first. -/
  | sequence (items : List Value)
  /-- The entries so far, the last one first, and the key that has no value yet.  A scalar's text
  comes with it. -/
  | mapping (entries : List (Value × Value)) (key : Option (Value × Option String))

/-- An open collection and what stood in front of it. -/
structure Frame where
  contents : Contents
  tag : Option String
  path : Path
  mark : Mark

/-- What a name was given to. -/
inductive Anchored where
  | value (v : Value)
  /-- A collection that is still open, and how many others are around it. -/
  | open (level : Nat)

/-- How far a document has been put together. -/
structure Draft where
  /-- The open collections, the innermost first. -/
  frames : List Frame
  /-- The names, the latest first. -/
  anchors : List (String × Anchored)
  value : Option Value

namespace Draft

def empty : Draft := ⟨[], [], none⟩

/-- The way to the value that comes next. -/
def nextPath (d : Draft) : Path :=
  match d.frames with
  | [] => none
  | ⟨.sequence items, _, path, _⟩ :: _ => path.item items.length
  | ⟨.mapping _ none, _, path, _⟩ :: _ => path
  | ⟨.mapping _ (some (_, key)), _, path, _⟩ :: _ => path.member key

/-- Takes in a complete value; a scalar comes with its text. -/
def put (v : Value) (text : Option String) (d : Draft) : Except Problem Draft :=
  match d.frames with
  | [] => .ok { d with value := some v }
  | ⟨.sequence items, tag, path, mark⟩ :: frames =>
      .ok { d with frames := ⟨.sequence (v :: items), tag, path, mark⟩ :: frames }
  | ⟨.mapping entries (some (key, _)), tag, path, mark⟩ :: frames =>
      .ok { d with frames := ⟨.mapping ((key, v) :: entries) none, tag, path, mark⟩ :: frames }
  | ⟨.mapping entries none, tag, path, mark⟩ :: frames =>
      if entries.any (·.1 == v) then .error (.misfit (.repeatedKey v) path mark)
      else .ok { d with frames := ⟨.mapping entries (some (v, text)), tag, path, mark⟩ :: frames }

/-- Gives something a name. -/
def name (anchor : Option String) (a : Anchored) (d : Draft) : Draft :=
  match anchor with
  | none => d
  | some n => { d with anchors := (n, a) :: d.anchors }

/-- How deeply collections can be nested. -/
def depthLimit : Nat := 128

def openFrame (contents : Contents) (p : Properties) (mark : Mark) (d : Draft) :
    Except Problem Draft :=
  if depthLimit ≤ d.frames.length then .error (.tooDeep mark)
  else if p.tag = some "!" then .error (.misfit .emptyTag d.nextPath mark)
  else
    let frame : Frame := ⟨contents, Scalar.nameOfTag? p.tag, d.nextPath, mark⟩
    .ok { d.name p.anchor (.open d.frames.length) with frames := frame :: d.frames }

/-- The value of a collection that ends. -/
def Frame.value (f : Frame) : Value :=
  let v : Value :=
    match f.contents with
    | .sequence items => .sequence items.reverse
    | .mapping entries _ => .mapping entries.reverse
  match f.tag with
  | none => v
  | some tag => .tagged tag v

/-- Ends the innermost collection. -/
def closeFrame (d : Draft) : Except Problem Draft :=
  match d.frames with
  | [] => .ok d
  | frame :: frames =>
      let v := Frame.value frame
      let anchors := d.anchors.map fun
        | (n, .open level) => (n, if level = frames.length then .value v else .open level)
        | (n, .value v) => (n, .value v)
      put v none { d with frames, anchors }

/-- A collection that holds a mention of itself has no end; this is where it gets too deep. -/
def endlessMark (level : Nat) (d : Draft) : Mark :=
  let loop := d.frames.reverse.drop level
  (loop[(depthLimit - d.frames.length) % loop.length]?.map (·.mark)).getD .start

/-- Takes in the value of a name. -/
def mention (n : String) (mark : Mark) (d : Draft) : Except Problem Draft :=
  match d.anchors.lookup n with
  | none => .error (.unknownAnchor mark)
  | some (.value v) => d.put v none
  | some (.open level) => .error (.tooDeep (d.endlessMark level))

/-- The effect of an event within a document. -/
def step (d : Draft) : Event → Except Problem Draft
  | .alias n mark => d.mention n mark
  | .scalar p text style mark =>
      match Scalar.resolve p.tag text style with
      | .error m => .error (.misfit m d.nextPath mark)
      | .ok v => (d.name p.anchor (.value v)).put v (some text)
  | .sequenceStart p mark => d.openFrame (.sequence []) p mark
  | .mappingStart p mark => d.openFrame (.mapping [] none) p mark
  | .sequenceEnd | .mappingEnd => d.closeFrame
  | .documentEnd => .ok d

end Draft

/-- Puts documents together from the events that follow. -/
def compose (flaw : Option Flaw) : Draft → List Event → Documents
  | _, [] => ⟨[], flaw.map .flaw⟩
  | d, e :: es =>
      match d.step e with
      | .error p => ⟨[], some p⟩
      | .ok d =>
          if e = .documentEnd then
            let rest := compose flaw .empty es
            ⟨d.value.getD .null :: rest.values, rest.problem⟩
          else compose flaw d es

def isAllowed (c : Char) : Bool :=
  let n := c.toNat
  c == '\t' || c == '\n' || c == '\r' || (0x20 ≤ n && n ≤ 0x7e) || n == 0x85 ||
    (0xa0 ≤ n && n != 0xfffe && n != 0xffff)

/-- Where in a text, in bytes, the first character is that cannot be there. -/
def controlOffset? (cs : List Char) : Option Nat :=
  if cs.all isAllowed then none
  else some ((cs.takeWhile isAllowed).foldl (fun n c => n + c.utf8Size) 0)

def ofText (text : List Char) : Documents :=
  match controlOffset? text with
  | some offset => ⟨[], some (.controlCharacter offset)⟩
  | none =>
      let events := Events.ofText text
      compose events.flaw .empty events.events

end Documents

end FaasOperator.Yaml

/-
# `FaasOperator.Yaml.Tokens` — the tokens of a text

Whether a token is the key of a mapping shows only at the colon behind it; then the marks of a key,
and of a block mapping that it opens, are put in front of it.  So a token that might still be a key
is not settled yet, and neither are those behind it.  If the text turns out to be flawed, the tokens
settled until then are its tokens.
-/
import FaasOperator.Yaml.BlockScalar
import FaasOperator.Yaml.Directive
import FaasOperator.Yaml.PlainScalar
import FaasOperator.Yaml.QuotedScalar

namespace FaasOperator.Yaml

/-- The tokens of a text, up to a flaw. -/
structure Tokens where
  tokens : List Token
  flaw : Option Flaw

namespace Tokens

/-- A token that might turn out to be a key. -/
structure PossibleKey where
  /-- The text makes sense only if it is one. -/
  required : Bool
  /-- How many tokens are in front of it. -/
  position : Nat
  start : Cursor

/-- The most characters between the start of a key and its colon. -/
def mostKeyChars : Nat := 1024

/-- How far a text has been read. -/
structure Reading where
  cursor : Cursor
  tokens : Array Token
  /-- The columns of the open block collections, the innermost first. -/
  blocks : List Nat
  /-- For each open flow collection, the innermost first: the possible key in front of it. -/
  flows : List (Option PossibleKey)
  /-- The possible key of the innermost collection. -/
  key : Option PossibleKey
  /-- A key may begin here without a mark. -/
  keyAllowed : Bool
  ended : Bool

namespace Reading

def start (text : List Char) : Reading := ⟨.start text, #[], [], [], none, true, false⟩

/-- A flow collection is open. -/
def inFlow (r : Reading) : Bool := !r.flows.isEmpty

/-- The first column that is inside the innermost block collection. -/
def margin (r : Reading) : Nat := (r.blocks.head?.map (· + 1)).getD 0

def fail (r : Reading) (fault : Fault) (reading : Option (Activity × Mark) := none) :
    Except Flaw α :=
  .error ⟨fault, r.cursor.mark, reading⟩

def push (kind : Token.Kind) (start stop : Mark) (r : Reading) : Reading :=
  { r with tokens := r.tokens.push ⟨kind, start, stop⟩ }

/-- Adds a token of so many characters, which stands at the cursor. -/
def pushMark (kind : Token.Kind) (length : Nat) (r : Reading) : Reading :=
  let next := r.cursor.skip length
  { r.push kind r.cursor.mark next.mark with cursor := next }

/-! ## Keys -/

/-- A possible key has turned out to be none. -/
def refuse (k : PossibleKey) (r : Reading) : Except Flaw (Option PossibleKey) :=
  if k.required then r.fail .missingColon (some (.simpleKey, k.start.mark)) else .ok none

/-- A key stands on one line, and is not too long. -/
def isStale (k : PossibleKey) (r : Reading) : Bool :=
  k.start.mark.line < r.cursor.mark.line || k.start.index + mostKeyChars < r.cursor.index

/-- Gives up a possible key for which it is too late. -/
def refuseStale (r : Reading) : Option PossibleKey → Except Flaw (Option PossibleKey)
  | none => .ok none
  | some k => if r.isStale k then r.refuse k else .ok (some k)

/-- Gives up all possible keys for which it is too late. -/
def dropStale (r : Reading) : Except Flaw Reading := do
  let flows ← r.flows.mapM r.refuseStale
  let key ← r.refuseStale r.key
  return { r with flows, key }

/-- Gives up the possible key of the innermost collection. -/
def dropKey (r : Reading) : Except Flaw Reading :=
  match r.key with
  | none => .ok r
  | some k => (r.refuse k).map fun key => { r with key }

/-- The token that follows might be a key, if one may begin here. -/
def markKey (r : Reading) : Except Flaw Reading :=
  if r.keyAllowed then
    let required := !r.inFlow && r.margin == r.cursor.mark.column + 1
    r.dropKey.map fun r => { r with key := some ⟨required, r.tokens.size, r.cursor⟩ }
  else .ok r

/-! ## Indentation -/

/-- A block collection begins at a column, unless it has begun already.  Its token goes in front of
the token at a position. -/
def openBlock (kind : Token.Kind) (mark : Mark) (position : Nat) (r : Reading) : Reading :=
  if !r.inFlow && r.margin ≤ mark.column then
    { r with
      blocks := mark.column :: r.blocks
      tokens := r.tokens.insertIdxIfInBounds position ⟨kind, mark, mark⟩ }
  else r

/-- Ends the block collections whose columns lie behind a margin. -/
def closeBlocks (margin : Nat) (r : Reading) : Reading :=
  if r.inFlow then r
  else
    let ending : Token := ⟨.blockEnd, r.cursor.mark, r.cursor.mark⟩
    { r with
      blocks := r.blocks.dropWhile (margin ≤ ·)
      tokens := r.tokens ++ (r.blocks.takeWhile (margin ≤ ·)).map fun _ => ending }

/-! ## Kinds of tokens -/

/-- The end of the text, which counts as the start of a line. -/
def scanEnd (r : Reading) : Except Flaw Reading :=
  let m := r.cursor.mark
  let mark : Mark := if m.column = 0 then m else ⟨m.line + 1, 0⟩
  let r := closeBlocks 0 { r with cursor := { r.cursor with mark } }
  r.dropKey.map fun r => { r.push .streamEnd mark mark with keyAllowed := false, ended := true }

def scanDirective (r : Reading) : Except Flaw Reading :=
  match (r.closeBlocks 0).dropKey with
  | .error f => .error f
  | .ok r =>
      (Directive.scan r.cursor).map fun (kind, stop, next) =>
        { r.push kind r.cursor.mark stop with cursor := next, keyAllowed := false }

/-- A mark between documents, or one that ends a document. -/
def scanDocumentMark (kind : Token.Kind) (r : Reading) : Except Flaw Reading :=
  (r.closeBlocks 0).dropKey.map fun r => { r.pushMark kind 3 with keyAllowed := false }

def scanFlowStart (kind : Token.Kind) (r : Reading) : Except Flaw Reading :=
  r.markKey.map fun r =>
    { r.pushMark kind 1 with flows := r.key :: r.flows, key := none, keyAllowed := true }

def scanFlowEnd (kind : Token.Kind) (r : Reading) : Except Flaw Reading :=
  r.dropKey.map fun r =>
    let r := r.pushMark kind 1
    match r.flows with
    | [] => { r with keyAllowed := false }
    | key :: flows => { r with flows, key, keyAllowed := false }

/-- A comma in a flow collection. -/
def scanFlowEntry (r : Reading) : Except Flaw Reading :=
  r.dropKey.map fun r => { r.pushMark .flowEntry 1 with keyAllowed := true }

/-- A dash in front of an item. -/
def scanBlockEntry (r : Reading) : Except Flaw Reading :=
  if !r.inFlow && !r.keyAllowed then r.fail .misplacedEntry
  else
    (r.openBlock .blockSequenceStart r.cursor.mark r.tokens.size).dropKey.map fun r =>
      { r.pushMark .blockEntry 1 with keyAllowed := true }

/-- A question mark in front of a key. -/
def scanKey (r : Reading) : Except Flaw Reading :=
  if !r.inFlow && !r.keyAllowed then r.fail .misplacedKey
  else
    (r.openBlock .blockMappingStart r.cursor.mark r.tokens.size).dropKey.map fun r =>
      { r.pushMark .key 1 with keyAllowed := !r.inFlow }

/-- A colon in front of a value.  What might have been a key is one now. -/
def scanValue (r : Reading) : Except Flaw Reading :=
  match r.key with
  | some k =>
      let mark := k.start.mark
      let r := { r with tokens := r.tokens.insertIdxIfInBounds k.position ⟨.key, mark, mark⟩ }
      let r := r.openBlock .blockMappingStart mark k.position
      .ok { r.pushMark .value 1 with key := none, keyAllowed := false }
  | none =>
      if !r.inFlow && !r.keyAllowed then r.fail .misplacedValue
      else
        let r := r.openBlock .blockMappingStart r.cursor.mark r.tokens.size
        .ok { r.pushMark .value 1 with keyAllowed := !r.inFlow }

/-- The name of a value, or the mention of one. -/
def scanName (activity : Activity) (kind : String → Token.Kind) (r : Reading) :
    Except Flaw Reading :=
  match r.markKey with
  | .error f => .error f
  | .ok r =>
      (Tag.scanName activity r.cursor).map fun (name, next) =>
        { r.push (kind name) r.cursor.mark next.mark with cursor := next, keyAllowed := false }

def scanTag (r : Reading) : Except Flaw Reading :=
  match r.markKey with
  | .error f => .error f
  | .ok r =>
      (Tag.scan r.inFlow r.cursor).map fun (kind, next) =>
        { r.push kind r.cursor.mark next.mark with cursor := next, keyAllowed := false }

def scanBlockScalar (folded : Bool) (r : Reading) : Except Flaw Reading :=
  match r.dropKey with
  | .error f => .error f
  | .ok r =>
      (BlockScalar.scan folded r.margin r.cursor).map fun (text, stop, next) =>
        { r.push (.scalar text .quoted) r.cursor.mark stop with cursor := next, keyAllowed := true }

def scanQuoted (q : QuotedScalar.Quote) (r : Reading) : Except Flaw Reading :=
  match r.markKey with
  | .error f => .error f
  | .ok r =>
      (QuotedScalar.scan q r.cursor).map fun (text, next) =>
        { r.push (.scalar text .quoted) r.cursor.mark next.mark with
          cursor := next
          keyAllowed := false }

/-- A scalar without quotes.  Behind the end of its line a key may begin. -/
def scanPlain (r : Reading) : Except Flaw Reading :=
  match r.markKey with
  | .error f => .error f
  | .ok r =>
      (PlainScalar.scan r.inFlow r.margin r.cursor).map fun s =>
        { r.push (.scalar (String.ofList s.text) .plain) r.cursor.mark s.stop with
          cursor := s.next
          keyAllowed := s.broken }

/-! ## Reading on -/

/-- Passes blanks, comments and line breaks.  Where a key may begin a tab is no blank. -/
def skipGap (c : Cursor) (inFlow keyAllowed : Bool) : Cursor × Bool :=
  let c₁ := if c.mark.column == 0 && c.sees (· == '\ufeff') then c.skip 1 else c
  let c₂ := c₁.skipWhile fun x => x == ' ' || (x == '\t' && (inFlow || !keyAllowed))
  let c₃ := c₂.skipComment
  if c₃.sees isBreak then
    let c₄ := c₃.skipBreak
    if _h : c₄.rest.length < c.rest.length then skipGap c₄ inFlow (keyAllowed || !inFlow)
    else (c₄, keyAllowed || !inFlow)
  else (c₃, keyAllowed)
termination_by c.rest.length
decreasing_by exact _h

/-- A scalar without quotes can begin with the character at the cursor. -/
def startsPlain (r : Reading) (x : Char) : Bool :=
  (!isGap x && !"-?:,[]\x7b\x7d#&*!|>\x27\"%@`".toList.contains x) ||
    (x == '-' && !(r.cursor.peek? 1).any isBlank) ||
    (!r.inFlow && (x == '?' || x == ':') && !r.cursor.wordEnds 1)

/-- Reads the token at the cursor, which begins with a character. -/
def scanToken (r : Reading) (x : Char) : Except Flaw Reading :=
  if x == '%' && r.cursor.mark.column == 0 then r.scanDirective
  else if r.cursor.seesDocumentMark '-' then r.scanDocumentMark .documentStart
  else if r.cursor.seesDocumentMark '.' then r.scanDocumentMark .documentEnd
  else if x == '[' then r.scanFlowStart .flowSequenceStart
  else if x == '{' then r.scanFlowStart .flowMappingStart
  else if x == ']' then r.scanFlowEnd .flowSequenceEnd
  else if x == '}' then r.scanFlowEnd .flowMappingEnd
  else if x == ',' then r.scanFlowEntry
  else if x == '-' && r.cursor.wordEnds 1 then r.scanBlockEntry
  else if x == '?' && (r.inFlow || r.cursor.wordEnds 1) then r.scanKey
  else if x == ':' && (r.inFlow || r.cursor.wordEnds 1) then r.scanValue
  else if x == '*' then r.scanName .alias .alias
  else if x == '&' then r.scanName .anchor .anchor
  else if x == '!' then r.scanTag
  else if x == '|' && !r.inFlow then r.scanBlockScalar false
  else if x == '>' && !r.inFlow then r.scanBlockScalar true
  else if x == '\x27' then r.scanQuoted .single
  else if x == '"' then r.scanQuoted .double
  else if r.startsPlain x then r.scanPlain
  else r.fail .noToken (some (.nextToken, r.cursor.mark))

def step (r : Reading) : Except Flaw Reading := do
  let (cursor, keyAllowed) := skipGap r.cursor r.inFlow r.keyAllowed
  let r ← dropStale { r with cursor, keyAllowed }
  let r := r.closeBlocks (cursor.mark.column + 1)
  let r ← match cursor.rest.head? with
    | none => r.scanEnd
    | some x => r.scanToken x
  r.dropStale

/-- The tokens that are not a possible key and do not stand behind one. -/
def settled (r : Reading) : List Token :=
  let positions := (r.key :: r.flows).filterMap (·.map (·.position))
  r.tokens.toList.take (positions.foldl min r.tokens.size)

/-- Reads on to the end of the text or to a flaw. -/
def finish (r : Reading) : Tokens :=
  match r.step with
  | .error f => ⟨r.settled, some f⟩
  | .ok r' =>
      if r'.ended then ⟨r'.tokens.toList, none⟩
      else if r'.cursor.rest.length < r.cursor.rest.length then r'.finish
      else ⟨r'.tokens.toList, none⟩
termination_by r.cursor.rest.length

end Reading

def ofText (text : List Char) : Tokens := (Reading.start text).finish

end Tokens

end FaasOperator.Yaml

/-
# `FaasOperator.Json.Reader` — reading a JSON text

One step for each character, over an explicit stack of the lists and records that are still open.
The reader is a left fold (`Reader.run`), so the state after two texts in a row is the state that
the second one makes of the first one's, and nothing is ever read twice.
-/
import FaasOperator.Json.Literal
import FaasOperator.Json.NumberScan

namespace FaasOperator.Json

/-- A list or a record that is open around the value being read; its parts are last first. -/
inductive Frame where
  | list (items : List Document)
  | member (members : List (Literal × Document)) (key : Literal)

/-- What has been read, and what may come next. -/
inductive Reader where
  /-- A value must start. -/
  | value (stack : List Frame)
  /-- A list was opened: a value or its end. -/
  | listStart (stack : List Frame)
  /-- An item was completed: a comma or the end of the list. -/
  | listRest (items : List Document) (stack : List Frame)
  /-- A record was opened: a key or its end. -/
  | recordStart (stack : List Frame)
  /-- A member was completed: a comma or the end of the record. -/
  | recordRest (members : List (Literal × Document)) (stack : List Frame)
  /-- A comma was read: a key must start. -/
  | keyStart (members : List (Literal × Document)) (stack : List Frame)
  /-- Within a key. -/
  | inKey (members : List (Literal × Document)) (text : TextScan) (stack : List Frame)
  /-- A key was completed: a colon must follow. -/
  | colon (members : List (Literal × Document)) (key : Literal) (stack : List Frame)
  /-- Within one of the words null, true and false; these characters are still missing. -/
  | word (missing : List Char) (value : Document) (stack : List Frame)
  /-- Within a number. -/
  | inNumber (number : NumberScan) (stack : List Frame)
  /-- Within a string. -/
  | inText (text : TextScan) (stack : List Frame)
  /-- The whole value was read; only blanks may follow. -/
  | finished (document : Document)
  /-- Something else followed the value. -/
  | trailing (document : Document)
  /-- The text is broken; what follows is not looked at. -/
  | stopped (document : Document)

namespace Reader

def isBlank (c : Char) : Bool := c == ' ' || c == '\n' || c == '\t' || c == '\r'

/-- A value was completed. -/
def complete (d : Document) : List Frame → Reader
  | [] => .finished d
  | .list items :: stack => .listRest (d :: items) stack
  | .member members key :: stack => .recordRest ((key, d) :: members) stack

/-- Closes all that is open around a broken value; each of them is cut by the same problem. -/
def unwind (p : Problem) (d : Document) : List Frame → Document
  | [] => d
  | .list items :: stack => unwind p (.list (d :: items).reverse (some p)) stack
  | .member members key :: stack => unwind p (.record ((key, d) :: members).reverse (some p)) stack

/-- The text breaks where a value should be. -/
def breakValue (wanted skipped : Problem) (stack : List Frame) : Reader :=
  .stopped (unwind skipped (.broken wanted skipped) stack)

/-- The text breaks within a list, behind these items. -/
def breakList (p : Problem) (items : List Document) (stack : List Frame) : Reader :=
  .stopped (unwind p (.list items.reverse (some p)) stack)

/-- The text breaks within a record, behind these members. -/
def breakRecord (p : Problem) (members : List (Literal × Document)) (stack : List Frame) : Reader :=
  .stopped (unwind p (.record members.reverse (some p)) stack)

/-- The text breaks behind this key, in front of its value. -/
def breakMember (p : Problem) (members : List (Literal × Document)) (key : Literal)
    (stack : List Frame) : Reader :=
  breakRecord p ((key, .broken p p) :: members) stack

/-- The first character of a value. -/
def startValue (c : Char) (stack : List Frame) : Reader :=
  match c with
  | 'n' => .word ['u', 'l', 'l'] .null stack
  | 't' => .word ['r', 'u', 'e'] (.bool true) stack
  | 'f' => .word ['a', 'l', 's', 'e'] (.bool false) stack
  | '"' => .inText .start stack
  | '[' => .listStart stack
  | '{' => .recordStart stack
  | c =>
      match NumberScan.start? c with
      | some n => .inNumber n stack
      | none => breakValue .malformed .malformed stack

/-- The first character behind a completed value. -/
def afterValue (c : Char) : Reader → Reader
  | .listRest items stack =>
      if isBlank c then .listRest items stack
      else if c = ',' then .value (.list items :: stack)
      else if c = ']' then complete (.list items.reverse none) stack
      else breakList .malformed items stack
  | .recordRest members stack =>
      if isBlank c then .recordRest members stack
      else if c = ',' then .keyStart members stack
      else if c = '}' then complete (.record members.reverse none) stack
      else breakRecord .malformed members stack
  | .finished d => if isBlank c then .finished d else .trailing d
  | r => r

/-- The effect of one character. -/
def step (r : Reader) (c : Char) : Reader :=
  match r with
  | .value stack => if isBlank c then r else startValue c stack
  | .listStart stack =>
      if isBlank c then r
      else if c = ']' then complete (.list [] none) stack
      else startValue c (.list [] :: stack)
  | .recordStart stack =>
      if isBlank c then r
      else if c = '}' then complete (.record [] none) stack
      else if c = '"' then .inKey [] .start stack
      else breakRecord .malformed [] stack
  | .keyStart members stack =>
      if isBlank c then r
      else if c = '"' then .inKey members .start stack
      else breakRecord .malformed members stack
  | .inKey members t stack =>
      match t.step c with
      | .more t => .inKey members t stack
      | .closed l => .colon members l stack
      | .cut l => breakMember .malformed members l stack
  | .colon members key stack =>
      if isBlank c then r
      else if c = ':' then .value (.member members key :: stack)
      else breakMember .malformed members key stack
  | .word missing v stack =>
      match missing with
      | [] => complete v stack
      | m :: ms =>
          if c = m then (if ms.isEmpty then complete v stack else .word ms v stack)
          else breakValue .malformed .malformed stack
  | .inNumber n stack =>
      match n.step c with
      | .more n => .inNumber n stack
      | .ended n => afterValue c (complete (.number n) stack)
      | .bad => breakValue .malformed .malformed stack
  | .inText t stack =>
      match t.step c with
      | .more t => .inText t stack
      | .closed l => complete (.text l) stack
      | .cut l => .stopped (unwind .malformed (.text l) stack)
  | .listRest _ _ | .recordRest _ _ | .finished _ => afterValue c r
  | .trailing _ | .stopped _ => r

/-- The state behind a text. -/
def run (cs : List Char) (r : Reader) : Reader := cs.foldl step r

/-- The end of the text breaks off whatever is open. -/
def endOfText : Reader → Reader
  | .value stack => breakValue .truncated .truncated stack
  | .listStart stack => breakList .truncated [] stack
  | .listRest items stack => breakList .truncated items stack
  | .recordStart stack => breakRecord .truncated [] stack
  | .recordRest members stack => breakRecord .truncated members stack
  | .keyStart members stack => breakRecord .truncated members stack
  | .inKey members t stack => breakMember .truncated members (t.cutBy .truncated) stack
  | .colon members key stack => breakMember .truncated members key stack
  | .word _ _ stack => breakValue .truncated .truncated stack
  | .inNumber _ stack => breakValue .truncated .malformed stack
  | .inText t stack => .stopped (unwind .truncated (.text (t.cutBy .truncated)) stack)
  | r => r

/-- A number that ends with the text is a value; anything else that is open is broken off. -/
def finish : Reader → Reader
  | .inNumber n stack =>
      if n.isComplete then endOfText (complete (.number n.numeral) stack)
      else endOfText (.inNumber n stack)
  | r => endOfText r

/-- The document of a reader that is done. -/
def document : Reader → Document
  | .finished d | .trailing d | .stopped d => d
  | _ => .broken .truncated .truncated

end Reader

def readAll (cs : List Char) : Reader := (Reader.run cs (.value [])).finish

/-- Decodes a text.  What follows the value is looked at only when the value itself is in order. -/
def decodeText (decode : Document → Except Problem α) (s : String) : Except Problem α :=
  let r := readAll s.toList
  match decode r.document, r with
  | .error p, _ => .error p
  | .ok _, .trailing _ => .error .malformed
  | .ok a, _ => .ok a

/-- The document of a text that holds one value and nothing else. -/
def documentOf? (s : String) : Option Document :=
  match readAll s.toList with
  | .finished d => some d
  | _ => none

end FaasOperator.Json

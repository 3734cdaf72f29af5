/-
# `FaasOperator.Yaml.Shape` — shapes of YAML values

Which values a reader takes, and how it tells what it does not take.  Nothing at all stands for an
empty collection, and tags are passed over.  The first mismatch counts, in the order of the text;
what is missing counts last.
-/
import FaasOperator.Yaml.Value

namespace FaasOperator.Yaml

/-- What is made of a field that is missing or null. -/
inductive Presence where
  /-- Either will do. -/
  | optional
  /-- It may be missing. -/
  | omissible
  /-- Neither will do. -/
  | required
deriving DecidableEq, Repr

/-- A field by name. -/
structure Label where
  name : String
  presence : Presence
deriving DecidableEq, Repr

inductive Shape where
  | any
  | text
  | flag
  /-- One of a few names. -/
  | choice (names : List String)
  | list (item : Shape)
  | map (value : Shape)
  /-- A record under the name of its kind; further fields may be there. -/
  | record (kind : String) (fields : List (Label × Shape))

namespace Shape

/-- What is expected, as messages tell it. -/
def description : Shape → String
  | .any => "any value"
  | .text => "a string"
  | .flag => "a boolean"
  | .choice _ => "a Value::Tagged enum"
  | .list _ => "a sequence"
  | .map _ => "a map"
  | .record kind _ => "struct " ++ kind

/-- Fields of one shape that may be missing or null. -/
def optional (shape : Shape) (names : List String) : List (Label × Shape) :=
  names.map fun name => (⟨name, .optional⟩, shape)

/-- A field that may be missing. -/
def omissible (shape : Shape) (name : String) : Label × Shape := (⟨name, .omissible⟩, shape)

/-- A field that has to be there. -/
def required (shape : Shape) (name : String) : Label × Shape := (⟨name, .required⟩, shape)

end Shape

/-- Why a value has not a shape. -/
inductive Mismatch where
  | unlike (found : Value) (expected : String)
  | missingField (name : String)
  | repeatedField (name : String)
  | unknownName (name : String) (names : List String)

def Mismatch.message : Mismatch → String
  | .unlike found expected =>
      "invalid type: " ++ found.description ++ ", expected " ++ expected
  | .missingField name => "missing field `" ++ name ++ "`"
  | .repeatedField name => "duplicate field `" ++ name ++ "`"
  | .unknownName name names =>
      "unknown variant `" ++ name ++ "`, expected one of " ++
        ", ".intercalate (names.map fun n => "`" ++ n ++ "`")

namespace Shape

/-- A name is one of a few. -/
def checkName (names : List String) (name : String) : Except Mismatch Unit :=
  if names.contains name then .ok () else .error (.unknownName name names)

/-- No field is missing that has to be there. -/
def checkPresence (fields : List (Label × Shape)) (seen : List String) : Except Mismatch Unit :=
  match fields.find? fun (l, _) => l.presence == .required && !seen.contains l.name with
  | some (l, _) => .error (.missingField l.name)
  | none => .ok ()

mutual

/-- The value has the shape. -/
def check (shape : Shape) : Value → Except Mismatch Unit
  | .tagged tag v =>
      match shape with
      | .any => .ok ()
      | .choice names => checkName names tag
      | shape => check shape v
  | .sequence items =>
      match shape with
      | .any => .ok ()
      | .list item => checkItems item items
      | shape => .error (.unlike (.sequence items) shape.description)
  | .mapping entries =>
      match shape with
      | .any => .ok ()
      | .map value => checkEntries value entries
      | .record _ fields => checkFields fields [] entries
      | shape => .error (.unlike (.mapping entries) shape.description)
  | .null =>
      match shape with
      | .any | .list _ | .map _ => .ok ()
      | .record _ fields => checkPresence fields []
      | shape => .error (.unlike .null shape.description)
  | .text s =>
      match shape with
      | .any | .text => .ok ()
      | .choice names => checkName names s
      | shape => .error (.unlike (.text s) shape.description)
  | .bool b =>
      match shape with
      | .any | .flag => .ok ()
      | shape => .error (.unlike (.bool b) shape.description)
  | .integer i =>
      match shape with
      | .any => .ok ()
      | shape => .error (.unlike (.integer i) shape.description)
  | .double d =>
      match shape with
      | .any => .ok ()
      | shape => .error (.unlike (.double d) shape.description)

def checkItems (item : Shape) : List Value → Except Mismatch Unit
  | [] => .ok ()
  | v :: vs =>
      match check item v with
      | .error m => .error m
      | .ok () => checkItems item vs

/-- All keys are texts, and all values have the shape. -/
def checkEntries (value : Shape) : List (Value × Value) → Except Mismatch Unit
  | [] => .ok ()
  | (k, v) :: rest =>
      match k.untagged with
      | .text _ =>
          match check value v with
          | .error m => .error m
          | .ok () => checkEntries value rest
      | other => .error (.unlike other Shape.text.description)

/-- The fields have their shapes, and none is missing.  Further fields do not matter. -/
def checkFields (fields : List (Label × Shape)) (seen : List String) :
    List (Value × Value) → Except Mismatch Unit
  | [] => checkPresence fields seen
  | (k, v) :: rest =>
      match k.untagged with
      | .text name =>
          match fields.find? fun (l, _) => l.name == name with
          | none => checkFields fields seen rest
          | some (l, shape) =>
              if seen.contains name then .error (.repeatedField name)
              else if l.presence == .optional && v == .null then
                checkFields fields (name :: seen) rest
              else
                match check shape v with
                | .error m => .error m
                | .ok () => checkFields fields (name :: seen) rest
      | other => .error (.unlike other "field identifier")

end

end Shape

namespace Value

/-- A field of a record; null is as good as none. -/
def field? (name : String) (v : Value) : Option Value :=
  match v.untagged with
  | .mapping entries =>
      (entries.find? fun (k, _) => k.untagged == .text name).bind fun (_, v) =>
        if v == .null then none else some v
  | _ => none

def text? (v : Value) : Option String :=
  match v.untagged with
  | .text s => some s
  | _ => none

/-- The items of a list; other values have none. -/
def items (v : Value) : List Value :=
  match v.untagged with
  | .sequence vs => vs
  | _ => []

end Value

end FaasOperator.Yaml

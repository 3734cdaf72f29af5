/-
# `FaasOperator.Yaml.Value` — values of a YAML text

A scalar without quotes stands for nothing, a truth value, a number or a text, by the way it is
written or by what its tag asks for; one in quotes is a text.
-/
import FaasOperator.Text
import FaasOperator.Text.Quoted
import FaasOperator.Yaml.Double
import FaasOperator.Yaml.Token

namespace FaasOperator.Yaml

inductive Value where
  | null
  | bool (b : Bool)
  | integer (i : Int)
  | double (d : Double)
  | text (s : String)
  | sequence (items : List Value)
  | mapping (entries : List (Value × Value))
  | tagged (tag : String) (value : Value)
deriving BEq, Inhabited, Repr

namespace Value

/-- The value without its tags. -/
def untagged : Value → Value
  | .tagged _ v => v.untagged
  | v => v

def description : Value → String
  | .null => "unit value"
  | .bool b => "boolean `" ++ toString b ++ "`"
  | .integer i => "integer `" ++ toString i ++ "`"
  | .double d => "floating point `" ++ d.text ++ "`"
  | .text s => "string " ++ Text.quoted s
  | .sequence _ => "sequence"
  | .mapping _ => "map"
  | .tagged _ _ => "enum"

/-- How the value is told where it is a key that comes twice. -/
def keyDescription : Value → String
  | .null => "with null key"
  | .bool b => "with key `" ++ toString b ++ "`"
  | .integer i => "with key " ++ toString i
  | .double d => "with key " ++ d.text
  | .text s => "with key " ++ Text.quoted s
  | .sequence _ | .mapping _ | .tagged _ _ => "in YAML map"

end Value

/-! ## What scalars stand for -/

/-- The kinds of scalars that a tag can ask for. -/
inductive ScalarKind where
  | null
  | bool
  | integer
  | double
deriving DecidableEq, Repr

namespace ScalarKind

/-- The kind that a tag asks for. -/
def ofTag? : String → Option ScalarKind
  | "tag:yaml.org,2002:null" => some .null
  | "tag:yaml.org,2002:bool" => some .bool
  | "tag:yaml.org,2002:int" => some .integer
  | "tag:yaml.org,2002:float" => some .double
  | _ => none

def description : ScalarKind → String
  | .null => "null"
  | .bool => "a boolean"
  | .integer => "an integer"
  | .double => "a float"

end ScalarKind

/-- Why a value cannot be. -/
inductive Misfit where
  | repeatedKey (key : Value)
  | emptyTag
  /-- The integer has more than 64 bits. -/
  | longInteger (i : Int)
  /-- The tag asks for another kind of scalar. -/
  | unlikeTag (text : String) (kind : ScalarKind)

def Misfit.message : Misfit → String
  | .repeatedKey key => "duplicate entry " ++ key.keyDescription
  | .emptyTag => "empty YAML tag is not allowed"
  | .longInteger i =>
      "invalid type: integer `" ++ toString i ++ "` as " ++ (if i < 0 then "i128" else "u128") ++
        ", expected any YAML value"
  | .unlikeTag text kind =>
      "invalid value: string " ++ Text.quoted text ++ ", expected " ++ kind.description

namespace Scalar

def isNull (s : String) : Bool := ["null", "Null", "NULL", "~"].contains s

def bool? (s : String) : Option Bool :=
  if ["true", "True", "TRUE"].contains s then some true
  else if ["false", "False", "FALSE"].contains s then some false
  else none

/-- The value of a digit in a base of at most sixteen. -/
def digit? (base : Nat) (c : Char) : Option Nat :=
  if isHexDigit c && hexValue [c] < base then some (hexValue [c]) else none

/-- The number that digits of a base write. -/
def magnitude? (base : Nat) (cs : List Char) : Option Nat :=
  if cs.isEmpty then none
  else (cs.mapM (digit? base)).map (·.foldl (fun n d => n * base + d) 0)

/-- Digits that begin with a zero for no reason; these are no number. -/
def isPadded : List Char → Bool
  | '0' :: d :: ds => (d :: ds).all Char.isDigit
  | _ => false

/-- The number that is written behind the sign: hexadecimal, octal or binary behind a mark, or else
decimal. -/
def unsigned? : List Char → Option Nat
  | '0' :: 'x' :: cs => magnitude? 16 cs
  | '0' :: 'o' :: cs => magnitude? 8 cs
  | '0' :: 'b' :: cs => magnitude? 2 cs
  | cs => if isPadded cs then none else magnitude? 10 cs

def integer? (s : String) : Option Int :=
  match s.toList with
  | '-' :: cs => (unsigned? cs).map fun n => -(n : Int)
  | '+' :: cs => (unsigned? cs).map fun n => (n : Int)
  | cs => (unsigned? cs).map fun n => (n : Int)

/-- Where 128 bits end. -/
def integerLimit : Nat := UInt64.size * UInt64.size

/-- The integer that is written, if it is one of 64 bits; one of 128 bits is too long, and a longer
one is no integer. -/
def value? (s : String) : Except Misfit (Option Value) :=
  match integer? s with
  | none => .ok none
  | some i =>
      if -((UInt64.size / 2 : Nat) : Int) ≤ i ∧ i < UInt64.size then .ok (some (.integer i))
      else if -((integerLimit / 2 : Nat) : Int) ≤ i ∧ i < integerLimit then .error (.longInteger i)
      else .ok none

/-- What a scalar without quotes and without a tag stands for. -/
def plain (s : String) : Except Misfit Value :=
  if s.isEmpty || isNull s then .ok .null
  else
    match bool? s with
    | some b => .ok (.bool b)
    | none =>
        match value? s with
        | .error m => .error m
        | .ok (some v) => .ok v
        | .ok none =>
            match Double.parse? s with
            | some d =>
                .ok (if isPadded (Text.dropSign s.toList) then .text s else .double d)
            | none => .ok (.text s)

/-- What a scalar stands for whose tag asks for a kind. -/
def ofKind (kind : ScalarKind) (s : String) : Except Misfit Value :=
  let found : Except Misfit (Option Value) :=
    match kind with
    | .null => .ok (if isNull s then some .null else none)
    | .bool => .ok ((bool? s).map .bool)
    | .integer => value? s
    | .double => .ok ((Double.parse? s).map .double)
  match found with
  | .error m => .error m
  | .ok (some v) => .ok v
  | .ok none => .error (.unlikeTag s kind)

/-- A tag that says what a value is, without its exclamation mark. -/
def nameOfTag? (tag : Option String) : Option String :=
  match tag.map String.toList with
  | some ('!' :: cs) => some (String.ofList cs)
  | _ => none

/-- What a scalar stands for, by its tag and the way it is written. -/
def resolve (tag : Option String) (s : String) (style : Style) : Except Misfit Value :=
  let untagged : Except Misfit Value :=
    match style with
    | .plain => plain s
    | .quoted => .ok (.text s)
  match tag, nameOfTag? tag with
  | none, _ => untagged
  | some _, some "" => .error .emptyTag
  | some _, some name => untagged.map (.tagged name)
  | some tag, none =>
      match ScalarKind.ofTag? tag with
      | some kind => ofKind kind s
      | none => .ok (.text s)

end Scalar

end FaasOperator.Yaml

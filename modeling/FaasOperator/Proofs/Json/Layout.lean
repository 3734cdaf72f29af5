/-
# `FaasOperator.Proofs.Json.Layout` — JSON texts in every layout

They are told by what they are made of and not by how they are read: white space may stand around
every value and every key, a character of a string may stand for itself or as any of its escapes,
and the members of a record come in whatever order the text puts them.

`ValueText` holds of the texts of all values.  A `Texts α` says which texts give a value of the type
`α`; those of a record are `RecordText`, where each field stands at most once, in any place, some
are left out, and members with other names stand between them.
-/
import Mathlib.Data.List.Forall2
import FaasOperator.Json
import FaasOperator.StringMap

namespace FaasOperator

/-! ## Strings -/

namespace Json

def WhiteSpace (cs : List Char) : Prop := ∀ c ∈ cs, c = ' ' ∨ c = '\n' ∨ c = '\t' ∨ c = '\r'

instance (cs : List Char) : Decidable (WhiteSpace cs) :=
  List.decidableBAll (fun c => c = ' ' ∨ c = '\n' ∨ c = '\t' ∨ c = '\r') cs

theorem whiteSpace_nil : WhiteSpace [] := by decide

theorem whiteSpace_space : WhiteSpace [' '] := by decide

theorem whiteSpace_newline : WhiteSpace ['\n'] := by decide

def quoted (body : List Char) : List Char := '"' :: (body ++ ['"'])

/-- The letters that make an escape behind a backslash, each with the character it stands for. -/
def shortEscapes : List (Char × Char) := [
  ('"', '"'), ('\\', '\\'), ('/', '/'), ('b', '\x08'), ('f', '\x0c'), ('n', '\n'), ('r', '\r'),
  ('t', '\t')]

/-- A hexadecimal digit of this value, in either case. -/
def HexDigit (d : Nat) (c : Char) : Prop := d < 16 ∧ (c = hexDigit d ∨ c = (hexDigit d).toUpper)

/-- The escape of a code unit of 16 bits. -/
inductive UnitEscape : Nat → List Char → Prop
  | digits {i j k l : Nat} {a b c d : Char} :
      HexDigit i a → HexDigit j b → HexDigit k c → HexDigit l d →
      UnitEscape (((i * 16 + j) * 16 + k) * 16 + l) ['\\', 'u', a, b, c, d]

/-- A character within a string: as it is, or escaped.  One that does not fit into a code unit is
escaped as two of them. -/
inductive CharText : Char → List Char → Prop
  | plain {c : Char} : c ≠ '"' → c ≠ '\\' → ¬c.toNat < 0x20 → CharText c [c]
  | short {e c : Char} : (e, c) ∈ shortEscapes → CharText c ['\\', e]
  | unit {c : Char} {text : List Char} : UnitEscape c.toNat text → CharText c text
  | pair {c : Char} {leading trailing : Nat} {first second : List Char} :
      UnitEscape leading first → 0xd800 ≤ leading ∧ leading ≤ 0xdbff →
      UnitEscape trailing second → 0xdc00 ≤ trailing ∧ trailing ≤ 0xdfff →
      c.toNat = (leading - 0xd800) * 0x400 + (trailing - 0xdc00) + 0x10000 →
      CharText c (first ++ second)

/-- A string without regard to its characters.  Half a surrogate pair stands for none, and is
correct all the same. -/
inductive AnyString : List Char → Prop
  | parts {parts : List (List Char)} :
      (∀ text ∈ parts, (∃ c, CharText c text) ∨ ∃ n, UnitEscape n text) →
      AnyString (quoted parts.flatten)

end Json

/-! ## Numbers -/

namespace Numeral

def Digits (ds : List Char) : Prop := ds ≠ [] ∧ ∀ c ∈ ds, c.isDigit = true

/-- A single zero, or digits that start with another digit. -/
def IsWhole (ds : List Char) : Prop :=
  ds = ['0'] ∨ ∃ d rest, ds = d :: rest ∧ d ≠ '0' ∧ ∀ c ∈ ds, c.isDigit = true

/-- Digits, which may have a sign. -/
inductive IsExponent : List Char → Prop
  | unsigned {ds : List Char} : Digits ds → IsExponent ds
  | signed {sign : Char} {ds : List Char} :
      sign = '+' ∨ sign = '-' → Digits ds → IsExponent (sign :: ds)

/-- The digits are where they have to be. -/
structure WellFormed (n : Numeral) : Prop where
  whole : IsWhole n.whole
  fraction : ∀ ds, n.fraction = some ds → Digits ds
  exponent : ∀ ds, n.exponent = some ds → IsExponent ds

/-- The numeral's text, with this letter in front of the exponent. -/
def spell (mark : Char) (n : Numeral) : List Char :=
  (if n.negative then ['-'] else []) ++ n.whole ++ n.fraction.elim [] ('.' :: ·) ++
    n.exponent.elim [] (mark :: ·)

end Numeral

/-! ## Values -/

namespace Json

/-- A part of a text with the white space around it. -/
structure Padded where
  before : List Char
  core : List Char
  after : List Char
  blank_before : WhiteSpace before
  blank_after : WhiteSpace after

def Padded.text (p : Padded) : List Char := p.before ++ p.core ++ p.after

def Padded.bare (cs : List Char) : Padded :=
  ⟨[], cs, [], whiteSpace_nil, whiteSpace_nil⟩

def listText (ws : List Char) (items : List Padded) : List Char :=
  '[' :: (ws ++ ([','].intercalate (items.map Padded.text) ++ [']']))

def memberText (m : Padded × Padded) : List Char := m.1.text ++ ':' :: m.2.text

def recordText (ws : List Char) (members : List (Padded × Padded)) : List Char :=
  '{' :: (ws ++ ([','].intercalate (members.map memberText) ++ ['}']))

/-- What is written where nothing is. -/
def nullText : List Char := ['n', 'u', 'l', 'l']

def boolText : Bool → List Char
  | true => ['t', 'r', 'u', 'e']
  | false => ['f', 'a', 'l', 's', 'e']

/-- A value of any kind, with no white space around it. -/
inductive ValueText : List Char → Prop
  | null : ValueText nullText
  | bool (b : Bool) : ValueText (boolText b)
  | number {n : Numeral} {mark : Char} :
      n.WellFormed → mark = 'e' ∨ mark = 'E' → ValueText (n.spell mark)
  | string {text : List Char} : AnyString text → ValueText text
  | list {ws : List Char} {items : List Padded} :
      WhiteSpace ws → (∀ p ∈ items, ValueText p.core) → ValueText (listText ws items)
  | record {ws : List Char} {members : List (Padded × Padded)} :
      WhiteSpace ws → (∀ m ∈ members, AnyString m.1.core) →
      (∀ m ∈ members, ValueText m.2.core) → ValueText (recordText ws members)

/-! ## Values of a type -/

/-- Which texts give which values of a type. -/
abbrev Texts (α : Type) := α → List Char → Prop

variable {α : Type}

def StringText : Texts String := fun s cs =>
  ∃ parts, List.Forall₂ CharText s.toList parts ∧ cs = quoted parts.flatten

/-- A truth value. -/
def BoolText : Texts Bool := fun b cs => cs = boolText b

/-- A 32-bit integer.  It has one text only, without superfluous zeros and a point. -/
def Int32Text : Texts Int32 := fun i cs => cs = (Numeral.ofInt i.toInt).spell 'e'

/-- A value that may be absent. -/
def NullableText (value : Texts α) : Texts (Option α)
  | none, cs => cs = nullText
  | some a, cs => value a cs

def ListText (item : Texts α) : Texts (List α) := fun as cs =>
  ∃ ws items, WhiteSpace ws ∧ List.Forall₂ (fun a (p : Padded) => item a p.core) as items ∧
    cs = listText ws items

/-- A map, with its entries in any order. -/
def MapText (value : Texts α) : Texts (StringMap α) := fun m cs =>
  ∃ ws es members, WhiteSpace ws ∧ es.Perm m.entries ∧
    List.Forall₂ (fun (e : String × α) (p : Padded × Padded) =>
      StringText e.1 p.1.core ∧ value e.2 p.2.core) es members ∧
    cs = recordText ws members

/-! ## Records -/

/-- A field of a record that is given: its name, the texts of its value, and whether the record has
this value also without the field. -/
structure FieldText where
  name : String
  text : List Char → Prop
  omissible : Prop

/-- A field that may be left out when it has this value. -/
def FieldText.withDefault (name : String) (texts : Texts α) (value default : α) : FieldText :=
  ⟨name, texts value, value = default⟩

/-- A field that may be null or left out when it is absent. -/
def FieldText.optional (name : String) (texts : Texts α) (value : Option α) : FieldText :=
  .withDefault name (NullableText texts) value none

/-- A member of this name in a record with these fields: one of the fields, or any value under
another name. -/
inductive MemberText (fields : List FieldText) : String → Padded × Padded → Prop
  | field {f : FieldText} {m : Padded × Padded} :
      f ∈ fields → StringText f.name m.1.core → f.text m.2.core → MemberText fields f.name m
  | unknown {name : String} {m : Padded × Padded} :
      name ∉ fields.map (·.name) → StringText name m.1.core → ValueText m.2.core →
      MemberText fields name m

/-- A record that gives these fields: each once, unless it may be left out. -/
inductive RecordText (fields : List FieldText) : List Char → Prop
  | members {ws : List Char} {names : List String} {members : List (Padded × Padded)} :
      WhiteSpace ws → List.Forall₂ (MemberText fields) names members →
      (∀ f ∈ fields, names.count f.name ≤ 1) →
      (∀ f ∈ fields, f.name ∈ names ∨ f.omissible) →
      RecordText fields (recordText ws members)

end Json

end FaasOperator

/-
# `FaasOperator.Yaml.Directive` — directives

What stands in front of a document: the version of YAML, and what the handles of tags are short for.
-/
import FaasOperator.Yaml.Tag

namespace FaasOperator.Yaml.Directive

/-- The most digits that a number of a version has. -/
def mostDigits : Nat := 9

def scanNumber (s : Tag.Setting) (c : Cursor) : Except Flaw (Nat × Cursor) :=
  let (digits, next) := c.takeWhile Char.isDigit
  if digits.isEmpty then s.fail .missingVersion c
  else if mostDigits < digits.length then s.fail .longVersion (c.skip mostDigits)
  else .ok (Nat.ofDigitChars 10 digits 0, next)

/-- Reads a version: two numbers with a point between them. -/
def scanVersion (start : Mark) (c : Cursor) : Except Flaw (Token.Kind × Cursor) :=
  let s : Tag.Setting := ⟨.versionDirective, start⟩
  match scanNumber s (c.skipWhile isBlank) with
  | .error f => .error f
  | .ok (major, c) =>
      if c.sees (· == '.') then
        (scanNumber s (c.skip 1)).map fun (minor, c) => (.versionDirective major minor, c)
      else s.fail .missingVersionPoint c

/-- A handle that can be given a meaning: the lone exclamation mark is one. -/
def isHandle (handle : String) : Bool := handle == "!" || Tag.isHandle handle

/-- Reads a handle and what it is short for. -/
def scanTag (start : Mark) (c : Cursor) : Except Flaw (Token.Kind × Cursor) :=
  let s : Tag.Setting := ⟨.tagDirective, start⟩
  match Tag.scanHandle ⟨.tagHandleDirective, start⟩ (c.skipWhile isBlank) with
  | .error f => .error f
  | .ok (handle, c₁) =>
      if !isHandle handle then Tag.Setting.fail ⟨.tagHandleBody, start⟩ .missingTagMark c₁
      else if !c₁.sees isBlank then s.fail .missingBlank c₁
      else
        match Tag.scanText ⟨.tagDirectiveBody, start⟩ true (c₁.skipWhile isBlank) with
        | .error f => .error f
        | .ok (expansion, c₂) =>
            if c₂.wordEnds 0 then .ok (.tagDirective handle expansion, c₂)
            else s.fail .missingBlankOrBreak c₂

def scanValue (name : String) (start : Mark) (c : Cursor) : Except Flaw (Token.Kind × Cursor) :=
  match name with
  | "YAML" => scanVersion start c
  | "TAG" => scanTag start c
  | _ => Tag.Setting.fail ⟨.directive, start⟩ .unknownDirective c

/-- Reads a directive with the rest of its line.  Gives it, where it ends and where the next line
begins. -/
def scan (c : Cursor) : Except Flaw (Token.Kind × Mark × Cursor) :=
  let s : Tag.Setting := ⟨.directive, c.mark⟩
  let (name, c₁) := (c.skip 1).takeWhile isNameChar
  if name.isEmpty then s.fail .missingDirectiveName c₁
  else if !c₁.wordEnds 0 then s.fail .oddDirectiveName c₁
  else
    match scanValue (String.ofList name) c.mark c₁ with
    | .error f => .error f
    | .ok (kind, c₂) =>
        let c₃ := (c₂.skipWhile isBlank).skipComment
        if c₃.rest.isEmpty || c₃.sees isBreak then .ok (kind, c₂.mark, c₃.skipBreak?)
        else s.fail .missingLineEnd c₃

end FaasOperator.Yaml.Directive

/-
# `FaasOperator.CommandLine.SocketAddress` — addresses to listen on

An IP address and a port with a colon between them.  An address of version 4 is four numbers without
leading zeros; one of version 6 stands in brackets, has eight groups or two colons in place of the
missing ones, may end in an address of version 4, and may name a zone.
-/
import FaasOperator.Text

namespace FaasOperator

structure SocketAddress where
  host : String
  port : UInt16
deriving DecidableEq, Repr

namespace SocketAddress

/-- Every address of the host, port 8080. -/
def default : SocketAddress := ⟨"0.0.0.0", 8080⟩

/-- The number that digits write, if it is no larger than `most`. -/
def numberUpTo? (most : Nat) (cs : List Char) : Option Nat :=
  (Text.digits? cs).filter (· ≤ most)

def port? (cs : List Char) : Option UInt16 := (numberUpTo? (UInt16.size - 1) cs).map .ofNat

/-- A part of an address of version 4: up to 255, without leading zeros. -/
def isOctet (cs : List Char) : Bool :=
  (numberUpTo? 255 cs).isSome && (cs.length == 1 || cs.head? != some '0')

/-- An address of version 4: four parts between points. -/
def isIPv4 (cs : List Char) : Bool :=
  let octets := Text.pieces '.' cs
  octets.length == 4 && octets.all isOctet

def isHexDigit (c : Char) : Bool :=
  c.isDigit || ('a' ≤ c && c ≤ 'f') || ('A' ≤ c && c ≤ 'F')

/-- A group of an address of version 6: one to four hexadecimal digits. -/
def isGroup (cs : List Char) : Bool :=
  !cs.isEmpty && cs.length ≤ 4 && cs.all isHexDigit

/-- How many groups a run of pieces makes up, if it is one.  An address of version 4 counts as two,
and may only come last, where it is allowed. -/
def groupCount? (endsInIPv4 : Bool) : List (List Char) → Option Nat
  | [] => some 0
  | [p] => if isGroup p then some 1 else if endsInIPv4 && isIPv4 p then some 2 else none
  | p :: ps => if isGroup p then (groupCount? endsInIPv4 ps).map (· + 1) else none

/-- How many groups a text between colons makes up; no text makes up none. -/
def width? (endsInIPv4 : Bool) (cs : List Char) : Option Nat :=
  if cs.isEmpty then some 0 else groupCount? endsInIPv4 (Text.pieces ':' cs)

/-- The parts before and after the first two colons in a row. -/
def cutDoubleColon? : List Char → Option (List Char × List Char)
  | ':' :: ':' :: cs => some ([], cs)
  | c :: cs => (cutDoubleColon? cs).map fun (before, after) => (c :: before, after)
  | [] => none

/-- An address of version 6: eight groups, or fewer with two colons in place of the missing ones. -/
def isIPv6 (cs : List Char) : Bool :=
  match cutDoubleColon? cs with
  | none => width? true cs == some 8
  | some (before, after) =>
      match width? false before, width? true after with
      | some m, some n => m + n ≤ 7
      | _, _ => false

/-- An address of version 6 that may be followed by a percent sign and the number of a zone. -/
def isZonedIPv6 (cs : List Char) : Bool :=
  match Text.cut? '%' cs with
  | none => isIPv6 cs
  | some (address, zone) => isIPv6 address && (numberUpTo? (UInt32.size - 1) zone).isSome

/-- Reads an address and a port with a colon between them. -/
def parse? (s : String) : Option SocketAddress :=
  match s.toList with
  | '[' :: cs =>
      match Text.cut? ']' cs with
      | some (host, ':' :: port) =>
          if isZonedIPv6 host then (port? port).map (⟨String.ofList host, ·⟩) else none
      | _ => none
  | cs =>
      match Text.cut? ':' cs with
      | some (host, port) =>
          if isIPv4 host then (port? port).map (⟨String.ofList host, ·⟩) else none
      | none => none

end SocketAddress

end FaasOperator

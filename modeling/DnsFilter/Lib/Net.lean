import Mathlib.Algebra.Group.Nat.Defs
import DnsFilter.Lib.Text

/-!
# Network addresses

IPv4, IPv6 and socket addresses with the textual grammar of a systems language's standard
library. A reader consumes a prefix of its input or fails; parsing a whole string runs a reader
and requires that nothing is left over.

The readers keep the library's order of attempts: an embedded IPv4 tail is tried before a hex
group, IPv4 before IPv6, and a run of digits is always read to its end before its length is
checked.
-/

namespace DnsFilter.Net

/-! ## Addresses -/

/-- An IPv4 address, by octets. -/
structure Ipv4Addr where
  a : UInt8
  b : UInt8
  c : UInt8
  d : UInt8
  deriving DecidableEq, Repr

/-- An IPv6 address: eight 16-bit segments. -/
structure Ipv6Addr where
  segments : List UInt16
  length_segments : segments.length = 8
  deriving DecidableEq, Repr

/-- The address with the given segments, padded or cut to eight. -/
def Ipv6Addr.ofSegments (l : List UInt16) : Ipv6Addr where
  segments := (l ++ List.replicate 8 0).take 8
  length_segments := by simp

inductive IpAddr
  | v4 (addr : Ipv4Addr)
  | v6 (addr : Ipv6Addr)
  deriving DecidableEq, Repr

/-- An address with a port; `scopeId` is zero except for IPv6 addresses that name one. -/
structure SocketAddr where
  ip : IpAddr
  port : UInt16
  scopeId : UInt32 := 0
  deriving DecidableEq, Repr

/-! ## Readers -/

/-- A reader returns what it read and the rest of the input, or fails. -/
abbrev Reader (α : Type) := List Char → Option (α × List Char)

def readGivenChar (c : Char) : Reader Unit
  | [] => none
  | x :: rest => if x = c then some ((), rest) else none

/-- The value of a digit in the given radix (at most 36). -/
def toDigit (radix : Nat) (c : Char) : Option Nat :=
  (if c.isDigit then some (c.toNat - 48)
    else if c.isLower then some (c.toNat - 87)
    else if c.isUpper then some (c.toNat - 55)
    else none).filter (· < radix)

/-- The longest run of digits at the head of the input. -/
def readDigits (radix : Nat) : List Char → List Nat × List Char
  | [] => ([], [])
  | c :: rest =>
      match toDigit radix c with
      | some d => let (ds, rest') := readDigits radix rest; (d :: ds, rest')
      | none => ([], c :: rest)

/-- A number below `bound`, of at most `maxDigits` digits if that is given, and without a
leading zero unless that is allowed. -/
def readNumber (radix : Nat) (maxDigits : Option Nat) (allowZeroPrefix : Bool) (bound : Nat) :
    Reader Nat := fun l =>
  let (ds, rest) := readDigits radix l
  let value := ds.foldl (fun acc d => acc * radix + d) 0
  if ds = [] ∨ maxDigits.any (· < ds.length) ∨ bound ≤ value ∨
      (allowZeroPrefix = false ∧ l.head? = some '0' ∧ 1 < ds.length) then none
  else some (value, rest)

/-- Read with `inner`, after the separator `sep` unless this is the first item. -/
def readSeparator {α : Type} (sep : Char) (index : Nat) (inner : Reader α) : Reader α := fun l =>
  if index = 0 then inner l
  else do
    let (_, rest) ← readGivenChar sep l
    inner rest

def readIpv4Addr : Reader Ipv4Addr := fun l => do
  let octet (i : Nat) : Reader Nat := readSeparator '.' i (readNumber 10 (some 3) false 256)
  let (a, l) ← octet 0 l
  let (b, l) ← octet 1 l
  let (c, l) ← octet 2 l
  let (d, l) ← octet 3 l
  return (⟨.ofNat a, .ofNat b, .ofNat c, .ofNat d⟩, l)

/-- Up to `limit` hex groups, ending early at an embedded IPv4 address (which takes two groups
and is reported) or at the first thing that is no group. -/
def readGroups (limit : Nat) : Nat → Nat → List Char → List UInt16 × Bool × List Char
  | 0, _, l => ([], false, l)
  | fuel + 1, i, l =>
      match (if i + 1 < limit then readSeparator ':' i readIpv4Addr l else none) with
      | some (v4, rest) =>
          ([.ofNat (v4.a.toNat * 256 + v4.b.toNat), .ofNat (v4.c.toNat * 256 + v4.d.toNat)],
            true, rest)
      | none =>
          match readSeparator ':' i (readNumber 16 (some 4) true 65536) l with
          | some (g, rest) =>
              let (gs, v4, rest') := readGroups limit fuel (i + 1) rest
              (.ofNat g :: gs, v4, rest')
          | none => ([], false, l)

def readIpv6Addr : Reader Ipv6Addr := fun l =>
  let (head, headIpv4, l) := readGroups 8 8 0 l
  if head.length = 8 then some (.ofSegments head, l)
  else if headIpv4 then none
  else do
    let (_, l) ← readGivenChar ':' l
    let (_, l) ← readGivenChar ':' l
    let limit := 8 - (head.length + 1)
    let (tail, _, l) := readGroups limit limit 0 l
    return (.ofSegments (head ++ List.replicate (8 - head.length - tail.length) 0 ++ tail), l)

def readIpAddr : Reader IpAddr := fun l =>
  match readIpv4Addr l with
  | some (a, rest) => some (.v4 a, rest)
  | none => (readIpv6Addr l).map fun p => (.v6 p.1, p.2)

def readPort : Reader Nat := fun l => do
  let (_, l) ← readGivenChar ':' l
  readNumber 10 none true 65536 l

def readScopeId : Reader Nat := fun l => do
  let (_, l) ← readGivenChar '%' l
  readNumber 10 none true (2 ^ 32) l

def readSocketAddrV4 : Reader SocketAddr := fun l => do
  let (ip, l) ← readIpv4Addr l
  let (port, l) ← readPort l
  return ({ ip := .v4 ip, port := .ofNat port }, l)

def readSocketAddrV6 : Reader SocketAddr := fun l => do
  let (_, l) ← readGivenChar '[' l
  let (ip, l) ← readIpv6Addr l
  let (scopeId, l) := (readScopeId l).getD (0, l)
  let (_, l) ← readGivenChar ']' l
  let (port, l) ← readPort l
  return ({ ip := .v6 ip, port := .ofNat port, scopeId := .ofNat scopeId }, l)

def readSocketAddr : Reader SocketAddr := fun l => readSocketAddrV4 l <|> readSocketAddrV6 l

/-! ## Whole strings -/

/-- Run a reader on a whole string. -/
def parseWith {α : Type} (reader : Reader α) (s : String) : Option α :=
  match reader s.toList with
  | some (a, []) => some a
  | _ => none

attribute [irreducible] parseWith

def parseIpv4Addr : String → Option Ipv4Addr := parseWith readIpv4Addr
def parseIpv6Addr : String → Option Ipv6Addr := parseWith readIpv6Addr
def parseIpAddr : String → Option IpAddr := parseWith readIpAddr
def parseSocketAddr : String → Option SocketAddr := parseWith readSocketAddr

example : parseIpv4Addr "192.168.0.1" = some ⟨192, 168, 0, 1⟩ := by decide +kernel
example : parseIpv4Addr "1.2.3.04" = none := by decide +kernel
example : parseSocketAddr "[2a07:e340::2]:53" =
    some ⟨.v6 (.ofSegments [0x2a07, 0xe340, 0, 0, 0, 0, 0, 2]), 53, 0⟩ := by decide +kernel

end DnsFilter.Net

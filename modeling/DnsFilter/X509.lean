import DnsFilter.Lib.Machine
import DnsFilter.Lib.Numeral
import DnsFilter.Lib.Utf8

/-!
# The expiry time of a certificate

`parse_x509_not_after` (`frameworks/acme/mod.rs`) walks through the DER encoding of a certificate,
from length to length, until it stands at the end of the validity period, and reads the time there.
Nothing is checked on the way but the tags of the sequences. Positions, lengths and the date
arithmetic are machine integers; an operation that leaves its type's range stops the computation.

A point in time is the number of seconds after `UNIX_EPOCH`.
-/

namespace DnsFilter.X509

open Machine Utf8 Numeral

/-- A slice of bytes; no slice is longer than the largest signed number. -/
structure Slice where
  bytes : List UInt8
  length_lt : bytes.length < 0x8000000000000000

namespace Slice

/-- `get` with a position. -/
def get (der : Slice) (pos : Nat) : Checked UInt8 := ofOption der.bytes[pos]?

/-- `get` with a range. -/
def getRange (der : Slice) (start stop : Nat) : Checked (List UInt8) :=
  if start ≤ stop ∧ stop ≤ der.bytes.length then .ok ((der.bytes.drop start).take (stop - start))
  else .error .absent

end Slice

/-! ## Tags and lengths -/

/-- The loop of `parse_asn1_length`: the length so far and the position. Shifting loses the bits
above the 64th. -/
def readLengthBytes (der : Slice) : Nat → Nat → Nat → Checked (Nat × Nat)
  | 0, len, pos => .ok (len, pos)
  | n + 1, len, pos => do
      let shifted := len * 256 % 0x10000000000000000
      let byte ← der.get pos
      let sum := shifted + byte.toNat
      let len ← (if sum < 0x10000000000000000 then .ok sum else .error .absent)
      let pos ← u64 (pos + 1 : Nat)
      readLengthBytes der n len pos

/-- `parse_asn1_length`: the length and the position behind it. -/
def parseAsn1Length (der : Slice) (pos : Nat) : Checked (Nat × Nat) := do
  let first ← der.get pos
  let pos ← u64 (pos + 1 : Nat)
  if first.toNat < 0x80 then .ok (first.toNat, pos)
  else
    let numBytes := (first &&& 0x7F).toNat
    if 4 < numBytes then .error .absent
    else readLengthBytes der numBytes 0 pos

/-- `skip_tlv`. -/
def skipTlv (der : Slice) (pos : Nat) : Checked Nat := do
  let pos ← u64 (pos + 1 : Nat)
  let (len, pos) ← parseAsn1Length der pos
  u64 (pos + len : Nat)

/-- `skip_tag_and_length`. -/
def skipTagAndLength (der : Slice) (pos : Nat) (expectedTag : UInt8) : Checked Nat := do
  let tag ← der.get pos
  if tag ≠ expectedTag then .error .absent
  else
    let pos ← u64 (pos + 1 : Nat)
    let (_, pos) ← parseAsn1Length der pos
    return pos

/-! ## Dates -/

/-- The day of the year, from the first of March, in `days_from_civil`. -/
def dayOfYear (m day : Nat) : Checked Nat := do
  let shifted ← (if 2 < m then u64 ((m : Int) - (3 : Nat)) else u64 (m + 9 : Nat))
  let scaled ← u64 (153 * shifted : Nat)
  let sum ← u64 (scaled + 2 : Nat)
  let sum ← u64 (sum / 5 + day : Nat)
  u64 ((sum : Int) - (1 : Nat))

/-- The day of the 400-year era in `days_from_civil`. -/
def dayOfEra (yoe doy : Nat) : Checked Nat := do
  let days ← u64 (yoe * 365 : Nat)
  let days ← u64 (days + yoe / 4 : Nat)
  let days ← u64 ((days : Int) - (yoe / 100 : Nat))
  u64 (days + doy : Nat)

/-- `days_from_civil`. -/
def daysFromCivil (year month day : Int) : Checked Int := do
  let y ← (if month ≤ 2 then i64 (year - 1) else .ok year)
  let numerator ← (if 0 ≤ y then .ok y else i64 (y - 399))
  let era := numerator.tdiv 400
  let eraStart ← i64 (era * 400)
  let yoe ← i64 (y - eraStart)
  let doy ← dayOfYear (asU64 month) (asU64 day)
  let doe ← dayOfEra (asU64 yoe) doy
  let eraDays ← i64 (era * 146097)
  i64 (eraDays + asI64 doe)

/-! ## Times -/

/-- The numbers of a time, as they are written. -/
structure TimeFields where
  year : Nat
  month : Nat
  day : Nat
  hour : Nat
  minute : Nat
  second : Nat
  deriving DecidableEq, Repr

/-- A number at the given bytes of a text: `s.get(start..stop)?.parse::<u32>().ok()?`. -/
def number (s : String) (start stop : Nat) : Checked Nat :=
  ofOption ((getBytes s start stop).bind (parseUnsigned 32))

/-- The year of `parse_asn1_time`, and the text behind it. -/
def yearField (tag : UInt8) (s : String) : Checked (Nat × String) :=
  if tag = 0x17 then do
    let y ← number s 0 2
    let year ← (if 50 ≤ y then u32 (1900 + y : Nat) else u32 (2000 + y : Nat))
    let rest ← ofOption (getBytesFrom s 2)
    return (year, rest)
  else if tag = 0x18 then do
    let year ← number s 0 4
    let rest ← ofOption (getBytesFrom s 4)
    return (year, rest)
  else .error .absent

/-- What `parse_asn1_time` reads. -/
def timeFields (tag : UInt8) (bytes : List UInt8) : Checked TimeFields := do
  let s ← ofOption (String.fromUTF8? ⟨bytes.toArray⟩)
  let (year, rest) ← yearField tag s
  let month ← number rest 0 2
  let day ← number rest 2 4
  let hour ← number rest 4 6
  let minute ← number rest 6 8
  let second ← number rest 8 10
  return { year, month, day, hour, minute, second }

/-- What `parse_asn1_time` computes from the numbers. -/
def unixTime (t : TimeFields) : Checked Nat := do
  let days ← daysFromCivil t.year t.month t.day
  let daySecs ← i64 (days * 86400)
  let hourSecs ← i64 (t.hour * 3600 : Nat)
  let secs ← i64 (daySecs + hourSecs)
  let minuteSecs ← i64 (t.minute * 60 : Nat)
  let secs ← i64 (secs + minuteSecs)
  let secs ← i64 (secs + t.second)
  let unixEpochDays ← daysFromCivil 1970 1 1
  let epochSecs ← i64 (unixEpochDays * 86400)
  let unixSecs ← i64 (secs - epochSecs)
  if unixSecs < 0 then .error .absent
  else
    -- The sum of `UNIX_EPOCH` and a duration overflows beyond the signed range.
    let sinceEpoch ← i64 (asU64 unixSecs : Nat)
    return sinceEpoch.toNat

/-- `parse_asn1_time`. -/
def parseAsn1Time (tag : UInt8) (bytes : List UInt8) : Checked Nat := do
  let fields ← timeFields tag bytes
  unixTime fields

/-! ## Certificates -/

/-- The tag and the bytes of the end of the validity period, in `parse_x509_not_after`. -/
def notAfterField (der : Slice) : Checked (UInt8 × List UInt8) := do
  let pos ← skipTagAndLength der 0 0x30
  let pos ← skipTagAndLength der pos 0x30
  let first ← der.get pos
  let pos ← (if first = 0xA0 then skipTlv der pos else .ok pos)
  -- The serial number, the signature algorithm and the issuer.
  let pos ← skipTlv der pos
  let pos ← skipTlv der pos
  let pos ← skipTlv der pos
  let pos ← skipTagAndLength der pos 0x30
  let pos ← skipTlv der pos
  let tag ← der.get pos
  let pos ← u64 (pos + 1 : Nat)
  let (len, pos) ← parseAsn1Length der pos
  let stop ← u64 (pos + len : Nat)
  let bytes ← der.getRange pos stop
  return (tag, bytes)

/-- `parse_x509_not_after`. -/
def parseX509NotAfter (der : Slice) : Checked Nat := do
  let (tag, bytes) ← notAfterField der
  parseAsn1Time tag bytes

end DnsFilter.X509

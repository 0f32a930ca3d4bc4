import DnsFilter.Lib.Net

/-!
# DNS messages

The part of the DNS message that the pipeline and the response cache work on, as the `hickory`
library presents it: the header's metadata, the questions and the three record sections. The wire
format is the library's: a `MessageCodec` gives its decoder and encoder, and `RoundTripsOn` says of
one message that it survives encoding.
-/

namespace DnsFilter

open Net

/-- Raw wire-format data. -/
abbrev Bytes := List UInt8

inductive MessageType
  | query
  | response
  deriving DecidableEq, Repr

inductive OpCode
  | query
  | other (code : UInt8)
  deriving DecidableEq, Repr

inductive ResponseCode
  | noError
  | servFail
  | nxDomain
  | notImp
  | refused
  | other (code : UInt16)
  deriving DecidableEq, Repr

inductive RecordType
  | a
  | aaaa
  | any
  | other (code : UInt16)
  deriving DecidableEq, Repr

/-- A domain name, given by what its `to_ascii` prints. -/
structure Name where
  toAscii : String
  deriving DecidableEq, Repr

structure Query where
  name : Name
  queryType : RecordType
  queryClass : UInt16 := 1
  deriving DecidableEq, Repr

structure SOA where
  mname : Name
  rname : Name
  serial : UInt32
  refresh : UInt32
  retry : UInt32
  expire : UInt32
  minimum : UInt32
  deriving DecidableEq, Repr

inductive RData
  | a (addr : Ipv4Addr)
  | aaaa (addr : Ipv6Addr)
  | soa (soa : SOA)
  | other (rtype : UInt16) (data : Bytes)
  deriving DecidableEq, Repr

structure Record where
  name : Name
  dnsClass : UInt16 := 1
  ttl : UInt32
  data : RData
  deriving DecidableEq, Repr

/-- The header without the section counts, which the encoder computes. -/
structure Metadata where
  id : UInt16
  messageType : MessageType
  opCode : OpCode
  authoritative : Bool := false
  truncation : Bool := false
  recursionDesired : Bool := false
  recursionAvailable : Bool := false
  authenticData : Bool := false
  checkingDisabled : Bool := false
  responseCode : ResponseCode := .noError
  deriving DecidableEq, Repr

/-- A message. The EDNS pseudo-record and the signature are carried along unread. -/
structure Message where
  metadata : Metadata
  queries : List Query := []
  answers : List Record := []
  authorities : List Record := []
  additionals : List Record := []
  edns : Option Bytes := none
  signature : Option Bytes := none
  deriving DecidableEq, Repr

namespace Message

/-- `Message::new`. -/
def new (id : UInt16) (messageType : MessageType) (opCode : OpCode) : Message where
  metadata := { id := id, messageType := messageType, opCode := opCode }

/-- The same message under another ID. -/
def withId (message : Message) (id : UInt16) : Message :=
  { message with metadata := { message.metadata with id := id } }

@[simp] theorem withId_withId (message : Message) (id id' : UInt16) :
    (message.withId id).withId id' = message.withId id' :=
  rfl

end Message

/-- The library's wire format: `Message::from_vec` and `Message::to_vec`. -/
structure MessageCodec where
  fromVec : Bytes → Option Message
  toVec : Message → Option Bytes

/-- The message can be encoded, and decoding gives it back. -/
def MessageCodec.RoundTripsOn (codec : MessageCodec) (message : Message) : Prop :=
  ∃ bytes, codec.toVec message = some bytes ∧ codec.fromVec bytes = some message

/-- The big-endian ID in the first two bytes of a query, or zero if it is shorter: `query_id`, and
the same computation in `DnsPipelineRequest::new`. -/
def queryId : Bytes → UInt16
  | hi :: lo :: _ => UInt16.ofNat (hi.toNat * 256 + lo.toNat)
  | _ => 0

end DnsFilter

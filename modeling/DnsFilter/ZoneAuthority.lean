import DnsFilter.Bootstrap
import DnsFilter.Lib.Json
import DnsFilter.Message
import Mathlib.Data.List.AList

/-!
# Zones served from JSON documents

`ZoneAuthorityResolver` (`zone_authority.rs`) answers queries from a document that lists the records
of a zone. Loading a document resolves the owner of every entry, parses its data, and adds an NS and
an SOA record at the apex if the document has none (`loadSnapshot`); `resolve` looks the query name
up among the loaded records.

Reading domain names and URLs is done by libraries: `nameFromAscii` is `Name::from_ascii`, and
`urlParse` comes from `Libraries`. A response is a `Message`; `wire` gives the wire format of record
data that the message model does not look into.
-/

namespace DnsFilter.ZoneAuthority

open Net Text Numeral

/-! ## Records -/

structure SOA where
  mname : Name
  rname : Name
  serial : UInt32
  refresh : Int32
  retry : Int32
  expire : Int32
  minimum : UInt32
  deriving DecidableEq

inductive CaaProperty
  | issue (issuer : Option Name)
  | issuewild (issuer : Option Name)
  | iodef (url : Url)
  deriving DecidableEq

inductive RData
  | a (address : Ipv4Addr)
  | aaaa (address : Ipv6Addr)
  | ns (target : Name)
  | cname (target : Name)
  | ptr (target : Name)
  | mx (preference : UInt16) (exchange : Name)
  | txt (values : List String)
  | soa (soa : SOA)
  | srv (priority weight port : UInt16) (target : Name)
  | caa (issuerCritical : Bool) (property : CaaProperty)
  | tlsa (usage selector matching : UInt8) (certData : Bytes)
  | naptr (order preference : UInt16) (flags service regexp : String) (replacement : Name)
  deriving DecidableEq

/-- A record of class `IN`. -/
structure Record where
  name : Name
  ttl : UInt32
  data : RData
  deriving DecidableEq

/-- The record types with a name in this file, besides `A`, `AAAA` and `ANY`. -/
def typeNs : RecordType := .other 2
def typeCname : RecordType := .other 5
def typeSoa : RecordType := .other 6

/-- `record_type`. -/
def Record.recordType (record : Record) : RecordType :=
  match record.data with
  | .a _ => .a
  | .aaaa _ => .aaaa
  | .ns _ => typeNs
  | .cname _ => typeCname
  | .soa _ => typeSoa
  | .ptr _ => .other 12
  | .mx _ _ => .other 15
  | .txt _ => .other 16
  | .srv _ _ _ _ => .other 33
  | .naptr _ _ _ _ _ _ => .other 35
  | .tlsa _ _ _ _ => .other 52
  | .caa _ _ => .other 257

/-- Equality of records in the library: the TTL is left out, and names are compared up to case. -/
def Record.same (record other : Record) : Bool :=
  eqIgnoreAsciiCase record.name.toAscii other.name.toAscii && record.data = other.data

/-- The record in a message. -/
def Record.toMessage (wire : RData → Bytes) (record : Record) : DnsFilter.Record where
  name := record.name
  ttl := record.ttl
  data := match record.data with
    | .a address => .a address
    | .aaaa address => .aaaa address
    | .soa soa =>
        .soa { mname := soa.mname, rname := soa.rname, serial := soa.serial
               refresh := soa.refresh.toUInt32, retry := soa.retry.toUInt32
               expire := soa.expire.toUInt32, minimum := soa.minimum }
    | data => match record.recordType with
        | .other code => .other code (wire data)
        | _ => .other 0 (wire data)

/-! ## Documents -/

structure ZoneJsonRecord where
  name : String
  recordType : String
  ttl : Option UInt32
  data : Json

structure ZoneJsonDocument where
  zone : String
  ttlDefault : Option UInt32
  serial : Option String
  records : List ZoneJsonRecord

/-- `get_str`. -/
def getStr (value : Json) (key : String) : Except String String :=
  match (value.get key).bind (·.asStr) with
  | some text => .ok text
  | none => .error ("missing or invalid string field '" ++ key ++ "'")

/-- The common body of `get_u8`, `get_u16` and `get_u32`. -/
def getUnsigned (width : Nat) (value : Json) (key : String) : Except String Nat :=
  match (value.get key).bind (·.asU64) with
  | some number =>
      if number < 2 ^ width then .ok number
      else .error ("field '" ++ key ++ "' out of range for u" ++ toString width)
  | none => .error ("missing or invalid integer field '" ++ key ++ "'")

/-- `get_u8`. -/
def getU8 (value : Json) (key : String) : Except String UInt8 :=
  (getUnsigned 8 value key).map UInt8.ofNat

/-- `get_u16`. -/
def getU16 (value : Json) (key : String) : Except String UInt16 :=
  (getUnsigned 16 value key).map UInt16.ofNat

/-- `get_u32`. -/
def getU32 (value : Json) (key : String) : Except String UInt32 :=
  (getUnsigned 32 value key).map UInt32.ofNat

/-- `get_i32`. -/
def getI32 (value : Json) (key : String) : Except String Int32 :=
  match (value.get key).bind (·.asI64) with
  | some number =>
      if -2 ^ 31 ≤ number ∧ number < 2 ^ 31 then .ok (Int32.ofInt number)
      else .error ("field '" ++ key ++ "' out of range for i32")
  | none => .error ("missing or invalid integer field '" ++ key ++ "'")

/-- `get_string_array`. -/
def getStringArray (value : Json) (key : String) : Except String (List String) :=
  match (value.get key).bind (·.asArray) with
  | some items => items.mapM fun item =>
      match item.asStr with
      | some text => .ok text
      | none => .error ("field '" ++ key ++ "' must only contain strings")
  | none => .error ("missing or invalid array field '" ++ key ++ "'")

/-! ## Hexadecimal data -/

/-- The value of a hexadecimal digit. -/
def hexDigit (c : Char) : Option Nat :=
  if c.isDigit then some (c.toNat - '0'.toNat)
  else if 'a' ≤ c ∧ c ≤ 'f' then some (c.toNat - 'a'.toNat + 10)
  else if 'A' ≤ c ∧ c ≤ 'F' then some (c.toNat - 'A'.toNat + 10)
  else none

/-- `u8::from_str_radix` with radix 16: a leading `+` is allowed before a digit. -/
def fromStrRadix16 (text : String) : Option UInt8 :=
  let digits := match text.toList with
    | '+' :: d :: ds => d :: ds
    | ds => ds
  if digits = [] then none
  else ((digits.mapM hexDigit).map (·.foldl (fun n d => 16 * n + d) 0)).bind fun n =>
    if n < 256 then some (UInt8.ofNat n) else none

/-- The pairs of `chunks(2)`. -/
def chunks2 {α : Type*} : List α → List (List α)
  | x :: y :: rest => [x, y] :: chunks2 rest
  | [x] => [[x]]
  | [] => []

/-- The body of the loop in `decode_hex`. -/
def decodeHexPair (chunk : List UInt8) : Except String UInt8 :=
  match String.fromUTF8? ⟨chunk.toArray⟩ with
  | none => .error "hex contains non-utf8 bytes"
  | some pair =>
      match fromStrRadix16 pair with
      | some byte => .ok byte
      | none => .error ("hex contains invalid digit pair '" ++ pair ++ "'")

/-- `decode_hex`. -/
def decodeHex (value : String) : Except String Bytes :=
  let cleaned := trim value
  if cleaned = "" then .ok []
  else if cleaned.toUTF8.size % 2 ≠ 0 then .error "hex value has odd length"
  else (chunks2 cleaned.toUTF8.toList).mapM decodeHexPair

/-! ## Loading -/

/-- `resolve_record_name`. -/
def resolveRecordName (zone label : String) : Except String String :=
  let label := trim label
  if label = "" then .error "record name must not be empty"
  else if label = "@" then .ok zone
  else if endsWith "." label then
    match normalizeName label with
    | some name => .ok name
    | none => .error ("invalid absolute record name '" ++ label ++ "'")
  else match normalizeName (label ++ "." ++ zone) with
    | some name => .ok name
    | none => .error ("invalid record name '" ++ label ++ "'")

section Loading

variable (lib : Libraries) (nameFromAscii : String → Except String Name)

/-- `fqdn_to_name`. -/
def fqdnToName (value : String) : Except String Name :=
  match normalizeName value with
  | none => .error "name must not be empty"
  | some normalized => (nameFromAscii (normalized ++ ".")).mapError fun e =>
      "invalid DNS name '" ++ value ++ "': " ++ e

/-- `parse_issue_issuer_name`. -/
def parseIssueIssuerName (value : String) : Except String (Option Name) :=
  if value = "" ∨ value = ";" then .ok none
  else (fqdnToName nameFromAscii value).map some

/-- The data of a `CAA` entry. -/
def parseCaa (data : Json) : Except String RData := do
  let flags ← getU8 data "flags"
  let issuerCritical := flags &&& 0x80 != 0
  let tag := toAsciiLowercase (trim (← getStr data "tag"))
  let value := trim (← getStr data "value")
  match tag with
  | "issue" => return .caa issuerCritical (.issue (← parseIssueIssuerName nameFromAscii value))
  | "issuewild" =>
      return .caa issuerCritical (.issuewild (← parseIssueIssuerName nameFromAscii value))
  | "iodef" =>
      match lib.urlParse value with
      | some url => return .caa issuerCritical (.iodef url)
      | none => .error ("invalid CAA iodef URL '" ++ value ++ "'")
  | other =>
      .error ("unsupported CAA tag '" ++ other ++ "'; supported tags are: issue, issuewild, iodef")

/-- The target of `NS`, `CNAME`, `PTR` and similar entries. -/
def getName (data : Json) (key : String) : Except String Name := do
  fqdnToName nameFromAscii (← getStr data key)

/-- The record data in `parse_record`. -/
def parseRData (entry : ZoneJsonRecord) : Except String RData := do
  let data := entry.data
  match toAsciiUppercase (trim entry.recordType) with
  | "A" =>
      match parseIpv4Addr (← getStr data "address") with
      | some address => return .a address
      | none => .error ("invalid A address in record '" ++ entry.name ++ "'")
  | "AAAA" =>
      match parseIpv6Addr (← getStr data "address") with
      | some address => return .aaaa address
      | none => .error ("invalid AAAA address in record '" ++ entry.name ++ "'")
  | "NS" => return .ns (← getName nameFromAscii data "target")
  | "CNAME" => return .cname (← getName nameFromAscii data "target")
  | "PTR" => return .ptr (← getName nameFromAscii data "target")
  | "MX" =>
      let priority ← getU16 data "priority"
      return .mx priority (← getName nameFromAscii data "exchange")
  | "TXT" => return .txt (← getStringArray data "values")
  | "SOA" =>
      let mname ← getName nameFromAscii data "mname"
      let rname ← getName nameFromAscii data "rname"
      let serial ← getU32 data "serial"
      let refresh ← getI32 data "refresh"
      let retry ← getI32 data "retry"
      let expire ← getI32 data "expire"
      let minimum ← getU32 data "minimum"
      return .soa ⟨mname, rname, serial, refresh, retry, expire, minimum⟩
  | "SRV" =>
      let priority ← getU16 data "priority"
      let weight ← getU16 data "weight"
      let port ← getU16 data "port"
      return .srv priority weight port (← getName nameFromAscii data "target")
  | "CAA" => parseCaa lib nameFromAscii data
  | "TLSA" =>
      let usage ← getU8 data "usage"
      let selector ← getU8 data "selector"
      let matching ← getU8 data "matching_type"
      let certificate ← getStr data "certificate"
      let certData ← (decodeHex certificate).mapError fun _ =>
        "invalid TLSA certificate hex in record '" ++ entry.name ++ "'"
      return .tlsa usage selector matching certData
  | "NAPTR" =>
      let order ← getU16 data "order"
      let preference ← getU16 data "preference"
      let flags ← getStr data "flags"
      let service ← getStr data "service"
      let regexp ← getStr data "regexp"
      return .naptr order preference flags service regexp
        (← getName nameFromAscii data "replacement")
  | other => .error ("unsupported record type '" ++ other ++ "'")

/-- `parse_record`. -/
def parseRecord (entry : ZoneJsonRecord) (name : Name) (ttl : UInt32) : Except String Record := do
  return ⟨name, ttl, ← parseRData lib nameFromAscii entry⟩

/-- The records of each owner. -/
abbrev RecordMap := AList fun _ : String => List Record

/-- The records of an owner, if any. -/
def RecordMap.recordsAt (records : RecordMap) (key : String) : List Record :=
  (records.lookup key).getD []

/-- `entry(key).or_default().push(record)`. -/
def RecordMap.pushRecord (records : RecordMap) (key : String) (record : Record) : RecordMap :=
  AList.insert key (records.recordsAt key ++ [record]) records

structure ZoneSnapshot where
  zone : String
  recordsByName : RecordMap
  soa : Option Record

/-- The owner and the record of an entry: the body of the loop in `load_snapshot` up to where it
stores them. -/
def loadEntry (zone : String) (ttlDefault : UInt32) (entry : ZoneJsonRecord) :
    Except String (String × Record) := do
  let nameKey ← resolveRecordName zone entry.name
  let name ← fqdnToName nameFromAscii nameKey
  let record ← parseRecord lib nameFromAscii entry name (entry.ttl.getD ttlDefault)
  return (nameKey, record)

/-- The rest of the body. -/
def storeEntry (zone : String) (state : RecordMap × Option Record) (loaded : String × Record) :
    RecordMap × Option Record :=
  let soa := if loaded.2.recordType = typeSoa ∧ loaded.1 = zone ∧ state.2 = none
    then some loaded.2 else state.2
  (state.1.pushRecord loaded.1 loaded.2, soa)

/-- The record that `ensure_default_apex_ns` adds. -/
def defaultApexNs (zone : String) (ttlDefault : UInt32) : Except String Record := do
  let nsTarget ← fqdnToName nameFromAscii ("ns1." ++ zone)
  let zoneName ← fqdnToName nameFromAscii zone
  return ⟨zoneName, ttlDefault, .ns nsTarget⟩

/-- `ensure_default_apex_ns`. -/
def ensureDefaultApexNs (zone : String) (ttlDefault : UInt32) (records : RecordMap) :
    Except String RecordMap :=
  if (records.recordsAt zone).any (·.recordType = typeNs) then .ok records
  else do
    let record ← defaultApexNs nameFromAscii zone ttlDefault
    return records.pushRecord zone record

/-- `parse_serial_or_default`. -/
def parseSerialOrDefault (value : Option String) (default : UInt32) : UInt32 :=
  ((value.bind fun raw => parseUnsigned 32 (trim raw)).map UInt32.ofNat).getD default

/-- `build_default_soa_record`. -/
def buildDefaultSoaRecord (document : ZoneJsonDocument) (zone : String) (ttlDefault : UInt32) :
    Except String Record := do
  let zoneName ← fqdnToName nameFromAscii zone
  let mname ← fqdnToName nameFromAscii ("ns1." ++ zone)
  let rname ← fqdnToName nameFromAscii ("hostmaster." ++ zone)
  let serial := parseSerialOrDefault document.serial 1
  return ⟨zoneName, ttlDefault, .soa ⟨mname, rname, serial, 3600, 900, 604800, 300⟩⟩

/-- The TTL of records without one. -/
def ZoneJsonDocument.defaultTtl (document : ZoneJsonDocument) : UInt32 :=
  document.ttlDefault.getD 3600

/-- The zone of the document, if it is the configured one. -/
def documentZone (expectedZone : String) (document : ZoneJsonDocument) : Except String String :=
  match normalizeName document.zone with
  | none => .error "JSON zone must not be empty"
  | some jsonZone =>
      match normalizeName expectedZone with
      | none => .error "configured zone must not be empty"
      | some expectedZone =>
          if jsonZone = expectedZone then .ok jsonZone
          else .error ("zone mismatch: config zone '" ++ expectedZone ++
            "' differs from JSON zone '" ++ jsonZone ++ "'")

/-- `load_snapshot`, given what reading the source returned. -/
def loadSnapshot (fromStr : String → Option ZoneJsonDocument) (expectedZone sourceLabel : String)
    (content : Except String String) : Except String ZoneSnapshot := do
  let document ← (fromStr (← content)).elim
    (.error ("failed to parse JSON zone document from " ++ sourceLabel)) .ok
  let zone ← documentZone expectedZone document
  let ttlDefault := document.defaultTtl
  let (records, soa) ← document.records.foldlM (fun state entry => do
    let loaded ← loadEntry lib nameFromAscii zone ttlDefault entry
    return storeEntry zone state loaded) (∅, none)
  let records ← ensureDefaultApexNs nameFromAscii zone ttlDefault records
  match soa with
  | some soa => return ⟨zone, records, some soa⟩
  | none =>
      let soa ← buildDefaultSoaRecord nameFromAscii document zone ttlDefault
      return ⟨zone, records.pushRecord zone soa, some soa⟩

/-- `source_label`. -/
def sourceLabel : ZoneSource → String
  | .file path => path
  | .url url => url

end Loading

/-- Zone loaders that load documents, given `load_source_content` and the JSON reader. -/
def withDocuments (loaders : ZoneLoaders) (lib : Libraries)
    (nameFromAscii : String → Except String Name) (fromStr : String → Option ZoneJsonDocument)
    (loadSourceContent : ZoneSource → Option ZoneSourceAuth → Except String String) :
    ZoneLoaders where
  loadSnapshot zone source auth :=
    (loadSnapshot lib nameFromAscii fromStr zone (sourceLabel source)
      (loadSourceContent source auth)).map fun _ => ()
  discoveryEntries := loaders.discoveryEntries

/-! ## Answering -/

/-- `domain_matches_zone` of `zone_authority.rs`. -/
def domainMatchesZone (domain zone : String) : Bool :=
  domain = zone || match stripSuffix zone domain with
    | some rest => endsWith "." rest
    | none => false

/-- `filter_answers`. -/
def filterAnswers (records : List Record) (queryType : RecordType) : List Record :=
  if queryType = .any then records else records.filter (·.recordType = queryType)

/-- The address records of the target of an `NS` answer. -/
def targetAddresses (records : RecordMap) (answer : Record) : List Record :=
  match answer.data with
  | .ns target =>
      match normalizeName target.toAscii with
      | some key => (records.recordsAt key).filter fun record =>
          record.recordType = .a ∨ record.recordType = .aaaa
      | none => []
  | _ => []

/-- The record is added unless it is there already. -/
def addGlue (glue : List Record) (record : Record) : List Record :=
  if glue.any (·.same record) then glue else glue ++ [record]

/-- `collect_ns_glue_records`. -/
def collectNsGlueRecords (answers : List Record) (records : RecordMap) : List Record :=
  answers.foldl (fun glue answer => (targetAddresses records answer).foldl addGlue glue) []

/-- The answers for a name that has records. -/
def selectAnswers (records : List Record) (queryType : RecordType) : List Record :=
  let answers := filterAnswers records queryType
  if answers = [] ∧ queryType ≠ typeCname then filterAnswers records typeCname else answers

section Resolve

variable (codec : MessageCodec) (wire : RData → Bytes)

/-- The response without its records. -/
def emptyResponse (request : Message) (question : Query) : Message :=
  let response := Message.new request.metadata.id .response .query
  { response with
    metadata := { response.metadata with
      recursionDesired := request.metadata.recursionDesired
      recursionAvailable := false
      authoritative := true }
    queries := [question] }

/-- The response in `ZoneAuthorityResolver::resolve`. -/
def respond (snapshot : ZoneSnapshot) (request : Message) (question : Query) (queryName : String) :
    Message :=
  let response := emptyResponse request question
  let withCode := fun code => { response.metadata with responseCode := code }
  let soa := snapshot.soa.toList.map (·.toMessage wire)
  if domainMatchesZone queryName snapshot.zone then
    match snapshot.recordsByName.lookup queryName with
    | some records =>
        let answers := selectAnswers records question.queryType
        if answers = [] then
          { response with metadata := withCode .noError, authorities := soa }
        else
          { response with
            metadata := withCode .noError
            answers := answers.map (·.toMessage wire)
            additionals := (collectNsGlueRecords answers snapshot.recordsByName).map
              (·.toMessage wire) }
    | none => { response with metadata := withCode .nxDomain, authorities := soa }
  else { response with metadata := withCode .refused }

/-- `ZoneAuthorityResolver::resolve`, without the texts of the library's own errors. -/
def resolve (snapshot : ZoneSnapshot) (query : Bytes) : Except UpstreamResolveError Bytes := do
  let request ← (codec.fromVec query).elim (.error (.protocol "invalid DNS query")) .ok
  let question ← request.queries.head?.elim (.error (.protocol "DNS query has no question")) .ok
  let queryName ← (normalizeName question.name.toAscii).elim
    (.error (.protocol "invalid query name")) .ok
  let message := if domainMatchesZone queryName snapshot.zone then "failed to encode DNS response"
    else "failed to encode refused response"
  (codec.toVec (respond wire snapshot request question queryName)).elim
    (.error (.protocol message)) .ok

end Resolve

end DnsFilter.ZoneAuthority

import MonitorAgent.Nrpe.Checksum
import MonitorAgent.Nrpe.Error
import MonitorAgent.Text.Utf8

/-!
# Packets

A packet is 1036 bytes: version, kind, checksum and status, all with the high
byte first, a region of 1024 bytes that holds the payload, and two bytes of
padding.  The payload ends before the first zero of the region.  The checksum is
that of all bytes, with the checksum itself taken as zero.
-/

namespace MonitorAgent
namespace Nrpe

def regionSize : Nat := 1024

def packetSize : Nat := 1036

def protocolVersion : UInt16 := 2

/-- The high byte comes first. -/
def bytes16 (n : UInt16) : List UInt8 :=
  [(n >>> 8).toUInt8, n.toUInt8]

def bytes32 (n : UInt32) : List UInt8 :=
  [(n >>> 24).toUInt8, (n >>> 16).toUInt8, (n >>> 8).toUInt8, n.toUInt8]

def word16 (a b : UInt8) : UInt16 :=
  a.toUInt16 <<< 8 ||| b.toUInt16

def word32 (a b c d : UInt8) : UInt32 :=
  a.toUInt32 <<< 24 ||| b.toUInt32 <<< 16 ||| c.toUInt32 <<< 8 ||| d.toUInt32

inductive Kind where
  | query
  | response
  deriving DecidableEq, Repr

def Kind.code : Kind → UInt16
  | query => 1
  | response => 2

structure Packet where
  version : UInt16
  kind : UInt16
  carried : UInt32
  status : UInt16
  region : Vector UInt8 regionSize
  padding : UInt16
  deriving DecidableEq

namespace Packet

def toBytes (p : Packet) : List UInt8 :=
  bytes16 p.version ++ bytes16 p.kind ++ bytes32 p.carried ++ bytes16 p.status ++
    p.region.toList ++ bytes16 p.padding

/-- Reads the fields behind the header. -/
def ofBody? (version kind : UInt16) (carried : UInt32) (status : UInt16) (body : List UInt8) :
    Option Packet :=
  if h : (body.take regionSize).length = regionSize then
    match body.drop regionSize with
    | [a, b] =>
      some { version, kind, carried, status, region := ⟨(body.take regionSize).toArray, h⟩
             padding := word16 a b }
    | _ => none
  else none

/-- The packet of exactly these bytes, if they are as many as a packet has. -/
def ofBytes? : List UInt8 → Option Packet
  | v₁ :: v₂ :: k₁ :: k₂ :: c₁ :: c₂ :: c₃ :: c₄ :: s₁ :: s₂ :: body =>
    ofBody? (word16 v₁ v₂) (word16 k₁ k₂) (word32 c₁ c₂ c₃ c₄) (word16 s₁ s₂) body
  | _ => none

def computed (p : Packet) : UInt32 :=
  checksum { p with carried := 0 }.toBytes

/-- The packet with the checksum that it ought to carry. -/
def withChecksum (p : Packet) : Packet :=
  { p with carried := p.computed }

/-- Bytes cut or filled up with zeros to the size of the region. -/
def regionOf (bytes : List UInt8) : Vector UInt8 regionSize :=
  ⟨(bytes.take regionSize ++ List.replicate (regionSize - (bytes.take regionSize).length) 0).toArray,
    by
      simp only [List.size_toArray, List.length_append, List.length_take, List.length_replicate]
      omega⟩

/-- A packet with a payload that is cut so that a zero stands behind it. -/
def build (kind : Kind) (status : UInt16) (payload : List UInt8) (padding : UInt16) : Packet :=
  withChecksum
    { version := protocolVersion, kind := kind.code, carried := 0, status
      region := regionOf (payload.take (regionSize - 1)), padding }

def query (text : String) (padding : UInt16) : Packet :=
  build .query 0 (Text.Utf8.encode text.toList) padding

def response (status : UInt16) (text : String) (padding : UInt16) : Packet :=
  build .response status (Text.Utf8.encode text.toList) padding

def payload (p : Packet) : List UInt8 :=
  p.region.toList.takeWhile (· != 0)

/-- The payload as text, with a mark for each part that is none. -/
def text (p : Packet) : String :=
  String.ofList (Text.Utf8.decodeLossy p.payload)

/-- The first thing that is wrong with a packet of the expected kind. -/
def fault? (p : Packet) (expected : Kind) : Option Error :=
  if p.version ≠ protocolVersion then some (.unsupportedVersion p.version)
  else if p.kind ≠ expected.code then some (.kindMismatch expected.code p.kind)
  else if p.computed ≠ p.carried then some (.checksumMismatch p.carried p.computed)
  else if (0 : UInt8) ∉ p.region.toList then some .missingTerminator
  else none

def verify (p : Packet) (expected : Kind) : Except Error Unit :=
  match p.fault? expected with
  | some error => .error error
  | none => .ok ()

def describe (p : Packet) : String :=
  "Packet \x7b version: " ++ toString p.version.toNat ++ ", packet_type: " ++
    toString p.kind.toNat ++ ", crc32: " ++ hexWord p.carried ++ ", status_code: " ++
    toString p.status.toNat ++ ", payload: " ++ String.ofList (Text.quoted p.text.toList) ++
    " \x7d"

end Packet
end Nrpe
end MonitorAgent

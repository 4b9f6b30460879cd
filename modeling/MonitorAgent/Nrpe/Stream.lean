import MonitorAgent.Nrpe.Packet

/-!
# Reading packets from a stream

A stream hands out chunks of bytes and then ends in one of three ways.  A
packet is read in two parts: the version decides whether there is a second one.
-/

namespace MonitorAgent
namespace Nrpe

/-- What a stream does after its last byte: the other side has closed it, it
fails, or nothing happens any more. -/
inductive Ending where
  | closed
  | failed (fault : Fault)
  | silent
  deriving DecidableEq, Repr

structure Stream where
  chunks : List (List UInt8)
  ending : Ending
  deriving DecidableEq, Repr

namespace Stream

/-- The bytes that have not been read yet. -/
def remaining (s : Stream) : List UInt8 :=
  s.chunks.flatten

/-- The first bytes of the chunks, as many as wanted or all, and what is left. -/
def takeBytes : Nat → List (List UInt8) → List UInt8 × List (List UInt8)
  | 0, chunks => ([], chunks)
  | _ + 1, [] => ([], [])
  | wanted + 1, chunk :: chunks =>
    if chunk.length ≤ wanted + 1 then
      let (bytes, rest) := takeBytes (wanted + 1 - chunk.length) chunks
      (chunk ++ bytes, rest)
    else (chunk.take (wanted + 1), chunk.drop (wanted + 1) :: chunks)

/-- The error of a read that the end of the stream cuts off. -/
def Ending.error (limit : Duration) : Ending → Error
  | .closed | .failed .endOfFile => .shortRead
  | .failed fault => .connection fault
  | .silent => .timeout limit

/-- So many bytes, or the error that the ending makes of it.  What there is gets
consumed in either case. -/
def readExactly (limit : Duration) (n : Nat) (s : Stream) : Except Error (List UInt8) × Stream :=
  let (bytes, rest) := takeBytes n s.chunks
  let s := { s with chunks := rest }
  (if bytes.length = n then .ok bytes else .error (Ending.error limit s.ending), s)

end Stream

/-- The version with packets of another layout. -/
def foreignVersion : UInt16 := 3

/-- Reads a packet; a silent peer is waited for no longer than `limit`. -/
def Packet.read (limit : Duration) (s : Stream) : Except Error Packet × Stream :=
  match s.readExactly limit 2 with
  | (.error error, s) => (.error error, s)
  | (.ok start, s) =>
    if start = bytes16 foreignVersion then (.error (.unsupportedVersion foreignVersion), s)
    else
      match s.readExactly limit (packetSize - 2) with
      | (.error error, s) => (.error error, s)
      | (.ok rest, s) =>
        match Packet.ofBytes? (start ++ rest) with
        | some packet => (.ok packet, s)
        | none => (.error .shortRead, s)

end Nrpe
end MonitorAgent

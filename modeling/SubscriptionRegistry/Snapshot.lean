/-
# Snapshots

The file that a table of metadata is kept in:

    four bytes "SUB\0" | version | length of the payload in 8 bytes | payload | CRC-32 in 4 bytes

Numbers are little-endian and the payload is the table in MessagePack.

* `Snapshot.encode`: the parts of the file, in the order in which they are written.
* `Snapshot.decode`: the table, or the first check that fails.
-/
import SubscriptionRegistry.Crc32
import SubscriptionRegistry.Metadata.MessagePack

namespace SubscriptionRegistry
namespace Snapshot

/-- What every snapshot starts with. -/
def magic : Bytes := [0x53, 0x55, 0x42, 0x00]

/-- The version that is written and read. -/
def version : UInt8 := 1

/-- The bytes in front of the payload. -/
def headerLength : Nat := 13

/-- The bytes behind the payload. -/
def checksumLength : Nat := 4

/-- The parts of a snapshot with a given payload. -/
def parts (payload : Bytes) : List Bytes :=
  [magic, [version], Bytes.littleEndian 8 payload.length, payload,
    Bytes.littleEndian checksumLength (Crc32.checksum payload).toNat]

/-- A snapshot with a given payload. -/
def frame (payload : Bytes) : Bytes := (parts payload).flatten

/-- The snapshot of a table. -/
def encode (t : Table String Metadata) : Bytes := frame (Metadata.encodeTable t)

/-- The next `n` bytes of a file. -/
def readExact (n : Nat) (b : Bytes) : Except StoreError (Bytes × Bytes) :=
  match Bytes.split? n b with
  | none => .error (.io .shortRead)
  | some cut => .ok cut

/-- The payload of a file whose frame is sound.  What follows the checksum does not count. -/
def unframe (file : Bytes) : Except StoreError Bytes := do
  let (start, rest) ← readExact 4 file
  if start ≠ magic then throw (.invalidFormat .badMagic)
  let (versions, rest) ← readExact 1 rest
  if versions ≠ [version] then
    throw (.invalidFormat (.unsupportedVersion (versions.headD 0)))
  let (lengths, rest) ← readExact 8 rest
  let length := Bytes.toNatLE lengths
  if file.length - (headerLength + checksumLength) < length then
    throw (.invalidFormat .lengthExceedsFile)
  let (payload, rest) ← readExact length rest
  let (checksums, _) ← readExact 4 rest
  let expected := UInt32.ofNat (Bytes.toNatLE checksums)
  let got := Crc32.checksum payload
  if expected ≠ got then throw (.checksumMismatch expected got)
  return payload

/-- The table in a file. -/
def decode (file : Bytes) : Except StoreError (Table String Metadata) :=
  match unframe file with
  | .error e => .error e
  | .ok payload =>
    match Metadata.decodeTable payload with
    | .error fault => .error (.deserialization fault.message)
    | .ok t => .ok t

end Snapshot
end SubscriptionRegistry

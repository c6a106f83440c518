/-
# Which files are read

Reading a data file is a chain of checks, and the first one that fails gives the error.  Every
sequence of bytes ends at one place of the chain:

    shorter than 4       another magic       4 bytes      another version      shorter than 13
    the length exceeds the file      shorter than 17      another checksum      no table      read

`FirstFault` lists the places where it ends in an error, each with the files that end there.
The proof has two halves.  Each place is evaluated for the files that end there, and every file
is taken apart far enough to end at one of them.

* `decode_header`: behind a header that is sound.
* `decode_eq_ok_iff_frame`: the files that are read.
* `decode_eq_error_iff`: the files that are not, with their errors.
* `FileStore.data_file_judged`: both, for the data file of a directory.
-/
import SubscriptionRegistry.Proofs.Codec.Frame
import SubscriptionRegistry.Proofs.File.Opening

namespace SubscriptionRegistry

/-! ## 1. Numbers in bytes -/

namespace Bytes

theorem littleEndian_toNatLE (b : Bytes) : littleEndian b.length (toNatLE b) = b := by
  refine (toNatLE_inj (length_littleEndian _ _)).mp ?_
  exact toNatLE_littleEndian (toNatLE_lt b)

/-- Any eight bytes are a length. -/
theorem exists_length_eq {b : Bytes} (h : b.length = 8) :
    ∃ n : UInt64, b = littleEndian 8 n.toNat := by
  have hlt : toNatLE b < UInt64.size := by
    have hbound := toNatLE_lt b
    rw [h] at hbound
    exact hbound
  refine ⟨UInt64.ofNat (toNatLE b), ?_⟩
  rw [UInt64.toNat_ofNat_of_lt' hlt, ← h, littleEndian_toNatLE]

/-- A sequence that is long enough has a front of a given length. -/
theorem exists_front {b : Bytes} {n : Nat} (h : n ≤ b.length) :
    ∃ front rest : Bytes, front.length = n ∧ b = front ++ rest :=
  ⟨b.take n, b.drop n, List.length_take_of_le h, (List.take_append_drop n b).symm⟩

end Bytes

namespace Snapshot

/-! ## 2. The pieces of a file -/

/-- What stands in front of a payload of `n` bytes. -/
def header (n : UInt64) : Bytes := magic ++ version :: Bytes.littleEndian 8 n.toNat

/-- What stands behind a payload with a given checksum. -/
def trailer (sum : UInt32) : Bytes := Bytes.littleEndian checksumLength sum.toNat

@[simp] theorem length_header (n : UInt64) : (header n).length = headerLength := by
  simp [header, magic, headerLength]

@[simp] theorem length_trailer (sum : UInt32) : (trailer sum).length = checksumLength :=
  Bytes.length_littleEndian _ _

theorem header_append (n : UInt64) (body : Bytes) :
    header n ++ body = magic ++ version :: (Bytes.littleEndian 8 n.toNat ++ body) := by
  rw [header, List.append_assoc, List.cons_append]

/-- Any four bytes are a checksum. -/
theorem exists_trailer_eq {b : Bytes} (h : b.length = checksumLength) :
    ∃ sum : UInt32, b = trailer sum := by
  have hlt : Bytes.toNatLE b < UInt32.size := by
    have hbound := Bytes.toNatLE_lt b
    rw [h] at hbound
    exact hbound
  refine ⟨UInt32.ofNat (Bytes.toNatLE b), ?_⟩
  rw [trailer, UInt32.toNat_ofNat_of_lt' hlt, ← h, Bytes.littleEndian_toNatLE]

/-- The check against the length of the file asks whether there is room in front of a checksum. -/
theorem length_header_append_sub (n : UInt64) (body : Bytes) :
    (header n ++ body).length - (headerLength + checksumLength) = body.length - checksumLength := by
  rw [List.length_append, length_header, Nat.add_sub_add_left]

/-- Where the chain of checks ends for a file that is not read. -/
inductive FirstFault : Bytes → StoreError → Prop
  | magicCut {file : Bytes} (h : file.length < 4) : FirstFault file (.io .shortRead)
  | magicWrong {start rest : Bytes} (hlength : start.length = 4) (h : start ≠ magic) :
    FirstFault (start ++ rest) (.invalidFormat .badMagic)
  | versionCut : FirstFault magic (.io .shortRead)
  | versionWrong {v : UInt8} (rest : Bytes) (h : v ≠ version) :
    FirstFault (magic ++ v :: rest) (.invalidFormat (.unsupportedVersion v))
  | lengthCut {rest : Bytes} (h : rest.length < 8) :
    FirstFault (magic ++ version :: rest) (.io .shortRead)
  /-- The length of the file counts, and not what is there behind the header. -/
  | lengthExceeds {n : UInt64} {body : Bytes}
    (h : (header n ++ body).length - (headerLength + checksumLength) < n.toNat) :
    FirstFault (header n ++ body) (.invalidFormat .lengthExceedsFile)
  /-- A file without room for a checksum comes as far as this only with an empty payload. -/
  | checksumCut {body : Bytes}
    (h : (header 0 ++ body).length < headerLength + checksumLength) :
    FirstFault (header 0 ++ body) (.io .shortRead)
  | checksumWrong {n : UInt64} {payload : Bytes} {sum : UInt32} (rest : Bytes)
    (hlength : payload.length = n.toNat) (h : sum ≠ Crc32.checksum payload) :
    FirstFault (header n ++ payload ++ trailer sum ++ rest)
      (.checksumMismatch sum (Crc32.checksum payload))
  | payloadWrong {n : UInt64} {payload : Bytes} {fault : MessagePack.Fault} (rest : Bytes)
    (hlength : payload.length = n.toNat) (h : Metadata.decodeTable payload = .error fault) :
    FirstFault (header n ++ payload ++ trailer (Crc32.checksum payload) ++ rest)
      (.deserialization fault.message)

/-! ## 3. Reading piece by piece -/

theorem readExact_append {n : Nat} {front : Bytes} (h : front.length = n) (rest : Bytes) :
    readExact n (front ++ rest) = .ok (front, rest) :=
  readExact_eq_ok_iff.mpr ⟨rfl, h⟩

theorem readExact_of_lt {n : Nat} {b : Bytes} (h : b.length < n) :
    readExact n b = .error (.io .shortRead) := by
  unfold readExact
  split
  next => rfl
  next cut hcut =>
    obtain ⟨rfl, hlength⟩ := Bytes.eq_append_of_split? hcut
    rw [List.length_append] at h
    omega

theorem unframe_of_magicCut {file : Bytes} (h : file.length < 4) :
    unframe file = .error (.io .shortRead) := by
  rw [unframe, readExact_of_lt h]
  rfl

theorem unframe_of_magicWrong {start rest : Bytes} (hlength : start.length = 4)
    (h : start ≠ magic) : unframe (start ++ rest) = .error (.invalidFormat .badMagic) := by
  rw [unframe, readExact_append hlength]
  exact if_pos h

theorem unframe_of_versionCut : unframe magic = .error (.io .shortRead) := rfl

theorem unframe_of_versionWrong {v : UInt8} (rest : Bytes) (h : v ≠ version) :
    unframe (magic ++ v :: rest) = .error (.invalidFormat (.unsupportedVersion v)) := by
  have hne : [v] ≠ [version] := fun heq => h (List.head_eq_of_cons_eq heq)
  exact if_pos hne

/-- The checks of magic and version let these bytes through. -/
theorem unframe_magic_version (rest : Bytes) :
    unframe (magic ++ version :: rest) = (do
      let (lengths, body) ← readExact 8 rest
      let length := Bytes.toNatLE lengths
      if (magic ++ version :: rest).length - (headerLength + checksumLength) < length then
        throw (.invalidFormat .lengthExceedsFile)
      let (payload, rest) ← readExact length body
      let (checksums, _) ← readExact checksumLength rest
      let expected := UInt32.ofNat (Bytes.toNatLE checksums)
      let got := Crc32.checksum payload
      if expected ≠ got then throw (.checksumMismatch expected got)
      return payload) := rfl

theorem unframe_of_lengthCut {rest : Bytes} (h : rest.length < 8) :
    unframe (magic ++ version :: rest) = .error (.io .shortRead) := by
  rw [unframe_magic_version, readExact_of_lt h]
  rfl

/-- What is read behind the header, once the length has been found to fit. -/
def openBody (n : Nat) (body : Bytes) : Except StoreError Bytes := do
  let (payload, rest) ← readExact n body
  let (checksums, _) ← readExact checksumLength rest
  let expected := UInt32.ofNat (Bytes.toNatLE checksums)
  let got := Crc32.checksum payload
  if expected ≠ got then throw (.checksumMismatch expected got)
  return payload

/-- **Behind a sound header** the length is compared first, and no payload is read before. -/
theorem unframe_header (n : UInt64) (body : Bytes) :
    unframe (header n ++ body)
      = if body.length - checksumLength < n.toNat then .error (.invalidFormat .lengthExceedsFile)
        else openBody n.toNat body := by
  have hlengths : readExact 8 (Bytes.littleEndian 8 n.toNat ++ body)
      = .ok (Bytes.littleEndian 8 n.toNat, body) := readExact_append (Bytes.length_littleEndian _ _) _
  have hn : Bytes.toNatLE (Bytes.littleEndian 8 n.toNat) = n.toNat :=
    Bytes.toNatLE_littleEndian n.toNat_lt
  have hsize := length_header_append_sub n body
  rw [header_append] at hsize ⊢
  rw [unframe_magic_version, hlengths, hsize]
  simp only [bind, Except.bind, hn]
  split
  · rfl
  · rfl

/-- A body that ends before its checksum does. -/
theorem openBody_of_cut {n : Nat} {body : Bytes} (hpayload : n ≤ body.length)
    (h : body.length < n + checksumLength) : openBody n body = .error (.io .shortRead) := by
  obtain ⟨payload, rest, hlength, rfl⟩ := Bytes.exists_front hpayload
  have hshort : rest.length < checksumLength := by
    rw [List.length_append, hlength] at h
    omega
  rw [openBody, readExact_append hlength]
  simp only [bind, Except.bind, readExact_of_lt hshort]

/-- A body in which nothing is missing; what stands behind its checksum does not count. -/
theorem openBody_append {n : Nat} {payload : Bytes} (hlength : payload.length = n) (sum : UInt32)
    (rest : Bytes) : openBody n (payload ++ (trailer sum ++ rest))
      = if sum ≠ Crc32.checksum payload then
          .error (.checksumMismatch sum (Crc32.checksum payload))
        else .ok payload := by
  have hsum : UInt32.ofNat (Bytes.toNatLE (trailer sum)) = sum := by
    rw [trailer, Bytes.toNatLE_littleEndian sum.toNat_lt, UInt32.ofNat_toNat]
  rw [openBody, readExact_append hlength]
  simp only [bind, Except.bind, readExact_append (length_trailer sum), hsum]
  split
  · rfl
  · rfl

theorem unframe_pieces {n : UInt64} {payload : Bytes} (hlength : payload.length = n.toNat)
    (sum : UInt32) (rest : Bytes) : unframe (header n ++ payload ++ trailer sum ++ rest)
      = if sum ≠ Crc32.checksum payload then
          .error (.checksumMismatch sum (Crc32.checksum payload))
        else .ok payload := by
  have hroom : ¬ (payload ++ (trailer sum ++ rest)).length - checksumLength < n.toNat := by
    simp only [List.length_append, length_trailer, hlength]
    omega
  rw [List.append_assoc, List.append_assoc, unframe_header, if_neg hroom,
    openBody_append hlength]

theorem decode_of_unframe_eq_error {file : Bytes} {e : StoreError} (h : unframe file = .error e) :
    decode file = .error e := by
  rw [decode, h]

/-- The table of a file whose frame is sound, or why its payload is none. -/
theorem decode_pieces {n : UInt64} {payload : Bytes} (hlength : payload.length = n.toNat)
    (rest : Bytes) : decode (header n ++ payload ++ trailer (Crc32.checksum payload) ++ rest)
      = (Metadata.decodeTable payload).mapError fun fault => .deserialization fault.message := by
  rw [decode, unframe_pieces hlength, if_neg fun h => h rfl]
  dsimp only
  cases Metadata.decodeTable payload with
  | error fault => rfl
  | ok t => rfl

/-! ## 4. Every file ends somewhere -/

theorem FirstFault.decode_eq {file : Bytes} {e : StoreError} (h : FirstFault file e) :
    decode file = .error e := by
  cases h with
  | magicCut h => exact decode_of_unframe_eq_error (unframe_of_magicCut h)
  | magicWrong hlength h => exact decode_of_unframe_eq_error (unframe_of_magicWrong hlength h)
  | versionCut => exact decode_of_unframe_eq_error unframe_of_versionCut
  | versionWrong rest h => exact decode_of_unframe_eq_error (unframe_of_versionWrong rest h)
  | lengthCut h => exact decode_of_unframe_eq_error (unframe_of_lengthCut h)
  | lengthExceeds h =>
    rw [length_header_append_sub] at h
    apply decode_of_unframe_eq_error
    rw [unframe_header, if_pos h]
  | @checksumCut body h =>
    rw [List.length_append, length_header] at h
    have hcut : body.length < 0 + checksumLength := by omega
    apply decode_of_unframe_eq_error
    rw [unframe_header, UInt64.toNat_zero, if_neg (Nat.not_lt_zero _)]
    exact openBody_of_cut (Nat.zero_le _) hcut
  | checksumWrong rest hlength h =>
    apply decode_of_unframe_eq_error
    rw [unframe_pieces hlength, if_pos h]
  | payloadWrong rest hlength h =>
    rw [decode_pieces hlength, h]
    rfl

/-- The files that a table is read from. -/
def Reads (file : Bytes) (t : Table String Metadata) : Prop :=
  ∃ (n : UInt64) (payload rest : Bytes),
    file = header n ++ payload ++ trailer (Crc32.checksum payload) ++ rest
      ∧ payload.length = n.toNat ∧ Metadata.decodeTable payload = .ok t

theorem Reads.decode_eq {file : Bytes} {t : Table String Metadata} (h : Reads file t) :
    decode file = .ok t := by
  obtain ⟨n, payload, rest, rfl, hlength, ht⟩ := h
  rw [decode_pieces hlength, ht]
  rfl

/-- Behind a sound header. -/
theorem judged_header (n : UInt64) (body : Bytes) :
    (∃ t, Reads (header n ++ body) t) ∨ ∃ e, FirstFault (header n ++ body) e := by
  by_cases hroom : (header n ++ body).length - (headerLength + checksumLength) < n.toNat
  · exact .inr ⟨_, .lengthExceeds hroom⟩
  by_cases hshort : (header n ++ body).length < headerLength + checksumLength
  · have hn : n = 0 := UInt64.toNat_inj.mp (by rw [UInt64.toNat_zero]; omega)
    subst hn
    exact .inr ⟨_, .checksumCut hshort⟩
  -- from here on nothing is missing
  rw [List.length_append, length_header] at hroom hshort
  obtain ⟨payload, body, hlength, rfl⟩ := Bytes.exists_front (b := body) (n := n.toNat) (by omega)
  obtain ⟨checksums, rest, hchecksums, rfl⟩ :=
    Bytes.exists_front (b := body) (n := checksumLength) (by
      rw [List.length_append] at hroom hshort
      omega)
  obtain ⟨sum, rfl⟩ := exists_trailer_eq hchecksums
  rw [← List.append_assoc, ← List.append_assoc]
  by_cases hsum : sum = Crc32.checksum payload
  · subst hsum
    cases ht : Metadata.decodeTable payload with
    | error fault => exact .inr ⟨_, .payloadWrong rest hlength ht⟩
    | ok t => exact .inl ⟨t, n, payload, rest, rfl, hlength, ht⟩
  · exact .inr ⟨_, .checksumWrong rest hlength hsum⟩

/-- **Every file is read, or ends at one of the faults.** -/
theorem judged (file : Bytes) : (∃ t, Reads file t) ∨ ∃ e, FirstFault file e := by
  by_cases hmagic : file.length < 4
  · exact .inr ⟨_, .magicCut hmagic⟩
  obtain ⟨start, behind, hstart, rfl⟩ := Bytes.exists_front (Nat.le_of_not_lt hmagic)
  by_cases hwrong : start ≠ magic
  · exact .inr ⟨_, .magicWrong hstart hwrong⟩
  obtain rfl := Decidable.not_not.mp hwrong
  cases behind with
  | nil => exact .inr ⟨_, by rw [List.append_nil]; exact .versionCut⟩
  | cons v behind =>
    by_cases hwrong : v ≠ version
    · exact .inr ⟨_, .versionWrong behind hwrong⟩
    obtain rfl := Decidable.not_not.mp hwrong
    by_cases hlengths : behind.length < 8
    · exact .inr ⟨_, .lengthCut hlengths⟩
    obtain ⟨lengths, body, hlength, rfl⟩ := Bytes.exists_front (Nat.le_of_not_lt hlengths)
    obtain ⟨n, rfl⟩ := Bytes.exists_length_eq hlength
    rw [← header_append]
    exact judged_header n body

theorem decode_eq_ok_iff_reads {file : Bytes} {t : Table String Metadata} :
    decode file = .ok t ↔ Reads file t := by
  refine ⟨fun h => ?_, Reads.decode_eq⟩
  rcases judged file with ⟨t', hreads⟩ | ⟨e, hfault⟩
  · cases h.symm.trans hreads.decode_eq
    exact hreads
  · cases h.symm.trans hfault.decode_eq

theorem decode_eq_error_iff {file : Bytes} {e : StoreError} :
    decode file = .error e ↔ FirstFault file e := by
  refine ⟨fun h => ?_, FirstFault.decode_eq⟩
  rcases judged file with ⟨t, hreads⟩ | ⟨e', hfault⟩
  · cases h.symm.trans hreads.decode_eq
  · cases h.symm.trans hfault.decode_eq
    exact hfault

/-- What was written is read, whatever was put behind it. -/
theorem reads_encode {t : Table String Metadata} (h : Fits t) (rest : Bytes) :
    Reads (encode t ++ rest) t.sort := by
  have hlength := UInt64.toNat_ofNat_of_lt' h.payload
  refine ⟨UInt64.ofNat (Metadata.encodeTable t).length, Metadata.encodeTable t, rest, ?_,
    hlength.symm, Metadata.decodeTable_encodeTable h.rows h.row⟩
  rw [header, hlength]
  simp [encode, frame, parts, trailer]

/-- What stands behind the checksum makes no difference, not even to the error. -/
theorem decode_append_rest {n : UInt64} {payload checksums : Bytes}
    (hlength : payload.length = n.toNat) (hchecksums : checksums.length = checksumLength)
    (rest : Bytes) : decode (header n ++ payload ++ checksums ++ rest)
      = decode (header n ++ payload ++ checksums) := by
  obtain ⟨sum, rfl⟩ := exists_trailer_eq hchecksums
  have halone := unframe_pieces hlength sum []
  rw [List.append_nil] at halone
  rw [decode, decode, unframe_pieces hlength, halone]

/-! ## 5. Room for the payload -/

section

variable {n : UInt64} {body : Bytes}
  (hroom : n.toNat ≤ (header n ++ body).length - (headerLength + checksumLength))
include hroom

/-- No more is asked for than there is in the file. -/
theorem payload_le_file : n.toNat ≤ (header n ++ body).length :=
  Nat.le_trans hroom (Nat.sub_le _ _)

/-- Payload and checksum are there. -/
theorem readExact_body (hlong : headerLength + checksumLength ≤ (header n ++ body).length) :
    ∃ payload checksums rest, readExact n.toNat body = .ok (payload, checksums ++ rest)
      ∧ readExact checksumLength (checksums ++ rest) = .ok (checksums, rest) := by
  rw [List.length_append, length_header] at hroom hlong
  obtain ⟨payload, body, hlength, rfl⟩ := Bytes.exists_front (b := body) (n := n.toNat) (by omega)
  rw [List.length_append] at hroom hlong
  obtain ⟨checksums, rest, hchecksums, rfl⟩ :=
    Bytes.exists_front (b := body) (n := checksumLength) (by omega)
  exact ⟨payload, checksums, rest, readExact_append hlength _, readExact_append hchecksums _⟩

end

/-- A file with room for header and checksum does not end early. -/
theorem FirstFault.ne_io {file : Bytes} {fault : IoFault}
    (hlong : headerLength + checksumLength ≤ file.length) : ¬ FirstFault file (.io fault) := by
  intro h
  have hseventeen : headerLength + checksumLength = 17 := rfl
  rw [hseventeen] at hlong
  cases h with
  | magicCut h => omega
  | versionCut => exact absurd hlong (by decide)
  | lengthCut h =>
    simp only [magic, List.length_append, List.length_cons, List.length_nil] at hlong
    omega
  | checksumCut h => omega

end Snapshot

/-! ## 6. The data file of a directory -/

namespace FileStore

open Snapshot (FirstFault Reads checksumLength header headerLength readExact)

theorem readSnapshot_of_read {route : Route} {directory : Place} {d : Disk} {file : Bytes}
    (hshort : (route.child dataFile).isTooLong = false)
    (hfile : d.read (directory ++ [dataFile]) = .ok file) :
    readSnapshot route directory d = Snapshot.decode file := by
  have hexists : d.exists? (directory ++ [dataFile]) = true := by
    rw [Disk.exists?]
    rw [Disk.read] at hfile
    split at hfile
    · cases hfile
    · cases hfile
    · rename_i hnode
      rw [hnode]
  simp [readSnapshot, hshort, hexists, hfile]

/-- **A data file is read exactly if it is a frame around a table**, whatever stands behind the
frame, and only with rows that are let in; else the error is that of the first check that fails.
A length for which there is no room is refused before anything is read for it, and with room for
header and checksum nothing that is asked for after that is missing. -/
theorem data_file_judged {route : Route} {directory : Place} {d : Disk} {file : Bytes}
    (hshort : (route.child dataFile).isTooLong = false)
    (hfile : d.read (directory ++ [dataFile]) = .ok file) :
    (∀ t, readSnapshot route directory d = .ok t ↔ Reads file t)
      ∧ (∀ t, readSnapshot route directory d = .ok t → t.All fun _ m => m.Valid)
      ∧ (∀ e, readSnapshot route directory d = .error e ↔ FirstFault file e)
      ∧ (∀ (n : UInt64) (payload checksums rest : Bytes),
          file = header n ++ payload ++ checksums ++ rest → payload.length = n.toNat →
          checksums.length = checksumLength →
            readSnapshot route directory d = Snapshot.decode (header n ++ payload ++ checksums))
      ∧ ∀ (n : UInt64) (body : Bytes), file = header n ++ body →
          n.toNat ≤ file.length - (headerLength + checksumLength) →
            n.toNat ≤ file.length
              ∧ (headerLength + checksumLength ≤ file.length →
                (∃ payload checksums rest, readExact n.toNat body = .ok (payload, checksums ++ rest)
                  ∧ readExact checksumLength (checksums ++ rest) = .ok (checksums, rest))
                ∧ ∀ fault, readSnapshot route directory d ≠ .error (.io fault)) := by
  rw [readSnapshot_of_read hshort hfile]
  refine ⟨fun t => Snapshot.decode_eq_ok_iff_reads, fun t h => ?_,
    fun e => Snapshot.decode_eq_error_iff, ?_, ?_⟩
  · obtain ⟨n, payload, rest, -, -, ht⟩ := Snapshot.decode_eq_ok_iff_reads.mp h
    exact Metadata.all_valid_decodeTable ht
  · rintro n payload checksums rest rfl hlength hchecksums
    exact Snapshot.decode_append_rest hlength hchecksums rest
  · rintro n body rfl hroom
    refine ⟨Snapshot.payload_le_file hroom, fun hlong =>
      ⟨Snapshot.readExact_body hroom hlong, fun fault h => ?_⟩⟩
    exact FirstFault.ne_io hlong (Snapshot.decode_eq_error_iff.mp h)

namespace Demo

/-- A directory with a snapshot in its data file, and one more byte behind it. -/
def padded : Disk :=
  ⟨⟨[(["subs"], .directory), (["subs", "subscriptions.bin"],
    .file 0 (Snapshot.encode Snapshot.pair ++ [0xFF]))], by decide⟩, [], 1⟩

theorem read_padded :
    padded.read (["subs"] ++ [dataFile]) = .ok (Snapshot.encode Snapshot.pair ++ [0xFF]) := rfl

end Demo

/-- The byte behind the snapshot does not keep it from being read. -/
theorem data_file_judged_padded :
    ((Route.ofString "subs").child dataFile).isTooLong = false
      ∧ Demo.padded.read (["subs"] ++ [dataFile])
        = .ok (Snapshot.encode Snapshot.pair ++ [0xFF])
      ∧ readSnapshot (Route.ofString "subs") ["subs"] Demo.padded = .ok Snapshot.pair.sort := by
  have hshort : ((Route.ofString "subs").child dataFile).isTooLong = false := rfl
  have hjudged := data_file_judged hshort Demo.read_padded
  exact ⟨hshort, Demo.read_padded,
    (hjudged.1 _).mpr (Snapshot.reads_encode Snapshot.fits_pair [0xFF])⟩

end FileStore
end SubscriptionRegistry

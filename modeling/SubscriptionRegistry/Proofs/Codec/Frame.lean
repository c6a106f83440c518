/-
# Snapshots, written and read

The frame of a snapshot counts its payload and sums it up.  Reading takes the frame apart again
and then reads the table in the payload.

* `unframe_eq_ok_iff`: the files in whose frame a payload is found.
* `encode_lossless`: the snapshot of a table is read back as that table.
-/
import SubscriptionRegistry.Proofs.Codec.Rows
import SubscriptionRegistry.Snapshot

namespace SubscriptionRegistry
namespace Snapshot

/-! ## 1. The frame -/

theorem readExact_eq_ok_iff {n : Nat} {b front rest : Bytes} :
    readExact n b = .ok (front, rest) ↔ b = front ++ rest ∧ front.length = n := by
  rw [← Bytes.split?_eq_some_iff]
  unfold readExact
  split <;> simp_all

/-- A file in pieces: a payload between the length and the checksum that are told of it, and
what stands behind. -/
structure Framed (file lengths payload checksums rest : Bytes) : Prop where
  file_eq : file = magic ++ ([version] ++ (lengths ++ (payload ++ (checksums ++ rest))))
  length_lengths : lengths.length = 8
  toNatLE_lengths : Bytes.toNatLE lengths = payload.length
  length_checksums : checksums.length = 4
  ofNat_checksums : UInt32.ofNat (Bytes.toNatLE checksums) = Crc32.checksum payload

theorem Framed.length_eq {file lengths payload checksums rest : Bytes}
    (h : Framed file lengths payload checksums rest) :
    file.length = headerLength + checksumLength + payload.length + rest.length := by
  rw [h.file_eq]
  simp only [List.length_append, h.length_lengths, h.length_checksums, magic, List.length_cons,
    List.length_nil, headerLength, checksumLength]
  omega

/-- **A payload is found exactly in a sound frame around it.**  The check against the length of
the file lets every sound frame through. -/
theorem unframe_eq_ok_iff {file payload : Bytes} :
    unframe file = .ok payload
      ↔ ∃ lengths checksums rest, Framed file lengths payload checksums rest := by
  unfold unframe
  simp only [bind_eq_ok_iff, guard_eq_ok_iff, Prod.exists, readExact_eq_ok_iff, ne_eq,
    Decidable.not_not]
  constructor
  · rintro ⟨_, _, ⟨rfl, -⟩, rfl, _, _, ⟨rfl, -⟩, rfl, lengths, _, ⟨rfl, hlengths⟩, -, _, _,
      ⟨rfl, hpayload⟩, checksums, rest, ⟨rfl, hchecksums⟩, hsum, hpure⟩
    cases hpure
    exact ⟨lengths, checksums, rest, rfl, hlengths, hpayload.symm, hchecksums, hsum⟩
  · rintro ⟨lengths, checksums, rest, h⟩
    have hroom : ¬ file.length - (headerLength + checksumLength) < Bytes.toNatLE lengths := by
      rw [h.length_eq, h.toNatLE_lengths]
      omega
    exact ⟨magic, _, ⟨h.file_eq, rfl⟩, rfl, [version], _, ⟨rfl, rfl⟩, rfl, lengths, _,
      ⟨rfl, h.length_lengths⟩, hroom, payload, _, ⟨rfl, h.toNatLE_lengths.symm⟩, checksums, rest,
      ⟨rfl, h.length_checksums⟩, h.ofNat_checksums, rfl⟩

/-- The frame that is written is sound, and nothing stands behind it. -/
theorem framed_frame {payload : Bytes} (h : payload.length < UInt64.size) :
    Framed (frame payload) (Bytes.littleEndian 8 payload.length) payload
      (Bytes.littleEndian checksumLength (Crc32.checksum payload).toNat) [] where
  file_eq := by simp [frame, parts]
  length_lengths := Bytes.length_littleEndian 8 payload.length
  toNatLE_lengths := Bytes.toNatLE_littleEndian h
  length_checksums := Bytes.length_littleEndian checksumLength _
  ofNat_checksums := by
    rw [Bytes.toNatLE_littleEndian (UInt32.toNat_lt_size _), UInt32.ofNat_toNat]

/-! ## 2. The table -/

/-- A table that a snapshot has room for. -/
structure Room (t : Table String Metadata) : Prop where
  /-- The head of a map counts up to 2^32 - 1 rows. -/
  rows : t.size < UInt32.size
  /-- Eight bytes count the payload, as they count everything that fits into memory. -/
  payload : (Metadata.encodeTable t).length < UInt64.size

/-- A table that can be written, and whose rows pass the checks of reading. -/
structure Fits (t : Table String Metadata) : Prop extends Room t where
  row : t.All Metadata.Fits

section

variable {t u : Table String Metadata} (htu : t.get? = u.get?)
include htu

theorem encode_congr : encode t = encode u := by
  rw [encode, encode, Metadata.encodeTable_congr htu]

theorem Room.congr (h : Room t) : Room u :=
  ⟨Table.size_congr htu ▸ h.rows, Metadata.encodeTable_congr htu ▸ h.payload⟩

theorem Fits.congr (h : Fits t) : Fits u := ⟨h.toRoom.congr htu, h.row.congr htu⟩

end

theorem decode_eq_ok_iff {file : Bytes} {t : Table String Metadata} :
    decode file = .ok t ↔ ∃ payload, unframe file = .ok payload
      ∧ Metadata.decodeTable payload = .ok t := by
  unfold decode
  constructor
  · intro h
    split at h
    · cases h
    · rename_i payload hpayload
      split at h
      · cases h
      · rename_i hread
        cases h
        exact ⟨payload, hpayload, hread⟩
  · rintro ⟨payload, hpayload, hread⟩
    rw [hpayload]
    dsimp only
    rw [hread]

theorem decode_encode {t : Table String Metadata} (h : Fits t) : decode (encode t) = .ok t.sort :=
  decode_eq_ok_iff.mpr ⟨Metadata.encodeTable t,
    unframe_eq_ok_iff.mpr ⟨_, _, _, framed_frame h.payload⟩,
    Metadata.decodeTable_encodeTable h.rows h.row⟩

/-- **What was written is read back**: the same rows, none lost, merged or altered, and the same
value under every key. -/
theorem encode_lossless {t : Table String Metadata} (h : Fits t) :
    ∃ u, decode (encode t) = .ok u ∧ u.rows.Perm t.rows ∧ u.get? = t.get? :=
  ⟨t.sort, decode_encode h, t.perm_sorted, t.get?_sort⟩

/-- Two subscriptions, not in the order of their keys. -/
def pair : Table String Metadata :=
  ⟨[("b", ⟨"b", "A", "f", "bus:/in"⟩), ("a", ⟨"a", "B", "é", "bus:/out"⟩)], by decide⟩

theorem fits_pair : Fits pair := by
  have hpayload : (Metadata.encodeTable pair).length < UInt64.size := by
    rw [Metadata.length_encodeTable]
    decide +kernel
  refine ⟨⟨by decide, hpayload⟩, fun key m hm => ?_⟩
  have hrow : (key, m) ∈ pair.rows := Table.get?_eq_some_iff.mp hm
  simp only [pair, List.mem_cons, List.not_mem_nil, or_false, Prod.mk.injEq] at hrow
  rcases hrow with ⟨rfl, rfl⟩ | ⟨rfl, rfl⟩
  · exact ⟨by decide, ⟨by decide, by decide, by decide, by decide, rfl⟩,
      by decide, by decide, by decide, by decide⟩
  · exact ⟨by decide, ⟨by decide, by decide, by decide, by decide, rfl⟩,
      by decide, by decide, by decide, by decide⟩

theorem encode_lossless_pair : Fits pair ∧
    ∃ u, decode (encode pair) = .ok u ∧ u.rows.Perm pair.rows ∧ u.get? = pair.get? :=
  ⟨fits_pair, encode_lossless fits_pair⟩

end Snapshot
end SubscriptionRegistry

/-
# Damaged snapshots

A snapshot that was cut short, or one byte of which was changed, is not read: not as the table
that was written, and not as another.

* Where the bytes of the length are whole, the frame has one place only for the payload.  A file
  that was cut short is then too short, and a change in payload or checksum shows in the
  checksum.
* Where one of them is not, the payload that they count may be shorter than the one that was
  written, and the four bytes behind it may happen to be its checksum.  But it is a strict
  prefix of the payload, and no strict prefix of a table is a table.

* `Framed.payload_of_differOnce`: the two cases.
* `damage_detected`: a damaged snapshot is not read, and no store is opened over it.
-/
import SubscriptionRegistry.Proofs.Codec.Frame
import SubscriptionRegistry.Proofs.File.Opening

namespace SubscriptionRegistry
namespace Snapshot

/-! ## 1. Damage -/

/-- What may have become of a file: a file that differs from it. -/
inductive Damage : Bytes → Bytes → Prop
  /-- The end is missing. -/
  | cut (front : Bytes) {missing : Bytes} (h : missing ≠ []) : Damage (front ++ missing) front
  /-- One byte is another. -/
  | change {whole file : Bytes} (h : Bytes.DifferOnce whole file) : Damage whole file

/-! ## 2. Frames that are still sound -/

section

variable {file lengths payload checksums rest : Bytes}

/-- A sound frame that goes on is a sound frame with the same payload. -/
theorem Framed.append (h : Framed file lengths payload checksums rest) (more : Bytes) :
    Framed (file ++ more) lengths payload checksums (rest ++ more) where
  file_eq := by simp only [h.file_eq, List.append_assoc]
  length_lengths := h.length_lengths
  toNatLE_lengths := h.toNatLE_lengths
  length_checksums := h.length_checksums
  ofNat_checksums := h.ofNat_checksums

/-- There is one way to take a file apart. -/
theorem Framed.rest_unique {lengths' payload' checksums' rest' : Bytes}
    (h : Framed file lengths payload checksums rest)
    (h' : Framed file lengths' payload' checksums' rest') : rest = rest' := by
  have heq := h.file_eq.symm.trans h'.file_eq
  rw [List.append_cancel_left_eq, List.append_cancel_left_eq] at heq
  obtain ⟨rfl, hbehind⟩ := List.append_inj heq (h.length_lengths.trans h'.length_lengths.symm)
  obtain ⟨-, hbehind⟩ :=
    List.append_inj hbehind (h.toNatLE_lengths.symm.trans h'.toNatLE_lengths)
  exact (List.append_inj hbehind (h.length_checksums.trans h'.length_checksums.symm)).2

/-- Nothing is read from a whole file that was cut short. -/
theorem Framed.not_cut {front missing lengths' payload' checksums' rest' : Bytes}
    (h : Framed (front ++ missing) lengths payload checksums []) (hm : missing ≠ []) :
    ¬ Framed front lengths' payload' checksums' rest' := by
  intro h'
  have hrest := h.rest_unique (h'.append missing)
  exact hm (List.append_eq_nil_iff.mp hrest.symm).2

/-- Different checksums that are written are different checksums. -/
theorem ofNat_toNatLE_inj {a b : Bytes} (ha : a.length = 4) (hb : b.length = 4)
    (h : UInt32.ofNat (Bytes.toNatLE a) = UInt32.ofNat (Bytes.toNatLE b)) : a = b := by
  have hlt : ∀ {c : Bytes}, c.length = 4 → Bytes.toNatLE c < UInt32.size := by
    intro c hc
    have hbound := Bytes.toNatLE_lt c
    rw [hc] at hbound
    exact hbound
  have hnat := congrArg UInt32.toNat h
  rw [UInt32.toNat_ofNat_of_lt' (hlt ha), UInt32.toNat_ofNat_of_lt' (hlt hb)] at hnat
  exact (Bytes.toNatLE_inj (ha.trans hb.symm)).mp hnat

/-- The checksum tells of a change of one byte. -/
theorem checksum_ne {s t : Bytes} (h : Bytes.DifferOnce s t) :
    Crc32.checksum s ≠ Crc32.checksum t := by
  obtain ⟨front, a, b, back, hab, rfl, rfl⟩ := h
  exact fun heq => hab (Crc32.checksum_change_inj.mp heq)

/-- **A frame in which one byte was changed and which is sound all the same**: the byte is one
of the length, and the payload that is found is the beginning of the payload that was there. -/
theorem Framed.payload_of_differOnce {file' lengths' payload' checksums' rest' : Bytes}
    (h : Framed file lengths payload checksums [])
    (h' : Framed file' lengths' payload' checksums' rest') (hd : Bytes.DifferOnce file file') :
    ∃ n, n < payload.length ∧ payload' = payload.take n := by
  have hlength : payload.length = payload'.length + rest'.length := by
    have heq := hd.length_eq
    rw [h.length_eq, h'.length_eq, List.length_nil] at heq
    omega
  rw [h.file_eq, h'.file_eq] at hd
  rcases hd.append_cases rfl with ⟨hmagic, -⟩ | ⟨-, hd⟩
  · exact absurd rfl hmagic.ne
  rcases hd.append_cases rfl with ⟨hversion, -⟩ | ⟨-, hd⟩
  · exact absurd rfl hversion.ne
  rcases hd.append_cases (h.length_lengths.trans h'.length_lengths.symm) with
    ⟨hlengths, heq⟩ | ⟨rfl, hbehind⟩
  · -- the length is wrong: it can only be too small
    have hne : payload.length ≠ payload'.length := by
      rw [← h.toNatLE_lengths, ← h'.toNatLE_lengths, ne_eq,
        Bytes.toNatLE_inj (h.length_lengths.trans h'.length_lengths.symm)]
      exact hlengths.ne
    refine ⟨payload'.length, by omega, ?_⟩
    have htake := congrArg (List.take payload'.length) heq
    rw [List.take_append_of_le_length (by omega), List.take_left] at htake
    exact htake.symm
  · -- the length is right: what it counts is as long as before
    have hpayload : payload.length = payload'.length :=
      h.toNatLE_lengths.symm.trans h'.toNatLE_lengths
    have hrest : rest' = [] := List.eq_nil_of_length_eq_zero (by omega)
    subst hrest
    rw [List.append_nil, List.append_nil] at hbehind
    exfalso
    rcases hbehind.append_cases hpayload with ⟨hbyte, rfl⟩ | ⟨rfl, hbyte⟩
    · exact checksum_ne hbyte (h.ofNat_checksums.symm.trans h'.ofNat_checksums)
    · exact hbyte.ne (ofNat_toNatLE_inj h.length_checksums h'.length_checksums
        (h.ofNat_checksums.trans h'.ofNat_checksums.symm))

end

/-! ## 3. Files -/

/-- **No table is read from a damaged snapshot.** -/
theorem decode_ne_ok_of_damage {t : Table String Metadata} (hfits : Fits t) {file : Bytes}
    (h : Damage (encode t) file) (u : Table String Metadata) : decode file ≠ .ok u := by
  intro hread
  obtain ⟨payload, hunframe, htable⟩ := decode_eq_ok_iff.mp hread
  obtain ⟨lengths, checksums, rest, hframed⟩ := unframe_eq_ok_iff.mp hunframe
  have hwhole := framed_frame hfits.payload
  rw [← encode] at hwhole
  generalize encode t = whole at h hwhole
  cases h with
  | cut front hmissing => exact hwhole.not_cut hmissing hframed
  | change hd =>
    obtain ⟨n, hn, rfl⟩ := hwhole.payload_of_differOnce hframed hd
    exact Metadata.decodeTable_take hfits.rows hfits.row hn u htable

/-- **Damage is detected**, wherever it is: the file ends in an error when it is read, and when a
directory is opened whose data file it is. -/
theorem damage_detected {t : Table String Metadata} (hfits : Fits t) {file : Bytes}
    (h : Damage (encode t) file) : (∃ e, decode file = .error e)
      ∧ ∀ (config : FileConfig) (dev : Device),
        dev.disk.readAt ((Route.ofString config.path).child FileStore.dataFile) = .ok file →
          ∃ e, (FileStore.open config dev).1 = .error e := by
  have hread : ∃ e, decode file = .error e := by
    cases hdecode : decode file with
    | error e => exact ⟨e, rfl⟩
    | ok u => exact absurd hdecode (decode_ne_ok_of_damage hfits h u)
  refine ⟨hread, fun config dev hfile => ?_⟩
  obtain ⟨e, hdecode⟩ := hread
  exact FileStore.open_of_decode_error hfile hdecode

/-- The snapshot of `pair` with its first byte changed. -/
theorem damage_detected_pair : Fits pair ∧ Damage (encode pair) (0x54 :: (encode pair).tail)
    ∧ (∃ e, decode (0x54 :: (encode pair).tail) = .error e)
    ∧ ∀ (config : FileConfig) (dev : Device),
      dev.disk.readAt ((Route.ofString config.path).child FileStore.dataFile)
          = .ok (0x54 :: (encode pair).tail) →
        ∃ e, (FileStore.open config dev).1 = .error e := by
  have hdamage : Damage (encode pair) (0x54 :: (encode pair).tail) :=
    .change ⟨[], 0x53, 0x54, (encode pair).tail, by decide, rfl, rfl⟩
  exact ⟨fits_pair, hdamage, damage_detected fits_pair hdamage⟩

end Snapshot
end SubscriptionRegistry

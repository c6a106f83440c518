/-
# CRC-32

The checksum of a byte sequence: the remainder of division by a fixed polynomial over two
elements, lowest bit first, with all bits of start and result inverted.

* `checksum`: the checksum.
* `checksum_change_inj`: no change of a single byte goes unnoticed.
-/

namespace SubscriptionRegistry
namespace Crc32

/-! ## 1. The remainder -/

/-- The polynomial without its leading term, lowest bit first. -/
def polynomial : UInt32 := 0xEDB88320

/-- The remainder after one more bit. -/
def shift (c : UInt32) : UInt32 :=
  if c % 2 = 1 then (c >>> 1) ^^^ polynomial else c >>> 1

/-- The remainder after one more byte. -/
def step (c : UInt32) (b : UInt8) : UInt32 :=
  shift (shift (shift (shift (shift (shift (shift (shift (c ^^^ b.toUInt32))))))))

/-- The remainder after all bytes. -/
def remainder (c : UInt32) (bytes : List UInt8) : UInt32 := bytes.foldl step c

/-- The checksum. -/
def checksum (bytes : List UInt8) : UInt32 := remainder 0xFFFFFFFF bytes ^^^ 0xFFFFFFFF

/-! ## 2. A change of one byte -/

theorem toNat_half (c : UInt32) : (c >>> 1).toNat = c.toNat / 2 := by
  rw [UInt32.toNat_shiftRight, Nat.shiftRight_eq_div_pow]
  rfl

theorem odd_iff {c : UInt32} : c % 2 = 1 ↔ c.toNat % 2 = 1 := by
  rw [← UInt32.toNat_inj, UInt32.toNat_mod]
  rfl

/-- The rest of the number and its lowest bit make up the number. -/
theorem eq_of_half {c d : UInt32} (h : c >>> 1 = d >>> 1) (hodd : c % 2 = 1 ↔ d % 2 = 1) :
    c = d := by
  have hhalf : c.toNat / 2 = d.toNat / 2 := by rw [← toNat_half, ← toNat_half, h]
  rw [odd_iff, odd_iff] at hodd
  apply UInt32.toNat_inj.mp
  omega

/-- The highest bit of a remainder tells whether the polynomial was taken away. -/
theorem half_ne {c d : UInt32} : (c >>> 1) ^^^ polynomial ≠ d >>> 1 := by
  intro h
  have hclear : ∀ e : UInt32, (e >>> 1).toNat.testBit 31 = false := by
    intro e
    rw [toNat_half]
    apply Nat.testBit_lt_two_pow
    have := e.toNat_lt
    omega
  have hbit := congrArg (fun e : UInt32 => e.toNat.testBit 31) h
  simp only [UInt32.toNat_xor, Nat.testBit_xor, hclear] at hbit
  exact absurd hbit (by decide)

theorem shift_inj {c d : UInt32} : shift c = shift d ↔ c = d := by
  refine ⟨fun h => ?_, congrArg shift⟩
  unfold shift at h
  by_cases hc : c % 2 = 1
  · by_cases hd : d % 2 = 1
    · rw [if_pos hc, if_pos hd, UInt32.xor_left_inj] at h
      exact eq_of_half h (iff_of_true hc hd)
    · rw [if_pos hc, if_neg hd] at h
      exact absurd h half_ne
  · by_cases hd : d % 2 = 1
    · rw [if_neg hc, if_pos hd] at h
      exact absurd h.symm half_ne
    · rw [if_neg hc, if_neg hd] at h
      exact eq_of_half h (iff_of_false hc hd)

theorem step_inj_left {c d : UInt32} {b : UInt8} : step c b = step d b ↔ c = d := by
  simp only [step, shift_inj, UInt32.xor_left_inj]

theorem step_inj_right {c : UInt32} {a b : UInt8} : step c a = step c b ↔ a = b := by
  simp only [step, shift_inj, UInt32.xor_right_inj, UInt8.toUInt32_inj]

theorem remainder_cons (c : UInt32) (b : UInt8) (rest : List UInt8) :
    remainder c (b :: rest) = remainder (step c b) rest := by
  rw [remainder, remainder, List.foldl_cons]

theorem remainder_append (c : UInt32) (front back : List UInt8) :
    remainder c (front ++ back) = remainder (remainder c front) back :=
  List.foldl_append

theorem remainder_inj {c d : UInt32} {bytes : List UInt8} :
    remainder c bytes = remainder d bytes ↔ c = d := by
  induction bytes generalizing c d with
  | nil => rfl
  | cons b rest ih => rw [remainder_cons, remainder_cons, ih, step_inj_left]

/-- **The checksum tells of every change of one byte**, wherever it is and however long the
sequence. -/
theorem checksum_change_inj {front back : List UInt8} {a b : UInt8} :
    checksum (front ++ a :: back) = checksum (front ++ b :: back) ↔ a = b := by
  rw [checksum, checksum, UInt32.xor_left_inj, remainder_append, remainder_append,
    remainder_cons, remainder_cons, remainder_inj, step_inj_right]

end Crc32
end SubscriptionRegistry

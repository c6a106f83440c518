/-
# Byte sequences

Numbers in a fixed number of bytes, cutting a sequence at a given length, and sequences that
differ in a single byte.
-/

namespace SubscriptionRegistry

/-- A byte sequence. -/
abbrev Bytes := List UInt8

namespace Bytes

/-- The first `n` bytes and the rest, if there are so many. -/
def split? : Nat → Bytes → Option (Bytes × Bytes)
  | 0, bytes => some ([], bytes)
  | _ + 1, [] => none
  | n + 1, b :: bytes =>
    match split? n bytes with
    | none => none
    | some (front, rest) => some (b :: front, rest)

theorem split?_append (front rest : Bytes) :
    split? front.length (front ++ rest) = some (front, rest) := by
  induction front with
  | nil => rfl
  | cons b front ih => simp [split?, ih]

theorem eq_append_of_split? {n : Nat} {bytes front rest : Bytes}
    (h : split? n bytes = some (front, rest)) : bytes = front ++ rest ∧ front.length = n := by
  induction n generalizing bytes front rest with
  | zero => simp_all [split?]
  | succ n ih =>
    cases bytes with
    | nil => simp [split?] at h
    | cons b bytes =>
      simp only [split?] at h
      split at h
      · simp at h
      next f r h' =>
        simp only [Option.some.injEq, Prod.mk.injEq] at h
        obtain ⟨rfl, rfl⟩ := h
        simp [ih h']

/-- A cut gives back what was put together, and nothing else. -/
theorem split?_eq_some_iff {n : Nat} {bytes front rest : Bytes} :
    split? n bytes = some (front, rest) ↔ bytes = front ++ rest ∧ front.length = n :=
  ⟨eq_append_of_split?, fun ⟨h, hn⟩ => h ▸ hn ▸ split?_append front rest⟩

/-- What is put behind a sequence goes to the rest. -/
theorem split?_append_of_eq_some {n : Nat} {bytes front rest : Bytes}
    (h : split? n bytes = some (front, rest)) (more : Bytes) :
    split? n (bytes ++ more) = some (front, rest ++ more) := by
  obtain ⟨rfl, rfl⟩ := eq_append_of_split? h
  rw [List.append_assoc]
  exact split?_append front (rest ++ more)

/-- `n` in `width` bytes, lowest byte first; what does not fit is cut off. -/
def littleEndian : (width n : Nat) → Bytes
  | 0, _ => []
  | width + 1, n => UInt8.ofNat n :: littleEndian width (n / 256)

/-- `n` in `width` bytes, highest byte first. -/
def bigEndian (width n : Nat) : Bytes := (littleEndian width n).reverse

/-- The number in some bytes, lowest byte first. -/
def toNatLE : Bytes → Nat
  | [] => 0
  | b :: rest => b.toNat + 256 * toNatLE rest

/-- The number in some bytes, highest byte first. -/
def toNatBE (bytes : Bytes) : Nat := toNatLE bytes.reverse

@[simp] theorem length_littleEndian (width n : Nat) : (littleEndian width n).length = width := by
  induction width generalizing n with
  | zero => rfl
  | succ width ih => simp [littleEndian, ih]

@[simp] theorem length_bigEndian (width n : Nat) : (bigEndian width n).length = width := by
  simp [bigEndian]

theorem toNatLE_littleEndian {width n : Nat} (h : n < Nat.pow 256 width) :
    toNatLE (littleEndian width n) = n := by
  induction width generalizing n with
  | zero => simp_all [littleEndian, toNatLE]
  | succ width ih =>
    have hpow : n < Nat.pow 256 width * 256 := h
    have hlow : n / 256 < Nat.pow 256 width := by omega
    simp only [littleEndian, toNatLE, ih hlow, UInt8.toNat_ofNat']
    omega

theorem toNatBE_bigEndian {width n : Nat} (h : n < Nat.pow 256 width) :
    toNatBE (bigEndian width n) = n := by
  simp [toNatBE, bigEndian, toNatLE_littleEndian h]

theorem toNatLE_lt (bytes : Bytes) : toNatLE bytes < Nat.pow 256 bytes.length := by
  induction bytes with
  | nil => exact Nat.one_pos
  | cons b rest ih =>
    have hb := b.toNat_lt
    have hpow : Nat.pow 256 (b :: rest).length = Nat.pow 256 rest.length * 256 := rfl
    rw [hpow, toNatLE]
    omega

/-- Different bytes, as many of them, stand for different numbers. -/
theorem toNatLE_inj {a b : Bytes} (h : a.length = b.length) : toNatLE a = toNatLE b ↔ a = b := by
  refine ⟨fun heq => ?_, congrArg toNatLE⟩
  induction a generalizing b with
  | nil => exact (List.eq_nil_of_length_eq_zero h.symm).symm
  | cons x rest ih =>
    cases b with
    | nil => cases h
    | cons y rest' =>
      have hx := x.toNat_lt
      have hy := y.toNat_lt
      simp only [toNatLE] at heq
      have hhead : x = y := UInt8.toNat_inj.mp (by omega)
      have htail : rest = rest' := ih (Nat.succ.inj h) (by omega)
      rw [hhead, htail]

/-- Two sequences that differ in one byte and in no other. -/
def DifferOnce (s t : Bytes) : Prop :=
  ∃ front a b back, a ≠ b ∧ s = front ++ a :: back ∧ t = front ++ b :: back

theorem DifferOnce.ne {s t : Bytes} (h : DifferOnce s t) : s ≠ t := by
  obtain ⟨front, a, b, back, hab, rfl, rfl⟩ := h
  simpa using hab

theorem DifferOnce.length_eq {s t : Bytes} (h : DifferOnce s t) : s.length = t.length := by
  obtain ⟨front, a, b, back, -, rfl, rfl⟩ := h
  simp

/-- The one byte is in the first piece or behind it. -/
theorem DifferOnce.append_cases {s s' t t' : Bytes} (h : DifferOnce (s ++ t) (s' ++ t'))
    (hlength : s.length = s'.length) :
    DifferOnce s s' ∧ t = t' ∨ s = s' ∧ DifferOnce t t' := by
  obtain ⟨front, a, b, back, hab, hs, ht⟩ := h
  induction s generalizing s' front with
  | nil =>
    have hnil : s' = [] := List.eq_nil_of_length_eq_zero hlength.symm
    subst hnil
    exact .inr ⟨rfl, front, a, b, back, hab, hs, ht⟩
  | cons x s ih =>
    cases s' with
    | nil => cases hlength
    | cons y s' =>
      have hlength' : s.length = s'.length := Nat.succ.inj hlength
      cases front with
      | nil =>
        simp only [List.cons_append, List.nil_append, List.cons.injEq] at hs ht
        obtain ⟨rfl, hs⟩ := hs
        obtain ⟨rfl, ht⟩ := ht
        obtain ⟨rfl, rfl⟩ := List.append_inj (hs.trans ht.symm) hlength'
        exact .inl ⟨⟨[], x, y, s, hab, rfl, rfl⟩, rfl⟩
      | cons z front =>
        simp only [List.cons_append, List.cons.injEq] at hs ht
        obtain ⟨rfl, hs⟩ := hs
        obtain ⟨rfl, ht⟩ := ht
        rcases ih hlength' front hs ht with ⟨⟨front, a, b, back, hab, rfl, rfl⟩, rfl⟩ | ⟨rfl, hd⟩
        · exact .inl ⟨⟨y :: front, a, b, back, hab, rfl, rfl⟩, rfl⟩
        · exact .inr ⟨rfl, hd⟩

end Bytes
end SubscriptionRegistry

/-
# UTF-8

Characters to bytes and back.  Decoding is strict: overlong forms, surrogates and anything
above U+10FFFF are refused, and a refusal says where the valid text ends and whether more
bytes could have completed the sequence.

* `encode`: one to four bytes for each character.
* `decode`: the characters, or the first fault.
* `decode_encode`: every text is read back from its bytes.
-/

namespace SubscriptionRegistry
namespace Utf8

/-! ## 1. Encoding -/

/-- A trailing byte: six bits under the mark `10`. -/
def trail (n : Nat) : UInt8 := UInt8.ofNat (0x80 + n % 64)

/-- The bytes of one character. -/
def encodeChar (c : Char) : List UInt8 :=
  let n := c.toNat
  if n < 0x80 then [UInt8.ofNat n]
  else if n < 0x800 then [UInt8.ofNat (0xC0 + n / 64), trail n]
  else if n < 0x10000 then [UInt8.ofNat (0xE0 + n / 4096), trail (n / 64), trail n]
  else [UInt8.ofNat (0xF0 + n / 262144), trail (n / 4096), trail (n / 64), trail n]

/-- The bytes of a text. -/
def encode (cs : List Char) : List UInt8 := cs.flatMap encodeChar

/-! ## 2. Faults -/

/-- Why bytes are no text.  `index` counts the bytes of the valid text before the fault. -/
inductive Fault
  /-- `length` bytes at `index` begin no character. -/
  | invalid (length index : Nat)
  /-- The input ends inside a character. -/
  | incomplete (index : Nat)
deriving DecidableEq, Repr

/-- The fault in words. -/
def Fault.message : Fault → String
  | .invalid length index =>
    "invalid utf-8 sequence of " ++ toString length ++ " bytes from index " ++ toString index
  | .incomplete index => "incomplete utf-8 byte sequence from index " ++ toString index

/-! ## 3. Decoding -/

/-- What the first byte of a character announces: its trailing bytes, the bits it carries
itself and the range allowed for the second byte. -/
structure Lead where
  trailing : Nat
  bits : Nat
  low : Nat
  high : Nat

/-- The announcement of a byte, if a character of several bytes may start with it. -/
def lead? (b : Nat) : Option Lead :=
  if 0xC2 ≤ b ∧ b ≤ 0xDF then some ⟨1, b - 0xC0, 0x80, 0xBF⟩
  else if b = 0xE0 then some ⟨2, 0, 0xA0, 0xBF⟩
  else if b = 0xED then some ⟨2, 13, 0x80, 0x9F⟩
  else if 0xE1 ≤ b ∧ b ≤ 0xEF then some ⟨2, b - 0xE0, 0x80, 0xBF⟩
  else if b = 0xF0 then some ⟨3, 0, 0x90, 0xBF⟩
  else if 0xF1 ≤ b ∧ b ≤ 0xF3 then some ⟨3, b - 0xF0, 0x80, 0xBF⟩
  else if b = 0xF4 then some ⟨3, 4, 0x80, 0x8F⟩
  else none

/-- Whether a byte may stand third or fourth. -/
def isTrail (b : UInt8) : Bool := 0x80 ≤ b.toNat && b.toNat ≤ 0xBF

/-- The six bits of a trailing byte. -/
def low6 (b : UInt8) : Nat := b.toNat - 0x80

/-- The text from byte `index` on. -/
def decodeFrom (index : Nat) : List UInt8 → Except Fault (List Char)
  | [] => .ok []
  | b :: rest =>
    if b.toNat < 0x80 then
      (decodeFrom (index + 1) rest).map (Char.ofNat b.toNat :: ·)
    else match lead? b.toNat with
    | none => .error (.invalid 1 index)
    | some l =>
      match rest with
      | [] => .error (.incomplete index)
      | b1 :: rest =>
        if ¬ (l.low ≤ b1.toNat ∧ b1.toNat ≤ l.high) then .error (.invalid 1 index)
        else if l.trailing = 1 then
          (decodeFrom (index + 2) rest).map (Char.ofNat (l.bits * 64 + low6 b1) :: ·)
        else match rest with
        | [] => .error (.incomplete index)
        | b2 :: rest =>
          if ¬ isTrail b2 then .error (.invalid 2 index)
          else if l.trailing = 2 then
            (decodeFrom (index + 3) rest).map
              (Char.ofNat (l.bits * 4096 + low6 b1 * 64 + low6 b2) :: ·)
          else match rest with
          | [] => .error (.incomplete index)
          | b3 :: rest =>
            if ¬ isTrail b3 then .error (.invalid 3 index)
            else
              (decodeFrom (index + 4) rest).map
                (Char.ofNat (l.bits * 262144 + low6 b1 * 4096 + low6 b2 * 64 + low6 b3) :: ·)

/-- The text that the bytes spell. -/
def decode (bytes : List UInt8) : Except Fault (List Char) := decodeFrom 0 bytes

/-! ## 4. Decoding what was encoded -/

theorem toNat_byte {n : Nat} (h : n < 256) : (UInt8.ofNat n).toNat = n := by
  rw [UInt8.toNat_ofNat']
  exact Nat.mod_eq_of_lt h

theorem toNat_trail (n : Nat) : (trail n).toNat = 0x80 + n % 64 := by
  rw [trail, toNat_byte (by omega)]

theorem low6_trail (n : Nat) : low6 (trail n) = n % 64 := by
  have h := toNat_trail n
  unfold low6
  omega

theorem isTrail_trail (n : Nat) : isTrail (trail n) := by
  simp only [isTrail, toNat_trail, Bool.and_eq_true, decide_eq_true_eq]
  omega

/-- A character is no surrogate. -/
theorem toNat_lt_or (c : Char) : c.toNat < 0xD800 ∨ 0xE000 ≤ c.toNat ∧ c.toNat < 0x110000 := by
  rcases c.valid with h | h
  · exact Or.inl h
  · exact Or.inr ⟨Nat.succ_le_of_lt h.1, h.2⟩

/-- The bytes of a character are those that it has in memory. -/
theorem encodeChar_eq (c : Char) : encodeChar c = String.utf8EncodeChar c := by
  have hc := toNat_lt_or c
  unfold encodeChar String.utf8EncodeChar trail
  simp only [Char.toNat] at hc ⊢
  by_cases h1 : c.val.toNat ≤ 0x7F
  · rw [if_pos h1, if_pos (Nat.lt_succ_of_le h1)]
  rw [if_neg h1, if_neg (show ¬c.val.toNat < 0x80 by omega)]
  by_cases h2 : c.val.toNat ≤ 0x7FF
  · have hfirst : c.val.toNat / 64 % 32 = c.val.toNat / 64 := Nat.mod_eq_of_lt (by omega)
    rw [if_pos h2, if_pos (Nat.lt_succ_of_le h2), hfirst]
    simp only [Nat.add_comm]
  rw [if_neg h2, if_neg (show ¬c.val.toNat < 0x800 by omega)]
  by_cases h3 : c.val.toNat ≤ 0xFFFF
  · have hfirst : c.val.toNat / 4096 % 16 = c.val.toNat / 4096 := Nat.mod_eq_of_lt (by omega)
    rw [if_pos h3, if_pos (Nat.lt_succ_of_le h3), hfirst]
    simp only [Nat.add_comm]
  · have hfirst : c.val.toNat / 262144 % 8 = c.val.toNat / 262144 := Nat.mod_eq_of_lt (by omega)
    rw [if_neg h3, if_neg (show ¬c.val.toNat < 0x10000 by omega), hfirst]
    simp only [Nat.add_comm]

/-- A text has as many bytes as it takes in memory. -/
theorem length_encode (s : String) : (encode s.toList).length = s.utf8ByteSize := by
  have hencode : encodeChar = String.utf8EncodeChar := funext encodeChar_eq
  rw [encode, hencode, ← String.size_toByteArray, ← String.utf8Encode_toList, List.utf8Encode,
    List.size_toByteArray]

/-- The first byte of a longer character announces how many follow, and a range that holds the
second one. -/
theorem lead_two {n : Nat} (hl : 0x80 ≤ n) (hu : n < 0x800) :
    ∃ l, lead? (0xC0 + n / 64) = some l ∧ l.trailing = 1 ∧ l.bits = n / 64
      ∧ l.low ≤ 0x80 + n % 64 ∧ 0x80 + n % 64 ≤ l.high := by
  unfold lead?
  rw [if_pos (by omega)]
  exact ⟨_, rfl, rfl, by dsimp only; omega, by dsimp only; omega, by dsimp only; omega⟩

theorem lead_three {n : Nat} (hl : 0x800 ≤ n) (hu : n < 0x10000)
    (hs : n < 0xD800 ∨ 0xE000 ≤ n) :
    ∃ l, lead? (0xE0 + n / 4096) = some l ∧ l.trailing = 2 ∧ l.bits = n / 4096
      ∧ l.low ≤ 0x80 + n / 64 % 64 ∧ 0x80 + n / 64 % 64 ≤ l.high := by
  unfold lead?
  rw [if_neg (by omega)]
  by_cases h0 : n / 4096 = 0
  · rw [if_pos (by omega)]
    exact ⟨_, rfl, rfl, by dsimp only; omega, by dsimp only; omega, by dsimp only; omega⟩
  rw [if_neg (by omega)]
  by_cases h13 : n / 4096 = 13
  · rw [if_pos (by omega)]
    exact ⟨_, rfl, rfl, by dsimp only; omega, by dsimp only; omega, by dsimp only; omega⟩
  rw [if_neg (by omega), if_pos (by omega)]
  exact ⟨_, rfl, rfl, by dsimp only; omega, by dsimp only; omega, by dsimp only; omega⟩

theorem lead_four {n : Nat} (hl : 0x10000 ≤ n) (hu : n < 0x110000) :
    ∃ l, lead? (0xF0 + n / 262144) = some l ∧ l.trailing = 3 ∧ l.bits = n / 262144
      ∧ l.low ≤ 0x80 + n / 4096 % 64 ∧ 0x80 + n / 4096 % 64 ≤ l.high := by
  unfold lead?
  rw [if_neg (by omega), if_neg (by omega), if_neg (by omega), if_neg (by omega)]
  by_cases h0 : n / 262144 = 0
  · rw [if_pos (by omega)]
    exact ⟨_, rfl, rfl, by dsimp only; omega, by dsimp only; omega, by dsimp only; omega⟩
  rw [if_neg (by omega)]
  by_cases h4 : n / 262144 = 4
  · rw [if_neg (by omega), if_pos (by omega)]
    exact ⟨_, rfl, rfl, by dsimp only; omega, by dsimp only; omega, by dsimp only; omega⟩
  rw [if_pos (by omega)]
  exact ⟨_, rfl, rfl, by dsimp only; omega, by dsimp only; omega, by dsimp only; omega⟩

/-- A character is read from its bytes, whatever follows them. -/
theorem decodeFrom_encodeChar (index : Nat) (c : Char) (rest : List UInt8) :
    decodeFrom index (encodeChar c ++ rest)
      = (decodeFrom (index + (encodeChar c).length) rest).map (c :: ·) := by
  have hc := toNat_lt_or c
  have hback : Char.ofNat c.toNat = c := Char.ofNat_toNat c
  unfold encodeChar
  dsimp only
  by_cases h1 : c.toNat < 0x80
  · rw [if_pos h1, List.singleton_append, decodeFrom]
    simp only [toNat_byte (n := c.toNat) (by omega), if_pos h1, hback]
    rfl
  rw [if_neg h1]
  by_cases h2 : c.toNat < 0x800
  · obtain ⟨l, hlead, htrailing, hbits, hlow, hhigh⟩ := lead_two (n := c.toNat) (by omega) h2
    have hvalue : c.toNat / 64 * 64 + c.toNat % 64 = c.toNat := by omega
    rw [if_pos h2, List.cons_append, List.singleton_append, decodeFrom]
    simp only [toNat_byte (n := 0xC0 + c.toNat / 64) (by omega), toNat_trail, hlead, hlow, hhigh,
      htrailing, hbits, low6_trail, hvalue, hback]
    rw [if_neg (by omega)]
    simp
  rw [if_neg h2]
  by_cases h3 : c.toNat < 0x10000
  · obtain ⟨l, hlead, htrailing, hbits, hlow, hhigh⟩ :=
      lead_three (n := c.toNat) (by omega) h3 (by omega)
    have hvalue : c.toNat / 4096 * 4096 + c.toNat / 64 % 64 * 64 + c.toNat % 64 = c.toNat := by
      omega
    rw [if_pos h3, List.cons_append, List.cons_append, List.singleton_append, decodeFrom]
    simp only [toNat_byte (n := 0xE0 + c.toNat / 4096) (by omega), toNat_trail, hlead, hlow, hhigh,
      htrailing, hbits, low6_trail, isTrail_trail, hvalue, hback]
    rw [if_neg (by omega)]
    simp
  · obtain ⟨l, hlead, htrailing, hbits, hlow, hhigh⟩ :=
      lead_four (n := c.toNat) (by omega) (by omega)
    have hvalue : c.toNat / 262144 * 262144 + c.toNat / 4096 % 64 * 4096 + c.toNat / 64 % 64 * 64
        + c.toNat % 64 = c.toNat := by
      omega
    rw [if_neg h3, List.cons_append, List.cons_append, List.cons_append, List.singleton_append,
      decodeFrom]
    simp only [toNat_byte (n := 0xF0 + c.toNat / 262144) (by omega), toNat_trail, hlead, hlow,
      hhigh, htrailing, hbits, low6_trail, isTrail_trail, hvalue, hback]
    rw [if_neg (by omega)]
    simp

theorem decodeFrom_encode (index : Nat) (cs : List Char) :
    decodeFrom index (encode cs) = .ok cs := by
  induction cs generalizing index with
  | nil => rfl
  | cons c rest ih =>
    rw [encode, List.flatMap_cons, decodeFrom_encodeChar, ← encode, ih]
    rfl

/-- **Every text is read back from its bytes.** -/
theorem decode_encode (cs : List Char) : decode (encode cs) = .ok cs :=
  decodeFrom_encode 0 cs

end Utf8
end SubscriptionRegistry

/-
# Reading JSON from left to right

A `Cursor` is the rest of a text and the place where it starts.  Readers take a cursor and
give a value and the cursor behind it.

* `Cursor.text`, `Cursor.skipText`: strings, read or passed over.
* `Cursor.number`, `Cursor.skipNumber`: numbers.  Integers of 64 bits stay exact, all others
  become binary fractions.
* `Cursor.skipValue`: passes over a value of any depth.
-/
import SubscriptionRegistry.Json.Error

namespace SubscriptionRegistry
namespace Json

/-! ## 1. Cursors -/

/-- The rest of a text and the place where it starts. -/
structure Cursor where
  rest : List Char
  position : Position
deriving Repr

/-- What a reader gives: a value and the cursor behind it. -/
abbrev Reading (α : Type) := Except Error (α × Cursor)

namespace Cursor

/-- The whole text. -/
def start (text : String) : Cursor := ⟨text.toList, .start⟩

/-- Past one character. -/
def advance (c : Cursor) : Cursor :=
  match c.rest with
  | [] => c
  | x :: rest => ⟨rest, c.position.after x⟩

/-- A fault in what is read. -/
def fail {α : Type} (c : Cursor) (fault : Fault) : Except Error α := .error ⟨fault, c.position⟩

/-- A fault in the byte that comes next; at the end of the text, in the end. -/
def failAhead {α : Type} (c : Cursor) (fault : Fault) : Except Error α :=
  match c.rest with
  | [] => .error ⟨fault, c.position⟩
  | x :: _ => .error ⟨fault, c.position.afterByte x⟩

/-- The four blanks of JSON. -/
def isBlank (x : Char) : Bool := x = ' ' || x = '\n' || x = '\t' || x = '\r'

/-- Past the characters at the front that pass the test. -/
def dropWhile (test : Char → Bool) (c : Cursor) : Cursor :=
  ⟨c.rest.dropWhile test, c.position.afterAll (c.rest.takeWhile test)⟩

/-- Past the blanks. -/
def skipBlanks (c : Cursor) : Cursor := c.dropWhile isBlank

/-- Past the rest of a word whose first letter is read. -/
def word : List Char → Cursor → Except Error Cursor
  | [], c => .ok c
  | x :: more, c =>
    match c.rest with
    | [] => c.fail .eofInValue
    | y :: _ => if x = y then word more c.advance else c.failAhead .expectedIdent

/-! ## 2. Strings -/

/-- The worth of a hexadecimal digit. -/
def hexDigit? (x : Char) : Option Nat :=
  let n := x.toNat
  if 0x30 ≤ n ∧ n ≤ 0x39 then some (n - 0x30)
  else if 0x41 ≤ n ∧ n ≤ 0x46 then some (n - 0x41 + 10)
  else if 0x61 ≤ n ∧ n ≤ 0x66 then some (n - 0x61 + 10)
  else none

/-- The number that four hexadecimal digits spell. -/
def hex4? (a b c d : Char) : Option Nat :=
  match hexDigit? a, hexDigit? b, hexDigit? c, hexDigit? d with
  | some a, some b, some c, some d => some (a * 4096 + b * 256 + c * 16 + d)
  | _, _, _, _ => none

/-- The four bytes after `\u` are no digits, or there are fewer than four. -/
def failHex {α : Type} (p : Position) (rest : List Char) : Except Error α :=
  if rest.foldr (fun c n => c.utf8Size + n) 0 < 4 then .error ⟨.eofInString, p.afterAll rest⟩
  else .error ⟨.invalidEscape, p.afterBytes 4 rest⟩

/-- The character that a letter after a backslash stands for. -/
def escape? : Char → Option Char
  | '"' => some '"'
  | '\\' => some '\\'
  | '/' => some '/'
  | 'b' => some '\x08'
  | 'f' => some '\x0c'
  | 'n' => some '\n'
  | 'r' => some '\r'
  | 't' => some '\t'
  | _ => none

/-- The first half of a character that takes two escapes. -/
def isHighSurrogate (n : Nat) : Bool := 0xD800 ≤ n && n ≤ 0xDBFF

/-- The second half. -/
def isLowSurrogate (n : Nat) : Bool := 0xDC00 ≤ n && n ≤ 0xDFFF

/-- The character of both halves. -/
def joinSurrogates (high low : Nat) : Char :=
  Char.ofNat ((high - 0xD800) * 1024 + (low - 0xDC00) + 0x10000)

/-- No second half follows the first. -/
def failPair {α : Type} (p : Position) : List Char → Except Error α
  | [] => .error ⟨.eofInString, p⟩
  | ['\\'] => .error ⟨.eofInString, p.plus 1⟩
  | '\\' :: 'u' :: rest => failHex (p.plus 2) rest
  | '\\' :: x :: _ => .error ⟨.unexpectedEndOfHexEscape, (p.plus 1).afterByte x⟩
  | x :: _ => .error ⟨.unexpectedEndOfHexEscape, p.afterByte x⟩

/-- The rest of a string up to its closing quote.  `read` holds what is read, last first. -/
def textFrom (read : List Char) (p : Position) : List Char → Reading String
  | [] => .error ⟨.eofInString, p⟩
  | '"' :: rest => .ok (String.ofList read.reverse, ⟨rest, p.plus 1⟩)
  | ['\\'] => .error ⟨.eofInString, p.plus 1⟩
  | '\\' :: 'u' :: a :: b :: c :: d :: rest =>
    match hex4? a b c d with
    | none => failHex (p.plus 2) (a :: b :: c :: d :: rest)
    | some n =>
      if isLowSurrogate n then .error ⟨.loneSurrogate, p.plus 6⟩
      else if isHighSurrogate n then
        match rest with
        | '\\' :: 'u' :: e :: f :: g :: h :: rest =>
          match hex4? e f g h with
          | none => failHex (p.plus 8) (e :: f :: g :: h :: rest)
          | some m =>
            if isLowSurrogate m then textFrom (joinSurrogates n m :: read) (p.plus 12) rest
            else .error ⟨.loneSurrogate, p.plus 12⟩
        | rest => failPair (p.plus 6) rest
      else textFrom (Char.ofNat n :: read) (p.plus 6) rest
  | '\\' :: 'u' :: rest => failHex (p.plus 2) rest
  | '\\' :: x :: rest =>
    match escape? x with
    | none => .error ⟨.invalidEscape, (p.plus 1).afterByte x⟩
    | some c => textFrom (c :: read) (p.plus 2) rest
  | x :: rest =>
    if x < ' ' then .error ⟨.controlCharacter, p.afterByte x⟩
    else textFrom (x :: read) (p.after x) rest

/-- The string whose opening quote is read. -/
def text (c : Cursor) : Reading String := textFrom [] c.position c.rest

/-- Past the rest of a string.  Escapes need not pair up here, and a control character is
faulted in front of it. -/
def skipTextFrom (p : Position) : List Char → Except Error Cursor
  | [] => .error ⟨.eofInString, p⟩
  | '"' :: rest => .ok ⟨rest, p.plus 1⟩
  | ['\\'] => .error ⟨.eofInString, p.plus 1⟩
  | '\\' :: 'u' :: a :: b :: c :: d :: rest =>
    match hex4? a b c d with
    | none => failHex (p.plus 2) (a :: b :: c :: d :: rest)
    | some _ => skipTextFrom (p.plus 6) rest
  | '\\' :: 'u' :: rest => failHex (p.plus 2) rest
  | '\\' :: x :: rest =>
    match escape? x with
    | none => .error ⟨.invalidEscape, (p.plus 1).afterByte x⟩
    | some _ => skipTextFrom (p.plus 2) rest
  | x :: rest =>
    if x < ' ' then .error ⟨.controlCharacter, p⟩ else skipTextFrom (p.after x) rest

/-- Past the string whose opening quote is read. -/
def skipText (c : Cursor) : Except Error Cursor := skipTextFrom c.position c.rest

/-! ## 3. Numbers -/

/-- A number: an integer of 64 bits, or the 64 bits of the nearest binary fraction. -/
inductive Number
  | integer (n : Int)
  | floating (bits : UInt64)
deriving DecidableEq, Repr

/-- The digits at the front, and the cursor behind them. -/
def digits (c : Cursor) : List Nat × Cursor :=
  let ds := c.rest.takeWhile Char.isDigit
  (ds.map fun d => d.toNat - 0x30, ⟨c.rest.dropWhile Char.isDigit, c.position.plus ds.length⟩)

/-- Reads digits on from `high` as long as the number stays below `bound`; with the number
comes how many digits are left over. -/
def accumulate (bound high : Nat) : List Nat → Nat × Nat
  | [] => (high, 0)
  | d :: ds =>
    if high * 10 + d < bound then accumulate bound (high * 10 + d) ds else (high, ds.length + 1)

/-- `10^n` in binary. -/
def power (n : Nat) : Float := Float.ofScientific 1 false n

/-- `f * 10^e` in binary, with one rounding for each step of at most 308 tens; nothing if that
is too large.  A 64-bit number is gone after three steps down. -/
def scale : Nat → Float → Int → Option Float
  | 0, f, _ => some f
  | steps + 1, f, e =>
    if e.natAbs ≤ 308 then
      if 0 ≤ e then
        let g := f * power e.natAbs
        if g.isInf then none else some g
      else some (f / power e.natAbs)
    else if f == 0 then some f
    else if 0 ≤ e then none
    else scale steps (f / power 308) (e + 308)

/-- The binary fraction for `± significand * 10^exponent`. -/
def floating (negative : Bool) (significand : Nat) (exponent : Int) (c : Cursor) :
    Reading Number :=
  match scale 4 (UInt64.ofNat significand).toFloat exponent with
  | none => c.fail .numberOutOfRange
  | some f => .ok (.floating (if negative then -f else f).toBits, c)

/-- The digits of an exponent.  Beyond 31 bits it makes zero of a number, or too much. -/
def exponentDigits (negative : Bool) (significand : Nat) (exponent : Int) (down : Bool)
    (c : Cursor) : Reading Number :=
  let (ds, behind) := c.digits
  let (n, left) := accumulate 0x80000000 0 ds
  if left = 0 then
    floating negative significand (if down then exponent - n else exponent + n) behind
  else if significand ≠ 0 && !down then
    .error ⟨.numberOutOfRange, c.position.plus (ds.length - left + 1)⟩
  else floating negative 0 0 behind

/-- Past the sign of an exponent, if there is one. -/
def skipSign (c : Cursor) : Cursor :=
  if c.rest.head? = some '-' || c.rest.head? = some '+' then c.advance else c

/-- From the `e` on. -/
def exponentPart (negative : Bool) (significand : Nat) (exponent : Int) (c : Cursor) :
    Reading Number :=
  let d := c.advance.skipSign
  match d.rest with
  | [] => d.fail .eofInValue
  | x :: _ =>
    if x.isDigit then
      exponentDigits negative significand exponent (c.advance.rest.head? = some '-') d
    else d.failAhead .invalidNumber

/-- Whether an exponent comes next. -/
def atExponent (c : Cursor) : Bool := c.rest.head? = some 'e' || c.rest.head? = some 'E'

/-- From the point on.  Digits that do not fit 64 bits any more are dropped. -/
def fractionPart (negative : Bool) (significand : Nat) (exponent : Int) (c : Cursor) :
    Reading Number :=
  let (ds, c) := c.advance.digits
  if ds.isEmpty then
    if c.rest.isEmpty then c.fail .eofInValue else c.failAhead .invalidNumber
  else
    let (significand, left) := accumulate UInt64.size significand ds
    let exponent := exponent - (ds.length - left : Nat)
    if c.atExponent then exponentPart negative significand exponent c
    else floating negative significand exponent c

/-- From behind the integer part, of which `dropped` digits did not fit 64 bits. -/
def afterInteger (negative : Bool) (significand dropped : Nat) (c : Cursor) : Reading Number :=
  if c.rest.head? = some '.' then fractionPart negative significand dropped c
  else if c.atExponent then exponentPart negative significand dropped c
  else if 0 < dropped then floating negative significand dropped c
  else if !negative then .ok (.integer significand, c)
  else if 1 ≤ significand ∧ significand ≤ 0x8000000000000000 then .ok (.integer (-significand), c)
  else floating negative significand 0 c

/-- A number behind its sign. -/
def unsigned (negative : Bool) (c : Cursor) : Reading Number :=
  match c.rest with
  | [] => c.fail .eofInValue
  | '0' :: rest =>
    if (rest.head?.map Char.isDigit).getD false then c.advance.failAhead .invalidNumber
    else afterInteger negative 0 0 c.advance
  | x :: _ =>
    if x.isDigit then
      let (ds, c) := c.digits
      let (significand, dropped) := accumulate UInt64.size 0 ds
      afterInteger negative significand dropped c
    else c.failAhead .invalidNumber

/-- The number that starts here, with a digit or a minus sign. -/
def number (c : Cursor) : Reading Number :=
  if c.rest.head? = some '-' then unsigned true c.advance else unsigned false c

/-- Past the digits at the front, of which there must be one. -/
def skipDigits (c : Cursor) : Except Error Cursor :=
  if (c.rest.head?.map Char.isDigit).getD false then .ok c.digits.2
  else c.failAhead .invalidNumber

/-- Past an exponent, if one comes next. -/
def skipExponent (c : Cursor) : Except Error Cursor :=
  if c.atExponent then skipDigits c.advance.skipSign else .ok c

/-- Past a point and digits, if they come next, and an exponent. -/
def skipFraction (c : Cursor) : Except Error Cursor :=
  if c.rest.head? = some '.' then
    match skipDigits c.advance with
    | .error e => .error e
    | .ok c => skipExponent c
  else skipExponent c

/-- Past a number behind its sign, of any size. -/
def skipNumber (c : Cursor) : Except Error Cursor :=
  match c.rest with
  | '0' :: rest =>
    if (rest.head?.map Char.isDigit).getD false then c.advance.failAhead .invalidNumber
    else skipFraction c.advance
  | _ =>
    match skipDigits c with
    | .error e => .error e
    | .ok c => skipFraction c

/-! ## 4. Values that are passed over -/

/-- An open bracket. -/
inductive Frame
  | list
  | object
deriving DecidableEq, Repr

namespace Frame

/-- The frame that a bracket opens. -/
def ofBracket? : Char → Option Frame
  | '[' => some .list
  | '\x7b' => some .object
  | _ => none

/-- The bracket that closes it. -/
def close : Frame → Char
  | .list => ']'
  | .object => '\x7d'

/-- The fault of an end of text inside. -/
def eof : Frame → Fault
  | .list => .eofInList
  | .object => .eofInObject

/-- The fault of anything but a comma or the bracket behind an element. -/
def expectedCommaOrEnd : Frame → Fault
  | .list => .expectedListCommaOrEnd
  | .object => .expectedObjectCommaOrEnd

end Frame

/-- Past a colon. -/
def colon (c : Cursor) : Except Error Cursor :=
  let c := c.skipBlanks
  match c.rest with
  | [] => c.fail .eofInObject
  | ':' :: _ => .ok c.advance
  | _ => c.failAhead .expectedColon

/-- Past what stands in front of an element: in an object, a key and a colon. -/
def skipKey : Frame → Cursor → Except Error Cursor
  | .list, c => .ok c
  | .object, c =>
    let c := c.skipBlanks
    match c.rest with
    | [] => c.fail .eofInObject
    | '"' :: _ =>
      match skipText c.advance with
      | .error e => .error e
      | .ok c => colon c
    | _ => c.failAhead .keyNotString

/-- Past a value without brackets. -/
def skipScalar (c : Cursor) : Except Error Cursor :=
  match c.rest with
  | [] => c.fail .eofInValue
  | 'n' :: _ => word ['u', 'l', 'l'] c.advance
  | 't' :: _ => word ['r', 'u', 'e'] c.advance
  | 'f' :: _ => word ['a', 'l', 's', 'e'] c.advance
  | '"' :: _ => skipText c.advance
  | '-' :: _ => skipNumber c.advance
  | x :: _ => if x.isDigit then skipNumber c else c.failAhead .expectedValue

/-! ### What is passed over only gets shorter -/

theorem length_dropWhile_le (test : Char → Bool) (c : Cursor) :
    (c.dropWhile test).rest.length ≤ c.rest.length :=
  (List.dropWhile_sublist test).length_le

theorem length_skipBlanks_le (c : Cursor) : c.skipBlanks.rest.length ≤ c.rest.length :=
  length_dropWhile_le isBlank c

theorem length_advance_le (c : Cursor) : c.advance.rest.length ≤ c.rest.length := by
  unfold advance
  split <;> simp_all

theorem length_advance_lt {c : Cursor} {x : Char} {rest : List Char} (h : c.rest = x :: rest) :
    c.advance.rest.length < c.rest.length := by
  simp [advance, h]

theorem length_skipSign_le (c : Cursor) : c.skipSign.rest.length ≤ c.rest.length := by
  unfold skipSign
  split
  · exact c.length_advance_le
  · exact Nat.le_refl _

theorem length_digits_le (c : Cursor) : c.digits.2.rest.length ≤ c.rest.length :=
  (List.dropWhile_sublist Char.isDigit).length_le

@[simp] theorem fail_ne_ok {α : Type} {c : Cursor} {fault : Fault} {a : α} :
    c.fail fault ≠ .ok a := by
  simp [fail]

@[simp] theorem failAhead_ne_ok {α : Type} {c : Cursor} {fault : Fault} {a : α} :
    c.failAhead fault ≠ .ok a := by
  unfold failAhead
  split <;> simp

@[simp] theorem failHex_ne_ok {α : Type} {p : Position} {rest : List Char} {a : α} :
    failHex p rest ≠ .ok a := by
  unfold failHex
  split <;> simp

theorem length_word_le : ∀ {w : List Char} {c d : Cursor}, word w c = .ok d →
    d.rest.length ≤ c.rest.length
  | [], c, d, h => by
    simp only [word, Except.ok.injEq] at h
    simp [h]
  | x :: w, c, d, h => by
    unfold word at h
    split at h
    · simp at h
    · split at h
      · exact Nat.le_trans (length_word_le h) c.length_advance_le
      · simp at h

theorem length_skipTextFrom_le {p : Position} {rest : List Char} {d : Cursor}
    (h : skipTextFrom p rest = .ok d) : d.rest.length ≤ rest.length := by
  fun_induction skipTextFrom p rest <;> simp_all <;> grind

theorem length_skipText_le {c d : Cursor} (h : skipText c = .ok d) :
    d.rest.length ≤ c.rest.length :=
  length_skipTextFrom_le h

theorem length_skipDigits_lt {c d : Cursor} (h : skipDigits c = .ok d) :
    d.rest.length < c.rest.length := by
  unfold skipDigits at h
  split at h
  next hd =>
    simp only [Except.ok.injEq] at h
    subst h
    cases hr : c.rest with
    | nil => simp [hr] at hd
    | cons x rest =>
      simp only [hr, List.head?_cons, Option.map_some, Option.getD_some] at hd
      have := (List.dropWhile_sublist Char.isDigit (l := rest)).length_le
      simp only [digits, hr, List.dropWhile_cons, hd, if_true, List.length_cons]
      omega
  · simp at h

theorem length_skipExponent_le {c d : Cursor} (h : skipExponent c = .ok d) :
    d.rest.length ≤ c.rest.length := by
  unfold skipExponent at h
  split at h
  · exact Nat.le_trans (Nat.le_of_lt (length_skipDigits_lt h))
      (Nat.le_trans c.advance.length_skipSign_le c.length_advance_le)
  · simp only [Except.ok.injEq] at h
    simp [h]

theorem length_skipFraction_le {c d : Cursor} (h : skipFraction c = .ok d) :
    d.rest.length ≤ c.rest.length := by
  unfold skipFraction at h
  split at h
  · split at h
    · simp at h
    next h' =>
      exact Nat.le_trans (length_skipExponent_le h)
        (Nat.le_trans (Nat.le_of_lt (length_skipDigits_lt h')) c.length_advance_le)
  · exact length_skipExponent_le h

theorem length_skipNumber_lt {c d : Cursor} (h : skipNumber c = .ok d) :
    d.rest.length < c.rest.length := by
  unfold skipNumber at h
  split at h
  next h' =>
    split at h
    · simp at h
    · exact Nat.lt_of_le_of_lt (length_skipFraction_le h) (length_advance_lt h')
  · split at h
    · simp at h
    next h' => exact Nat.lt_of_le_of_lt (length_skipFraction_le h) (length_skipDigits_lt h')

theorem length_colon_le {c d : Cursor} (h : colon c = .ok d) :
    d.rest.length ≤ c.rest.length := by
  simp only [colon] at h
  split at h
  · simp at h
  · simp only [Except.ok.injEq] at h
    exact h ▸ Nat.le_trans c.skipBlanks.length_advance_le c.length_skipBlanks_le
  · simp at h

theorem length_skipKey_le {f : Frame} {c d : Cursor} (h : skipKey f c = .ok d) :
    d.rest.length ≤ c.rest.length := by
  cases f with
  | list =>
    simp only [skipKey, Except.ok.injEq] at h
    simp [h]
  | object =>
    simp only [skipKey] at h
    split at h
    · simp at h
    · split at h
      · simp at h
      next h' =>
        exact Nat.le_trans (length_colon_le h) (Nat.le_trans (length_skipText_le h')
          (Nat.le_trans c.skipBlanks.length_advance_le c.length_skipBlanks_le))
    · simp at h

theorem length_skipScalar_lt {c d : Cursor} (h : skipScalar c = .ok d) :
    d.rest.length < c.rest.length := by
  unfold skipScalar at h
  split at h
  · simp at h
  next h' => exact Nat.lt_of_le_of_lt (length_word_le h) (length_advance_lt h')
  next h' => exact Nat.lt_of_le_of_lt (length_word_le h) (length_advance_lt h')
  next h' => exact Nat.lt_of_le_of_lt (length_word_le h) (length_advance_lt h')
  next h' => exact Nat.lt_of_le_of_lt (length_skipText_le h) (length_advance_lt h')
  next h' => exact Nat.lt_trans (length_skipNumber_lt h) (length_advance_lt h')
  · split at h
    · exact length_skipNumber_lt h
    · simp at h

/-! ### Any depth -/

/-- Where in a value of any depth a reader stands. -/
inductive Place
  /-- A value has to come. -/
  | before
  /-- A bracket was opened. -/
  | opened
  /-- A value was read. -/
  | behind
deriving DecidableEq, Repr

/-- Past the rest of a value.  `stack` holds the brackets that are open, innermost first. -/
def skipFrom (place : Place) (stack : List Frame) (c : Cursor) : Except Error Cursor :=
  match place, stack with
  | .before, stack =>
    let d := c.skipBlanks
    match hd : d.rest with
    | [] => d.fail .eofInValue
    | x :: _ =>
      match Frame.ofBracket? x with
      | some f =>
        have := length_advance_lt hd
        have := c.length_skipBlanks_le
        skipFrom .opened (f :: stack) d.advance
      | none =>
        match hs : skipScalar d with
        | .error e => .error e
        | .ok d' =>
          have := length_skipScalar_lt hs
          have := c.length_skipBlanks_le
          skipFrom .behind stack d'
  | .opened, [] => .ok c
  | .opened, f :: outer =>
    let d := c.skipBlanks
    match hd : d.rest with
    | [] => d.fail f.eof
    | x :: _ =>
      if x = f.close then
        have := length_advance_lt hd
        have := c.length_skipBlanks_le
        skipFrom .behind outer d.advance
      else
        match hk : skipKey f d with
        | .error e => .error e
        | .ok d' =>
          have := length_skipKey_le hk
          have := c.length_skipBlanks_le
          skipFrom .before (f :: outer) d'
  | .behind, [] => .ok c
  | .behind, f :: outer =>
    let d := c.skipBlanks
    match hd : d.rest with
    | [] => d.fail f.eof
    | x :: _ =>
      if x = f.close then
        have := length_advance_lt hd
        have := c.length_skipBlanks_le
        skipFrom .behind outer d.advance
      else if x = ',' then
        match hk : skipKey f d.advance with
        | .error e => .error e
        | .ok d' =>
          have := length_skipKey_le hk
          have := length_advance_lt hd
          have := c.length_skipBlanks_le
          skipFrom .before (f :: outer) d'
      else d.failAhead f.expectedCommaOrEnd
termination_by (c.rest.length, if place = .opened then 1 else 0)
decreasing_by
  all_goals simp_wf
  all_goals simp_all only [Prod.lex_def]
  all_goals grind

/-- Past the value that starts here, of any depth. -/
def skipValue (c : Cursor) : Except Error Cursor := skipFrom .before [] c

end Cursor
end Json
end SubscriptionRegistry

/-
# MessagePack items, written and read

Two facts about every reader of items.  What was written is read back, from the front of any
bytes that follow.  And a reader stops by itself: once it has read something, more bytes behind
do not change what it has read.  So nothing that was cut short can be read as if it were whole.

* `readText_encodeText`, `readRecord_encodeRecord`: texts and records are read back.
* `PrefixStable`: a reader that stops by itself; `prefixStable_readRecord` and the others before
  it say which readers do.
-/
import SubscriptionRegistry.MessagePack.Record

namespace SubscriptionRegistry
namespace MessagePack

/-! ## 1. Heads -/

theorem readNat_bigEndian {width n : Nat} (h : n < Nat.pow 256 width) (rest : Bytes) :
    readNat width (Bytes.bigEndian width n ++ rest) = .ok (n, rest) := by
  have hcut := Bytes.split?_append (Bytes.bigEndian width n) rest
  rw [Bytes.length_bigEndian] at hcut
  rw [readNat, hcut]
  dsimp only
  rw [Bytes.toNatBE_bigEndian h]

/-- A head that is a byte and a number. -/
theorem read_number {b : UInt8} {width n : Nat} {head : Nat → Head}
    (hlead : lead b = .number width head) (h : n < Nat.pow 256 width) (rest : Bytes) :
    Head.read (b :: Bytes.bigEndian width n ++ rest) = .ok (head n, rest) := by
  rw [List.cons_append, Head.read, hlead]
  dsimp only
  rw [readNat_bigEndian h]

/-- A head that is a single byte. -/
theorem read_whole {b : UInt8} {head : Head} (hlead : lead b = .whole head) (rest : Bytes) :
    Head.read ([b] ++ rest) = .ok (head, rest) := by
  rw [List.singleton_append, Head.read, hlead]

theorem lead_shortText {length : Nat} (h : length < 32) :
    lead (UInt8.ofNat (0xA0 + length)) = .whole (.text length) := by
  have hbyte : (UInt8.ofNat (0xA0 + length)).toNat = 0xA0 + length :=
    Utf8.toNat_byte (by omega)
  unfold lead
  simp only [hbyte]
  rw [if_neg (by omega), if_neg (by omega), if_neg (by omega), if_pos (by omega),
    Nat.add_sub_cancel_left]

theorem lead_shortMap {length : Nat} (h : length < 16) :
    lead (UInt8.ofNat (0x80 + length)) = .whole (.map length) := by
  have hbyte : (UInt8.ofNat (0x80 + length)).toNat = 0x80 + length :=
    Utf8.toNat_byte (by omega)
  unfold lead
  simp only [hbyte]
  rw [if_neg (by omega), if_pos (by omega), Nat.add_sub_cancel_left]

/-- The head of a text is read back, whichever of its four widths it has. -/
theorem read_textHead {length : Nat} (h : length < UInt32.size) (rest : Bytes) :
    Head.read (textHead length ++ rest) = .ok (.text length, rest) := by
  unfold textHead
  by_cases h1 : length < 32
  · rw [if_pos h1]
    exact read_whole (lead_shortText h1) rest
  rw [if_neg h1]
  by_cases h2 : length < 256
  · rw [if_pos h2]
    exact read_number rfl h2 rest
  rw [if_neg h2]
  by_cases h3 : length < 65536
  · rw [if_pos h3]
    exact read_number rfl h3 rest
  · rw [if_neg h3]
    exact read_number rfl h rest

/-- The head of a map is read back, whichever of its three widths it has. -/
theorem read_mapHead {length : Nat} (h : length < UInt32.size) (rest : Bytes) :
    Head.read (mapHead length ++ rest) = .ok (.map length, rest) := by
  unfold mapHead
  by_cases h1 : length < 16
  · rw [if_pos h1]
    exact read_whole (lead_shortMap h1) rest
  rw [if_neg h1]
  by_cases h2 : length < 65536
  · rw [if_pos h2]
    exact read_number rfl h2 rest
  · rw [if_neg h2]
    exact read_number rfl h rest

/-! ## 2. Texts and records -/

/-- A text that a head has room for: shorter than 2^32 bytes. -/
def Short (s : String) : Prop := s.utf8ByteSize < UInt32.size

instance (s : String) : Decidable (Short s) := inferInstanceAs (Decidable (_ < _))

theorem readBytes_append (front rest : Bytes) :
    readBytes front.length (front ++ rest) = .ok (front, rest) := by
  rw [readBytes, Bytes.split?_append]

/-- The head and the bytes of a text, from the front of what follows. -/
theorem read_encodeText {s : String} (h : Short s) (rest : Bytes) :
    Head.read (encodeText s ++ rest)
      = .ok (.text (Utf8.encode s.toList).length, Utf8.encode s.toList ++ rest) := by
  rw [encodeText, List.append_assoc]
  exact read_textHead (by rw [Utf8.length_encode]; exact h) _

theorem readText_encodeText {s : String} (h : Short s) (rest : Bytes) :
    readText (encodeText s ++ rest) = .ok (s, rest) := by
  rw [readText, read_encodeText h]
  dsimp only
  rw [readBytes_append]
  dsimp only
  rw [Utf8.decode_encode]
  dsimp only
  rw [String.ofList_toList]

/-- The name of a field is the key of its pair. -/
theorem readKey_encodeText {s : Shape} {name : String} (hname : name ∈ s.fields)
    (h : Short name) (rest : Bytes) :
    readKey s (encodeText name ++ rest) = .ok (some name, rest) := by
  have hfind : s.named? (Utf8.encode name.toList) = some name := by
    rw [Shape.named?, Utf8.decode_encode]
    dsimp only
    rw [String.ofList_toList]
    cases hf : s.fields.find? fun f => f = name with
    | none => simpa using List.find?_eq_none.mp hf name hname
    | some found =>
      have heq : found = name := by simpa using List.find?_some hf
      rw [heq]
  rw [readKey, read_encodeText h]
  dsimp only
  rw [readBytes_append]
  dsimp only
  rw [hfind]

/-- All names and values are short enough to be written. -/
def Fields.Short (fields : Fields) : Prop :=
  ∀ f ∈ fields, MessagePack.Short f.1 ∧ MessagePack.Short f.2

theorem lookup_eq_none {fields : Fields} {name : String} (h : name ∉ fields.map Prod.fst) :
    fields.lookup name = none := by
  induction fields with
  | nil => rfl
  | cons f rest ih =>
    simp only [List.map_cons, List.mem_cons, not_or] at h
    have hne : (name == f.1) = false := by simpa using h.1
    rw [List.lookup_cons, hne]
    exact ih h.2

theorem isSome_lookup {fields : Fields} {name : String} (h : name ∈ fields.map Prod.fst) :
    (fields.lookup name).isSome := by
  induction fields with
  | nil => simp at h
  | cons f rest ih =>
    rw [List.lookup_cons]
    split
    · rfl
    · rename_i hne
      simp only [List.map_cons, List.mem_cons] at h
      rcases h with rfl | h
      · simp at hne
      · exact ih h

/-- Pairs are read back behind those that were found before, as long as no name comes twice. -/
theorem readPairs_encode {s : Shape} {fields : Fields} (found : Fields) (hshort : fields.Short)
    (hnames : ∀ f ∈ fields, f.1 ∈ s.fields) (hnodup : ((found ++ fields).map Prod.fst).Nodup)
    (budget : Nat) (rest : Bytes) :
    readPairs s budget fields.length found
        ((fields.flatMap fun f => encodeText f.1 ++ encodeText f.2) ++ rest)
      = .ok (found ++ fields, rest) := by
  induction fields generalizing found with
  | nil => rw [List.append_nil]; rfl
  | cons f more ih =>
    have hf := hshort f List.mem_cons_self
    have hnew : found.lookup f.1 = none := by
      refine lookup_eq_none fun hmem => ?_
      rw [List.map_append, List.nodup_append] at hnodup
      exact hnodup.2.2 f.1 hmem f.1 (List.mem_map_of_mem List.mem_cons_self) rfl
    have hnodup' : ((found ++ [f] ++ more).map Prod.fst).Nodup := by simpa using hnodup
    have hrest := ih (found ++ [f]) (fun g hg => hshort g (List.mem_cons_of_mem _ hg))
      (fun g hg => hnames g (List.mem_cons_of_mem _ hg)) hnodup'
    rw [List.flatMap_cons, List.length_cons, List.append_assoc, List.append_assoc, readPairs,
      readKey_encodeText (hnames f List.mem_cons_self) hf.1]
    dsimp only
    rw [hnew, Option.isSome_none, if_neg Bool.false_ne_true, readText_encodeText hf.2]
    dsimp only
    rw [hrest, List.append_assoc, List.singleton_append]

/-- **A record is read back.** -/
theorem readRecord_encodeRecord {s : Shape} {fields : Fields} (hshort : fields.Short)
    (hnames : fields.map Prod.fst = s.fields) (hnodup : s.fields.Nodup)
    (hlength : fields.length < UInt32.size) (budget : Nat) (rest : Bytes) :
    readRecord s budget (encodeRecord fields ++ rest) = .ok (fields, rest) := by
  have hmem : ∀ f ∈ fields, f.1 ∈ s.fields := fun f hf => hnames ▸ List.mem_map_of_mem hf
  have hpairs := readPairs_encode [] hshort hmem
    (by rw [List.nil_append, hnames]; exact hnodup) budget rest
  have hall : s.fields.find? (fun f => (fields.lookup f).isNone) = none := by
    refine List.find?_eq_none.mpr fun name hname => ?_
    obtain ⟨value, hvalue⟩ := Option.isSome_iff_exists.mp (isSome_lookup (hnames.symm ▸ hname))
    rw [hvalue]
    exact Bool.false_ne_true
  rw [encodeRecord, List.append_assoc, readRecord, read_mapHead hlength]
  dsimp only
  rw [hpairs]
  dsimp only
  rw [List.nil_append, hall]

/-! ## 3. Readers that stop by themselves -/

/-- What was read stays the same when more bytes follow. -/
def PrefixStable {α : Type} (read : Bytes → Reading α) : Prop :=
  ∀ {b rest : Bytes} {a : α}, read b = .ok (a, rest) →
    ∀ more, read (b ++ more) = .ok (a, rest ++ more)

/-- What was passed over stays the same when more bytes follow. -/
def PrefixStableSkip (skip : Bytes → Except Fault Bytes) : Prop :=
  ∀ {b rest : Bytes}, skip b = .ok rest → ∀ more, skip (b ++ more) = .ok (rest ++ more)

theorem prefixStable_readNat (width : Nat) : PrefixStable (readNat width) := by
  intro b rest n h more
  unfold readNat at h ⊢
  split at h
  · cases h
  · rename_i hcut
    cases h
    rw [Bytes.split?_append_of_eq_some hcut]

theorem prefixStable_read : PrefixStable Head.read := by
  intro b rest head h more
  cases b with
  | nil => cases h
  | cons x b =>
    rw [List.cons_append, Head.read]
    rw [Head.read] at h
    cases hlead : lead x with
    | fault e =>
      rw [hlead] at h
      cases h
    | whole head' =>
      rw [hlead] at h
      cases h
      rfl
    | number width f =>
      rw [hlead] at h
      dsimp only at h ⊢
      split at h
      · cases h
      · rename_i hnum
        cases h
        rw [prefixStable_readNat width hnum]

theorem prefixStable_readBytes (n : Nat) : PrefixStable (readBytes n) := by
  intro b rest bytes h more
  unfold readBytes at h ⊢
  split at h
  · cases h
  · rename_i hcut
    cases h
    rw [Bytes.split?_append_of_eq_some hcut]

/-- A text is read from the bytes that its head counts, whether they are called text or not. -/
theorem readText_eq_ok_iff {b rest : Bytes} {s : String} :
    readText b = .ok (s, rest) ↔ ∃ n bytes mid,
      (Head.read b = .ok (.text n, mid) ∨ Head.read b = .ok (.bytes n, mid))
        ∧ readBytes n mid = .ok (bytes, rest) ∧ Utf8.decode bytes = .ok s.toList := by
  unfold readText
  dsimp only
  constructor
  · intro h
    split at h
    · cases h
    · rename_i n mid hhead
      split at h
      · cases h
      · rename_i bytes _ hbytes
        split at h
        · cases h
        · rename_i cs hdecode
          cases h
          exact ⟨n, bytes, mid, Or.inl hhead, hbytes, by rw [hdecode, String.toList_ofList]⟩
    · rename_i n mid hhead
      split at h
      · cases h
      · rename_i bytes _ hbytes
        split at h
        · cases h
        · rename_i cs hdecode
          cases h
          exact ⟨n, bytes, mid, Or.inr hhead, hbytes, by rw [hdecode, String.toList_ofList]⟩
    · cases h
  · rintro ⟨n, bytes, mid, hhead | hhead, hbytes, hdecode⟩ <;> rw [hhead] <;> dsimp only <;>
      rw [hbytes] <;> dsimp only <;> rw [hdecode] <;> dsimp only <;> rw [String.ofList_toList]

theorem prefixStable_readText : PrefixStable readText := by
  intro b rest s h more
  obtain ⟨n, bytes, mid, hhead, hbytes, hdecode⟩ := readText_eq_ok_iff.mp h
  refine readText_eq_ok_iff.mpr ⟨n, bytes, mid ++ more, ?_, ?_, hdecode⟩
  · exact hhead.imp (prefixStable_read · more) (prefixStable_read · more)
  · exact prefixStable_readBytes n hbytes more

theorem prefixStable_skipBytes (n : Nat) : PrefixStableSkip (skipBytes n) := by
  intro b rest h more
  unfold skipBytes at h ⊢
  split at h
  · cases h
  · rename_i hbytes
    cases h
    rw [prefixStable_readBytes n hbytes]

theorem prefixStable_skipTimes {skip : Bytes → Except Fault Bytes} (hskip : PrefixStableSkip skip)
    (n : Nat) : PrefixStableSkip (skipTimes skip n) := by
  intro b rest h more
  induction n generalizing b with
  | zero =>
    cases h
    rfl
  | succ n ih =>
    unfold skipTimes at h ⊢
    split at h
    · cases h
    · rename_i hfirst
      rw [hskip hfirst]
      exact ih h

/-- The budget bounds the depth of nesting, and so the induction. -/
theorem prefixStable_skip (budget : Nat) : PrefixStableSkip (skip budget) := by
  induction budget with
  | zero => intro b rest h; cases h
  | succ budget ih =>
    intro b rest h more
    unfold skip at h ⊢
    cases hhead : Head.read b with
    | error e =>
      rw [hhead] at h
      cases h
    | ok item =>
      obtain ⟨head, mid⟩ := item
      rw [prefixStable_read hhead]
      rw [hhead] at h
      cases head with
      | text n => exact prefixStable_skipBytes n h more
      | bytes n => exact prefixStable_skipBytes n h more
      | extension n =>
        dsimp only at h ⊢
        split at h
        · cases h
        · rename_i hbudget
          rw [if_neg hbudget]
          cases mid with
          | nil => cases h
          | cons x mid => exact prefixStable_skipBytes n h more
      | list n =>
        dsimp only at h ⊢
        split at h
        · cases h
        · rename_i hbudget
          rw [if_neg hbudget]
          exact prefixStable_skipTimes ih n h more
      | map n =>
        dsimp only at h ⊢
        split at h
        · cases h
        · rename_i hbudget
          rw [if_neg hbudget]
          exact prefixStable_skipTimes ih (2 * n) h more
      | nil | flag _ | natural _ | integer _ | floating _ =>
        cases h
        rfl

theorem prefixStable_readKey (s : Shape) : PrefixStable (readKey s) := by
  intro b rest key h more
  unfold readKey at h ⊢
  cases hhead : Head.read b with
  | error e =>
    rw [hhead] at h
    cases h
  | ok item =>
    obtain ⟨head, mid⟩ := item
    rw [prefixStable_read hhead]
    rw [hhead] at h
    cases head with
    | natural n =>
      cases h
      rfl
    | text n | bytes n =>
      dsimp only at h ⊢
      split at h
      · cases h
      · rename_i hbytes
        cases h
        rw [prefixStable_readBytes n hbytes]
    | nil | flag _ | integer _ | floating _ | list _ | map _ | extension _ => cases h

theorem prefixStable_readPairs (s : Shape) (budget n : Nat) (found : Fields) :
    PrefixStable (readPairs s budget n found) := by
  intro b rest fields h more
  induction n generalizing found b with
  | zero =>
    cases h
    rfl
  | succ n ih =>
    unfold readPairs at h ⊢
    split at h
    · cases h
    · rename_i hkey
      rw [prefixStable_readKey s hkey]
      dsimp only
      split at h
      · cases h
      · rename_i hskip
        rw [prefixStable_skip budget hskip]
        exact ih found h
    · rename_i name _ hkey
      rw [prefixStable_readKey s hkey]
      dsimp only
      split at h
      · cases h
      · rename_i hnew
        rw [if_neg hnew]
        split at h
        · cases h
        · rename_i hvalue
          rw [prefixStable_readText hvalue]
          exact ih _ h

theorem prefixStable_readElements (s : Shape) (length : Nat) (names : List String)
    (found : Fields) : PrefixStable (readElements s length names found) := by
  intro b rest fields h more
  induction names generalizing found b with
  | nil =>
    unfold readElements at h ⊢
    split at h
    · cases h
    · rename_i hlength
      cases h
      rw [if_neg hlength]
  | cons name names ih =>
    unfold readElements at h ⊢
    split at h
    · cases h
    · rename_i hlength
      rw [if_neg hlength]
      split at h
      · cases h
      · rename_i hvalue
        rw [prefixStable_readText hvalue]
        exact ih _ h

theorem prefixStable_readRecord (s : Shape) (budget : Nat) :
    PrefixStable (readRecord s budget) := by
  intro b rest fields h more
  unfold readRecord at h ⊢
  cases hhead : Head.read b with
  | error e =>
    rw [hhead] at h
    cases h
  | ok item =>
    obtain ⟨head, mid⟩ := item
    rw [prefixStable_read hhead]
    rw [hhead] at h
    cases head with
    | map n =>
      dsimp only at h ⊢
      split at h
      · cases h
      · rename_i hpairs
        rw [prefixStable_readPairs s budget n [] hpairs]
        dsimp only
        split at h
        · cases h
        · cases h
          rfl
    | list n => exact prefixStable_readElements s n s.fields [] h more
    | nil | flag _ | natural _ | integer _ | floating _ | text _ | bytes _ | extension _ => cases h

end MessagePack
end SubscriptionRegistry

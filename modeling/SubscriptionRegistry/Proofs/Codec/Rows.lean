/-
# Tables of metadata, written and read

A table is written row after row in rising order of its keys, and each row is a key and a
record.  Reading goes another way: the record is read by the names of its fields, in any order,
and what it holds has to pass the checks of `Metadata.create` once more.

* `Metadata.decode_encode`: one subscription is read back.
* `Metadata.decodeTable_encodeTable`: so is a table, whose rows come out in rising order.
* `Metadata.decodeTable_take`: a table that was cut short is not read at all.
-/
import SubscriptionRegistry.Proofs.Codec.Items
import SubscriptionRegistry.Metadata.MessagePack

namespace SubscriptionRegistry
namespace Metadata

open MessagePack (Head PrefixStable)

/-! ## 1. One subscription -/

/-- All texts are short enough to be written. -/
structure Short (m : Metadata) : Prop where
  id : MessagePack.Short m.id
  kind : MessagePack.Short m.kind
  filter : MessagePack.Short m.filter
  callback : MessagePack.Short m.callback

/-- The fields of the record, in the order in which they are written. -/
def packed (m : Metadata) : MessagePack.Fields :=
  [(idField, m.id), (kindField, m.kind), (filterField, m.filter), (callbackField, m.callback)]

theorem short_fieldNames : ∀ name ∈ fieldNames, MessagePack.Short name := by decide

theorem short_packed {m : Metadata} (h : m.Short) : m.packed.Short := by
  intro f hf
  simp only [packed, List.mem_cons, List.not_mem_nil, or_false] at hf
  rcases hf with rfl | rfl | rfl | rfl
  · exact ⟨short_fieldNames idField (by decide), h.id⟩
  · exact ⟨short_fieldNames kindField (by decide), h.kind⟩
  · exact ⟨short_fieldNames filterField (by decide), h.filter⟩
  · exact ⟨short_fieldNames callbackField (by decide), h.callback⟩

/-- Every field is found under its name again. -/
theorem create_packed {m : Metadata} (h : m.Valid) :
    create (packedIn m.packed kindField) (packedIn m.packed filterField)
      (packedIn m.packed callbackField) (packedIn m.packed idField) = .ok m := by
  have hkind : packedIn m.packed kindField = m.kind := rfl
  have hfilter : packedIn m.packed filterField = m.filter := rfl
  have hcallback : packedIn m.packed callbackField = m.callback := rfl
  have hid : packedIn m.packed idField = m.id := rfl
  rw [hkind, hfilter, hcallback, hid]
  exact create_eq_ok_iff.mpr ⟨rfl, h⟩

/-- **One subscription is read back.** -/
theorem decode_encode {m : Metadata} (hvalid : m.Valid) (hshort : m.Short) (budget : Nat)
    (rest : Bytes) : decode budget (m.encode ++ rest) = .ok (m, rest) := by
  have hrecord : MessagePack.readRecord packedShape budget (m.encode ++ rest)
      = .ok (m.packed, rest) :=
    MessagePack.readRecord_encodeRecord (short_packed hshort) rfl (by decide)
      (show 4 < UInt32.size by decide) budget rest
  rw [decode, hrecord]
  dsimp only
  rw [create_packed hvalid]

theorem valid_of_decode {budget : Nat} {m : Metadata} {b rest : Bytes}
    (h : decode budget b = .ok (m, rest)) : m.Valid := by
  unfold decode at h
  split at h
  · cases h
  · split at h
    · cases h
    · rename_i hcreate
      cases h
      exact (create_eq_ok_iff.mp hcreate).2

theorem prefixStable_decode (budget : Nat) : PrefixStable (decode budget) := by
  intro b rest m h more
  unfold decode at h ⊢
  split at h
  · cases h
  · rename_i hrecord
    rw [MessagePack.prefixStable_readRecord packedShape budget hrecord]
    dsimp only
    split at h
    · cases h
    · cases h
      rfl

/-! ## 2. Rows -/

/-- A row that can be written and will be let in again. -/
structure Fits (key : String) (m : Metadata) : Prop where
  key : MessagePack.Short key
  valid : m.Valid
  short : m.Short

/-- Rows are read back behind those that are in the table already, as long as no key comes
twice. -/
theorem decodeRows_encodeRows {rows : List (String × Metadata)} {t : Table String Metadata}
    (hfits : ∀ r ∈ rows, Fits r.1 r.2) (hnodup : ((t.rows ++ rows).map Prod.fst).Nodup)
    (budget : Nat) (rest : Bytes) :
    decodeRows budget rows.length t (encodeRows rows ++ rest)
      = .ok (⟨t.rows ++ rows, hnodup⟩, rest) := by
  induction rows generalizing t with
  | nil => simp only [List.append_nil]; rfl
  | cons r more ih =>
    have hr := hfits r List.mem_cons_self
    have hnew : t.get? r.1 = none := by
      rw [Table.get?_eq_none_iff]
      intro hmem
      rw [List.map_append, List.nodup_append] at hnodup
      exact hnodup.2.2 r.1 hmem r.1 (List.mem_map_of_mem List.mem_cons_self) rfl
    have hrows : (t.insert r.1 r.2).rows = t.rows ++ [r] := Table.rows_insert_of_get?_eq_none hnew
    have hcat : (t.insert r.1 r.2).rows ++ more = t.rows ++ r :: more := by
      rw [hrows, List.append_assoc, List.singleton_append]
    have hmore := ih (t := t.insert r.1 r.2) (fun q hq => hfits q (List.mem_cons_of_mem _ hq))
      (by rw [hcat]; exact hnodup)
    rw [encodeRows, List.flatMap_cons, ← encodeRows, List.length_cons, List.append_assoc,
      List.append_assoc, decodeRows, MessagePack.readText_encodeText hr.key]
    dsimp only
    rw [decode_encode hr.valid hr.short]
    dsimp only
    rw [hmore]
    simp only [hcat]

/-- No row is read that would not be let in otherwise. -/
theorem all_valid_decodeRows {budget n : Nat} {t u : Table String Metadata} {b rest : Bytes}
    (ht : t.All fun _ m => m.Valid) (h : decodeRows budget n t b = .ok (u, rest)) :
    u.All fun _ m => m.Valid := by
  induction n generalizing t b with
  | zero =>
    cases h
    exact ht
  | succ n ih =>
    rw [decodeRows] at h
    split at h
    · cases h
    · split at h
      · cases h
      · rename_i hrow
        exact ih (ht.insert (valid_of_decode hrow)) h

theorem prefixStable_decodeRows (budget n : Nat) (t : Table String Metadata) :
    PrefixStable (decodeRows budget n t) := by
  intro b rest u h more
  induction n generalizing t b with
  | zero =>
    cases h
    rfl
  | succ n ih =>
    unfold decodeRows at h ⊢
    split at h
    · cases h
    · rename_i hkey
      rw [MessagePack.prefixStable_readText hkey]
      dsimp only
      split at h
      · cases h
      · rename_i hrow
        rw [prefixStable_decode budget hrow]
        exact ih _ h

/-! ## 3. Tables -/

/-- The order of the rows does not matter to the length. -/
theorem length_encodeTable (t : Table String Metadata) :
    (encodeTable t).length = (MessagePack.mapHead t.size).length + (encodeRows t.rows).length := by
  rw [encodeTable, List.length_append]
  exact congrArg _ (t.perm_sorted.flatMap_right _).length_eq

/-- What is written is told by look-ups. -/
theorem encodeTable_congr {t u : Table String Metadata} (h : t.get? = u.get?) :
    encodeTable t = encodeTable u := by
  rw [encodeTable, encodeTable, Table.size_congr h, Table.sorted_congr h]

/-- A table is read if a head with the number of its rows and so many rows are. -/
theorem decodeTable_eq_ok_iff {b : Bytes} {t : Table String Metadata} :
    decodeTable b = .ok t ↔ ∃ n mid rest, Head.read b = .ok (.map n, mid)
      ∧ decodeRows (MessagePack.maxDepth - 2) n .empty mid = .ok (t, rest) := by
  unfold decodeTable
  constructor
  · intro h
    split at h
    · cases h
    · rename_i n mid hhead
      cases hrows : decodeRows (MessagePack.maxDepth - 2) n .empty mid with
      | error e =>
        rw [hrows] at h
        cases h
      | ok read =>
        rw [hrows] at h
        cases h
        exact ⟨n, mid, read.2, hhead, hrows⟩
    · cases h
  · rintro ⟨n, mid, rest, hhead, hrows⟩
    rw [hhead]
    dsimp only
    rw [hrows]
    rfl

theorem all_valid_decodeTable {b : Bytes} {t : Table String Metadata}
    (h : decodeTable b = .ok t) : t.All fun _ m => m.Valid := by
  obtain ⟨n, mid, rest, -, hrows⟩ := decodeTable_eq_ok_iff.mp h
  exact all_valid_decodeRows (fun _ _ h => by cases h) hrows

section

variable {t : Table String Metadata} (hsize : t.size < UInt32.size) (hfits : t.All Fits)
include hsize hfits

/-- The head and the rows of a table that was written, with nothing left over. -/
theorem read_encodeTable : ∃ n mid, Head.read (encodeTable t) = .ok (.map n, mid)
    ∧ decodeRows (MessagePack.maxDepth - 2) n .empty mid = .ok (t.sort, []) := by
  have hlength : t.sorted.length = t.size := t.perm_sorted.length_eq
  have hrow : ∀ r ∈ t.sorted, Fits r.1 r.2 := fun r hr =>
    hfits r.1 r.2 (Table.get?_eq_some_iff.mpr (t.perm_sorted.mem_iff.mp hr))
  have hrows := decodeRows_encodeRows (t := .empty) hrow t.sort.nodup (MessagePack.maxDepth - 2) []
  rw [List.append_nil, hlength] at hrows
  exact ⟨t.size, encodeRows t.sorted, MessagePack.read_mapHead hsize _, hrows⟩

/-- **A table is read back**, its rows in rising order of their keys. -/
theorem decodeTable_encodeTable : decodeTable (encodeTable t) = .ok t.sort := by
  obtain ⟨n, mid, hhead, hrows⟩ := read_encodeTable hsize hfits
  exact decodeTable_eq_ok_iff.mpr ⟨n, mid, [], hhead, hrows⟩

/-- **A table that was cut short is not read at all**: its readers stop by themselves, and the
last row ends where the table ends. -/
theorem decodeTable_take {n : Nat} (hn : n < (encodeTable t).length) (u : Table String Metadata) :
    decodeTable ((encodeTable t).take n) ≠ .ok u := by
  intro h
  obtain ⟨k, mid, rest, hhead, hrows⟩ := decodeTable_eq_ok_iff.mp h
  obtain ⟨k', mid', hhead', hrows'⟩ := read_encodeTable hsize hfits
  have hwhole := MessagePack.prefixStable_read hhead ((encodeTable t).drop n)
  rw [List.take_append_drop, hhead'] at hwhole
  cases hwhole
  have hrest := prefixStable_decodeRows _ _ _ hrows ((encodeTable t).drop n)
  rw [hrows'] at hrest
  have hnil : [] = rest ++ (encodeTable t).drop n := congrArg Prod.snd (Except.ok.inj hrest)
  have hdrop := congrArg List.length hnil
  rw [List.length_append, List.length_drop, List.length_nil] at hdrop
  omega

end

end Metadata
end SubscriptionRegistry

/-
# Metadata in MessagePack

A table of metadata is a map from its keys to records with named fields.

* `Metadata.encodeTable`: the rows in rising order of their keys.
* `Metadata.decodeTable`: reads them back and lets nothing in that `Metadata.create` refuses.
-/
import SubscriptionRegistry.Metadata.Json
import SubscriptionRegistry.MessagePack.Record
import SubscriptionRegistry.Table

namespace SubscriptionRegistry
namespace Metadata

open MessagePack (Fault Head Reading)

/-- The record of one subscription. -/
def encode (m : Metadata) : Bytes :=
  MessagePack.encodeRecord [(idField, m.id), (kindField, m.kind), (filterField, m.filter),
    (callbackField, m.callback)]

/-- Rows one after another. -/
def encodeRows (rows : List (String × Metadata)) : Bytes :=
  rows.flatMap fun r => MessagePack.encodeText r.1 ++ r.2.encode

/-- A table, in rising order of its keys. -/
def encodeTable (t : Table String Metadata) : Bytes :=
  MessagePack.mapHead t.size ++ encodeRows t.sorted

/-- The record that metadata is read from. -/
def packedShape : MessagePack.Shape := ⟨recordName, fieldNames⟩

/-- The text in a field, empty if there is none. -/
def packedIn (found : MessagePack.Fields) (name : String) : String :=
  (found.lookup name).getD ""

/-- One subscription, from the record at the front. -/
def decode (budget : Nat) (b : Bytes) : Reading Metadata :=
  match MessagePack.readRecord packedShape budget b with
  | .error e => .error e
  | .ok (found, rest) =>
    match create (packedIn found kindField) (packedIn found filterField)
        (packedIn found callbackField) (packedIn found idField) with
    | .error e => .error (.refused e.message)
    | .ok m => .ok (m, rest)

/-- The next `n` rows.  Of two rows with the same key the later one counts. -/
def decodeRows (budget : Nat) :
    (n : Nat) → Table String Metadata → Bytes → Reading (Table String Metadata)
  | 0, t, b => .ok (t, b)
  | n + 1, t, b =>
    match MessagePack.readText b with
    | .error e => .error e
    | .ok (key, b) =>
      match decode budget b with
      | .error e => .error e
      | .ok (m, b) => decodeRows budget n (t.insert key m) b

/-- The table at the front; what follows it does not count.  The table and each record in it
take one from the budget of nesting. -/
def decodeTable (b : Bytes) : Except Fault (Table String Metadata) :=
  match Head.read b with
  | .error e => .error e
  | .ok (.map n, rest) => (decodeRows (MessagePack.maxDepth - 2) n .empty rest).map (·.1)
  | .ok (head, rest) => .error (MessagePack.mismatch "a map" head rest)

end Metadata
end SubscriptionRegistry

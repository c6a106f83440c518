/-
# Metadata in JSON

* `Metadata.toJson`: the four fields in order.
* `Metadata.ofJson`: reads them back, from an object in any order or from an array, and lets
  nothing in that `Metadata.create` refuses.
-/
import SubscriptionRegistry.Metadata
import SubscriptionRegistry.Json.Record
import SubscriptionRegistry.Json.Printer

namespace SubscriptionRegistry
namespace Metadata

/-- The field names of stored metadata. -/
def idField : String := "id"
def kindField : String := "type_name"
def filterField : String := "serialized_filter"
def callbackField : String := "callback_address"

/-- All four, in the order in which they are written. -/
def fieldNames : List String := [idField, kindField, filterField, callbackField]

/-- The record that metadata is read from, before its fields are checked. -/
def recordName : String := "MetadataFields"

/-- The JSON text. -/
def toJson (m : Metadata) : String :=
  String.ofList (Json.braced
    [Json.member idField (Json.quoted m.id), Json.member kindField (Json.quoted m.kind),
      Json.member filterField (Json.quoted m.filter),
      Json.member callbackField (Json.quoted m.callback)])

/-- Four strings, none of which may be missing. -/
def shape : Json.Shape := ⟨recordName, fieldNames.map fun name => (name, .text), false⟩

/-- The string in a field, empty if there is none. -/
def textIn (found : Json.Fields) (name : String) : String :=
  match found.lookup name with
  | some (.text s) => s
  | _ => ""

/-- Metadata from the fields that were found. -/
def ofFields (found : Json.Fields) : Except StoreError Metadata :=
  create (textIn found kindField) (textIn found filterField) (textIn found callbackField)
    (textIn found idField)

/-- The metadata that a text holds.  Fields are checked before what follows the record. -/
def ofJson (text : String) : Except StoreError Metadata :=
  match shape.read text with
  | .error e => .error (.invalidConfig e.message)
  | .ok (found, c) =>
    match ofFields found with
    | .error e => .error (.invalidConfig e.message)
    | .ok m =>
      match c.finish with
      | .error e => .error (.invalidConfig e.message)
      | .ok () => .ok m

end Metadata
end SubscriptionRegistry

/-
# Configuration

How a store is opened, and where a file store keeps its snapshot.  Both are read from JSON;
fields that are missing take their defaults, and members of other names are passed over.
-/
import SubscriptionRegistry.Error
import SubscriptionRegistry.Text.Utf8
import SubscriptionRegistry.Json.Record
import SubscriptionRegistry.Json.Printer
import SubscriptionRegistry.Path

namespace SubscriptionRegistry

/-- The record that a text holds and nothing else. -/
def readConfig (shape : Json.Shape) (text : String) : Except StoreError Json.Fields :=
  match shape.read text with
  | .error e => .error (.invalidConfig e.message)
  | .ok (found, c) =>
    match c.finish with
    | .error e => .error (.invalidConfig e.message)
    | .ok () => .ok found

/-- The truth value in a field, or the default. -/
def flagIn (found : Json.Fields) (name : String) (default : Bool) : Bool :=
  match found.lookup name with
  | some (.flag b) => b
  | _ => default

/-! ## 1. The store -/

/-- How a store is opened. -/
structure StoreConfig where
  /-- Milliseconds between two passes of the reconciler. -/
  reconcileIntervalMs : UInt64 := 60000
  /-- Start the reconciler on opening. -/
  reconcileEnabled : Bool := true
  /-- Load all stored subscriptions on opening. -/
  loadOnOpen : Bool := true
deriving DecidableEq, Repr

namespace StoreConfig

/-- The milliseconds that are waited; at least one. -/
def reconcileInterval (c : StoreConfig) : UInt64 := max c.reconcileIntervalMs 1

def intervalField : String := "reconcile_interval_ms"
def enabledField : String := "reconcile_enabled"
def loadField : String := "load_on_open"

/-- A 64-bit number and two truth values, any of which may be missing. -/
def shape : Json.Shape :=
  ⟨"StoreConfig", [(intervalField, .natural), (enabledField, .flag), (loadField, .flag)], true⟩

/-- The configuration from the fields that were found. -/
def ofFields (found : Json.Fields) : StoreConfig :=
  let default : StoreConfig := {}
  { reconcileIntervalMs := match found.lookup intervalField with
      | some (.natural n) => UInt64.ofNat n
      | _ => default.reconcileIntervalMs
    reconcileEnabled := flagIn found enabledField default.reconcileEnabled
    loadOnOpen := flagIn found loadField default.loadOnOpen }

/-- The configuration that a text holds. -/
def ofJson (text : String) : Except StoreError StoreConfig :=
  (readConfig shape text).map ofFields

/-- The configuration that the bytes of a file hold. -/
def ofBytes (bytes : List UInt8) : Except StoreError StoreConfig :=
  match Utf8.decode bytes with
  | .error _ => .error (.io .notUtf8)
  | .ok text => ofJson (String.ofList text)

/-- The JSON text. -/
def toJson (c : StoreConfig) : String :=
  String.ofList (Json.braced
    [Json.member intervalField (Json.natural c.reconcileIntervalMs.toNat),
      Json.member enabledField (Json.flag c.reconcileEnabled),
      Json.member loadField (Json.flag c.loadOnOpen)])

end StoreConfig

/-! ## 2. The file store -/

/-- Where a file store is opened. -/
structure FileConfig where
  /-- The directory of the snapshot and the lock. -/
  path : String := "./subscriptions"
  /-- Whether a missing directory is made. -/
  createIfMissing : Bool := true
deriving DecidableEq, Repr

namespace FileConfig

def pathField : String := "path"
def createField : String := "create_if_missing"

/-- A path and a truth value, either of which may be missing. -/
def shape : Json.Shape :=
  ⟨"FileBackendConfig", [(pathField, .path), (createField, .flag)], true⟩

/-- The configuration from the fields that were found. -/
def ofFields (found : Json.Fields) : FileConfig :=
  let default : FileConfig := {}
  { path := match found.lookup pathField with
      | some (.text s) => s
      | _ => default.path
    createIfMissing := flagIn found createField default.createIfMissing }

/-- The configuration that a text holds. -/
def ofJson (text : String) : Except StoreError FileConfig :=
  (readConfig shape text).map ofFields

/-- The JSON text. -/
def toJson (c : FileConfig) : String :=
  String.ofList (Json.braced
    [Json.member pathField (Json.quoted c.path),
      Json.member createField (Json.flag c.createIfMissing)])

/-- Whether both configurations name the same directory and treat it alike. -/
def same (a b : FileConfig) : Bool :=
  Path.ofString a.path = Path.ofString b.path && a.createIfMissing = b.createIfMissing

end FileConfig
end SubscriptionRegistry

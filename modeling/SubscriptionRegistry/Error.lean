/-
# What can go wrong

A `StoreError` names the cause; the wording of every cause is in this module alone.  Callers
choose what to do next by the class of an error:

* `StoreError.message`: the text of an error.
* `StoreError.errorClass`: whether the caller, the registry or the backing store is at fault.
* `StoreError.causes`: what lies beneath, outermost first.
-/

namespace SubscriptionRegistry

/-! ## 1. Classes -/

/-- Who is at fault. -/
inductive ErrorClass
  /-- The caller passed something invalid. -/
  | validation
  /-- The call does not fit the state of the registry. -/
  | consistency
  /-- The backing store failed. -/
  | backend
deriving DecidableEq, Repr

/-! ## 2. Causes -/

/-- The arguments that must not be empty. -/
inductive Argument
  | kind | filter | callback | id
  | requestFilter | requestCallback
  | lookupId | lookupKind
  | storeKey
deriving DecidableEq, Repr

/-- What callers know the argument as. -/
def Argument.label : Argument → String
  | .kind => "type"
  | .filter => "serializedFilter"
  | .callback => "callbackUrl"
  | .id => "id"
  | .requestFilter => "Serialized filter string"
  | .requestCallback => "Callback address"
  | .lookupId => "Subscription ID string"
  | .lookupKind => "Subscription type string"
  | .storeKey => "Subscription key"

/-- What is wrong with an argument. -/
inductive ArgumentFault
  | empty (argument : Argument)
  | other (text : String)
deriving DecidableEq, Repr

def ArgumentFault.message : ArgumentFault → String
  | .empty argument => argument.label ++ " cannot be null or empty"
  | .other text => text

/-- Why a live subscription could not be registered, found or released. -/
inductive RegistrationFault
  /-- The entry already holds a live subscription. -/
  | alreadyRegistered (id : String)
  /-- The entry holds none. -/
  | notRegistered (id : String)
  /-- The activator refused. -/
  | refused (id : String)
  /-- The factory builds subscriptions of another type. -/
  | wrongKind (factory id kind : String)
  /-- The factory built nothing. -/
  | builtNothing (factory id : String)
  /-- Some dormant subscriptions of a bound type stayed dormant. -/
  | notActivated (ids : List String)
  /-- A registered entry gave no subscription. -/
  | unavailable
  | other (text : String)
deriving DecidableEq, Repr

def RegistrationFault.message : RegistrationFault → String
  | .alreadyRegistered id => "Subscription [" ++ id ++ "] is already registered"
  | .notRegistered id => "Subscription [" ++ id ++ "] is not registered"
  | .refused id => "Could not activate subscription [" ++ id ++ "]"
  | .wrongKind factory id kind =>
    "Factory of type [" ++ factory ++ "] cannot build subscription [" ++ id ++ "] of type ["
      ++ kind ++ "]"
  | .builtNothing factory id =>
    "Factory of type [" ++ factory ++ "] returned no subscription for [" ++ id ++ "]"
  | .notActivated ids => "Could not activate subscriptions: " ++ ", ".intercalate ids
  | .unavailable => "Could not get subscription"
  | .other text => text

/-- Why the file system refused. -/
inductive IoFault
  | notFound
  | alreadyExists
  | notADirectory
  | isADirectory
  | nameTooLong
  /-- A zero character stands in a path. -/
  | zeroInName
  /-- The directory of a file store is missing and may not be made. -/
  | directoryMissing (path : String)
  /-- A file ends before all that was asked for. -/
  | shortRead
  | notUtf8
  | other (text : String)
deriving DecidableEq, Repr

def IoFault.message : IoFault → String
  | .notFound => "No such file or directory (os error 2)"
  | .alreadyExists => "File exists (os error 17)"
  | .notADirectory => "Not a directory (os error 20)"
  | .isADirectory => "Is a directory (os error 21)"
  | .nameTooLong => "File name too long (os error 36)"
  | .zeroInName => "file name contained an unexpected NUL byte"
  | .directoryMissing path => "subscription directory " ++ path ++ " does not exist"
  | .shortRead => "failed to fill whole buffer"
  | .notUtf8 => "stream did not contain valid UTF-8"
  | .other text => text

/-- Why a file is no snapshot. -/
inductive FormatFault
  | badMagic
  | unsupportedVersion (version : UInt8)
  | lengthExceedsFile
  | other (text : String)
deriving DecidableEq, Repr

def FormatFault.message : FormatFault → String
  | .badMagic => "Invalid subscription file magic"
  | .unsupportedVersion version =>
    "Unsupported subscription file version: " ++ toString version.toNat
  | .lengthExceedsFile => "Subscription file length exceeds file size"
  | .other text => text

/-! ## 3. Errors -/

/-- All that an operation of the registry or a backing store may fail with. -/
inductive StoreError
  | invalidArgument (fault : ArgumentFault)
  | invalidCallback (address reason : String)
  | invalidConfig (text : String)
  | subscriptionNotFound (id : String)
  | duplicateFactory (kind : String)
  | factoryNotBound (kind : String)
  | registration (fault : RegistrationFault)
  /-- The backing store failed while the registry was doing what `context` says. -/
  | backend (context : String) (source : StoreError)
  /-- Of `attempted` elements those in `failures` failed, each with its text. -/
  | batchFailed (attempted : Nat) (failures : List (String × String))
  | io (fault : IoFault)
  | serialization (text : String)
  | deserialization (text : String)
  | invalidFormat (fault : FormatFault)
  | checksumMismatch (expected got : UInt32)
  | locked
deriving DecidableEq, Repr

namespace StoreError

/-- The text of an error. -/
def message : StoreError → String
  | .invalidArgument fault => "Invalid argument: " ++ fault.message
  | .invalidCallback address reason =>
    "Invalid subscription request: callback URL [" ++ address ++ "] was malformed: " ++ reason
  | .invalidConfig text => "Invalid configuration: " ++ text
  | .subscriptionNotFound id => "Subscription [" ++ id ++ "] does not exist"
  | .duplicateFactory kind =>
    "Duplicate factory registered for type [" ++ kind ++ "]. This is an API client error"
  | .factoryNotBound kind =>
    "Binding synchronization is wrong. No factory [" ++ kind ++ "] exists to unbind"
  | .registration fault => "Registration error: " ++ fault.message
  | .backend context source => context ++ ": " ++ source.message
  | .batchFailed attempted failures =>
    "Batch write failed for " ++ toString failures.length ++ " of " ++ toString attempted
      ++ " entries"
  | .io fault => "IO error: " ++ fault.message
  | .serialization text => "Serialization error: " ++ text
  | .deserialization text => "Deserialization error: " ++ text
  | .invalidFormat fault => "Invalid store format: " ++ fault.message
  | .checksumMismatch expected got =>
    "Checksum mismatch: expected " ++ toString expected.toNat ++ ", got " ++ toString got.toNat
  | .locked => "Store is locked by another process"

/-- Who is at fault. -/
def errorClass : StoreError → ErrorClass
  | .invalidArgument _ | .invalidCallback _ _ | .invalidConfig _ => .validation
  | .subscriptionNotFound _ | .duplicateFactory _ | .factoryNotBound _ | .registration _ =>
    .consistency
  | .backend _ _ | .batchFailed _ _ | .io _ | .serialization _ | .deserialization _
  | .invalidFormat _ | .checksumMismatch _ _ | .locked => .backend

/-- The texts of what lies beneath an error, outermost first. -/
def causes : StoreError → List String
  | .backend _ source => source.message :: source.causes
  | .io fault => [fault.message]
  | _ => []

/-- The failure that the contexts around it explain. -/
def root : StoreError → StoreError
  | .backend _ source => source.root
  | e => e

end StoreError

/-- Refuses an empty text. -/
def requireNonEmpty (value : String) (argument : Argument) : Except StoreError Unit :=
  if value = "" then .error (.invalidArgument (.empty argument)) else .ok ()

@[simp] theorem requireNonEmpty_eq_ok_iff {value : String} {argument : Argument} :
    requireNonEmpty value argument = .ok () ↔ value ≠ "" := by
  unfold requireNonEmpty
  split <;> simp_all

theorem errorClass_of_requireNonEmpty {value : String} {argument : Argument} {e : StoreError}
    (h : requireNonEmpty value argument = .error e) : e.errorClass = .validation := by
  unfold requireNonEmpty at h
  split at h
  · injection h with h
    subst h
    rfl
  · cases h

/-- One step after another succeeds if both do. -/
theorem bind_eq_ok_iff {ε α β : Type} {x : Except ε α} {k : α → Except ε β} {b : β} :
    x >>= k = .ok b ↔ ∃ a, x = .ok a ∧ k a = .ok b := by
  cases x with
  | error e =>
    constructor
    · intro h
      cases h
    · rintro ⟨a, h, -⟩
      cases h
  | ok a =>
    constructor
    · exact fun h => ⟨a, rfl, h⟩
    · rintro ⟨a', h, hk⟩
      cases h
      exact hk

/-- A guard in front of the rest lets through what it does not throw out. -/
theorem guard_eq_ok_iff {ε β : Type} {c : Prop} [Decidable c] {e : ε}
    {k : PUnit → Except ε β} {b : β} :
    (if c then throw e >>= k else k ⟨⟩) = .ok b ↔ ¬ c ∧ k ⟨⟩ = .ok b := by
  split
  next hc =>
    constructor
    · intro h
      cases h
    · exact fun h => absurd hc h.1
  next hc => exact ⟨fun h => ⟨hc, h⟩, And.right⟩

/-- A check followed by the rest fails with what one of them fails with. -/
theorem eq_error_of_bind {β : Type} {x : Except StoreError Unit} {k : Unit → Except StoreError β}
    {e : StoreError} (h : (x >>= k) = .error e) : x = .error e ∨ k () = .error e := by
  cases x with
  | error e' => exact Or.inl (by simpa [bind, Except.bind] using h)
  | ok u => exact Or.inr h

theorem eq_error_of_map {β γ : Type} {x : Except StoreError β} {f : β → γ} {e : StoreError}
    (h : x.map f = .error e) : x = .error e := by
  cases x with
  | error e' => simpa [Except.map] using h
  | ok b => cases h

theorem bind_requireNonEmpty {β : Type} {value : String} {argument : Argument}
    {k : Unit → Except StoreError β} {b : β} :
    (requireNonEmpty value argument >>= k) = .ok b ↔ value ≠ "" ∧ k () = .ok b := by
  unfold requireNonEmpty
  split <;> simp_all [bind, Except.bind]

/-! Results that are looked at for success only. -/

@[simp] theorem isOk_ok {ε β : Type} (b : β) : (Except.ok b : Except ε β).isOk = true := rfl

@[simp] theorem isOk_error {ε β : Type} (e : ε) : (Except.error e : Except ε β).isOk = false := rfl

@[simp] theorem isOk_map {ε β γ : Type} (f : β → γ) (x : Except ε β) :
    (x.map f).isOk = x.isOk := by
  cases x <;> rfl

end SubscriptionRegistry

/-
# Subscription metadata

What the backing store keeps of a subscription: its id, its type, a filter that only the
factory of that type understands, and the address that events are delivered to.

* `Metadata.create`: the only way in; it checks all four fields.
* `Metadata.Valid`: what it checks (`Metadata.create_eq_ok_iff`).
-/
import SubscriptionRegistry.Error
import SubscriptionRegistry.Urn
import SubscriptionRegistry.Url.Address

namespace SubscriptionRegistry

/-! ## 1. Identifiers and requests -/

/-- Points at one subscription by id and type. -/
structure Identifier where
  id : String
  kind : String
deriving DecidableEq, Repr

namespace Identifier

/-- The text that clients are shown. -/
def text (i : Identifier) : String := i.id ++ " | " ++ i.kind

/-- Both parts have to be there. -/
def validate (i : Identifier) : Except StoreError Unit := do
  requireNonEmpty i.id .lookupId
  requireNonEmpty i.kind .lookupKind

theorem validate_eq_ok_iff {i : Identifier} :
    i.validate = .ok () ↔ i.id ≠ "" ∧ i.kind ≠ "" := by
  unfold validate
  rw [bind_requireNonEmpty, requireNonEmpty_eq_ok_iff]

theorem errorClass_of_validate {i : Identifier} {e : StoreError}
    (h : i.validate = .error e) : e.errorClass = .validation := by
  unfold validate at h
  rcases eq_error_of_bind h with h | h <;> exact errorClass_of_requireNonEmpty h

end Identifier

/-- The part of a subscription request that is stored: which events, and where to. -/
structure Request where
  filter : String
  callback : String
deriving DecidableEq, Repr

/-- Both parts have to be there. -/
def Request.validate (r : Request) : Except StoreError Unit := do
  requireNonEmpty r.filter .requestFilter
  requireNonEmpty r.callback .requestCallback

theorem Request.errorClass_of_validate {r : Request} {e : StoreError}
    (h : r.validate = .error e) : e.errorClass = .validation := by
  unfold Request.validate at h
  rcases eq_error_of_bind h with h | h <;> exact errorClass_of_requireNonEmpty h

/-! ## 2. Metadata -/

/-- The stored description of a subscription. -/
structure Metadata where
  id : String
  kind : String
  filter : String
  callback : String
deriving DecidableEq, Repr

namespace Metadata

/-- A callback address is an absolute URL with a path. -/
def checkCallback (address : String) : Except StoreError Unit :=
  match Url.Address.check address with
  | .ok () => .ok ()
  | .error fault => .error (.invalidCallback address fault.message)

/-- No field is empty, and the callback address is an absolute URL with a path. -/
def Valid (m : Metadata) : Prop :=
  m.kind ≠ "" ∧ m.filter ≠ "" ∧ m.callback ≠ "" ∧ m.id ≠ ""
    ∧ Url.Address.check m.callback = .ok ()

/-- Metadata from its fields.  The first field that is wrong, in the order of the arguments,
is reported; the address is read last. -/
def create (kind filter callback id : String) : Except StoreError Metadata := do
  requireNonEmpty kind .kind
  requireNonEmpty filter .filter
  requireNonEmpty callback .callback
  requireNonEmpty id .id
  checkCallback callback
  return { id, kind, filter, callback }

theorem checkCallback_eq_ok_iff {address : String} :
    checkCallback address = .ok () ↔ Url.Address.check address = .ok () := by
  unfold checkCallback
  split <;> simp_all

theorem errorClass_of_checkCallback {address : String} {e : StoreError}
    (h : checkCallback address = .error e) : e.errorClass = .validation := by
  unfold checkCallback at h
  split at h
  · cases h
  · injection h with h
    subst h
    rfl

/-- Metadata is made of its fields exactly if they are valid. -/
theorem create_eq_ok_iff {kind filter callback id : String} {m : Metadata} :
    create kind filter callback id = .ok m ↔ m = ⟨id, kind, filter, callback⟩ ∧ m.Valid := by
  unfold create
  simp only [bind_requireNonEmpty]
  constructor
  · rintro ⟨hk, hf, hc, hi, h⟩
    cases hcheck : checkCallback callback with
    | error e => simp [hcheck, bind, Except.bind] at h
    | ok u =>
      simp only [hcheck, bind, Except.bind, pure, Except.pure, Except.ok.injEq] at h
      subst h
      exact ⟨rfl, hk, hf, hc, hi, checkCallback_eq_ok_iff.mp hcheck⟩
  · rintro ⟨rfl, hk, hf, hc, hi, h⟩
    refine ⟨hk, hf, hc, hi, ?_⟩
    rw [checkCallback_eq_ok_iff.mpr h]
    rfl

/-- Whatever is wrong with the fields is the caller's fault. -/
theorem errorClass_of_create {kind filter callback id : String} {e : StoreError}
    (h : create kind filter callback id = .error e) : e.errorClass = .validation := by
  unfold create at h
  rcases eq_error_of_bind h with h | h
  · exact errorClass_of_requireNonEmpty h
  rcases eq_error_of_bind h with h | h
  · exact errorClass_of_requireNonEmpty h
  rcases eq_error_of_bind h with h | h
  · exact errorClass_of_requireNonEmpty h
  rcases eq_error_of_bind h with h | h
  · exact errorClass_of_requireNonEmpty h
  rcases eq_error_of_bind h with h | h
  · exact errorClass_of_checkCallback h
  · cases h

/-- Metadata under a fresh id made from random bits. -/
def generate (kind filter callback : String) (random : Nat) : Except StoreError Metadata :=
  create kind filter callback (Urn.ofRandom random)

/-- How clients refer to the subscription. -/
def identifier (m : Metadata) : Identifier := ⟨m.id, m.kind⟩

end Metadata
end SubscriptionRegistry

/-
# Writing to the backing store

Single writes and deletes, and batches of them.  A batch tries every element, whatever became
of the ones before, and reports all that failed.
-/
import SubscriptionRegistry.Services

namespace SubscriptionRegistry
namespace Writer

variable {π α φ σ : Type} [BackingStore π]

/-- Stores metadata. -/
def write (m : Metadata) (s : Services π α φ σ) : Except StoreError Unit × Services π α φ σ :=
  s.insert m

/-- Deletes by id.  An empty id never reaches the store. -/
def delete (id : String) (s : Services π α φ σ) : Except StoreError Unit × Services π α φ σ :=
  match requireNonEmpty id .storeKey with
  | .error e => (.error e, s)
  | .ok () => s.delete id

/-- Does `act` to every element in order.  The failures come with the element's id and the
text of its error. -/
def runEach {β : Type} (id : β → String)
    (act : β → Services π α φ σ → Except StoreError Unit × Services π α φ σ) :
    List β → Services π α φ σ → List (String × String) × Services π α φ σ
  | [], s => ([], s)
  | b :: rest, s =>
    match act b s with
    | (.ok (), s) => runEach id act rest s
    | (.error e, s) =>
      match runEach id act rest s with
      | (failures, s) => ((id b, e.message) :: failures, s)

/-- What a batch comes to. -/
def batchOutcome (attempted : Nat) (failures : List (String × String)) :
    Except StoreError Unit :=
  if failures.isEmpty then .ok () else .error (.batchFailed attempted failures)

/-- Stores all of them. -/
def writeAll (ms : List Metadata) (s : Services π α φ σ) :
    Except StoreError Unit × Services π α φ σ :=
  match runEach Metadata.id write ms s with
  | (failures, s) => (batchOutcome ms.length failures, s)

/-- Deletes all of them. -/
def deleteAll (ids : List String) (s : Services π α φ σ) :
    Except StoreError Unit × Services π α φ σ :=
  match runEach (fun id => id) delete ids s with
  | (failures, s) => (batchOutcome ids.length failures, s)

end Writer
end SubscriptionRegistry

/-
# Operations

What a client of a registry can ask for, and what it is answered, as data.  So a run of a
registry can be written down, and what holds of every operation can be said once.

* `Registry.perform`: does an operation.
-/
import SubscriptionRegistry.Registry

namespace SubscriptionRegistry

/-- A call that may change a registry. -/
inductive Operation (φ σ : Type)
  | init
  | insert (object : σ) (request : Request) (kind : String) (random : Nat)
  | update (object : σ) (request : Request) (target : Identifier)
  | delete (target : Identifier)
  | bind (factory : Option φ)
  | unbind (factory : Option φ)
  | reconcile
  | flush

/-- What a call that succeeds is answered with. -/
inductive Answer (σ : Type)
  | done
  | identifier (i : Identifier)
  | object (object : σ)
  | drift (d : Registry.Drift)
deriving DecidableEq, Repr

namespace Registry

variable {π α φ σ : Type} [BackingStore π] [Activator α σ] [Factory φ σ]

/-- Does an operation. -/
def perform : Operation φ σ → Registry π α φ σ →
    Except StoreError (Answer σ) × Registry π α φ σ
  | .init, r => (r.init.1.map fun _ => .done, r.init.2)
  | .insert object request kind random, r =>
    ((r.insert object request kind random).1.map .identifier,
      (r.insert object request kind random).2)
  | .update object request target, r =>
    ((r.update object request target).1.map fun _ => .done, (r.update object request target).2)
  | .delete target, r => ((r.delete target).1.map .object, (r.delete target).2)
  | .bind factory, r => ((r.bind factory).1.map fun _ => .done, (r.bind factory).2)
  | .unbind factory, r => ((r.unbind factory).1.map fun _ => .done, (r.unbind factory).2)
  | .reconcile, r => (r.reconcile.1.map .drift, r.reconcile.2)
  | .flush, r => (r.flush.1.map fun _ => .done, r.flush.2)

end Registry
end SubscriptionRegistry

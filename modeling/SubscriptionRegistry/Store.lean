/-
# The store

A registry opened as a configuration says: loaded or empty, with a reconciler or without.

* `Store.open`: all or nothing; a registry that cannot be loaded is closed again.
* `Store.close`: stops the reconciler and releases everything.
-/
import SubscriptionRegistry.Config
import SubscriptionRegistry.Supervised

namespace SubscriptionRegistry

/-- A registry with its reconciler, and the configuration that it was opened with. -/
structure Store (π α φ σ : Type) where
  config : StoreConfig
  supervised : Supervised π α φ σ

namespace Store

variable {π α φ σ : Type}

/-- The registry itself. -/
def registry (s : Store π α φ σ) : Registry π α φ σ := s.supervised.registry

/-- Opens a registry.  If it cannot be loaded, the services come back with the error. -/
def «open» [BackingStore π] [Activator α σ] [Factory φ σ] (config : StoreConfig)
    (services : Services π α φ σ) : Except (StoreError × Services π α φ σ) (Store π α φ σ) :=
  let loaded : Except StoreError Unit × Registry π α φ σ :=
    if config.loadOnOpen then (Registry.new services).init else (.ok (), .new services)
  match loaded with
  | (.error e, r) => .error (e, r.close)
  | (.ok (), r) =>
    let supervised := Supervised.alone r
    .ok ⟨config, if config.reconcileEnabled then supervised.start config.reconcileInterval
      else supervised⟩

/-- Stops the reconciler and releases all live subscriptions. -/
def close [Activator α σ] (s : Store π α φ σ) : Services π α φ σ :=
  s.supervised.stop.registry.close

end Store
end SubscriptionRegistry

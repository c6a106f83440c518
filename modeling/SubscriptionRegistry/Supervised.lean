/-
# A registry with a background reconciler

A reconciler that is running makes a pass over its registry whenever its interval is over.
Nobody sees the outcome of a pass; what it finds it repairs, and what fails is left for the
next one.

* `Supervised.start`, `Supervised.stop`: the reconciler comes and goes.
* `Supervised.elapse`: the passes that fall into a stretch of time.
* `Supervised.await`: passes until something holds.
-/
import SubscriptionRegistry.Registry

namespace SubscriptionRegistry

/-- A running reconciler. -/
structure Reconciler where
  /-- Milliseconds between two passes. -/
  intervalMs : UInt64
deriving DecidableEq, Repr

/-- A registry and its reconciler, if one is running. -/
structure Supervised (π α φ σ : Type) where
  registry : Registry π α φ σ
  reconciler : Option Reconciler

namespace Supervised

variable {π α φ σ : Type}

/-- No reconciler is running. -/
def alone (registry : Registry π α φ σ) : Supervised π α φ σ := ⟨registry, none⟩

/-- Starts a reconciler, in the place of one that is running. -/
def start (intervalMs : UInt64) (s : Supervised π α φ σ) : Supervised π α φ σ :=
  { s with reconciler := some ⟨intervalMs⟩ }

/-- Stops the reconciler, if one is running. -/
def stop (s : Supervised π α φ σ) : Supervised π α φ σ := { s with reconciler := none }

/-- Whether a reconciler is running. -/
def isRunning (s : Supervised π α φ σ) : Bool := s.reconciler.isSome

section

variable [BackingStore π] [Activator α σ] [Factory φ σ]

/-- One pass of the reconciler. -/
def pass (s : Supervised π α φ σ) : Supervised π α φ σ :=
  { s with registry := s.registry.reconcile.2 }

/-- The passes that a reconciler makes in some milliseconds, at most one in each. -/
def passesIn (ms : Nat) (s : Supervised π α φ σ) : Nat :=
  match s.reconciler with
  | none => 0
  | some r => ms / max 1 r.intervalMs.toNat

/-- Lets some milliseconds go by. -/
def elapse (ms : Nat) (s : Supervised π α φ σ) : Supervised π α φ σ :=
  Nat.repeat pass (s.passesIn ms) s

/-- Makes passes, at most `n`, until the registry passes the test. -/
def awaitPasses (test : Registry π α φ σ → Bool) : (n : Nat) → Supervised π α φ σ →
    Bool × Supervised π α φ σ
  | 0, s => (test s.registry, s)
  | n + 1, s => if test s.registry then (true, s) else awaitPasses test n s.pass

/-- Waits, at most some milliseconds, until the registry passes the test; tells whether it
does. -/
def await (test : Registry π α φ σ → Bool) (ms : Nat) (s : Supervised π α φ σ) :
    Bool × Supervised π α φ σ :=
  awaitPasses test (s.passesIn ms) s

end

end Supervised
end SubscriptionRegistry

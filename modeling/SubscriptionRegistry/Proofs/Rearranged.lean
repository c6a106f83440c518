/-
# Caches in any order

Nobody may count on the order in which a cache has its rows: one that grows may arrange all of them
anew.  So two registries count as the same here if every look-up in their caches gives the same, and
an operation is a relation: before it and after it the rows may be arranged in any way.

Most operations go by look-ups and do not see the difference.  Those that go through the whole
cache do, and what they come to in another order is for others to say.

* `Registry.Rearranged`: the same registry with the rows of its cache in another order.
* `Registry.Performs`: an operation is done, in whatever order the rows are.
* `Registry.Unordered`: runs of such operations.
* `Registry.Unordered.owned`: every activation is accounted for in all of them.
-/
import SubscriptionRegistry.Proofs.OwnedOnce

namespace SubscriptionRegistry
namespace Registry

variable {π α φ σ : Type}

/-! ## 1. Another order of the rows -/

/-- The same registry, with the rows of its cache in another order. -/
structure Rearranged (r r' : Registry π α φ σ) : Prop where
  entries : r'.cache.get? = r.cache.get?
  factories : r'.factories = r.factories
  services : r'.services = r.services

namespace Rearranged

variable {r r' r'' : Registry π α φ σ}

theorem refl (r : Registry π α φ σ) : r.Rearranged r := ⟨rfl, rfl, rfl⟩

theorem rows (h : r.Rearranged r') : r.cache.rows.Perm r'.cache.rows :=
  Table.perm_of_get?_eq h.entries.symm

/-- Look-ups of clients do not show the order. -/
theorem get (h : r.Rearranged r') (i : Identifier) : r'.get i = r.get i := by
  unfold Registry.get
  rw [h.entries]

theorem fresh (h : r.Rearranged r') {op : Operation φ σ} (hfresh : op.Fresh r) : op.Fresh r' := by
  cases op with
  | insert object request kind random => exact (congrFun h.entries _).trans hfresh
  | init | update | delete | bind | unbind | reconcile | flush => trivial

/-- Neither does the account of activations. -/
theorem owned [Activator α σ] [Tracked α σ] (h : r.Rearranged r') (howned : r.Owned) :
    r'.Owned where
  kept := by
    refine howned.kept.congr (funext fun id => ?_)
    rw [Cache.get?_metadata, Cache.get?_metadata, h.entries]
  owns := by
    rw [h.services]
    exact howned.owns.perm (h.rows.flatMap_right _)

end Rearranged

/-! ## 2. Operations and runs -/

variable [BackingStore π] [Activator α σ] [Factory φ σ]

/-- An operation is done and answered.  The rows of the cache are arranged anew before it and after
it, or stay as they are. -/
inductive Performs (op : Operation φ σ) (r : Registry π α φ σ) :
    Except StoreError (Answer σ) → Registry π α φ σ → Prop
  | mk {r₀ r' : Registry π α φ σ} (hbefore : r.Rearranged r₀)
      (hafter : (r₀.perform op).2.Rearranged r') : Performs op r (r₀.perform op).1 r'

/-- The rows may stay as they are. -/
theorem performs (op : Operation φ σ) (r : Registry π α φ σ) :
    r.Performs op (r.perform op).1 (r.perform op).2 := .mk (.refl _) (.refl _)

variable [Tracked α σ]

/-- Runs in which the rows of the cache are arranged anew at any time.  The listing is in order and
new ids are fresh, and the outside may change what is stored and what is refused. -/
inductive Unordered (s : Services π α φ σ) : Registry π α φ σ → Prop
  | new : Unordered s (new s)
  | change {r : Registry π α φ σ} {s' : Services π α φ σ} (h : Unordered s r)
      (hjournal : s'.journal = r.services.journal) (hactive : s'.active = r.services.active) :
      Unordered s { r with services := s' }
  | step {r r' : Registry π α φ σ} {op : Operation φ σ} {answer : Except StoreError (Answer σ)}
      (h : Unordered s r) (hkeyed : r.services.Keyed) (hfresh : op.Fresh r)
      (hop : r.Performs op answer r') : Unordered s r'

/-- Runs in which nothing is arranged anew are among them. -/
theorem Orderly.unordered {s : Services π α φ σ} {r : Registry π α φ σ} (h : Orderly s r) :
    Unordered s r := by
  induction h with
  | refl => exact .new
  | change _ hs ih => exact ih.change hs.1 hs.2
  | step _ hop ih => exact ih.step hop.1 hop.2 (performs _ _)

/-- **Every activation is accounted for**, in whatever order the rows stand. -/
theorem Unordered.owned {s : Services π α φ σ} {r : Registry π α φ σ}
    (h : Unordered s r) (hlive : s.active.live.rows = []) (hjournal : s.journal = []) :
    r.Owned := by
  induction h with
  | new => exact Owned.new hlive hjournal
  | change _ hj ha ih => exact ih.change hj ha
  | step _ hkeyed hfresh hop ih =>
    cases hop with
    | mk hbefore hafter =>
      refine hafter.owned (perform_owned _ ?_ (hbefore.fresh hfresh) (hbefore.owned ih))
      rw [hbefore.services]
      exact hkeyed

end Registry
end SubscriptionRegistry

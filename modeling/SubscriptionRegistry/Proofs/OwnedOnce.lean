/-
# Live activations in runs

Whatever clients ask for, whatever the store, the factories and the activator fail at, and
whatever the outside does to the stored rows: after each operation every live activation is
owned by one cached entry, and closing the registry releases each exactly once.

The activator keeps a set of its own, for which fewer than 2^64 names were used.  What the store
lists stands under its own id, and new subscriptions get fresh ids.

* `Registry.OwnedOnce`: how things stand after an operation.
* `Registry.ReleasedOnce`: how things stand after a registry was closed.
* `Registry.Owned.close`: closing a registry releases whatever is held.
* `Registry.Run.ownedOnce`: both hold in every run.
-/
import SubscriptionRegistry.Proofs.Ownership

namespace SubscriptionRegistry
namespace Registry

variable {π α φ σ : Type} [Activator α σ] [Tracked α σ]

/-! ## 1. What is promised -/

/-- Services whose activations were all released, each once. -/
structure ReleasedOnce (s : Services π α φ σ) : Prop where
  empty : s.active.live.rows = []
  disciplined : Journal.Disciplined s.journal
  /-- What was granted was released, and neither twice. -/
  settled : (Journal.released s.journal).Perm (Journal.granted s.journal)

/-- A registry that owns all live activations, each once. -/
structure OwnedOnce (r : Registry π α φ σ) : Prop where
  /-- What is registered is what the entries hold, one for one: the entry's object under the
  entry's id and callback address. -/
  owned : r.services.active.live.rows.Perm (heldIn r.cache.rows)
  /-- The object that an entry holds is what clients are given. -/
  found : ∀ e ∈ r.cache.values, ∀ h, e.handle = some h →
    r.get e.metadata.identifier = .ok (some h.object)
  disciplined : Journal.Disciplined r.services.journal
  /-- The journal tells the same as the activator. -/
  outstanding : Journal.outstanding r.services.journal = r.services.active.live
  closed : ReleasedOnce r.close

/-! ## 2. What ownership comes to -/

omit [Tracked α σ] in
/-- A closed registry holds nothing. -/
theorem heldIn_release (c : Cache σ) (s : Services π α φ σ) :
    heldIn (c.visit (releaseEntry fun _ => true) s).2.1.rows = [] := by
  rw [cache_release, heldIn, List.flatMap_eq_nil_iff]
  intro row hrow
  obtain ⟨row', -, rfl⟩ := List.mem_map.mp hrow
  exact Entry.held_of_handle_none rfl

/-- Releasing uses up no names. -/
theorem issued_release (test : Entry σ → Bool) (c : Cache σ) (s : Services π α φ σ) :
    (c.visit (releaseEntry test) s).2.2.active.issued = s.active.issued := by
  refine Table.visit_snd (P := fun s' : Services π α φ σ => s'.active.issued = s.active.issued)
    (fun e s' hs => ?_) c rfl
  rw [← hs]
  unfold releaseEntry
  split
  · cases hh : e.handle with
    | none => simp [Entry.unregister, hh]
    | some h =>
      rw [Entry.unregister_of_handle hh]
      show (s'.deactivate h.activation).active.issued = s'.active.issued
      rw [Services.active_deactivate]
      rfl
  · rfl

theorem issued_close (r : Registry π α φ σ) :
    r.close.active.issued = r.services.active.issued :=
  issued_release (fun _ => true) r.cache r.services

/-- **Closing** releases whatever is held. -/
theorem Owned.close {r : Registry π α φ σ} (h : r.Owned)
    (hn : r.services.active.issued < UInt64.size) : ReleasedOnce r.close := by
  have howns := owns_release (fun _ => true) h
  rw [heldIn_release] at howns
  obtain ⟨books, holds⟩ := howns (by rw [← issued_close] at hn; exact hn)
  have hempty : r.close.active.live.rows = [] := List.perm_nil.mp holds
  refine ⟨hempty, books.disciplined, ?_⟩
  have hbalance : (Journal.granted r.close.journal).Perm
      (Journal.released r.close.journal ++ r.close.active.live.keys) := books.balance
  rw [Table.keys, hempty, List.map_nil, List.append_nil] at hbalance
  exact hbalance.symm

theorem ownedOnce_of_owned {r : Registry π α φ σ} (h : r.Owned)
    (hn : r.services.active.issued < UInt64.size) : r.OwnedOnce := by
  obtain ⟨books, holds⟩ := h.owns hn
  refine ⟨holds, ?_, books.disciplined, books.outstanding, h.close hn⟩
  intro e he hd hh
  obtain ⟨row, hrow, rfl⟩ := List.mem_map.mp he
  have hget : r.cache.get? row.1 = some row.2 := Table.get?_eq_some_iff.mpr hrow
  obtain ⟨hid, hkind, -, -, hid_ne, -⟩ := h.kept row.1 row.2.metadata (by
    rw [Cache.get?_metadata, hget]
    rfl)
  exact get_eq_ok_some_iff.mpr
    ⟨row.2, hd, ⟨hid_ne, hkind, by rw [Metadata.identifier, hid]; exact hget, rfl, hh⟩, rfl⟩

/-! ## 3. Runs -/

/-- A new registry owns nothing, and there is nothing to own. -/
theorem Owned.new {s : Services π α φ σ} (hlive : s.active.live.rows = [])
    (hjournal : s.journal = []) : (new s : Registry π α φ σ).Owned where
  kept id m hm := by cases hm
  owns _ := by
    refine ⟨?_, ?_⟩
    · rw [Registry.new, hjournal]
      exact Balanced.nil hlive
    · rw [Registry.new, hlive]
      exact List.Perm.nil

/-- The outside may do what it likes to the store, and to what activators refuse. -/
theorem Owned.change {r : Registry π α φ σ} (h : r.Owned) {s : Services π α φ σ}
    (hj : s.journal = r.services.journal) (ha : s.active = r.services.active) :
    ({ r with services := s } : Registry π α φ σ).Owned where
  kept := h.kept
  owns hn := by
    have hacc := h.owns (by rw [← ha]; exact hn)
    exact ⟨by rw [hj, ha]; exact hacc.books, by rw [ha]; exact hacc.holds⟩

variable [BackingStore π] [Factory φ σ]

/-- Runs in which the listing is in order and new ids are fresh.  The outside may change what is
stored and what is refused. -/
abbrev Orderly (s : Services π α φ σ) : Registry π α φ σ → Prop :=
  Run (fun s s' => s'.journal = s.journal ∧ s'.active = s.active)
    (fun op r => r.services.Keyed ∧ op.Fresh r) (new s)

theorem Orderly.owned {s : Services π α φ σ} (hlive : s.active.live.rows = [])
    (hjournal : s.journal = []) {r : Registry π α φ σ} (hrun : Orderly s r) : r.Owned := by
  induction hrun with
  | refl => exact Owned.new hlive hjournal
  | change _ hs ih => exact ih.change hs.1 hs.2
  | step _ hop ih => exact perform_owned _ hop.1 hop.2 ih

/-- **Live activations are owned exactly once, in every run.** -/
theorem Run.ownedOnce {s : Services π α φ σ} (hlive : s.active.live.rows = [])
    (hjournal : s.journal = []) {r : Registry π α φ σ} (hrun : Orderly s r)
    (hn : r.services.active.issued < UInt64.size) : r.OwnedOnce :=
  ownedOnce_of_owned (hrun.owned hlive hjournal) hn

/-- A stored subscription comes to life and is then replaced. -/
theorem Run.ownedOnce_demo :
    OwnedOnce (Demo.live.perform (.update "g" ⟨"f", "bus:/in"⟩ ⟨"s", "A"⟩)).2 :=
  Run.ownedOnce (s := Demo.services) rfl rfl
    (.step (.step (.step .refl ⟨Services.keyed_of_stored (Demo.stored_only rfl), trivial⟩)
      ⟨Services.keyed_of_stored (Demo.stored_only rfl), trivial⟩)
      ⟨Services.keyed_of_stored (Demo.stored_only rfl), trivial⟩) (by decide)

end Registry
end SubscriptionRegistry

/-
# Cache and store in step

What is put into the cache or taken out of it is stored or deleted first.  With a faithful store
and no one else at work on it, nothing is cached that is not stored just so, whichever calls
fail; and once the store could be listed, everything that is stored is cached as well.

One invariant carries both: what is cached under an id is what is stored there, or, as long as
the cache may lag behind, nothing.

* `Registry.Follows`: the invariant.
* `Registry.perform_follows`: every operation keeps it.
* `Registry.init_follows_of_list`, `Registry.reconcile_follows_of_list`: once the store could be
  listed, the cache does not lag.
* `Registry.Run.inStep`: what that means for runs.
-/
import SubscriptionRegistry.BackingStore.Faithful
import SubscriptionRegistry.Proofs.Contents
import SubscriptionRegistry.Proofs.Run

namespace SubscriptionRegistry

variable {π α φ σ : Type} [BackingStore π] [FaithfulStore π]

/-! ## 1. What is stored -/

/-- All that is stored stands under its own id. -/
def Services.StoredKeyed (s : Services π α φ σ) : Prop :=
  ∀ (id : String) (m : Metadata), s.stored id = some m → m.id = id

/-- Nothing that activators and factories do changes what is stored. -/
theorem Services.stored_locallyStable [Activator α σ] [Factory φ σ]
    (rows : String → Option Metadata) :
    Services.LocallyStable fun s : Services π α φ σ => s.stored = rows where
  activate _ _ _ hs := by rwa [stored_activate]
  deactivate _ _ hs := by rwa [stored_deactivate]
  build _ _ _ hs := by rwa [stored_build]

/-- Metadata is stored under its own id, whoever stores it. -/
theorem Services.storedKeyed_stable [Activator α σ] [Factory φ σ] :
    Services.Stable (StoredKeyed : Services π α φ σ → Prop) where
  activate _ _ _ hs := hs
  deactivate _ _ hs := hs
  build _ _ _ hs := hs
  insert m s hs id m' hm' := by
    rw [stored_insert] at hm'
    split at hm'
    · dsimp only at hm'
      split at hm'
      · rename_i hid
        injection hm' with hm'
        rw [← hm', hid]
      · exact hs id m' hm'
    · exact hs id m' hm'
  delete key s hs id m' hm' := by
    rw [stored_delete] at hm'
    split at hm'
    · dsimp only at hm'
      split at hm'
      · cases hm'
      · exact hs id m' hm'
    · exact hs id m' hm'
  list s hs id m' hm' := by
    rw [stored_list] at hm'
    exact hs id m' hm'

namespace Registry

/-! ## 2. The invariant -/

/-- What is cached under an id. -/
def cached (r : Registry π α φ σ) : String → Option Metadata := r.cache.metadata.get?

/-- What is cached is what is stored; where the cache may lag behind, it may also be nothing. -/
def Follows (lags : Prop) (r : Registry π α φ σ) : Prop :=
  ∀ id, r.cached id = r.services.stored id ∨ lags ∧ r.cached id = none

/-- Whatever is cached is stored just so. -/
theorem Follows.stored_of_cached {lags : Prop} {r : Registry π α φ σ} (h : r.Follows lags)
    {id : String} {m : Metadata} (hm : r.cached id = some m) : r.services.stored id = some m := by
  rcases h id with heq | ⟨-, hnone⟩
  · rw [← heq]
    exact hm
  · rw [hm] at hnone
    cases hnone

/-- A cache that may not lag behind is as good as the store. -/
theorem Follows.eq {r : Registry π α φ σ} (h : r.Follows False) :
    r.cached = r.services.stored := by
  funext id
  rcases h id with heq | ⟨hlags, -⟩
  · exact heq
  · exact hlags.elim

/-- A cache that does not lag may as well. -/
theorem Follows.widen {lags : Prop} {r : Registry π α φ σ} (h : r.Follows False) :
    r.Follows lags := fun id => Or.inl (congrFun h.eq id)

/-- Only the rows of the two sides matter. -/
theorem Follows.congr {lags : Prop} {r r' : Registry π α φ σ} (h : r.Follows lags)
    (hc : r'.cache.metadata = r.cache.metadata) (hs : r'.services.stored = r.services.stored) :
    r'.Follows lags := by
  intro id
  rw [cached, hc, hs]
  exact h id

/-! ## 3. Single subscriptions -/

section

variable [Activator α σ] {lags : Prop} {r : Registry π α φ σ}

/-- The store takes the metadata first, then the cache does. -/
theorem storeRegistered_follows (h : r.Follows lags) (m : Metadata) (object : σ) :
    (r.storeRegistered m object).2.Follows lags := by
  rcases storeRegistered_cases m object r with
    ⟨s, ha, hout⟩ | ⟨a, s, why, s', ha, hins, hout⟩ | ⟨a, s, s', ha, hins, hout⟩
  · rw [hout]
    exact h.congr rfl (Services.stored_of_activate ha)
  · rw [hout]
    refine h.congr rfl ?_
    rw [Services.stored_deactivate, Services.stored_insert_error hins,
      Services.stored_of_activate ha]
  · have hs := Services.stored_insert_ok hins
    rw [Services.stored_of_activate ha] at hs
    rw [hout]
    intro id
    dsimp only [cached]
    rw [Cache.metadata_insert, Table.get?_insert, hs]
    dsimp only
    by_cases hid : id = m.id
    · exact Or.inl (by simp [hid])
    · rw [if_neg hid, if_neg hid]
      exact h id

/-- The store forgets first, then the cache does. -/
theorem takeOut_follows (h : r.Follows lags) {i : Identifier} {e : Entry σ} {hd : Handle σ}
    (hp : r.Present i e hd) : (r.takeOut i.id).2.Follows lags := by
  rcases takeOut_cases hp with ⟨why, s, hdel, hout⟩ | ⟨s, hdel, hout⟩
  · rw [hout]
    exact h.congr rfl (Services.stored_delete_error hdel)
  · have hs := Services.stored_delete_ok hdel
    rw [hout]
    intro id
    dsimp only [cached]
    rw [Cache.metadata_erase, Table.get?_erase, Services.stored_deactivate, hs]
    dsimp only
    by_cases hid : id = i.id
    · exact Or.inl (by simp [hid])
    · rw [if_neg hid, if_neg hid]
      exact h id

theorem update_follows (h : r.Follows lags) (object : σ) (request : Request) (i : Identifier) :
    (r.update object request i).2.Follows lags := by
  rcases update_cases object request i r with
    ⟨why, -, hout⟩ | ⟨e, hd, hp, ⟨why, s, hdel, hout⟩ | ⟨m, s, -, -, -, htake, hout⟩⟩
  · rw [hout]
    exact h
  · rw [hout]
    exact h.congr rfl (Services.stored_delete_error hdel)
  · have htaken := takeOut_follows h hp
    rw [htake] at htaken
    rw [hout]
    exact storeRegistered_follows htaken m object

theorem insert_follows (h : r.Follows lags) (object : σ) (request : Request) (kind : String)
    (random : Nat) : (r.insert object request kind random).2.Follows lags := by
  rcases insert_cases object request kind random r with ⟨why, -, hout⟩ | ⟨m, -, -, hout⟩
  · rw [hout]
    exact h
  · rw [hout]
    exact storeRegistered_follows h m object

theorem delete_follows (h : r.Follows lags) (i : Identifier) :
    (r.delete i).2.Follows lags := by
  rcases delete_cases i r with ⟨why, -, hout⟩ | ⟨e, hd, hp, hout⟩
  · rw [hout]
    exact h
  · rw [hout]
    exact takeOut_follows h hp

omit [Activator α σ] in
/-- What is flushed is stored already, so flushing changes nothing. -/
theorem stored_flush (hkeyed : r.services.StoredKeyed) (h : r.Follows lags) :
    r.flush.2.services.stored = r.services.stored := by
  rw [flush_snd]
  refine Writer.write_stable (P := fun s => s.stored = r.services.stored) ?_ rfl
  intro m hm s hs
  obtain ⟨e, he, rfl⟩ := List.mem_map.mp hm
  obtain ⟨row, hrow, rfl⟩ := List.mem_map.mp he
  have hcached : r.cached row.1 = some row.2.metadata := by
    rw [cached, Cache.get?_metadata, Table.get?_eq_some_iff.mpr hrow]
    rfl
  have hstored := h.stored_of_cached hcached
  have hid := hkeyed _ _ hstored
  rw [Services.stored_insert, hs]
  split
  · funext id
    by_cases heq : id = row.2.metadata.id
    · rw [if_pos heq, heq, hid, hstored]
    · rw [if_neg heq]
  · rfl

omit [Activator α σ] in
theorem flush_follows (hkeyed : r.services.StoredKeyed) (h : r.Follows lags) :
    r.flush.2.Follows lags :=
  h.congr (by rw [flush_snd]) (stored_flush hkeyed h)

end

/-! ## 4. Rounds -/

section

variable [Activator α σ] [Factory φ σ] {lags : Prop} {r : Registry π α φ σ}

theorem activateDormant_follows (h : r.Follows lags) (test : Entry σ → Bool) :
    (r.activateDormant test).2.Follows lags :=
  h.congr (metadata_activateDormant test r)
    (activateDormant_stable (Services.stored_locallyStable _) test rfl)

/-- Loading reads what is stored, and changes none of it. -/
theorem stored_init (r : Registry π α φ σ) :
    r.init.2.services.stored = r.services.stored :=
  init_stable (P := fun s : Services π α φ σ => s.stored = r.services.stored)
    (Services.stored_locallyStable _) (fun s hs => (Services.stored_list s).trans hs) rfl

theorem stored_reconcile (r : Registry π α φ σ) :
    r.reconcile.2.services.stored = r.services.stored :=
  reconcile_stable (P := fun s : Services π α φ σ => s.stored = r.services.stored)
    (Services.stored_locallyStable _) (fun s hs => (Services.stored_list s).trans hs) rfl

/-- Loading leaves no gap. -/
theorem init_follows_of_list (h : r.Follows lags) {listing : Table String Metadata}
    {s : Services π α φ σ} (hl : r.services.list = (.ok listing, s)) :
    r.init.2.Follows False := by
  have hstored : s.stored = r.services.stored := by
    have hs := Services.stored_list r.services
    rw [hl] at hs
    exact hs
  rw [init_of_list hl]
  refine activateDormant_follows (fun id => Or.inl ?_) _
  dsimp only [cached]
  rw [get?_metadata_load, Services.get?_list hl, hstored]
  rcases h id with heq | ⟨-, hnone⟩
  · rw [← heq, cached, Option.or_self]
  · rw [← cached, hnone, Option.none_or]

/-- A reconciliation leaves no gap and nothing that is not stored. -/
theorem reconcile_follows_of_list (hkeyed : r.services.StoredKeyed) (h : r.Follows lags)
    {listing : Table String Metadata} {s : Services π α φ σ}
    (hl : r.services.list = (.ok listing, s)) : r.reconcile.2.Follows False := by
  obtain ⟨added, hout⟩ := reconcile_of_list hl
  have hlisted : listing.get? = r.services.stored := Services.get?_list hl
  have hrows : ∀ row ∈ listing.rows, row.2.id = row.1 := fun row hrow =>
    hkeyed row.1 row.2 (by rw [← hlisted]; exact Table.get?_eq_some_iff.mpr hrow)
  intro id
  left
  rw [stored_reconcile, hout, cached, get?_metadata_adopt hrows, get?_metadata_forget]
  have hfind : Table.findRow id listing.rows = r.services.stored id := congrFun hlisted id
  rw [hfind]
  cases hs : r.services.stored id with
  | none =>
    -- Nothing is stored here, so whatever were cached would be stale.
    have hcached : r.cached id = none := by
      rcases h id with heq | ⟨-, hnone⟩
      · rw [heq, hs]
      · exact hnone
    rw [cached] at hcached
    rw [hcached]
    simp
  | some m =>
    have hfresh : id ∉ r.stale listing := by
      intro hmem
      have hnot := (List.mem_filter.mp hmem).2
      rw [Table.contains, hlisted, hs] at hnot
      cases hnot
    rw [if_neg hfresh]
    rcases h id with heq | ⟨-, hnone⟩
    · rw [cached, hs] at heq
      rw [heq]
      rfl
    · rw [cached] at hnone
      rw [hnone]
      rfl

/-! ## 5. Operations -/

theorem init_follows (h : r.Follows lags) : r.init.2.Follows lags := by
  rcases init_cases r with ⟨why, s, hl, hout⟩ | ⟨listing, s, hl, -⟩
  · exact h.congr (by rw [hout]) (stored_init r)
  · exact (init_follows_of_list h hl).widen

theorem reconcile_follows (hkeyed : r.services.StoredKeyed) (h : r.Follows lags) :
    r.reconcile.2.Follows lags := by
  rcases reconcile_cases r with ⟨why, s, hl, hout⟩ | ⟨listing, s, hl, -⟩
  · exact h.congr (by rw [hout]) (stored_reconcile r)
  · exact (reconcile_follows_of_list hkeyed h hl).widen

/-- **The cache keeps following the store**, whichever calls fail. -/
theorem perform_follows (hkeyed : r.services.StoredKeyed) (h : r.Follows lags)
    (op : Operation φ σ) : (r.perform op).2.Follows lags := by
  have hlocal : Services.LocallyStable fun s : Services π α φ σ => s.stored = r.services.stored :=
    Services.stored_locallyStable _
  cases op with
  | init => exact init_follows h
  | insert object request kind random => exact insert_follows h object request kind random
  | update object request target => exact update_follows h object request target
  | delete target => exact delete_follows h target
  | bind factory => exact h.congr (metadata_bind factory r) (bind_stable hlocal factory rfl)
  | unbind factory =>
    exact h.congr (metadata_unbind factory r) (unbind_stable hlocal factory rfl)
  | reconcile => exact reconcile_follows hkeyed h
  | flush => exact flush_follows hkeyed h

/-! ## 6. Runs -/

/-- Runs in which nobody else changes what is stored. -/
abbrev Alone (start : Registry π α φ σ) : Registry π α φ σ → Prop :=
  Run (fun s s' => s'.stored = s.stored) (fun _ _ => True) start

theorem Alone.keeps {start : Registry π α φ σ} (hkeyed : start.services.StoredKeyed)
    (h : start.Follows lags) (hrun : Alone start r) :
    r.services.StoredKeyed ∧ r.Follows lags := by
  induction hrun with
  | refl => exact ⟨hkeyed, h⟩
  | change _ hs ih =>
    refine ⟨fun id m hm => ih.1 id m ?_, ih.2.congr rfl hs⟩
    rw [← hs]
    exact hm
  | step _ _ ih =>
    exact ⟨perform_stable Services.storedKeyed_stable _ ih.1, perform_follows ih.1 ih.2 _⟩

/-- **Cache and store never part.**  What is cached is stored just so, and from the first time
that `init` or `reconcile` could list the store, all that is stored is cached. -/
theorem Run.inStep {s : Services π α φ σ} (hkeyed : s.StoredKeyed) (hrun : Alone (new s) r) :
    (∀ id m, r.cached id = some m → r.services.stored id = some m)
      ∧ ∀ op : Operation φ σ, op = .init ∨ op = .reconcile →
        ∀ listing s', r.services.list = (.ok listing, s') →
        ∀ r', Alone (r.perform op).2 r' → r'.cached = r'.services.stored := by
  have hnew : (new s : Registry π α φ σ).Follows True := fun id => Or.inr ⟨trivial, rfl⟩
  obtain ⟨hrows, hfollows⟩ := Alone.keeps hkeyed hnew hrun
  refine ⟨fun id m => hfollows.stored_of_cached, ?_⟩
  intro op hop listing s' hl r' hrun'
  have hrows' := perform_stable Services.storedKeyed_stable op hrows
  have hfull : (r.perform op).2.Follows False := by
    rcases hop with rfl | rfl
    · exact init_follows_of_list hfollows hl
    · exact reconcile_follows_of_list hrows hfollows hl
  exact (Alone.keeps hrows' hfull hrun').2.eq

end

/-- What the demonstration stores is cached once it is loaded. -/
theorem Run.inStep_demo : Demo.live.cached "s" = some Demo.stored
    ∧ Demo.live.cached = Demo.live.services.stored :=
  ⟨rfl, (Run.inStep (fun _ _ hm => (Demo.stored_only rfl hm).1) (.step .refl trivial)).2 .init (Or.inl rfl) _ _ rfl _ .refl⟩

end Registry
end SubscriptionRegistry

/-
# Registries that differ in names alone

Two registries may have the same subscriptions under other activations, because they asked for
them in another order.  To say so no account of the order is needed: it is enough that each entry
of the one is the same in the other, or holds a newer activation in both.  As either registry
gives each name to one entry only, the names can then be matched one for one, and matching them
takes the activator's registrations along.

* `exists_matching`: two lists of names are matched by a permutation.
* `Entry.Twin`, `Registry.Twin`: the same but for newer activations.
* `Registry.SameUpTo`: the same under other names.
* `Registry.Twin.exists_renaming`: twins are the same under other names.
-/
import SubscriptionRegistry.Proofs.OwnedOnce
import SubscriptionRegistry.Proofs.Revival

namespace SubscriptionRegistry

/-! ## 1. Matching names -/

/-- **Names can be matched one for one**, and no other name has to move for that. -/
theorem exists_matching {α : Type} [DecidableEq α] {pairs : List (α × α)}
    (hfst : (pairs.map Prod.fst).Nodup) (hsnd : (pairs.map Prod.snd).Nodup) :
    ∃ ρ : Equiv.Perm α, (∀ pair ∈ pairs, ρ pair.1 = pair.2)
      ∧ ∀ a, a ∉ pairs.map Prod.fst → a ∉ pairs.map Prod.snd → ρ a = a := by
  induction pairs with
  | nil => exact ⟨1, ⟨fun pair h => (List.not_mem_nil h).elim, fun _ _ _ => rfl⟩⟩
  | cons pair rest ih =>
    obtain ⟨a, b⟩ := pair
    obtain ⟨ha, hfst⟩ := List.nodup_cons.mp hfst
    obtain ⟨hb, hsnd⟩ := List.nodup_cons.mp hsnd
    obtain ⟨τ, hmatched, hfixed⟩ := ih hfst hsnd
    -- What the others made of the first name and its partner change places.
    refine ⟨Equiv.swap (τ a) b * τ, fun pair hpair => ?_, fun c hc hc' => ?_⟩
    · rw [Equiv.Perm.mul_apply]
      rcases List.mem_cons.mp hpair with rfl | hpair
      · exact Equiv.swap_apply_left _ _
      · have hne : pair.1 ≠ a := fun h => ha (List.mem_map.mpr ⟨pair, hpair, h⟩)
        have hne' : pair.2 ≠ b := fun h => hb (List.mem_map.mpr ⟨pair, hpair, h⟩)
        rw [← hmatched pair hpair] at hne' ⊢
        exact Equiv.swap_apply_of_ne_of_ne (τ.injective.ne hne) hne'
    · obtain ⟨hca, hc⟩ := not_or.mp (mt List.mem_cons.mpr hc)
      obtain ⟨hcb, hc'⟩ := not_or.mp (mt List.mem_cons.mpr hc')
      have hτ := hfixed c hc hc'
      have hne : c ≠ τ a := fun h => hca (τ.injective (hτ.trans h))
      rw [Equiv.Perm.mul_apply, hτ]
      exact Equiv.swap_apply_of_ne_of_ne hne hcb

/-! ## 2. Entries -/

namespace Entry

variable {σ : Type}

/-- The name of an entry's activation. -/
def name? (e : Entry σ) : Option ActivationId := e.handle.map (·.activation)

/-- The same entry, or one with the same live subscription under activations of its own.  Those
were not among the first `n`. -/
inductive Twin (n : Nat) : Entry σ → Entry σ → Prop
  | same (e : Entry σ) : Twin n e e
  | renewed {m : Metadata} {object : σ} {a b : ActivationId} (ha : n < a.number.toNat)
      (hb : n < b.number.toNat) : Twin n ⟨m, some ⟨object, a⟩⟩ ⟨m, some ⟨object, b⟩⟩

variable {n : Nat} {e e' : Entry σ}

theorem Twin.rel_refl (before : Option (Entry σ)) : Option.Rel (Twin n) before before := by
  cases before with
  | none => exact .none
  | some e => exact .some (.same e)

/-- Early names are the same in both. -/
theorem Twin.eq_of_le (h : Twin n e e') {a b : ActivationId} (ha : e.name? = some a)
    (hb : e'.name? = some b) (hle : a.number.toNat ≤ n ∨ b.number.toNat ≤ n) : a = b := by
  cases h with
  | same => exact Option.some.inj (ha.symm.trans hb)
  | @renewed _ _ a' b' hn hn' =>
    obtain rfl : a' = a := Option.some.inj ha
    obtain rfl : b' = b := Option.some.inj hb
    omega

/-- A renaming that agrees with both takes the one to the other. -/
theorem Twin.eq_rename (h : Twin n e e') {ρ : ActivationId → ActivationId}
    (hρ : ∀ a b, e.name? = some a → e'.name? = some b → ρ a = b) : e' = e.rename ρ := by
  cases h with
  | same =>
    obtain ⟨m, _ | hd⟩ := e
    · rfl
    · rw [rename, Option.map_some, hρ hd.activation hd.activation rfl rfl]
  | renewed => rw [rename, Option.map_some, hρ _ _ rfl rfl]

end Entry

namespace Registry

variable {π α φ σ : Type} [Activator α σ] [Tracked α σ]

/-! ## 3. Who holds a name -/

/-- The name under which what is cached is live. -/
def name? (r : Registry π α φ σ) (key : String) : Option ActivationId :=
  (r.cache.get? key).bind Entry.name?

section

variable {r : Registry π α φ σ} {a : ActivationId} {g : Registration σ}

/-- **What is registered is what some entry holds**, and nothing else is. -/
theorem Owned.live_iff (h : r.Owned) (hn : r.services.active.issued < UInt64.size) :
    r.services.active.live.get? a = some g
      ↔ ∃ key e hd, r.cache.get? key = some e ∧ e.handle = some hd ∧ hd.activation = a
        ∧ g = ⟨hd.object, e.properties⟩ := by
  rw [Table.get?_eq_some_iff, (h.owns hn).holds.mem_iff, heldIn, List.mem_flatMap]
  constructor
  · rintro ⟨row, hrow, hheld⟩
    cases hh : row.2.handle with
    | none =>
      rw [Entry.held_of_handle_none hh] at hheld
      cases hheld
    | some hd =>
      rw [Entry.held_of_handle_some hh, List.mem_singleton] at hheld
      cases hheld
      exact ⟨row.1, row.2, hd, Table.get?_eq_some_iff.mpr hrow, hh, rfl, rfl⟩
  · rintro ⟨key, e, hd, he, hh, rfl, rfl⟩
    refine ⟨(key, e), Table.get?_eq_some_iff.mp he, ?_⟩
    rw [Entry.held_of_handle_some hh]
    exact List.mem_singleton_self _

/-- No two entries hold the same name. -/
theorem Owned.name?_inj (h : r.Owned) (hn : r.services.active.issued < UInt64.size)
    {key key' : String} (hkey : r.name? key = some a) (hkey' : r.name? key' = some a) :
    key = key' := by
  obtain ⟨e, he, hname⟩ := Option.bind_eq_some_iff.mp hkey
  obtain ⟨hd, hh, ha⟩ := Option.map_eq_some_iff.mp hname
  obtain ⟨e', he', hname'⟩ := Option.bind_eq_some_iff.mp hkey'
  obtain ⟨hd', hh', ha'⟩ := Option.map_eq_some_iff.mp hname'
  have hlive := (h.live_iff hn).mpr ⟨key, e, hd, he, hh, ha, rfl⟩
  rw [(h.live_iff hn).mpr ⟨key', e', hd', he', hh', ha', rfl⟩] at hlive
  have hids : e'.id = e.id :=
    congrArg (fun g : Registration σ => g.properties.id) (Option.some.inj hlive)
  rw [h.keyed _ (Table.get?_eq_some_iff.mp he), h.keyed _ (Table.get?_eq_some_iff.mp he')] at hids
  exact hids.symm

end

/-! ## 4. Registries -/

variable [BackingStore π] [FaithfulStore π] [Factory φ σ]

/-- The same subscriptions and rows, factories that were at most used, and as many activations were
granted.  The names of the first `n` stand for the same. -/
structure Twin (n : Nat) (r r' : Registry π α φ σ) : Prop where
  entries : ∀ id, Option.Rel (Entry.Twin n) (r.cache.get? id) (r'.cache.get? id)
  factories : r.factories.Akin r'.factories
  stored : r'.services.stored = r.services.stored
  issued : r'.services.active.issued = r.services.active.issued

/-- The same entries, rows and registrations, but for the names of activations, and factories that
were at most used. -/
structure SameUpTo (ρ : Equiv.Perm ActivationId) (r r' : Registry π α φ σ) : Prop where
  entries : ∀ id, r'.cache.get? id = (r.cache.get? id).map (Entry.rename ρ)
  factories : r.factories.Akin r'.factories
  stored : r'.services.stored = r.services.stored
  live : ActiveSet.Renames ρ r.services.active r'.services.active

variable {n : Nat} {r r' : Registry π α φ σ}

omit [Activator α σ] [Tracked α σ] [BackingStore π] [FaithfulStore π] [Factory φ σ] in
theorem get_eq_of_entries {ρ : ActivationId → ActivationId}
    (h : ∀ id, r'.cache.get? id = (r.cache.get? id).map (Entry.rename ρ)) (i : Identifier) :
    r'.get i = r.get i := by
  unfold get
  rw [h]
  cases r.cache.get? i.id with
  | none => rfl
  | some e =>
    obtain ⟨m, _ | hd⟩ := e
    · rfl
    · rfl

/-- **Nobody can tell them apart by looking**: names of activations do not show. -/
theorem SameUpTo.get_eq {ρ : Equiv.Perm ActivationId} (h : SameUpTo ρ r r') (i : Identifier) :
    r'.get i = r.get i :=
  get_eq_of_entries h.entries i

/-- The two names of each live subscription. -/
def namePairs (r r' : Registry π α φ σ) : List (ActivationId × ActivationId) :=
  r.cache.keys.filterMap fun key => (r.name? key).bind fun a => (r'.name? key).map (a, ·)

omit [Activator α σ] [Tracked α σ] [BackingStore π] [FaithfulStore π] [Factory φ σ] in
theorem mem_namePairs {a b : ActivationId} :
    (a, b) ∈ namePairs r r' ↔ ∃ key, r.name? key = some a ∧ r'.name? key = some b := by
  simp only [namePairs, List.mem_filterMap, Option.bind_eq_some_iff, Option.map_eq_some_iff]
  constructor
  · rintro ⟨key, -, _, ha, _, hb, heq⟩
    cases heq
    exact ⟨key, ha, hb⟩
  · rintro ⟨key, ha, hb⟩
    obtain ⟨e, he, -⟩ := Option.bind_eq_some_iff.mp ha
    have hkey : key ∈ r.cache.keys := by
      rw [← Table.contains_iff, Table.contains, he]
      rfl
    exact ⟨key, hkey, a, ha, b, hb, rfl⟩

omit [BackingStore π] [FaithfulStore π] [Factory φ σ] in
/-- Each name comes once, on either side. -/
theorem nodup_namePairs (h : r.Owned) (h' : r'.Owned)
    (hn : r.services.active.issued < UInt64.size)
    (hn' : r'.services.active.issued < UInt64.size) :
    ((namePairs r r').map Prod.fst).Nodup ∧ ((namePairs r r').map Prod.snd).Nodup := by
  rw [namePairs, List.map_filterMap, List.map_filterMap]
  constructor
  · refine List.Nodup.filterMap (fun key key' c hc hc' => ?_) r.cache.nodup
    simp only [Option.mem_def, Option.map_eq_some_iff, Option.bind_eq_some_iff] at hc hc'
    obtain ⟨_, ⟨a, hname, _, -, rfl⟩, ha⟩ := hc
    obtain ⟨_, ⟨a', hname', _, -, rfl⟩, ha'⟩ := hc'
    obtain rfl : a = a' := ha.trans ha'.symm
    exact h.name?_inj hn hname hname'
  · refine List.Nodup.filterMap (fun key key' c hc hc' => ?_) r.cache.nodup
    simp only [Option.mem_def, Option.map_eq_some_iff, Option.bind_eq_some_iff] at hc hc'
    obtain ⟨_, ⟨_, -, b, hname, rfl⟩, hb⟩ := hc
    obtain ⟨_, ⟨_, -, b', hname', rfl⟩, hb'⟩ := hc'
    obtain rfl : b = b' := hb.trans hb'.symm
    exact h'.name?_inj hn' hname hname'

/-- Under names that go with the entries everything is the same. -/
theorem sameUpTo_of_entries {ρ : Equiv.Perm ActivationId} (h : r.Owned) (h' : r'.Owned)
    (hn : r.services.active.issued < UInt64.size) (htwin : Twin n r r')
    (hentries : ∀ id, r'.cache.get? id = (r.cache.get? id).map (Entry.rename ρ)) :
    SameUpTo ρ r r' := by
  refine ⟨hentries, htwin.factories, htwin.stored, htwin.issued, fun a => Option.ext fun g => ?_⟩
  rw [h.live_iff hn, h'.live_iff (htwin.issued.symm ▸ hn)]
  constructor
  · rintro ⟨key, e', hd', he', hh', ha, rfl⟩
    rw [hentries] at he'
    obtain ⟨e, he, rfl⟩ := Option.map_eq_some_iff.mp he'
    obtain ⟨hd, hh, rfl⟩ := Option.map_eq_some_iff.mp hh'
    exact ⟨key, e, hd, he, hh, ρ.injective ha, rfl⟩
  · rintro ⟨key, e, hd, he, hh, rfl, rfl⟩
    exact ⟨key, e.rename ρ, ⟨hd.object, ρ hd.activation⟩, by rw [hentries, he]; rfl,
      by rw [Entry.rename, hh]; rfl, rfl, rfl⟩

/-- **Twins are the same under other names**, and the first `n` names do not move. -/
theorem Twin.exists_renaming (htwin : Twin n r r') (h : r.Owned) (h' : r'.Owned)
    (hn : r.services.active.issued < UInt64.size) :
    ∃ ρ : Equiv.Perm ActivationId, (∀ a, a.number.toNat ≤ n → ρ a = a) ∧ SameUpTo ρ r r' := by
  obtain ⟨hfst, hsnd⟩ := nodup_namePairs h h' hn (htwin.issued.symm ▸ hn)
  obtain ⟨ρ, hmatched, hfixed⟩ := exists_matching hfst hsnd
  have hearly : ∀ {a b}, (a, b) ∈ namePairs r r' → a.number.toNat ≤ n ∨ b.number.toNat ≤ n →
      a = b := by
    intro a b hab hle
    obtain ⟨key, ha, hb⟩ := mem_namePairs.mp hab
    obtain ⟨e, he, ha⟩ := Option.bind_eq_some_iff.mp ha
    obtain ⟨e', he', hb⟩ := Option.bind_eq_some_iff.mp hb
    have hentry := htwin.entries key
    rw [he, he', Option.rel_some_some] at hentry
    exact hentry.eq_of_le ha hb hle
  refine ⟨ρ, fun a ha => ?_, sameUpTo_of_entries h h' hn htwin fun id => ?_⟩
  · by_cases hmem : a ∈ (namePairs r r').map Prod.fst
    · obtain ⟨⟨_, b⟩, hab, rfl⟩ := List.mem_map.mp hmem
      exact (hmatched _ hab).trans (hearly hab (.inl ha)).symm
    · refine hfixed a hmem fun hmem' => ?_
      obtain ⟨⟨b, _⟩, hab, rfl⟩ := List.mem_map.mp hmem'
      refine hmem (List.mem_map.mpr ⟨_, hab, hearly hab (.inr ha)⟩)
  · have hentry := htwin.entries id
    cases he : r.cache.get? id with
    | none =>
      rw [he] at hentry
      cases he' : r'.cache.get? id with
      | none => rfl
      | some e' =>
        rw [he'] at hentry
        cases hentry
    | some e =>
      cases he' : r'.cache.get? id with
      | none =>
        rw [he, he'] at hentry
        cases hentry
      | some e' =>
        rw [he, he', Option.rel_some_some] at hentry
        refine congrArg some (hentry.eq_rename fun a b ha hb => hmatched (a, b) ?_)
        exact mem_namePairs.mpr ⟨id, by rw [name?, he]; exact ha, by rw [name?, he']; exact hb⟩

end Registry
end SubscriptionRegistry

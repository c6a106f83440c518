/-
# What becomes of an update

An update takes the old subscription out before it registers the new one, and does not put it
back.  So there are three ways for it to end: nothing happened; the new subscription stands in
the place of the old one; or neither is there any more.  Which one it was can be told from the
answer, and no other subscription is touched in any of them.

* `Registry.Kept`, `Registry.Replaced`, `Registry.Lost`: the three ends.
* `Registry.Owned.registrations_eq`: a subscription is registered as its entry says.
* `Registry.Run.update_ends`: there is no other end, in any run.
-/
import SubscriptionRegistry.Proofs.Failure
import SubscriptionRegistry.Proofs.OwnedOnce

namespace SubscriptionRegistry
namespace Registry

variable {π α φ σ : Type} [Activator α σ] [Tracked α σ]

/-! ## 1. The three ends -/

/-- The live registrations of a subscription. -/
def registrations (r : Registry π α φ σ) (id : String) :
    List (ActivationId × Registration σ) :=
  r.services.active.live.rows.filter fun g => g.2.properties.id = id

section

variable [BackingStore π] [FaithfulStore π]

/-- Nothing has changed except for one subscription. -/
structure SameElsewhere (id : String) (r r' : Registry π α φ σ) : Prop where
  cache : ∀ key ≠ id, r'.cache.get? key = r.cache.get? key
  factories : r'.factories = r.factories
  stored : ∀ key ≠ id, r'.services.stored key = r.services.stored key
  registrations : ∀ key ≠ id, r'.registrations key = r.registrations key

/-- The update failed before the old subscription was deleted, and nothing has changed. -/
structure Kept (r : Registry π α φ σ) (i : Identifier)
    (result : Except StoreError Unit × Registry π α φ σ) : Prop where
  /-- The caller is wrong or too late and no service was called, or the store did not delete. -/
  error : (∃ why, result.1 = .error why
      ∧ (why.errorClass = .validation ∨ why = .subscriptionNotFound i.id)
      ∧ result.2.services.journal = r.services.journal)
    ∨ ∃ cause, result.1 = .error (.backend "Problem deleting from cache" cause)
      ∧ result.2.services.journal = r.services.journal ++ [.delete i.id (some cause)]
  untouched : r.Untouched result.2

/-- The new subscription stands in the place of the old one, which had handle `h`. -/
structure Replaced (r : Registry π α φ σ) (h : Handle σ) (m : Metadata) (object : σ)
    (result : Except StoreError Unit × Registry π α φ σ) : Prop where
  ok : result.1 = .ok ()
  stored : result.2.services.stored m.id = some m
  found : result.2.get m.identifier = .ok (some object)
  /-- The old activation is released before the new one is asked for, the only one there is. -/
  active : ∃ a, result.2.cache.get? m.id = some ⟨m, some ⟨object, a⟩⟩
    ∧ result.2.registrations m.id = [(a, ⟨object, ⟨m.id, m.callback⟩⟩)]
    ∧ result.2.services.journal = r.services.journal
      ++ [.delete m.id none, .deactivate h.activation,
        .activate object ⟨m.id, m.callback⟩ (some a), .insert m none]
  elsewhere : r.SameElsewhere m.id result.2

/-- The activator refused the new subscription, or the store did not take it, and it was released
again. -/
def NotPlaced (r : Registry π α φ σ) (h : Handle σ) (m : Metadata) (object : σ)
    (result : Except StoreError Unit × Registry π α φ σ) : Prop :=
  (result.1 = .error (.registration (.refused m.id))
      ∧ result.2.services.journal = r.services.journal
        ++ [.delete m.id none, .deactivate h.activation,
          .activate object ⟨m.id, m.callback⟩ none])
    ∨ ∃ a cause, result.1 = .error (.backend "Problem writing to the cache" cause)
      ∧ result.2.services.journal = r.services.journal
        ++ [.delete m.id none, .deactivate h.activation,
          .activate object ⟨m.id, m.callback⟩ (some a), .insert m (some cause), .deactivate a]

/-- The old subscription, which had handle `h`, is gone, and the new one is not there. -/
structure Lost (r : Registry π α φ σ) (h : Handle σ) (m : Metadata) (object : σ)
    (result : Except StoreError Unit × Registry π α φ σ) : Prop where
  error : r.NotPlaced h m object result
  uncached : result.2.cache.get? m.id = none
  unstored : result.2.services.stored m.id = none
  inactive : result.2.registrations m.id = []
  elsewhere : r.SameElsewhere m.id result.2

end

/-! ## 2. Registrations of one subscription -/

/-- Where everything is accounted for, a subscription is registered as its entry says. -/
theorem Owned.registrations_eq {r : Registry π α φ σ} (h : r.Owned)
    (hn : r.services.active.issued < UInt64.size) (id : String) :
    r.registrations id = ((r.cache.get? id).map Entry.held).getD [] := by
  have hperm : (r.registrations id).Perm
      ((heldIn r.cache.rows).filter fun g => g.2.properties.id = id) :=
    (h.owns hn).holds.filter _
  have hothers : ∀ {c : Cache σ}, id ∉ holders (heldIn c.rows) →
      ((heldIn c.rows).filter fun g => g.2.properties.id = id) = [] := by
    intro c hid
    refine List.filter_eq_nil_iff.mpr fun g hg heq => hid ?_
    rw [← of_decide_eq_true heq]
    exact List.mem_map_of_mem hg
  cases he : r.cache.get? id with
  | none =>
    rw [hothers (h.notMem_holders he)] at hperm
    exact List.perm_nil.mp hperm
  | some e =>
    have hid : e.id = id := h.keyed _ (Table.get?_eq_some_iff.mp he)
    have hrest : id ∉ holders (heldIn (r.cache.erase id).rows) := by
      intro hmem
      have hkeyed : ∀ row ∈ (r.cache.erase id).rows, row.2.id = row.1 := fun row hrow =>
        h.keyed row (Table.mem_rows_erase.mp hrow).1
      have hkey := mem_keys_of_mem_holders hkeyed hmem
      obtain ⟨row, hrow, hrowid⟩ := List.mem_map.mp hkey
      exact (Table.mem_rows_erase.mp hrow).2 hrowid
    have hheld : (e.held.filter fun g => g.2.properties.id = id) = e.held :=
      List.filter_eq_self.mpr fun g hg => by simp [Entry.id_of_mem_held hg, hid]
    have hsplit := hperm.trans ((heldIn_perm_erase he).filter _)
    rw [List.filter_append, hheld, hothers hrest, List.append_nil] at hsplit
    show r.registrations id = e.held
    cases hh : e.handle with
    | none =>
      rw [Entry.held_of_handle_none hh] at hsplit ⊢
      exact List.perm_nil.mp hsplit
    | some hd =>
      rw [Entry.held_of_handle_some hh] at hsplit ⊢
      exact List.perm_singleton.mp hsplit

section

variable [BackingStore π] [FaithfulStore π]

/-- Registrations follow the cache, so elsewhere they do not change either. -/
theorem sameElsewhere_of_owned {id : String} {r r' : Registry π α φ σ} (h : r.Owned)
    (h' : r'.Owned) (hn : r.services.active.issued < UInt64.size)
    (hn' : r'.services.active.issued < UInt64.size)
    (hcache : ∀ key ≠ id, r'.cache.get? key = r.cache.get? key)
    (hfactories : r'.factories = r.factories)
    (hstored : ∀ key ≠ id, r'.services.stored key = r.services.stored key) :
    r.SameElsewhere id r' := by
  refine ⟨hcache, hfactories, hstored, fun key hkey => ?_⟩
  rw [h.registrations_eq hn, h'.registrations_eq hn', hcache key hkey]

/-! ## 3. Updates -/

omit [FaithfulStore π] in
/-- Names of activations are only ever used up. -/
theorem issued_stable [Factory φ σ] (n : Nat) :
    Services.Stable fun s : Services π α φ σ => n ≤ s.active.issued where
  activate object properties s hs := by
    rcases hact : s.activate object properties with ⟨_ | a, s'⟩
    · rw [Services.active_of_refused hact]
      exact hs
    · rw [(Services.active_of_granted hact).2]
      exact Nat.le_succ_of_le hs
  deactivate a s hs := by
    rw [Services.active_deactivate]
    exact hs
  build _ _ _ hs := hs
  insert _ _ hs := hs
  delete _ _ hs := hs
  list _ hs := hs

/-- An update that failed early. -/
theorem kept_of_error {r : Registry π α φ σ} {i : Identifier} {why : StoreError}
    (hwhy : why.errorClass = .validation ∨ why = .subscriptionNotFound i.id) :
    r.Kept i (.error why, r) :=
  ⟨Or.inl ⟨why, rfl, hwhy, rfl⟩, .refl r⟩

/-- An update whose delete failed. -/
theorem kept_of_delete {r : Registry π α φ σ} {i : Identifier} {cause : StoreError}
    {s : Services π α φ σ} (hdel : r.services.delete i.id = (.error cause, s)) :
    r.Kept i (.error (.backend "Problem deleting from cache" cause), { r with services := s }) :=
  ⟨Or.inr ⟨cause, rfl, Services.journal_of_delete hdel⟩,
    untouched_of_stored (Services.stored_delete_error hdel) (Services.active_of_delete hdel)⟩

section

variable {r : Registry π α φ σ} {h : Handle σ} {m : Metadata} {object : σ}
  {result : Except StoreError Unit × Registry π α φ σ}

/-- An update that left nothing in the place of the old subscription. -/
theorem lost_of_owned (howned : r.Owned) (howned' : result.2.Owned)
    (hn : r.services.active.issued < UInt64.size) (hn' : result.2.services.active.issued < UInt64.size)
    (herror : r.NotPlaced h m object result)
    (hcache : result.2.cache = r.cache.erase m.id)
    (hfactories : result.2.factories = r.factories)
    (hstored : result.2.services.stored
      = fun id => if id = m.id then none else r.services.stored id) :
    r.Lost h m object result := by
  have huncached : result.2.cache.get? m.id = none := by
    rw [hcache, Table.get?_erase, if_pos rfl]
  refine ⟨herror, huncached, ?_, ?_, ?_⟩
  · rw [hstored]
    exact if_pos rfl
  · rw [howned'.registrations_eq hn', huncached]
    rfl
  · refine sameElsewhere_of_owned howned howned' hn hn' ?_ hfactories ?_
    · intro key hkey
      rw [hcache, Table.get?_erase, if_neg hkey]
    · intro key hkey
      rw [hstored]
      exact if_neg hkey

/-- The registry between the two halves of an update: the old subscription is out. -/
abbrev emptied (r : Registry π α φ σ) (h : Handle σ) (id : String) (s : Services π α φ σ) :
    Registry π α φ σ :=
  ⟨r.cache.erase id, r.factories, s.deactivate h.activation⟩

variable {s s₁ s₂ : Services π α φ σ} {a : ActivationId}

omit [Tracked α σ] in
theorem stored_emptied (hdel : r.services.delete m.id = (.ok (), s)) :
    (r.emptied h m.id s).services.stored
      = fun id => if id = m.id then none else r.services.stored id := by
  rw [Services.stored_deactivate]
  exact Services.stored_delete_ok hdel

omit [Tracked α σ] [FaithfulStore π] in
theorem journal_emptied (hdel : r.services.delete m.id = (.ok (), s)) :
    (r.emptied h m.id s).services.journal
      = r.services.journal ++ [.delete m.id none, .deactivate h.activation] := by
  rw [Services.journal_deactivate, Services.journal_of_delete hdel, List.append_assoc]
  rfl

/-- The activator refuses the new subscription. -/
theorem lost_of_refused (hdel : r.services.delete m.id = (.ok (), s))
    (hact : (r.emptied h m.id s).services.activate object ⟨m.id, m.callback⟩ = (none, s₁))
    (hout : result = (.error (.registration (.refused m.id)),
      { r.emptied h m.id s with services := s₁ }))
    (howned : r.Owned) (howned' : result.2.Owned)
    (hn : r.services.active.issued < UInt64.size)
    (hn' : result.2.services.active.issued < UInt64.size) : r.Lost h m object result := by
  have hjournal := Services.journal_of_activate hact
  rw [journal_emptied hdel, List.append_assoc] at hjournal
  refine lost_of_owned howned howned' hn hn' (Or.inl ⟨?_, ?_⟩) ?_ ?_ ?_
  · rw [hout]
  · rw [hout]
    exact hjournal
  · rw [hout]
  · rw [hout]
  · rw [hout]
    exact (Services.stored_of_activate hact).trans (stored_emptied hdel)

/-- The store does not take the new subscription, which is released again. -/
theorem lost_of_unstored {cause : StoreError} (hdel : r.services.delete m.id = (.ok (), s))
    (hact : (r.emptied h m.id s).services.activate object ⟨m.id, m.callback⟩ = (some a, s₁))
    (hins : s₁.insert m = (.error cause, s₂))
    (hout : result = (.error (.backend "Problem writing to the cache" cause),
      { r.emptied h m.id s with services := s₂.deactivate a }))
    (howned : r.Owned) (howned' : result.2.Owned)
    (hn : r.services.active.issued < UInt64.size)
    (hn' : result.2.services.active.issued < UInt64.size) : r.Lost h m object result := by
  have hjournal := Services.journal_of_insert hins
  rw [Services.journal_of_activate hact, journal_emptied hdel, List.append_assoc,
    List.append_assoc] at hjournal
  have hstored : s₁.stored = fun id => if id = m.id then none else r.services.stored id :=
    (Services.stored_of_activate hact).trans (stored_emptied hdel)
  refine lost_of_owned howned howned' hn hn' (Or.inr ⟨a, cause, ?_, ?_⟩) ?_ ?_ ?_
  · rw [hout]
  · rw [hout]
    dsimp only
    rw [Services.journal_deactivate, hjournal, List.append_assoc]
    rfl
  · rw [hout]
  · rw [hout]
  · rw [hout]
    dsimp only
    rw [Services.stored_deactivate, Services.stored_insert_error hins, hstored]

/-- The new subscription is active and stored. -/
theorem replaced_of_stored (hvalid : m.Valid) (hdel : r.services.delete m.id = (.ok (), s))
    (hact : (r.emptied h m.id s).services.activate object ⟨m.id, m.callback⟩ = (some a, s₁))
    (hins : s₁.insert m = (.ok (), s₂))
    (hout : result = (.ok (), ⟨(r.emptied h m.id s).cache.insert m.id ⟨m, some ⟨object, a⟩⟩,
      r.factories, s₂⟩))
    (howned : r.Owned) (howned' : result.2.Owned)
    (hn : r.services.active.issued < UInt64.size)
    (hn' : result.2.services.active.issued < UInt64.size) : r.Replaced h m object result := by
  have hjournal := Services.journal_of_insert hins
  rw [Services.journal_of_activate hact, journal_emptied hdel, List.append_assoc,
    List.append_assoc] at hjournal
  have hdeleted : s₁.stored = fun id => if id = m.id then none else r.services.stored id :=
    (Services.stored_of_activate hact).trans (stored_emptied hdel)
  have hstored : result.2.services.stored
      = fun id => if id = m.id then some m else s₁.stored id := by
    rw [hout]
    exact Services.stored_insert_ok hins
  have hcache : result.2.cache.get? m.id = some ⟨m, some ⟨object, a⟩⟩ := by
    rw [hout]
    exact Table.get?_insert.trans (if_pos rfl)
  refine ⟨by rw [hout], ?_, ?_, ⟨a, hcache, ?_, ?_⟩, ?_⟩
  · rw [hstored]
    exact if_pos rfl
  · exact get_eq_ok_some_iff.mpr
      ⟨_, _, ⟨hvalid.2.2.2.1, hvalid.1, hcache, rfl, rfl⟩, rfl⟩
  · rw [howned'.registrations_eq hn', hcache]
    rfl
  · rw [hout]
    exact hjournal
  · refine sameElsewhere_of_owned howned howned' hn hn' ?_ (by rw [hout]) ?_
    · intro key hkey
      rw [hout]
      dsimp only
      rw [Table.get?_insert, if_neg hkey, Table.get?_erase, if_neg hkey]
    · intro key hkey
      rw [hstored, hdeleted]
      dsimp only
      rw [if_neg hkey, if_neg hkey]

/-- Once the old subscription is out, the new one takes its place or there is none. -/
theorem replaced_or_lost (hvalid : m.Valid) (hdel : r.services.delete m.id = (.ok (), s))
    (hresult : result = storeRegistered m object (r.emptied h m.id s))
    (howned : r.Owned) (howned' : result.2.Owned)
    (hn : r.services.active.issued < UInt64.size)
    (hn' : result.2.services.active.issued < UInt64.size) :
    r.Replaced h m object result ∨ r.Lost h m object result := by
  rcases storeRegistered_cases m object (r.emptied h m.id s) with
    ⟨s₁, hact, hout⟩ | ⟨a, s₁, cause, s₂, hact, hins, hout⟩ | ⟨a, s₁, s₂, hact, hins, hout⟩
  · exact Or.inr
      (lost_of_refused hdel hact (hresult.trans hout) howned howned' hn hn')
  · exact Or.inr
      (lost_of_unstored hdel hact hins (hresult.trans hout) howned howned' hn hn')
  · exact Or.inl
      (replaced_of_stored hvalid hdel hact hins (hresult.trans hout) howned howned' hn hn')

end

/-- The three ends of an update. -/
theorem update_ends_of_owned {r : Registry π α φ σ} (howned : r.Owned) (object : σ) (request : Request)
    (i : Identifier) (hn : r.services.active.issued < UInt64.size)
    (hn' : (r.update object request i).2.services.active.issued < UInt64.size) :
    r.Kept i (r.update object request i)
      ∨ ∃ e h, r.Present i e h
        ∧ (r.Replaced h ⟨i.id, i.kind, request.filter, request.callback⟩ object
            (r.update object request i)
          ∨ r.Lost h ⟨i.id, i.kind, request.filter, request.callback⟩ object
            (r.update object request i)) := by
  rcases update_cases object request i r with
    ⟨why, hwhy, hout⟩ | ⟨e, h, hp, ⟨cause, s, hdel, hout⟩ | ⟨m, s, hm, hvalid, hdel, -, hout⟩⟩
  · rw [hout]
    exact Or.inl (kept_of_error (hwhy.imp_right And.left))
  · rw [hout]
    exact Or.inl (kept_of_delete hdel)
  · subst hm
    refine Or.inr ⟨e, h, hp, ?_⟩
    exact replaced_or_lost hvalid hdel hout howned (howned.update object request i) hn hn'

/-! ## 4. Runs -/

/-- **An update has three ends, in every run.**  Either nothing has changed; or the new
subscription stands in the place of the old one, under the same id and type; or neither is there
any more. -/
theorem Run.update_ends [Factory φ σ] {s : Services π α φ σ} (hlive : s.active.live.rows = [])
    (hjournal : s.journal = []) {r : Registry π α φ σ} (hrun : Orderly s r) (object : σ)
    (request : Request) (i : Identifier)
    (hn : (r.update object request i).2.services.active.issued < UInt64.size) :
    r.Kept i (r.update object request i)
      ∨ ∃ e h, r.Present i e h
        ∧ (r.Replaced h ⟨i.id, i.kind, request.filter, request.callback⟩ object
            (r.update object request i)
          ∨ r.Lost h ⟨i.id, i.kind, request.filter, request.callback⟩ object
            (r.update object request i)) := by
  have hle : r.services.active.issued ≤ (r.update object request i).2.services.active.issued :=
    update_stable (issued_stable _) object request i (Nat.le_refl _)
  exact update_ends_of_owned (hrun.owned hlive hjournal) object request i
    (Nat.lt_of_le_of_lt hle hn) hn

end

/-- A live subscription is replaced. -/
theorem Run.update_ends_demo :
    ∃ h, Demo.live.Replaced h ⟨"s", "A", "f", "bus:/in"⟩ "g"
      (Demo.live.update "g" ⟨"f", "bus:/in"⟩ ⟨"s", "A"⟩) := by
  have hkeyed : Demo.services.Keyed := Services.keyed_of_stored (Demo.stored_only rfl)
  have hrun : Orderly Demo.services Demo.live :=
    .step (.step .refl ⟨hkeyed, trivial⟩)
      ⟨Services.keyed_of_stored (Demo.stored_only rfl), trivial⟩
  have hok : (Demo.live.update "g" ⟨"f", "bus:/in"⟩ ⟨"s", "A"⟩).1 = .ok () := rfl
  rcases Run.update_ends rfl rfl hrun "g" ⟨"f", "bus:/in"⟩ ⟨"s", "A"⟩ (by decide) with
    hkept | ⟨e, h, -, hreplaced | hlost⟩
  · rcases hkept.error with ⟨why, herr, -⟩ | ⟨cause, herr, -⟩ <;> simp [hok] at herr
  · exact ⟨h, hreplaced⟩
  · rcases hlost.error with ⟨herr, -⟩ | ⟨a, cause, herr, -⟩ <;> simp [hok] at herr

end Registry
end SubscriptionRegistry

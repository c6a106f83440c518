/-
# Restarts

A registry that is closed leaves behind what is stored, and nothing else.  If the next one opens
the same store, it caches what the last one had cached, all of it dormant; and once there are
factories, all of it comes to life again.

So much is true of any faithful store that is the same after the restart.  The run before may be
of any length and contain any failures, but ids do not collide, nobody else changes what is
stored, and the store was listed at least once.

* `Moment.latest`: what a client was told last about an id.
* `Registry.InOrder`: what is true of a registry after such a run.
* `Registry.Restored`: how the next registry comes up.
* `Registry.InOrder.restored`: it does so after every such run.
-/
import SubscriptionRegistry.Proofs.Dormancy
import SubscriptionRegistry.Proofs.Update
import SubscriptionRegistry.Proofs.WriteThrough

namespace SubscriptionRegistry

variable {π α φ σ : Type}

/-! ## 1. What was accepted last -/

section

variable [BackingStore π] [Activator α σ] [Factory φ σ]

namespace Moment

/-- What was accepted last under an id. -/
def latest (id : String) (moments : List (Moment π α φ σ)) : Option (Metadata × σ) :=
  (moments.filterMap accepted).findRev? fun p => p.1.id = id

theorem latest_append (id : String) (before after : List (Moment π α φ σ)) :
    latest id (before ++ after) = (latest id after).or (latest id before) := by
  simp only [latest, List.findRev?_eq_find?_reverse, List.filterMap_append, List.reverse_append,
    List.find?_append]

/-- At one more moment something else was accepted, or nothing was. -/
theorem latest_concat_of_none {id : String} {moment : Moment π α φ σ}
    (h : ∀ m object, moment.accepted = some (m, object) → m.id ≠ id)
    (moments : List (Moment π α φ σ)) : latest id (moments ++ [moment]) = latest id moments := by
  rw [latest_append]
  cases hm : moment.accepted with
  | none => simp [latest, hm]
  | some p => simp [latest, hm, h p.1 p.2 hm]

theorem latest_concat_of_some {id : String} {moment : Moment π α φ σ} {m : Metadata} {object : σ}
    (h : moment.accepted = some (m, object)) (hid : m.id = id)
    (moments : List (Moment π α φ σ)) :
    latest id (moments ++ [moment]) = some (m, object) := by
  rw [latest_append]
  simp [latest, h, hid]

theorem accepted_insert (object : σ) (request : Request) (kind : String) (random : Nat)
    (r : Registry π α φ σ) :
    (Moment.mk r (.insert object request kind random)).accepted
      = match (r.insert object request kind random).1 with
        | .ok i => some (⟨i.id, i.kind, request.filter, request.callback⟩, object)
        | .error _ => none := by
  unfold accepted answer
  dsimp only [Registry.perform]
  cases (r.insert object request kind random).1 <;> rfl

theorem accepted_update (object : σ) (request : Request) (i : Identifier)
    (r : Registry π α φ σ) :
    (Moment.mk r (.update object request i)).accepted
      = match (r.update object request i).1 with
        | .ok _ => some (⟨i.id, i.kind, request.filter, request.callback⟩, object)
        | .error _ => none := by
  unfold accepted answer
  dsimp only [Registry.perform]
  cases (r.update object request i).1 <;> rfl

end Moment

variable [FaithfulStore π] {r : Registry π α φ σ}

/-- What is stored at the end of a moment was accepted then, or was stored before, and nothing was
accepted in its place. -/
def Moment.Tells (moment : Moment π α φ σ) : Prop :=
  ∀ id m, moment.after.services.stored id = some m →
    (m.id = id ∧ ∃ object, moment.accepted = some (m, object))
      ∨ moment.registry.services.stored id = some m
        ∧ ∀ m' object, moment.accepted = some (m', object) → m'.id ≠ id

namespace Registry

theorem tells_of_stored {op : Operation φ σ} (hnone : (Moment.mk r op).accepted = none)
    (hstored : ∀ id m, (r.perform op).2.services.stored id = some m →
      r.services.stored id = some m) : (Moment.mk r op).Tells := by
  intro id m hm
  refine .inr ⟨hstored id m hm, fun m' object haccepted => ?_⟩
  rw [hnone] at haccepted
  cases haccepted

omit [Factory φ σ] in
/-- Storing a subscription adds it if that succeeds, and adds nothing else. -/
theorem stored_storeRegistered {m m' : Metadata} {object : σ} {id : String}
    (h : (r.storeRegistered m object).2.services.stored id = some m') :
    (r.storeRegistered m object).1 = .ok () ∧ m.id = id ∧ m' = m
      ∨ ((r.storeRegistered m object).1 = .ok () → m.id ≠ id)
        ∧ r.services.stored id = some m' := by
  rcases storeRegistered_cases m object r with
    ⟨s, hact, hout⟩ | ⟨a, s, why, s', hact, hins, hout⟩ | ⟨a, s, s', hact, hins, hout⟩
  · rw [hout] at h ⊢
    dsimp only at h
    rw [Services.stored_of_activate hact] at h
    exact .inr ⟨nofun, h⟩
  · rw [hout] at h ⊢
    dsimp only at h
    rw [Services.stored_deactivate, Services.stored_insert_error hins,
      Services.stored_of_activate hact] at h
    exact .inr ⟨nofun, h⟩
  · rw [hout] at h ⊢
    dsimp only at h
    rw [Services.stored_insert_ok hins, Services.stored_of_activate hact] at h
    dsimp only at h
    split at h
    · rename_i hid
      exact .inl ⟨rfl, hid.symm, (Option.some.inj h).symm⟩
    · rename_i hid
      exact .inr ⟨fun _ => Ne.symm hid, h⟩

/-- An operation that ends with storing a subscription, and accepts it if that succeeds. -/
theorem tells_of_storeRegistered {op : Operation φ σ} {m : Metadata} {object : σ}
    (r' : Registry π α φ σ) (hafter : (r.perform op).2 = (r'.storeRegistered m object).2)
    (haccepted : (Moment.mk r op).accepted
      = match (r'.storeRegistered m object).1 with
        | .ok _ => some (m, object)
        | .error _ => none)
    (hstored : ∀ id n, r'.services.stored id = some n → r.services.stored id = some n) :
    (Moment.mk r op).Tells := by
  intro id n hn
  rw [Moment.after, hafter] at hn
  rw [haccepted]
  rcases stored_storeRegistered hn with ⟨hok, hid, rfl⟩ | ⟨hother, hbefore⟩
  · rw [hok]
    exact .inl ⟨hid, object, rfl⟩
  · refine .inr ⟨hstored id n hbefore, fun m' object' hm' => ?_⟩
    cases hstore : (r'.storeRegistered m object).1 with
    | error why =>
      rw [hstore] at hm'
      cases hm'
    | ok u =>
      rw [hstore] at hm'
      cases hm'
      exact hother hstore

theorem tells_insert (object : σ) (request : Request) (kind : String) (random : Nat)
    (r : Registry π α φ σ) : (Moment.mk r (.insert object request kind random)).Tells := by
  have haccepted := Moment.accepted_insert object request kind random r
  rcases insert_cases object request kind random r with ⟨why, -, hout⟩ | ⟨m, rfl, -, hout⟩
  · rw [hout] at haccepted
    exact tells_of_stored haccepted fun id m hm => by rwa [perform, hout] at hm
  · rw [hout] at haccepted
    refine tells_of_storeRegistered r (by rw [perform, hout]) ?_ fun _ _ hm => hm
    rw [haccepted]
    cases (r.storeRegistered _ object).1 <;> rfl

theorem tells_update (object : σ) (request : Request) (i : Identifier) (r : Registry π α φ σ) :
    (Moment.mk r (.update object request i)).Tells := by
  have haccepted := Moment.accepted_update object request i r
  rcases update_cases object request i r with
    ⟨why, -, hout⟩ | ⟨e, h, -, ⟨why, s, hdel, hout⟩ | ⟨m, s, rfl, -, hdel, -, hout⟩⟩
  · rw [hout] at haccepted
    exact tells_of_stored haccepted fun id m hm => by rwa [perform, hout] at hm
  · rw [hout] at haccepted
    refine tells_of_stored haccepted fun id m hm => ?_
    rw [perform, hout] at hm
    rwa [← Services.stored_delete_error hdel]
  · rw [hout] at haccepted
    refine tells_of_storeRegistered _ (by rw [perform, hout]) haccepted fun id n hn => ?_
    rw [Services.stored_deactivate, Services.stored_delete_ok hdel] at hn
    dsimp only at hn
    split at hn
    · cases hn
    · exact hn

theorem tells_delete (i : Identifier) (r : Registry π α φ σ) :
    (Moment.mk r (.delete i)).Tells := by
  refine tells_of_stored rfl fun id m hm => ?_
  rw [perform] at hm
  rcases delete_cases i r with ⟨why, -, hout⟩ | ⟨e, h, hp, hout⟩
  · rwa [hout] at hm
  · rw [hout] at hm
    rcases takeOut_cases hp with ⟨why, s, hdel, htake⟩ | ⟨s, hdel, htake⟩
    · rw [htake] at hm
      rwa [← Services.stored_delete_error hdel]
    · rw [htake] at hm
      dsimp only at hm
      rw [Services.stored_deactivate, Services.stored_delete_ok hdel] at hm
      dsimp only at hm
      split at hm
      · cases hm
      · exact hm

/-- **Nothing is stored that was not accepted or stored before**, and what is accepted takes the
place of what was stored. -/
theorem perform_tells {lags : Prop} (hkeyed : r.services.StoredKeyed) (hf : r.Follows lags)
    (op : Operation φ σ) : (Moment.mk r op).Tells := by
  have hlocal : Services.LocallyStable fun s : Services π α φ σ => s.stored = r.services.stored :=
    Services.stored_locallyStable _
  cases op with
  | init => exact tells_of_stored rfl fun id m hm => by rwa [perform, stored_init] at hm
  | insert object request kind random => exact tells_insert object request kind random r
  | update object request target => exact tells_update object request target r
  | delete target => exact tells_delete target r
  | bind factory =>
    refine tells_of_stored rfl fun id m hm => ?_
    rwa [perform, bind_stable hlocal factory rfl] at hm
  | unbind factory =>
    refine tells_of_stored rfl fun id m hm => ?_
    rwa [perform, unbind_stable hlocal factory rfl] at hm
  | reconcile =>
    exact tells_of_stored rfl fun id m hm => by rwa [perform, stored_reconcile] at hm
  | flush => exact tells_of_stored rfl fun id m hm => by rwa [perform, stored_flush hkeyed hf] at hm

end Registry

end

/-! ## 2. Runs without disturbance -/

section

variable [BackingStore π] [FaithfulStore π] [Activator α σ] [Tracked α σ]

/-- The outside changed nothing that is stored, registered or written down.  It may have changed
which calls fail from now on. -/
structure Services.Quiet (s s' : Services π α φ σ) : Prop where
  stored : s'.stored = s.stored
  active : s'.active = s.active
  journal : s'.journal = s.journal

/-- Services to start with: nothing is registered and nothing was called, and what is stored is
valid and stands under its own id. -/
structure Services.Ready (s : Services π α φ σ) : Prop where
  live : s.active.live.rows = []
  journal : s.journal = []
  stored : ∀ id m, s.stored id = some m → m.id = id ∧ m.Valid

/-- The store was listed, and the cache brought up to it. -/
def Moment.Loads (moment : Moment π α φ σ) : Prop :=
  (moment.operation = .init ∨ moment.operation = .reconcile)
    ∧ ∃ listing s, moment.registry.services.list = (.ok listing, s)

variable [Factory φ σ]

namespace Registry

/-- Every activation is accounted for, what is stored is in order, the cache follows, and what was
accepted last under an id is what is stored there, if anything is. -/
structure InOrder (moments : List (Moment π α φ σ)) (r : Registry π α φ σ) : Prop where
  owned : r.Owned
  stored : ∀ id m, r.services.stored id = some m → m.id = id ∧ m.Valid
  follows : r.Follows (∀ moment ∈ moments, ¬ moment.Loads)
  latest : ∀ id m p, r.services.stored id = some m → Moment.latest id moments = some p → p.1 = m

variable {outside : Services π α φ σ → Services π α φ σ → Prop}
  {allowed : Operation φ σ → Registry π α φ σ → Prop} {s s' : Services π α φ σ}
  {r r' : Registry π α φ σ} {moments : List (Moment π α φ σ)}

omit [Activator α σ] [Tracked α σ] [Factory φ σ] in
theorem Follows.mono {lags lags' : Prop} (h : r.Follows lags) (himp : lags → lags') :
    r.Follows lags' :=
  fun id => (h id).imp_right fun hlag => ⟨himp hlag.1, hlag.2⟩

omit [Tracked α σ] in
/-- An operation that loads leaves no gap, and the others leave none that was not there. -/
theorem follows_concat (hkeyed : r.services.StoredKeyed)
    (h : r.Follows (∀ moment ∈ moments, ¬ moment.Loads)) (op : Operation φ σ) :
    (r.perform op).2.Follows (∀ moment ∈ moments ++ [⟨r, op⟩], ¬ moment.Loads) := by
  by_cases hloads : (Moment.mk r op).Loads
  · obtain ⟨hop, listing, s, hl⟩ := hloads
    refine Follows.widen ?_
    rcases hop with rfl | rfl
    · exact init_follows_of_list h hl
    · exact reconcile_follows_of_list hkeyed h hl
  · refine (perform_follows hkeyed h op).mono fun hnone moment hmem => ?_
    rcases List.mem_append.mp hmem with hmem | hmem
    · exact hnone moment hmem
    · rw [List.mem_singleton.mp hmem]
      exact hloads

theorem InOrder.step (h : InOrder moments r) {op : Operation φ σ} (hfresh : op.Fresh r) :
    InOrder (moments ++ [⟨r, op⟩]) (r.perform op).2 := by
  have hkeyed : r.services.StoredKeyed := fun id m hm => (h.stored id m hm).1
  have htells := perform_tells hkeyed h.follows op
  refine ⟨perform_owned op (Services.keyed_of_stored (h.stored _ _)) hfresh h.owned, ?_,
    follows_concat hkeyed h.follows op, ?_⟩
  · intro id m hm
    rcases htells id m hm with ⟨hid, object, haccepted⟩ | ⟨hbefore, -⟩
    · exact ⟨hid, (Moment.accepted_eq_some haccepted).1⟩
    · exact h.stored id m hbefore
  · intro id m p hm hp
    rcases htells id m hm with ⟨hid, object, haccepted⟩ | ⟨hbefore, hother⟩
    · rw [Moment.latest_concat_of_some haccepted hid] at hp
      cases hp
      rfl
    · rw [Moment.latest_concat_of_none hother] at hp
      exact h.latest id m p hbefore hp

theorem InOrder.change (h : InOrder moments r) (hs : r.services.Quiet s) :
    InOrder moments { r with services := s } where
  owned := h.owned.change hs.journal hs.active
  stored id m hm := h.stored id m (hs.stored ▸ hm)
  follows := h.follows.congr rfl hs.stored
  latest id m p hm hp := h.latest id m p (hs.stored ▸ hm) hp

/-- **A registry that nobody disturbs is in order.** -/
theorem Trace.inOrder (houtside : ∀ s s', outside s s' → s.Quiet s')
    (hallowed : ∀ op r, allowed op r → op.Fresh r) (hs : s.Ready)
    (h : Trace outside allowed (new s) moments r) : InOrder moments r := by
  induction h with
  | refl =>
    exact ⟨Owned.new hs.live hs.journal, hs.stored, fun id => .inr ⟨by simp, rfl⟩,
      fun _ _ _ _ hp => by cases hp⟩
  | change _ hs ih => exact ih.change (houtside _ _ hs)
  | step _ hop ih => exact ih.step (hallowed _ _ hop)

/-! ## 3. Closing and opening -/

omit [Tracked α σ] in
/-- Releasing changes nothing that is stored. -/
theorem stored_close (r : Registry π α φ σ) : r.close.stored = r.services.stored :=
  Table.visit_snd (P := fun s : Services π α φ σ => s.stored = r.services.stored)
    (fun e _ hs => releaseEntry_stable (Services.stored_locallyStable _) _ e hs) r.cache rfl

omit [BackingStore π] [FaithfulStore π] [Tracked α σ] in
/-- Without factories nothing comes to life. -/
theorem activateDormant_of_empty (test : Entry σ → Bool) (c : Cache σ)
    (s : Services π α φ σ) :
    activateDormant test ⟨c, .empty, s⟩ = (.ok (), (⟨c, .empty, s⟩ : Registry π α φ σ)) := by
  have hidle : ∀ e : Entry σ, activateEntry test e (⟨[], .empty, s⟩ : Round π α φ σ)
      = (.ok (), e, ⟨[], .empty, s⟩) := by
    intro e
    unfold activateEntry
    split <;> rfl
  unfold activateDormant
  dsimp only
  rw [Table.visit_eq_self hidle]
  rfl

omit [FaithfulStore π] [Tracked α σ] in
/-- A new registry loads what is stored, all of it dormant. -/
theorem init_new {listing : Table String Metadata} (hl : s.list = (.ok listing, s')) :
    (new s : Registry π α φ σ).init
      = (.ok (), ⟨listing.rows.foldl Cache.addMissing .empty, .empty, s'⟩) := by
  rw [init_of_list hl]
  exact activateDormant_of_empty _ _ _

omit [FaithfulStore π] [Tracked α σ] in
theorem list_of_init (h : (new s : Registry π α φ σ).init.1 = .ok ()) :
    ∃ listing s', s.list = (.ok listing, s') := by
  rcases init_cases (new s : Registry π α φ σ) with
    ⟨why, s', -, hout⟩ | ⟨listing, s', hl, -⟩
  · rw [hout] at h
    cases h
  · exact ⟨listing, s', hl⟩

/-- How a registry over some services comes up after another one, with a trace of its own, was
closed. -/
structure Restored (moments : List (Moment π α φ σ)) (r : Registry π α φ σ)
    (s : Services π α φ σ) : Prop where
  /-- The same is cached, id for id. -/
  cached : (new s).init.2.cached = r.cached
  dormant : ∀ e ∈ (new s).init.2.cache.values, e.isDormant = true
  inactive : (new s).init.2.services.active.live.rows = []
  /-- Once every cached type has a factory, and no factory and no activator ever failed, all is
  registered, once, at its callback address. -/
  revived : ∀ r' : Registry π α φ σ,
    Run Services.Quiet (fun op _ => ∃ f, op = .bind f) (new s).init.2 r' →
    r'.services.active.issued < UInt64.size →
    (∀ call ∈ r'.services.journal, call.isInVain = false) →
    (∀ id m, r.cached id = some m → r'.factories.contains m.kind = true) →
    ∀ id m, r.cached id = some m →
      ∃ a object, r'.registrations id = [(a, ⟨object, ⟨id, m.callback⟩⟩)]
  /-- What was accepted last is what is there. -/
  latest : ∀ id m p, r.cached id = some m → Moment.latest id moments = some p → p.1 = m

/-- **All comes back to life** that is cached, once it can. -/
theorem revived_of_ready (hs : s.Ready)
    (hrun : Run Services.Quiet (fun op _ => ∃ f, op = .bind f) (new s).init.2 r')
    (hn : r'.services.active.issued < UInt64.size)
    (hsmooth : ∀ call ∈ r'.services.journal, call.isInVain = false) {id : String} {m : Metadata}
    (hm : (new s : Registry π α φ σ).init.2.cached id = some m)
    (hbound : r'.factories.contains m.kind = true) :
    ∃ a object, r'.registrations id = [(a, ⟨object, ⟨id, m.callback⟩⟩)] := by
  have hsame : r'.cached = (new s : Registry π α φ σ).init.2.cached
      ∧ Run Services.Quiet (fun op r => op.Fresh r) (new s) r' := by
    have hinit : Run Services.Quiet (fun op r => op.Fresh r) (new s)
        ((new s : Registry π α φ σ).perform .init).2 := .step .refl trivial
    clear hn hsmooth hbound
    induction hrun with
    | refl => exact ⟨rfl, hinit⟩
    | change _ hs ih => exact ⟨ih.1, .change ih.2 hs⟩
    | step _ hop ih =>
      obtain ⟨f, rfl⟩ := hop
      exact ⟨(congrArg Table.get? (metadata_bind f _)).trans ih.1, .step ih.2 trivial⟩
  obtain ⟨moments, htrace⟩ := hsame.2.trace
  have hin := htrace.inOrder (fun _ _ h => h) (fun _ _ h => h) hs
  rw [← hsame.1, Registry.cached, Cache.get?_metadata, Option.map_eq_some_iff] at hm
  obtain ⟨e, he, rfl⟩ := hm
  have hid : e.metadata.id = id := by
    refine (hin.owned.kept id e.metadata ?_).1
    rw [Cache.get?_metadata, he]
    rfl
  obtain ⟨f, hf⟩ := Option.isSome_iff_exists.mp hbound
  cases hh : e.handle with
  | none =>
    obtain ⟨call, hcall, hvain⟩ := htrace.exists_inVain (fun _ _ h => h.journal)
      (htrace.triedInVain he hh hf)
    rw [hsmooth call hcall] at hvain
    cases hvain
  | some h =>
    refine ⟨h.activation, h.object, ?_⟩
    rw [hin.owned.registrations_eq hn, he, ← hid]
    exact Entry.held_of_handle_some hh

/-- Once the store was listed, all that is stored is cached. -/
theorem InOrder.cached_eq (h : InOrder moments r) (hloaded : ∃ moment ∈ moments, moment.Loads) :
    r.cached = r.services.stored := by
  refine Follows.eq (h.follows.mono fun hnone => ?_)
  obtain ⟨moment, hmem, hloads⟩ := hloaded
  exact hnone moment hmem hloads

/-- **A registry that was in order comes back**, if the next one opens the same store. -/
theorem InOrder.restored (h : InOrder moments r) (hloaded : ∃ moment ∈ moments, moment.Loads)
    (hn : r.services.active.issued < UInt64.size) (hstored : s.stored = r.close.stored)
    (hactive : s.active = r.close.active) (hjournal : s.journal = [])
    (hinit : (new s : Registry π α φ σ).init.1 = .ok ()) : Restored moments r s := by
  have hfull := h.cached_eq hloaded
  have hsame : s.stored = r.cached := by rw [hstored, stored_close, hfull]
  have hready : s.Ready :=
    ⟨by rw [hactive]; exact (h.owned.close hn).empty, hjournal, by
      rw [hstored, stored_close]
      exact h.stored⟩
  obtain ⟨listing, s', hl⟩ := list_of_init hinit
  have hcached : (new s : Registry π α φ σ).init.2.cached = r.cached := by
    funext id
    rw [init_new hl, Registry.cached, get?_metadata_load, Services.get?_list hl, hsame]
    rfl
  refine ⟨hcached, ?_, ?_, ?_, ?_⟩
  · intro e he
    rw [init_new hl] at he
    obtain ⟨row, hrow, rfl⟩ := List.mem_map.mp he
    have hget := Table.get?_eq_some_iff.mpr hrow
    rw [Cache.get?_foldl_addMissing, Table.get?_empty, Option.none_or,
      Option.map_eq_some_iff] at hget
    obtain ⟨m, -, hm⟩ := hget
    rw [← hm]
    rfl
  · rw [init_new hl]
    dsimp only
    rw [Services.active_of_list hl]
    exact hready.live
  · intro r' hrun hn' hsmooth hbound id m hm
    exact revived_of_ready hready hrun hn' hsmooth (by rw [hcached]; exact hm) (hbound id m hm)
  · intro id m p hm
    rw [hfull] at hm
    exact h.latest id m p hm

end Registry

end
end SubscriptionRegistry

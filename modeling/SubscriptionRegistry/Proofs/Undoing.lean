/-
# Inserting and deleting

A new subscription that is deleted again was never there: what it put into the cache, the store
and the set of live activations is all that its delete takes out.  Two things have to be new for
that.  Its id is not cached and not stored, or the insert would have put it in the place of
something else, and its activation has a name that no other live one has.

* `Registry.present_of_insert`: what a successful insert leaves behind can be deleted.
* `Registry.Run.insert_delete`: nothing is left of it after that.
-/
import SubscriptionRegistry.Proofs.Failure

namespace SubscriptionRegistry
namespace Registry

variable {π α φ σ : Type} [BackingStore π] [FaithfulStore π] [Activator α σ] [Tracked α σ]
  {r : Registry π α φ σ}

/-! ## 1. What an insert leaves behind -/

omit [FaithfulStore π] [Tracked α σ] in
/-- An insert succeeds by activating, storing and caching, in this order. -/
theorem insert_eq_ok {object : σ} {request : Request} {kind : String} {random : Nat}
    {i : Identifier} (h : (r.insert object request kind random).1 = .ok i) :
    ∃ (m : Metadata) (a : ActivationId) (s s' : Services π α φ σ), m.identifier = i ∧ m.Valid
      ∧ r.services.activate object ⟨m.id, m.callback⟩ = (some a, s) ∧ s.insert m = (.ok (), s')
      ∧ r.insert object request kind random
        = (.ok i, ⟨r.cache.insert m.id ⟨m, some ⟨object, a⟩⟩, r.factories, s'⟩) := by
  rcases insert_cases object request kind random r with ⟨why, -, hout⟩ | ⟨m, -, hvalid, hout⟩
  · rw [hout] at h
    cases h
  rcases storeRegistered_cases m object r with
    ⟨s, -, hstore⟩ | ⟨a, s, why, s', -, -, hstore⟩ | ⟨a, s, s', hact, hins, hstore⟩
  · rw [hout, hstore] at h
    cases h
  · rw [hout, hstore] at h
    cases h
  · rw [hout, hstore] at h
    cases h
    exact ⟨m, a, s, s', rfl, hvalid, hact, hins, by rw [hout, hstore]; rfl⟩

omit [BackingStore π] [FaithfulStore π] [Activator α σ] [Tracked α σ] in
/-- The subscription is live and can be deleted. -/
theorem present_of_insert {m : Metadata} (hvalid : m.Valid) (object : σ) (a : ActivationId)
    (s : Services π α φ σ) :
    Present ⟨r.cache.insert m.id ⟨m, some ⟨object, a⟩⟩, r.factories, s⟩ m.identifier
      ⟨m, some ⟨object, a⟩⟩ ⟨object, a⟩ where
  id_ne := hvalid.2.2.2.1
  kind_ne := hvalid.1
  cached := Table.get?_insert.trans (if_pos rfl)
  kind := rfl
  handle := rfl

/-! ## 2. Both together -/

omit [Activator α σ] [Tracked α σ] in
/-- A new row that is deleted again. -/
theorem stored_insert_delete {m : Metadata} {s s' s'' : Services π α φ σ}
    (hnew : s.stored m.id = none) (hins : s.insert m = (.ok (), s'))
    (hdel : s'.delete m.id = (.ok (), s'')) : s''.stored = s.stored := by
  rw [Services.stored_delete_ok hdel, Services.stored_insert_ok hins]
  funext id
  by_cases hid : id = m.id
  · rw [if_pos hid, hid, hnew]
  · dsimp only
    rw [if_neg hid, if_neg hid]

/-- **An insert and the delete of what it put in leave everything as it was.** -/
theorem insert_delete_untouched (hnamed : r.services.Named) {object : σ} {request : Request}
    {kind : String} {random : Nat} {i : Identifier}
    (hinsert : (r.insert object request kind random).1 = .ok i)
    (hcache : r.cache.get? i.id = none) (hstored : r.services.stored i.id = none)
    (hdelete : ((r.insert object request kind random).2.services.delete i.id).1 = .ok ())
    (hn : (r.insert object request kind random).2.services.active.issued < UInt64.size) :
    ((r.insert object request kind random).2.delete i).1 = .ok object
      ∧ r.Untouched ((r.insert object request kind random).2.delete i).2 := by
  obtain ⟨m, a, s, s', rfl, hvalid, hact, hins, hout⟩ := insert_eq_ok hinsert
  rw [hout] at hdelete hn ⊢
  have hp := present_of_insert (r := r) hvalid object a s'
  rw [delete_of_present hp]
  rcases takeOut_cases hp with ⟨why, s'', hdel, -⟩ | ⟨s'', hdel, htake⟩
  · have herror := congrArg Prod.fst hdel
    rw [hdelete] at herror
    cases herror
  · rw [htake]
    refine ⟨rfl, Table.erase_insert hcache, rfl, ?_, ?_⟩
    · rw [Services.stored_deactivate,
        stored_insert_delete (by rw [Services.stored_of_activate hact]; exact hstored) hins hdel,
        Services.stored_of_activate hact]
    · have hsame := Services.active_of_insert hins
      dsimp only at hn ⊢
      rw [hsame] at hn
      rw [Services.active_deactivate, Services.active_of_delete hdel, hsame]
      exact hnamed.live_undo hact hn

variable [Factory φ σ]

omit [FaithfulStore π] in
/-- Names of activations are given out in order in every run. -/
theorem Run.named {s : Services π α φ σ} (hlive : s.active.live.rows = [])
    (hrun : Run (fun s s' => s'.active = s.active) (fun _ _ => True) (new s) r) :
    r.services.Named := by
  induction hrun with
  | refl =>
    intro a g ha
    have hrow := Table.get?_eq_some_iff.mp ha
    rw [Registry.new, hlive] at hrow
    cases hrow
  | change _ hs ih =>
    rw [Services.Named, hs]
    exact ih
  | step _ _ ih => exact perform_stable Services.named_stable _ ih

/-- **Inserting and deleting is doing nothing, in every run**: the subscription comes back, and
cache, factories, stored rows and live activations are what they were. -/
theorem Run.insert_delete {s : Services π α φ σ} (hlive : s.active.live.rows = [])
    (hrun : Run (fun s s' => s'.active = s.active) (fun _ _ => True) (new s) r) {object : σ}
    {request : Request} {kind : String} {random : Nat} {i : Identifier}
    (hinsert : (r.insert object request kind random).1 = .ok i)
    (hcache : r.cache.get? i.id = none) (hstored : r.services.stored i.id = none)
    (hdelete : ((r.insert object request kind random).2.services.delete i.id).1 = .ok ())
    (hn : (r.insert object request kind random).2.services.active.issued < UInt64.size) :
    ((r.insert object request kind random).2.delete i).1 = .ok object
      ∧ r.Untouched ((r.insert object request kind random).2.delete i).2 :=
  insert_delete_untouched (Run.named hlive hrun) hinsert hcache hstored hdelete hn

end Registry

namespace Demo

/-- A subscription that a caller brings along. -/
def request : Request := ⟨"g", "bus:/out"⟩

/-- The id that is made of no random bits at all. -/
def given : Identifier := ⟨Urn.ofRandom 0, "B"⟩

end Demo

/-- A second subscription comes and goes beside one that is live. -/
theorem Registry.Run.insert_delete_demo :
    Run (fun s s' => s'.active = s.active) (fun _ _ => True) (new Demo.services) Demo.live
      ∧ (Demo.live.insert "x" Demo.request "B" 0).1 = .ok Demo.given
      ∧ ((Demo.live.insert "x" Demo.request "B" 0).2.delete Demo.given).1 = .ok "x"
      ∧ Demo.live.Untouched ((Demo.live.insert "x" Demo.request "B" 0).2.delete Demo.given).2 := by
  have hrun : Run (fun s s' => s'.active = s.active) (fun _ _ => True) (new Demo.services)
      Demo.live := .step (.step .refl trivial) trivial
  have hinsert : (Demo.live.insert "x" Demo.request "B" 0).1 = .ok Demo.given := rfl
  exact ⟨hrun, hinsert, Run.insert_delete rfl hrun hinsert rfl rfl rfl (by decide)⟩

end SubscriptionRegistry

/-
# The registry

Cached access to all subscriptions, whoever registered them.  A subscription is cached and
stored; while it is registered it is also live.  Dormant subscriptions come to life when a
factory of their type is bound, and registered ones go dormant when it is unbound.

Every operation gives its outcome and the registry after it, also when it fails.

* `Registry.init`: load and activate.
* `Registry.get`, `insert`, `update`, `delete`: single subscriptions.
* `Registry.bind`, `unbind`: whole types.
* `Registry.reconcile`: follow the backing store.
* `Registry.flush`: have the backing store follow.
* `Registry.close`: release everything.
-/
import SubscriptionRegistry.Cache

namespace SubscriptionRegistry

/-- A cache, the bound factories, and the services that both are used with. -/
structure Registry (π α φ σ : Type) where
  cache : Cache σ
  factories : Factories φ
  services : Services π α φ σ

namespace Registry

variable {π α φ σ : Type}

/-- Nothing cached and nothing bound. -/
def new (services : Services π α φ σ) : Registry π α φ σ := ⟨.empty, .empty, services⟩

/-! ## 1. What there is -/

/-- The number of cached subscriptions. -/
def size (r : Registry π α φ σ) : Nat := r.cache.size

def isEmpty (r : Registry π α φ σ) : Bool := r.cache.isEmpty

/-- The cached ids, in rising order. -/
def ids (r : Registry π α φ σ) : List String := r.cache.sortedKeys

/-- Whether a cached subscription is live. -/
def isRegistered (r : Registry π α φ σ) (id : String) : Bool :=
  ((r.cache.get? id).map Entry.isRegistered).getD false

/-- The types that factories are bound for, in rising order. -/
def boundKinds (r : Registry π α φ σ) : List String := r.factories.kinds

/-- The live subscription, if there is one of that id and type. -/
def get (i : Identifier) (r : Registry π α φ σ) : Except StoreError (Option σ) :=
  match i.validate with
  | .error e => .error e
  | .ok () =>
    match r.cache.get? i.id with
    | none => .ok none
    | some e =>
      if !e.isKind i.kind || e.isDormant then .ok none
      else
        match e.object? with
        | some object => .ok (some object)
        | none => .error (.registration .unavailable)

/-- Whether there is a live subscription of that id and type. -/
def contains (i : Identifier) (r : Registry π α φ σ) : Except StoreError Bool :=
  (r.get i).map Option.isSome

/-- There has to be a live subscription of that id and type. -/
def requirePresent (i : Identifier) (r : Registry π α φ σ) : Except StoreError Unit :=
  match r.get i with
  | .error e => .error e
  | .ok none => .error (.subscriptionNotFound i.id)
  | .ok (some _) => .ok ()

/-! ## 2. Activating dormant entries -/

section

variable [Activator α σ] [Factory φ σ]

/-- What a round through the cache works on: the ids that could not be activated so far, the
factories and the services. -/
structure Round (π α φ σ : Type) where
  failed : List String
  factories : Factories φ
  services : Services π α φ σ

/-- Activates an entry that passes the test, is dormant and whose type has a factory. -/
def activateEntry (test : Entry σ → Bool) (e : Entry σ) (r : Round π α φ σ) :
    Except StoreError Unit × Entry σ × Round π α φ σ :=
  if e.isDormant && test e then
    match r.factories.get? e.metadata.kind with
    | none => (.ok (), e, r)
    | some f =>
      match e.registerWith f r.services with
      | (outcome, e', f, services) =>
        let failed := match outcome with
          | .ok () => r.failed
          | .error _ => r.failed ++ [e.id]
        (.ok (), e', ⟨failed, r.factories.update e.metadata.kind f, services⟩)
  else (.ok (), e, r)

/-- What a round comes to. -/
def activationOutcome (failed : List String) : Except StoreError Unit :=
  if failed.isEmpty then .ok () else .error (.registration (.notActivated failed))

/-- Activates all dormant entries that pass the test and whose type has a factory. -/
def activateDormant (test : Entry σ → Bool) (r : Registry π α φ σ) :
    Except StoreError Unit × Registry π α φ σ :=
  match r.cache.visit (activateEntry test) ⟨[], r.factories, r.services⟩ with
  | (_, cache, round) =>
    (activationOutcome round.failed, ⟨cache, round.factories, round.services⟩)

/-- Loads what is stored and not cached, and activates all that can be. -/
def init [BackingStore π] (r : Registry π α φ σ) :
    Except StoreError Unit × Registry π α φ σ :=
  match r.cache.loadAll r.services with
  | (.error e, cache, services) => (.error e, { r with cache, services })
  | (.ok _, cache, services) => { r with cache, services }.activateDormant fun _ => true

end

/-! ## 3. Single subscriptions -/

section

variable [BackingStore π] [Activator α σ]

/-- Activates a subscription and then stores and caches it.  If it cannot be stored the
activation is released. -/
def storeRegistered (m : Metadata) (object : σ) (r : Registry π α φ σ) :
    Except StoreError Unit × Registry π α φ σ :=
  match (Entry.dormant m).register object r.services with
  | (.error e, _, services) => (.error e, { r with services })
  | (.ok (), entry, services) =>
    match r.cache.put entry services with
    | (.ok (), cache, services) => (.ok (), { r with cache, services })
    | (.error (entry, why), cache, services) =>
      match entry.unregister services with
      | (.error e, _, services) => (.error e, { r with cache, services })
      | (.ok _, _, services) =>
        (.error (.backend "Problem writing to the cache" why), { r with cache, services })

/-- Registers a new subscription under an id made from random bits. -/
def insert (object : σ) (request : Request) (kind : String) (random : Nat)
    (r : Registry π α φ σ) : Except StoreError Identifier × Registry π α φ σ :=
  match request.validate with
  | .error e => (.error e, r)
  | .ok () =>
    match requireNonEmpty kind .lookupKind with
    | .error e => (.error e, r)
    | .ok () =>
      match Metadata.generate kind request.filter request.callback random with
      | .error e => (.error e, r)
      | .ok m =>
        match r.storeRegistered m object with
        | (.error e, r) => (.error e, r)
        | (.ok (), r) => (.ok m.identifier, r)

/-- Takes a subscription out of the store and the cache. -/
def take (id : String) (r : Registry π α φ σ) :
    Except StoreError (Entry σ) × Registry π α φ σ :=
  match r.cache.remove id r.services with
  | (.error e, cache, services) =>
    (.error (.backend "Problem deleting from cache" e), { r with cache, services })
  | (.ok none, cache, services) =>
    (.error (.subscriptionNotFound id), { r with cache, services })
  | (.ok (some entry), cache, services) => (.ok entry, { r with cache, services })

/-- Takes a live subscription out and releases it. -/
def takeOut (id : String) (r : Registry π α φ σ) : Except StoreError σ × Registry π α φ σ :=
  match r.take id with
  | (.error e, r) => (.error e, r)
  | (.ok entry, r) =>
    match entry.unregister r.services with
    | (outcome, _, services) => (outcome, { r with services })

/-- Puts another subscription in the place of one, under the same id and type.  The old one is
taken out before the new one is registered; if that fails, nothing is left in its place. -/
def update (object : σ) (request : Request) (i : Identifier) (r : Registry π α φ σ) :
    Except StoreError Unit × Registry π α φ σ :=
  match request.validate with
  | .error e => (.error e, r)
  | .ok () =>
    match r.requirePresent i with
    | .error e => (.error e, r)
    | .ok () =>
      match Metadata.create i.kind request.filter request.callback i.id with
      | .error e => (.error e, r)
      | .ok m =>
        match r.takeOut i.id with
        | (.error e, r) => (.error e, r)
        | (.ok _, r) => r.storeRegistered m object

/-- Takes a subscription out and hands the live one back. -/
def delete (i : Identifier) (r : Registry π α φ σ) : Except StoreError σ × Registry π α φ σ :=
  match r.requirePresent i with
  | .error e => (.error e, r)
  | .ok () => r.takeOut i.id

end

/-! ## 4. Whole types -/

section

variable [Activator α σ] [Factory φ σ]

/-- Makes a factory available and activates the dormant subscriptions of its type.  The factory
stays bound when some of them cannot be activated.  Without a factory nothing happens. -/
def bind (factory : Option φ) (r : Registry π α φ σ) :
    Except StoreError Unit × Registry π α φ σ :=
  match factory with
  | none => (.ok (), r)
  | some f =>
    match r.factories.bind f with
    | .error e => (.error e, r)
    | .ok factories => { r with factories }.activateDormant fun e => e.isKind (Factory.kind f)

/-- Releases an entry that is registered and passes the test. -/
def releaseEntry (test : Entry σ → Bool) (e : Entry σ) (s : Services π α φ σ) :
    Except StoreError Unit × Entry σ × Services π α φ σ :=
  if e.isRegistered && test e then
    match e.unregister s with
    | (.error why, e, s) => (.error why, e, s)
    | (.ok _, e, s) => (.ok (), e, s)
  else (.ok (), e, s)

/-- Takes the factory of a type away.  The live subscriptions of that type go dormant, also
those that callers brought along.  Without a factory nothing happens. -/
def unbind (factory : Option φ) (r : Registry π α φ σ) :
    Except StoreError Unit × Registry π α φ σ :=
  match factory with
  | none => (.ok (), r)
  | some f =>
    match r.factories.unbind (Factory.kind f) with
    | .error e => (.error e, r)
    | .ok (_, factories) =>
      match r.cache.visit (releaseEntry fun e => e.isKind (Factory.kind f)) r.services with
      | (outcome, cache, services) => (outcome, ⟨cache, factories, services⟩)

end

/-! ## 5. Following the backing store -/

/-- What a reconciliation changed in the cache. -/
structure Drift where
  /-- Cached ids that the store does not have any more. -/
  removed : List String
  /-- Stored ids that were not cached. -/
  added : List String
deriving DecidableEq, Repr

/-- Whether nothing changed. -/
def Drift.isEmpty (d : Drift) : Bool := d.removed.isEmpty && d.added.isEmpty

section

variable [Activator α σ]

/-- Drops the cached entries under some keys, releasing the live ones.  With the outcome come
the keys that were dropped. -/
def dropStale : List String → Registry π α φ σ →
    Except StoreError (List String) × Registry π α φ σ
  | [], r => (.ok [], r)
  | id :: rest, r =>
    match r.cache.removeLocally id with
    | (none, _) => dropStale rest r
    | (some entry, cache) =>
      if entry.isRegistered then
        match entry.unregister r.services with
        | (.error e, _, services) => (.error e, { r with cache, services })
        | (.ok _, _, services) =>
          match dropStale rest { r with cache, services } with
          | (.error e, r) => (.error e, r)
          | (.ok dropped, r) => (.ok (id :: dropped), r)
      else
        match dropStale rest { r with cache } with
        | (.error e, r) => (.error e, r)
        | (.ok dropped, r) => (.ok (id :: dropped), r)

/-- Caches a stored row under the id of its metadata, activated if that can be done. -/
def adopt [Factory φ σ] (m : Metadata) (r : Registry π α φ σ) : Registry π α φ σ :=
  match r.factories.get? m.kind with
  | none => { r with cache := r.cache.insertLocally (.dormant m) }
  | some f =>
    match (Entry.dormant m).registerWith f r.services with
    | (_, entry, f, services) =>
      ⟨r.cache.insertLocally entry, r.factories.update m.kind f, services⟩

/-- Caches the stored rows whose keys are not cached.  With the registry come those keys. -/
def adoptMissing [Factory φ σ] : List (String × Metadata) → Registry π α φ σ →
    List String × Registry π α φ σ
  | [], r => ([], r)
  | (id, m) :: rest, r =>
    if r.cache.contains id then adoptMissing rest r
    else
      match adoptMissing rest (r.adopt m) with
      | (added, r) => (id :: added, r)

/-- Makes the cache agree with the backing store on what there is: drops what is not stored,
without another delete, and loads what is not cached.  A change of metadata under the same id
is not noticed. -/
def reconcile [BackingStore π] [Factory φ σ] (r : Registry π α φ σ) :
    Except StoreError Drift × Registry π α φ σ :=
  match r.services.list with
  | (.error e, services) =>
    (.error (.backend "Could not read subscriptions from the backing store" e),
      { r with services })
  | (.ok listing, services) =>
    let stale := r.cache.keys.filter fun id => !listing.contains id
    match dropStale stale { r with services } with
    | (.error e, r) => (.error e, r)
    | (.ok removed, r) =>
      match adoptMissing listing.rows r with
      | (added, r) => (.ok ⟨removed, added⟩, r)

/-- Stores all cached metadata again. -/
def flush [BackingStore π] (r : Registry π α φ σ) :
    Except StoreError Unit × Registry π α φ σ :=
  match r.cache.flush r.services with
  | (.error e, services) =>
    (.error (.backend "Problem writing to the cache" e), { r with services })
  | (.ok (), services) => (.ok (), { r with services })

/-- Releases all live subscriptions and gives the services back. -/
def close (r : Registry π α φ σ) : Services π α φ σ :=
  (r.cache.visit (releaseEntry fun _ => true) r.services).2.2

end

end Registry
end SubscriptionRegistry

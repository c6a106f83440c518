/-
# Attempts at activation

Three operations look for dormant entries that could be brought to life: loading, binding a
factory, and following the store.  Each such attempt asks a factory to build and, if something
was built, the activator to activate it.  Nothing keeps a list of them, so what follows computes
it, along the lines of the rounds that make the attempts.

* `Factory.Becomes`: a factory before and after it was used.
* `Attempt`: what was tried, with which factory, and what came of it.
* `Registry.attemptsDormant`, `Registry.journal_activateDormant`, `Registry.visitRows_tried`: the
  attempts of a round through the cache, that the journal has them, and that none is missed.
* `Registry.attemptsAdopting`, `Registry.journal_adoptRows`, `Registry.settles_adoptRows`: the
  same for rows of the store.
-/
import SubscriptionRegistry.Proofs.Trace

namespace SubscriptionRegistry

variable {π α φ σ : Type}

/-! ## 1. Factories in use -/

/-- What a factory becomes by building. -/
inductive Factory.Becomes [Factory φ σ] (f : φ) : φ → Prop
  | refl : Becomes f f
  | build {g : φ} (h : Becomes f g) (m : Metadata) : Becomes f (Factory.build m g).2

theorem Factory.Becomes.trans [Factory φ σ] {f g h : φ} (hfg : Factory.Becomes f g)
    (hgh : Factory.Becomes g h) : Factory.Becomes f h := by
  induction hgh with
  | refl => exact hfg
  | build _ m ih => exact ih.build m

theorem Factory.Becomes.kind_eq [Factory φ σ] {f g : φ} (h : Factory.Becomes f g) :
    Factory.kind g = Factory.kind f := by
  induction h with
  | refl => rfl
  | build _ m ih => rw [Factory.kind_build, ih]

namespace Factories

variable [Factory φ σ] {fs fs' fs'' : Factories φ}

/-- Every factory is bound for its own type. -/
def Filed (fs : Factories φ) : Prop := ∀ kind f, fs.get? kind = some f → Factory.kind f = kind

/-- What is bound now was bound before, and was at most used. -/
def Become (fs fs' : Factories φ) : Prop :=
  ∀ kind f', fs'.get? kind = some f' → ∃ f, fs.get? kind = some f ∧ Factory.Becomes f f'

omit [Factory φ σ] in
theorem get?_update (fs : Factories φ) (kind : String) (f : φ) (key : String) :
    (fs.update kind f).get? key = if key = kind then some f else fs.get? key :=
  Table.get?_insert

theorem Become.refl (fs : Factories φ) : fs.Become fs := fun _ f hf => ⟨f, hf, .refl⟩

theorem Become.trans (h : fs.Become fs') (h' : fs'.Become fs'') : fs.Become fs'' := by
  intro kind f'' hf''
  obtain ⟨f', hf', hb'⟩ := h' kind f'' hf''
  obtain ⟨f, hf, hb⟩ := h kind f' hf'
  exact ⟨f, hf, hb.trans hb'⟩

/-- One of the factories builds something. -/
theorem become_update {kind : String} {f : φ} (hf : fs.get? kind = some f) (m : Metadata) :
    fs.Become (fs.update kind (Factory.build m f).2) := by
  intro key g hg
  rw [get?_update] at hg
  split at hg
  · rename_i hkey
    cases hg
    exact ⟨f, hkey ▸ hf, Factory.Becomes.refl.build m⟩
  · exact ⟨g, hg, .refl⟩

theorem Filed.of_become (h : fs.Filed) (hb : fs.Become fs') : fs'.Filed := by
  intro kind f' hf'
  obtain ⟨f, hf, hb⟩ := hb kind f' hf'
  rw [hb.kind_eq]
  exact h kind f hf

theorem Filed.update (h : fs.Filed) (f : φ) : (fs.update (Factory.kind f) f).Filed := by
  intro kind g hg
  rw [get?_update] at hg
  split at hg
  · rename_i hkind
    cases hg
    exact hkind.symm
  · exact h kind g hg

end Factories

/-! ## 2. Attempts -/

/-- An attempt to bring a dormant entry to life with the factory of its type. -/
structure Attempt (φ σ : Type) where
  /-- The key that the entry is cached under. -/
  key : String
  entry : Entry σ
  /-- The factory, in the state before. -/
  factory : φ
  built : Option σ
  /-- What the activator granted; nothing if it was not asked. -/
  granted : Option ActivationId

/-- What comes of an attempt with some services. -/
def Entry.attempt [Activator α σ] [Factory φ σ] (key : String) (e : Entry σ) (f : φ)
    (s : Services π α φ σ) : Attempt φ σ :=
  match s.build f e.metadata with
  | (none, _, _) => ⟨key, e, f, none, none⟩
  | (some object, _, s) => ⟨key, e, f, some object, (s.activate object e.properties).1⟩

/-- Whether a factory built nothing, or the activator refused. -/
def Call.isInVain : Call φ σ → Bool
  | .build _ _ none => true
  | .activate _ _ none => true
  | _ => false

namespace Attempt

/-- The calls that an attempt consists of. -/
def calls (a : Attempt φ σ) : List (Call φ σ) :=
  .build a.factory a.entry.metadata a.built :: match a.built with
    | none => []
    | some object => [.activate object a.entry.properties a.granted]

/-- The factory built nothing, or the activator refused what it built. -/
def InVain (a : Attempt φ σ) : Prop := ∃ call ∈ a.calls, call.isInVain

/-- The last of some attempts that were made under a key. -/
def latest (key : String) (attempts : List (Attempt φ σ)) : Option (Attempt φ σ) :=
  attempts.findRev? fun a => a.key = key

@[simp] theorem latest_nil (key : String) : latest key ([] : List (Attempt φ σ)) = none := rfl

theorem latest_append (key : String) (first second : List (Attempt φ σ)) :
    latest key (first ++ second) = (latest key second).or (latest key first) := by
  simp only [latest, List.findRev?_eq_find?_reverse, List.reverse_append, List.find?_append]

theorem latest_singleton (key : String) (a : Attempt φ σ) :
    latest key [a] = if a.key = key then some a else none := by
  simp only [latest, List.findRev?, decide_eq_true_eq]

theorem latest_eq_none_iff {key : String} {attempts : List (Attempt φ σ)} :
    latest key attempts = none ↔ ∀ a ∈ attempts, a.key ≠ key := by
  rw [latest, List.findRev?_eq_find?_reverse, List.find?_eq_none]
  simp

theorem mem_of_latest {key : String} {attempts : List (Attempt φ σ)} {a : Attempt φ σ}
    (h : latest key attempts = some a) : a ∈ attempts := by
  rw [latest, List.findRev?_eq_find?_reverse] at h
  exact List.mem_reverse.mp (List.mem_of_find?_eq_some h)

end Attempt

section

variable [Activator α σ] [Factory φ σ]

@[simp] theorem Entry.key_attempt (key : String) (e : Entry σ) (f : φ)
    (s : Services π α φ σ) : (e.attempt key f s).key = key := by
  unfold attempt
  split <;> rfl

@[simp] theorem Entry.entry_attempt (key : String) (e : Entry σ) (f : φ)
    (s : Services π α φ σ) : (e.attempt key f s).entry = e := by
  unfold attempt
  split <;> rfl

@[simp] theorem Entry.factory_attempt (key : String) (e : Entry σ) (f : φ)
    (s : Services π α φ σ) : (e.attempt key f s).factory = f := by
  unfold attempt
  split <;> rfl

/-- The attempt is what the entry's way to registration consists of, and if the entry is dormant
after it, it was in vain. -/
theorem Entry.registerWith_attempt {e : Entry σ} (he : e.handle = none) {f : φ}
    (hkind : Factory.kind f = e.metadata.kind) (key : String) (s : Services π α φ σ) :
    (e.registerWith f s).2.2.1 = (Factory.build e.metadata f).2
      ∧ (e.registerWith f s).2.2.2.journal = s.journal ++ (e.attempt key f s).calls
      ∧ ((e.registerWith f s).2.1.handle = none →
        (e.registerWith f s).2.1 = e ∧ (e.attempt key f s).InVain) := by
  rcases registerWith_cases he f s with ⟨hne, -⟩ | ⟨f', s', hbuild, hout⟩
    | ⟨object, f', s', s'', hbuild, hact, hout⟩ | ⟨object, a, f', s', s'', hbuild, hact, hout⟩
  · exact absurd hkind hne
  · have hattempt : e.attempt key f s = ⟨key, e, f, none, none⟩ := by rw [attempt, hbuild]
    rw [hout, hattempt]
    have hjournal := Services.journal_of_build hbuild
    exact ⟨Services.factory_of_build hbuild, hjournal, fun _ => ⟨rfl, _, List.mem_cons_self, rfl⟩⟩
  · have hattempt : e.attempt key f s = ⟨key, e, f, some object, none⟩ := by
      rw [attempt, hbuild]
      dsimp only
      rw [hact]
    have hjournal := Services.journal_of_activate hact
    rw [Services.journal_of_build hbuild, List.append_assoc] at hjournal
    rw [hout, hattempt]
    exact ⟨Services.factory_of_build hbuild, hjournal,
      fun _ => ⟨rfl, _, List.mem_cons_of_mem _ List.mem_cons_self, rfl⟩⟩
  · have hattempt : e.attempt key f s = ⟨key, e, f, some object, some a⟩ := by
      rw [attempt, hbuild]
      dsimp only
      rw [hact]
    have hjournal := Services.journal_of_activate hact
    rw [Services.journal_of_build hbuild, List.append_assoc] at hjournal
    rw [hout, hattempt]
    exact ⟨Services.factory_of_build hbuild, hjournal, fun hnone => by cases hnone⟩

/-! ## 3. Rounds through the cache -/

namespace Registry

/-- The attempt that a round makes at an entry, if it makes one. -/
def attemptOn (test : Entry σ → Bool) (key : String) (e : Entry σ) (round : Round π α φ σ) :
    List (Attempt φ σ) :=
  if e.isDormant && test e then
    match round.factories.get? e.metadata.kind with
    | none => []
    | some f => [e.attempt key f round.services]
  else []

/-- The attempts that a round makes at some rows. -/
def attemptsIn (test : Entry σ → Bool) :
    List (String × Entry σ) → Round π α φ σ → List (Attempt φ σ)
  | [], _ => []
  | (key, e) :: rest, round =>
    attemptOn test key e round ++ attemptsIn test rest (activateEntry test e round).2.2

/-- The latest of some attempts under a key was at this entry, with what the factory was then,
and it was in vain. -/
def Tried (attempts : List (Attempt φ σ)) (key : String) (e : Entry σ) (f : φ) : Prop :=
  ∃ a, Attempt.latest key attempts = some a ∧ a.entry = e ∧ a.InVain
    ∧ Factory.Becomes a.factory f

theorem Tried.append {attempts : List (Attempt φ σ)} {key : String} {e : Entry σ} {f : φ}
    (h : Tried attempts key e f) (earlier : List (Attempt φ σ)) :
    Tried (earlier ++ attempts) key e f := by
  obtain ⟨a, hlatest, ha⟩ := h
  exact ⟨a, by rw [Attempt.latest_append, hlatest, Option.some_or], ha⟩

theorem Tried.append_of_latest {attempts later : List (Attempt φ σ)} {key : String}
    {e : Entry σ} {f : φ} (h : Tried attempts key e f) (hlater : Attempt.latest key later = none) :
    Tried (attempts ++ later) key e f := by
  obtain ⟨a, hlatest, ha⟩ := h
  exact ⟨a, by rw [Attempt.latest_append, hlater, hlatest, Option.none_or], ha⟩

theorem Tried.of_becomes {attempts : List (Attempt φ σ)} {key : String} {e : Entry σ} {f g : φ}
    (h : Tried attempts key e f) (hfg : Factory.Becomes f g) : Tried attempts key e g := by
  obtain ⟨a, hlatest, hentry, hvain, hb⟩ := h
  exact ⟨a, hlatest, hentry, hvain, hb.trans hfg⟩

/-- A round leaves an entry alone, and then there was nothing to try; or it tries. -/
theorem activateEntry_cases (test : Entry σ → Bool) (key : String) (e : Entry σ)
    (round : Round π α φ σ) :
    (attemptOn test key e round = [] ∧ activateEntry test e round = (.ok (), e, round)
      ∧ (e.handle = none → test e = true → round.factories.get? e.metadata.kind = none))
    ∨ ∃ f failed, e.handle = none ∧ round.factories.get? e.metadata.kind = some f
      ∧ attemptOn test key e round = [e.attempt key f round.services]
      ∧ activateEntry test e round = (.ok (), (e.registerWith f round.services).2.1,
        ⟨failed, round.factories.update e.metadata.kind (e.registerWith f round.services).2.2.1,
          (e.registerWith f round.services).2.2.2⟩) := by
  unfold attemptOn activateEntry
  by_cases htest : (e.isDormant && test e) = true
  · rw [if_pos htest, if_pos htest]
    simp only [Bool.and_eq_true, Entry.isDormant, Option.isNone_iff_eq_none] at htest
    cases hf : round.factories.get? e.metadata.kind with
    | none => exact .inl ⟨rfl, rfl, fun _ _ => rfl⟩
    | some f => exact .inr ⟨f, _, htest.1, rfl, rfl, rfl⟩
  · rw [if_neg htest, if_neg htest]
    refine .inl ⟨rfl, rfl, fun he hpass => absurd ?_ htest⟩
    simp [Entry.isDormant, he, hpass]

theorem activateEntry_eq_ok (test : Entry σ → Bool) (e : Entry σ) (round : Round π α φ σ) :
    activateEntry test e round
      = (.ok (), (activateEntry test e round).2.1, (activateEntry test e round).2.2) := by
  rcases activateEntry_cases test "" e round with ⟨-, hout, -⟩ | ⟨f, failed, -, -, -, hout⟩
  · rw [hout]
  · rw [hout]

/-- What stays dormant at an attempt was tried in vain. -/
theorem activateEntry_tried {test : Entry σ → Bool} {e e' : Entry σ} {round : Round π α φ σ}
    (key : String) (hfiled : round.factories.Filed)
    (he' : (activateEntry test e round).2.1 = e') (hd : e'.handle = none) {g : φ}
    (hg : (activateEntry test e round).2.2.factories.get? e'.metadata.kind = some g) :
    Tried (attemptOn test key e round) key e' g
      ∨ test e' = false ∧ attemptOn test key e round = [] ∧ e = e' := by
  subst he'
  rcases activateEntry_cases test key e round with
    ⟨hnone, hout, hpass⟩ | ⟨f, failed, he, hf, hone, hout⟩
  · rw [hout] at hd hg ⊢
    refine .inr ⟨?_, hnone, rfl⟩
    rw [← Bool.not_eq_true]
    intro htest
    rw [hpass hd htest] at hg
    cases hg
  · obtain ⟨hfactory, -, hvain⟩ := Entry.registerWith_attempt he (hfiled _ f hf) key round.services
    rw [hout] at hd hg ⊢
    obtain ⟨heq, hvain⟩ := hvain hd
    rw [heq] at hg ⊢
    rw [Factories.get?_update, if_pos rfl, hfactory] at hg
    cases hg
    rw [hone]
    refine .inl ⟨e.attempt key f round.services, ?_, Entry.entry_attempt .., hvain, ?_⟩
    · rw [Attempt.latest_singleton, Entry.key_attempt, if_pos rfl]
    · rw [Entry.factory_attempt]
      exact Factory.Becomes.refl.build _

theorem become_activateEntry (test : Entry σ → Bool) (e : Entry σ) {round : Round π α φ σ}
    (hfiled : round.factories.Filed) :
    round.factories.Become (activateEntry test e round).2.2.factories := by
  rcases activateEntry_cases test "" e round with ⟨-, hout, -⟩ | ⟨f, failed, he, hf, -, hout⟩
  · rw [hout]
    exact .refl _
  · rw [hout]
    dsimp only
    rw [(Entry.registerWith_attempt he (hfiled _ f hf) "" round.services).1]
    exact Factories.become_update hf e.metadata

theorem become_visitRows (test : Entry σ → Bool) (rows : List (String × Entry σ))
    (round : Round π α φ σ) (hfiled : round.factories.Filed) :
    round.factories.Become (Table.visitRows (activateEntry test) rows round).2.2.factories :=
  Table.visitRows_snd (P := fun round' : Round π α φ σ => round.factories.Become round'.factories)
    (fun e _ h => h.trans (become_activateEntry test e (hfiled.of_become h))) rows (.refl _)

theorem key_of_mem_attemptsIn {test : Entry σ → Bool} {rows : List (String × Entry σ)}
    {round : Round π α φ σ} {a : Attempt φ σ} (ha : a ∈ attemptsIn test rows round) :
    a.key ∈ rows.map Prod.fst := by
  induction rows generalizing round with
  | nil => cases ha
  | cons row rest ih =>
    obtain ⟨key, e⟩ := row
    rw [attemptsIn, List.mem_append] at ha
    rcases ha with ha | ha
    · rcases activateEntry_cases test key e round with ⟨hnone, -⟩ | ⟨f, failed, -, -, hone, -⟩
      · rw [hnone] at ha
        cases ha
      · rw [hone, List.mem_singleton] at ha
        rw [ha, Entry.key_attempt]
        exact List.mem_cons_self
    · exact List.mem_cons_of_mem _ (ih ha)

theorem journal_visitRows (test : Entry σ → Bool) (rows : List (String × Entry σ))
    (round : Round π α φ σ) (hfiled : round.factories.Filed) :
    (Table.visitRows (activateEntry test) rows round).2.2.services.journal
      = round.services.journal ++ (attemptsIn test rows round).flatMap Attempt.calls := by
  induction rows generalizing round with
  | nil => simp [Table.visitRows, attemptsIn]
  | cons row rest ih =>
    obtain ⟨key, e⟩ := row
    have hfiled' := hfiled.of_become (become_activateEntry test e hfiled)
    rcases activateEntry_cases test key e round with
      ⟨hnone, hout, -⟩ | ⟨f, failed, he, hf, hone, hout⟩
    · rw [Table.visitRows_cons_of_ok hout, attemptsIn, hnone, hout]
      exact ih round hfiled
    · rw [hout] at hfiled'
      have hcalls := (Entry.registerWith_attempt he (hfiled _ f hf) key round.services).2.1
      rw [Table.visitRows_cons_of_ok hout, attemptsIn, hone, hout]
      simp [ih _ hfiled', hcalls]

theorem latest_attemptOn_of_ne {test : Entry σ → Bool} {k key : String} (hne : k ≠ key)
    (e : Entry σ) (round : Round π α φ σ) :
    Attempt.latest key (attemptOn test k e round) = none := by
  rcases activateEntry_cases test k e round with ⟨hnone, -⟩ | ⟨f, failed, -, -, hone, -⟩
  · rw [hnone, Attempt.latest_nil]
  · rw [hone, Attempt.latest_singleton, Entry.key_attempt, if_neg hne]

/-- **A round misses nothing.**  What is dormant after it, although its type has a factory, was
tried in vain, or did not pass the test. -/
theorem visitRows_tried {test : Entry σ → Bool} {rows : List (String × Entry σ)}
    (hnd : (rows.map Prod.fst).Nodup) (round : Round π α φ σ) (hfiled : round.factories.Filed)
    {key : String} {e : Entry σ} {f : φ}
    (hrow : (key, e) ∈ (Table.visitRows (activateEntry test) rows round).2.1)
    (he : e.handle = none)
    (hf : (Table.visitRows (activateEntry test) rows round).2.2.factories.get? e.metadata.kind
      = some f) :
    Tried (attemptsIn test rows round) key e f
      ∨ test e = false ∧ Attempt.latest key (attemptsIn test rows round) = none
        ∧ (key, e) ∈ rows := by
  induction rows generalizing round with
  | nil => cases hrow
  | cons row rest ih =>
    obtain ⟨k, e₀⟩ := row
    obtain ⟨hk, hrest⟩ := List.nodup_cons.mp hnd
    have hfiled' := hfiled.of_become (become_activateEntry test e₀ hfiled)
    rw [Table.visitRows_cons_of_ok (activateEntry_eq_ok test e₀ round)] at hrow hf
    rw [attemptsIn]
    rcases List.mem_cons.mp hrow with hhead | htail
    · -- The entry was visited first, and the round did not come back to its key.
      injection hhead with hkey hentry
      subst hkey
      have hlater : Attempt.latest key
          (attemptsIn test rest (activateEntry test e₀ round).2.2) = none :=
        Attempt.latest_eq_none_iff.mpr fun a ha hkey => hk (hkey ▸ key_of_mem_attemptsIn ha)
      obtain ⟨g, hg, hgf⟩ := become_visitRows test rest _ hfiled' _ f hf
      rcases activateEntry_tried key hfiled hentry.symm he hg with
        htried | ⟨htest, hnone, rfl⟩
      · exact .inl ((htried.of_becomes hgf).append_of_latest hlater)
      · refine .inr ⟨htest, ?_, List.mem_cons_self⟩
        rw [hnone, List.nil_append, hlater]
    · have hne : k ≠ key := by
        rintro rfl
        have hkey := List.mem_map_of_mem (f := Prod.fst) htail
        rw [Table.keys_visitRows] at hkey
        exact hk hkey
      rcases ih hrest _ hfiled' htail hf with htried | ⟨htest, hlatest, hmem⟩
      · exact .inl (htried.append _)
      · refine .inr ⟨htest, ?_, List.mem_cons_of_mem _ hmem⟩
        rw [Attempt.latest_append, hlatest, latest_attemptOn_of_ne hne, Option.or_self]

/-- The attempts of a round through the whole cache. -/
def attemptsDormant (test : Entry σ → Bool) (r : Registry π α φ σ) : List (Attempt φ σ) :=
  attemptsIn test r.cache.rows ⟨[], r.factories, r.services⟩

theorem become_activateDormant (test : Entry σ → Bool) (r : Registry π α φ σ)
    (hfiled : r.factories.Filed) :
    r.factories.Become (r.activateDormant test).2.factories :=
  become_visitRows test r.cache.rows ⟨[], r.factories, r.services⟩ hfiled

theorem journal_activateDormant (test : Entry σ → Bool) (r : Registry π α φ σ)
    (hfiled : r.factories.Filed) :
    (r.activateDormant test).2.services.journal
      = r.services.journal ++ (r.attemptsDormant test).flatMap Attempt.calls :=
  journal_visitRows test r.cache.rows ⟨[], r.factories, r.services⟩ hfiled

/-! ## 4. Rows of the store -/

/-- The attempt that adopting a row makes, if it makes one. -/
def attemptsOnRow (row : String × Metadata) (r : Registry π α φ σ) : List (Attempt φ σ) :=
  if r.cache.contains row.1 then []
  else
    match r.factories.get? row.2.kind with
    | none => []
    | some f => [(Entry.dormant row.2).attempt row.2.id f r.services]

/-- The attempts that adopting some rows makes. -/
def attemptsAdopting : List (String × Metadata) → Registry π α φ σ → List (Attempt φ σ)
  | [], _ => []
  | row :: rest, r => r.attemptsOnRow row ++ attemptsAdopting rest (r.adoptRow row)

/-- A row is passed over, or cached with no factory to try, or tried. -/
theorem adoptRow_cases (row : String × Metadata) (r : Registry π α φ σ) :
    (r.attemptsOnRow row = [] ∧ r.adoptRow row = r)
    ∨ (r.attemptsOnRow row = [] ∧ r.factories.get? row.2.kind = none
      ∧ r.adoptRow row = { r with cache := r.cache.insert row.2.id (.dormant row.2) })
    ∨ ∃ f, r.factories.get? row.2.kind = some f
      ∧ r.attemptsOnRow row = [(Entry.dormant row.2).attempt row.2.id f r.services]
      ∧ r.adoptRow row
        = ⟨r.cache.insert row.2.id ((Entry.dormant row.2).registerWith f r.services).2.1,
          r.factories.update row.2.kind ((Entry.dormant row.2).registerWith f r.services).2.2.1,
          ((Entry.dormant row.2).registerWith f r.services).2.2.2⟩ := by
  unfold attemptsOnRow adoptRow
  by_cases hcached : r.cache.contains row.1 = true
  · rw [if_pos hcached, if_pos hcached]
    exact .inl ⟨rfl, rfl⟩
  · rw [if_neg hcached, if_neg hcached]
    rcases adopt_cases row.2 r with ⟨hnone, hout⟩ | ⟨f, hf, hout⟩
    · exact .inr (.inl ⟨by rw [hnone], hnone, hout⟩)
    · exact .inr (.inr ⟨f, hf, by rw [hf], hout⟩)

theorem become_adoptRow (row : String × Metadata) {r : Registry π α φ σ}
    (hfiled : r.factories.Filed) : r.factories.Become (r.adoptRow row).factories := by
  rcases adoptRow_cases row r with ⟨-, hout⟩ | ⟨-, -, hout⟩ | ⟨f, hf, -, hout⟩
  · rw [hout]
    exact .refl _
  · rw [hout]
    exact .refl _
  · rw [hout]
    dsimp only
    rw [(Entry.registerWith_attempt (e := .dormant row.2) rfl (hfiled _ f hf) "" r.services).1]
    exact Factories.become_update hf row.2

theorem become_adoptRows (rows : List (String × Metadata)) {r : Registry π α φ σ}
    (hfiled : r.factories.Filed) :
    r.factories.Become (rows.foldl (fun r row => r.adoptRow row) r).factories :=
  List.foldlRecOn (motive := fun r' : Registry π α φ σ => r.factories.Become r'.factories) _ _
    (.refl _) fun _ h row _ => h.trans (become_adoptRow row (hfiled.of_become h))

theorem journal_adoptRows (rows : List (String × Metadata)) {r : Registry π α φ σ}
    (hfiled : r.factories.Filed) :
    (rows.foldl (fun r row => r.adoptRow row) r).services.journal
      = r.services.journal ++ (attemptsAdopting rows r).flatMap Attempt.calls := by
  induction rows generalizing r with
  | nil => simp [attemptsAdopting]
  | cons row rest ih =>
    have hrow : (r.adoptRow row).services.journal
        = r.services.journal ++ (r.attemptsOnRow row).flatMap Attempt.calls := by
      rcases adoptRow_cases row r with ⟨hnone, hout⟩ | ⟨hnone, -, hout⟩ | ⟨f, hf, hone, hout⟩
      · rw [hnone, hout]
        simp
      · rw [hnone, hout]
        simp
      · rw [hone, hout]
        simp [(Entry.registerWith_attempt (e := .dormant row.2) rfl (hfiled _ f hf) row.2.id
          r.services).2.1]
    rw [List.foldl_cons, ih (hfiled.of_become (become_adoptRow row hfiled)), hrow, attemptsAdopting,
      List.flatMap_append, List.append_assoc]

/-! ## 5. What stays dormant -/

/-- Between two registries some attempts were made, and nothing was missed: what is dormant
although its type has a factory was tried in vain, or nothing was tried and so it was before. -/
def Settles (r : Registry π α φ σ) (attempts : List (Attempt φ σ)) (r' : Registry π α φ σ) :
    Prop :=
  ∀ key e f, r'.cache.get? key = some e → e.handle = none →
    r'.factories.get? e.metadata.kind = some f →
    Tried attempts key e f
      ∨ Attempt.latest key attempts = none ∧ r.cache.get? key = some e
        ∧ ∃ g, r.factories.get? e.metadata.kind = some g ∧ Factory.Becomes g f

variable {r r' r'' : Registry π α φ σ} {attempts later : List (Attempt φ σ)}

omit [Activator α σ] in
/-- Nothing was tried, and nothing dormant came that could have been. -/
theorem Settles.of_nothing_new
    (h : ∀ key e f, r'.cache.get? key = some e → e.handle = none →
      r'.factories.get? e.metadata.kind = some f →
      r.cache.get? key = some e ∧ r.factories.get? e.metadata.kind = some f) :
    Settles r [] r' := by
  intro key e f he hd hf
  obtain ⟨he, hf⟩ := h key e f he hd hf
  exact .inr ⟨rfl, he, f, hf, .refl⟩

omit [Activator α σ] in
theorem Settles.trans (h : Settles r attempts r') (h' : Settles r' later r'') :
    Settles r (attempts ++ later) r'' := by
  intro key e f he hd hf
  rcases h' key e f he hd hf with htried | ⟨hlater, he', g', hg', hb'⟩
  · exact .inl (htried.append _)
  · rcases h key e g' he' hd hg' with htried | ⟨hlatest, he'', g, hg, hb⟩
    · exact .inl ((htried.of_becomes hb').append_of_latest hlater)
    · refine .inr ⟨?_, he'', g, hg, hb.trans hb'⟩
      rw [Attempt.latest_append, hlater, hlatest, Option.or_self]

theorem settles_activateDormant (test : Entry σ → Bool) (r : Registry π α φ σ)
    (hfiled : r.factories.Filed) {key : String} {e : Entry σ} {f : φ}
    (he : (r.activateDormant test).2.cache.get? key = some e) (hd : e.handle = none)
    (hf : (r.activateDormant test).2.factories.get? e.metadata.kind = some f) :
    Tried (r.attemptsDormant test) key e f
      ∨ test e = false ∧ Attempt.latest key (r.attemptsDormant test) = none
        ∧ r.cache.get? key = some e
        ∧ ∃ g, r.factories.get? e.metadata.kind = some g ∧ Factory.Becomes g f := by
  rcases visitRows_tried r.cache.nodup ⟨[], r.factories, r.services⟩ hfiled
    (Table.get?_eq_some_iff.mp he) hd hf with htried | ⟨htest, hlatest, hmem⟩
  · exact .inl htried
  · exact .inr ⟨htest, hlatest, Table.get?_eq_some_iff.mpr hmem,
      become_activateDormant test r hfiled _ f hf⟩

theorem settles_adoptRow (row : String × Metadata) (hfiled : r.factories.Filed) :
    Settles r (r.attemptsOnRow row) (r.adoptRow row) := by
  intro key e f he hd hf
  have hbecome := become_adoptRow row hfiled _ f hf
  rcases adoptRow_cases row r with ⟨hnone, hout⟩ | ⟨hnone, hkind, hout⟩ | ⟨g, hg, hone, hout⟩
  · rw [hout] at he
    rw [hnone]
    exact .inr ⟨rfl, he, hbecome⟩
  · rw [hout] at he hf
    rw [hnone]
    rw [Table.get?_insert] at he
    split at he
    · cases he
      rw [Entry.dormant] at hf
      rw [hkind] at hf
      cases hf
    · exact .inr ⟨rfl, he, hbecome⟩
  · obtain ⟨hfactory, -, hvain⟩ :=
      Entry.registerWith_attempt (e := .dormant row.2) rfl (hfiled _ g hg) row.2.id r.services
    rw [hout] at he hf
    rw [hone]
    dsimp only at he
    rw [Table.get?_insert] at he
    split at he
    · rename_i hkey
      obtain rfl := Option.some.inj he
      obtain ⟨heq, hvain⟩ := hvain hd
      rw [heq] at hf ⊢
      rw [hfactory, Entry.dormant, Factories.get?_update, if_pos rfl] at hf
      cases hf
      refine .inl ⟨_, ?_, Entry.entry_attempt .., hvain, ?_⟩
      · rw [Attempt.latest_singleton, Entry.key_attempt, if_pos hkey.symm]
      · rw [Entry.factory_attempt]
        exact Factory.Becomes.refl.build _
    · rename_i hkey
      refine .inr ⟨?_, he, hbecome⟩
      rw [Attempt.latest_singleton, Entry.key_attempt, if_neg (Ne.symm hkey)]

theorem settles_adoptRows (rows : List (String × Metadata)) (hfiled : r.factories.Filed) :
    Settles r (attemptsAdopting rows r) (rows.foldl (fun r row => r.adoptRow row) r) := by
  induction rows generalizing r with
  | nil => exact .of_nothing_new fun key e f he _ hf => ⟨he, hf⟩
  | cons row rest ih =>
    exact (settles_adoptRow row hfiled).trans (ih (hfiled.of_become (become_adoptRow row hfiled)))

end Registry
end
end SubscriptionRegistry

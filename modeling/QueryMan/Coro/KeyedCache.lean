import QueryMan.Coro.Solo

/-!
# Double-checked creation

A cache of resources by their keys, filled on demand: a task looks for the resource of a key, and if
there is none it takes a lock, looks again, creates the resource and stores it. Creating may fail,
and a task that waits may be cancelled. For each key at most one resource is ever created, every
task that asks for the key gets that one, and the lock is held only while a resource is created
(`KeyedCache.once`).
-/

namespace Coro.KeyedCache

/-- The operations: `A` is what a resource is created from. -/
inductive Op (A : Type) where
  | lookup (a : A)
  | acquire
  | create (a : A)
  | store (a : A) (resource : Nat)
  | release

/-- What an operation answers with. -/
def Ret {A : Type} : Op A → Type
  | .lookup _ => Option Nat
  | .create _ => Nat
  | _ => Unit

/-- The operations that await. -/
def Op.suspends {A : Type} : Op A → Bool
  | .acquire | .create _ => true
  | _ => false

section
variable {A K ε : Type}

/-- Call an operation. -/
def perform (o : Op A) : Prog (@Ret A) ε (Ret o) :=
  Prog.perform o

/-- The section under the lock. -/
def createOnce (a : A) : Prog (@Ret A) ε Nat := do
  let existing : Option Nat ← perform (.lookup a)
  match existing with
  | some resource => pure resource
  | none => do
    let resource : Nat ← perform (.create a)
    perform (.store a resource)
    pure resource

/-- Get the resource of a key. -/
def get (a : A) : Prog (@Ret A) ε Nat := do
  let existing : Option Nat ← perform (.lookup a)
  match existing with
  | some resource => pure resource
  | none => do
    perform .acquire
    Prog.tryFinally (createOnce a) (perform .release)

/-! ## The system -/

/-- A task, known by its number and the key that it asks for. -/
abbrev TaskId (K : Type) : Type := Nat × K

/-- The cache, what each resource was created from, and the task that holds the lock. -/
structure Cache (A K : Type) where
  stored : K → Option Nat
  created : List A
  holder : Option (TaskId K)

/-- An empty cache. -/
def Cache.initial : Cache A K :=
  ⟨fun _ => none, [], none⟩

variable [DecidableEq K] (key : A → K) (admissible : A → Prop)

/-- What an operation answers and does. -/
def step (i : TaskId K) (s : Cache A K) : (o : Op A) → Except ε (Ret o) → Cache A K → Prop
  | .lookup a, r, s' => r = .ok (s.stored (key a)) ∧ s' = s
  | .acquire, .ok _, s' => s.holder = none ∧ s' = { s with holder := some i }
  | .acquire, .error _, s' => s' = s
  | .create a, .ok resource, s' =>
    resource = s.created.length ∧ s' = { s with created := s.created ++ [a] }
  | .create _, .error _, s' => s' = s
  | .store a resource, r, s' =>
    r = .ok () ∧ s' = { s with stored := Function.update s.stored (key a) (some resource) }
  | .release, r, s' => r = .ok () ∧ s' = { s with holder := none }

/-- Any number of tasks that ask for resources. -/
def system : System (TaskId K) (Cache A K) (fun _ => @Ret A) ε fun _ => Nat where
  starts := fun i p => ∃ a, admissible a ∧ key a = i.2 ∧ p = get a
  suspends := fun _ => Op.suspends
  step := step key
  env := fun _ _ => False

/-! ## The contract -/

/-- Every resource is stored under its key. -/
def Cache.Settled (s : Cache A K) : Prop :=
  ∀ r a, s.created[r]? = some a → s.stored (key a) = some r

/-- The last resource was created from this, and it is not stored. -/
structure Cache.Pending (s : Cache A K) (a : A) : Prop where
  absent : s.stored (key a) = none
  last : ∃ before, s.created = before ++ [a] ∧
    ∀ r b, before[r]? = some b → s.stored (key b) = some r

/-- The invariant of the cache. -/
structure CacheInv (s : Cache A K) : Prop where
  /-- a stored resource was created for its key -/
  stored : ∀ k r, s.stored k = some r → ∃ a, s.created[r]? = some a ∧ key a = k
  created : s.Settled key ∨ ∃ i a, s.holder = some i ∧ s.Pending key a
  admissible : ∀ a ∈ s.created, admissible a

/-- What a task relies on: while it holds the lock, nothing changes. -/
structure Rely (i : TaskId K) (s s' : Cache A K) : Prop where
  held : s.holder = some i → s' = s
  free : s.holder ≠ some i → s'.holder ≠ some i
  stored : ∀ k r, s.stored k = some r → s'.stored k = some r

/-- What a task must find where it performs an operation. -/
def gate (i : TaskId K) (s : Cache A K) : Op A → Prop
  | .lookup _ => True
  | .acquire => s.holder ≠ some i
  | .create a => s.holder = some i ∧ s.Settled key ∧ s.stored (key a) = none ∧ admissible a
  | .store a resource => s.holder = some i ∧ s.Pending key a ∧ s.created.length = resource + 1
  | .release => s.holder = some i ∧ s.Settled key

/-- The contract. -/
def contract : Contract (system (ε := ε) key admissible) where
  inv := CacheInv key admissible
  rely := Rely
  gate := gate key admissible
  idle := fun i s => s.holder ≠ some i
  returned := fun i r s => s.holder ≠ some i ∧ s.stored i.2 = some r
  raised := fun i _ s => s.holder ≠ some i

end

/-! ## What the operations keep -/

section
variable {A K ε : Type} {key : A → K} {admissible : A → Prop} {s s' s'' : Cache A K}
  {i j : TaskId K} {a : A}

theorem cacheInv_initial : CacheInv key admissible .initial where
  stored := nofun
  created := .inl nofun
  admissible := fun _ h => absurd h List.not_mem_nil

/-- Nothing is pending while nobody holds the lock. -/
theorem CacheInv.settled (h : CacheInv key admissible s) (hfree : s.holder = none) :
    s.Settled key := by
  rcases h.created with hsettled | ⟨i, a, hholder, -⟩
  · exact hsettled
  · rw [hfree] at hholder
    cases hholder

theorem Rely.refl (i : TaskId K) (s : Cache A K) : Rely i s s :=
  ⟨fun _ => rfl, fun h => h, fun _ _ h => h⟩

theorem Rely.trans (h : Rely i s s') (h' : Rely i s' s'') : Rely i s s'' where
  held := fun hholder => by
    have hsame := h.held hholder
    subst hsame
    exact h'.held hholder
  free := fun hfree => h'.free (h.free hfree)
  stored := fun k r hr => h'.stored k r (h.stored k r hr)

/-- What the holder of the lock does is no matter to the others. -/
theorem rely_of_holder (hholder : s.holder = some i) (hne : j ≠ i) (hfree : s'.holder ≠ some j)
    (hstored : ∀ k r, s.stored k = some r → s'.stored k = some r) : Rely j s s' where
  held := fun hj => absurd (Option.some.inj (hj.symm.trans hholder)) hne
  free := fun _ => hfree
  stored := hstored

theorem CacheInv.create (h : CacheInv key admissible s) (hholder : s.holder = some i)
    (hsettled : s.Settled key) (habsent : s.stored (key a) = none) (ha : admissible a) :
    CacheInv key admissible { s with created := s.created ++ [a] } where
  stored := fun k r hr => by
    obtain ⟨b, hb, hkey⟩ := h.stored k r hr
    refine ⟨b, ?_, hkey⟩
    obtain ⟨hlt, -⟩ := List.getElem?_eq_some_iff.1 hb
    rw [List.getElem?_append_left hlt]
    exact hb
  created := .inr ⟨i, a, hholder, habsent, s.created, rfl, hsettled⟩
  admissible := fun b hb => by
    rcases List.mem_append.1 hb with hb | hb
    · exact h.admissible b hb
    · rw [List.mem_singleton.1 hb]
      exact ha

/-- A settled part of the resources has different keys. -/
theorem nodup_of_stored {stored : K → Option Nat} {created : List A}
    (h : ∀ r a, created[r]? = some a → stored (key a) = some r) : (created.map key).Nodup := by
  refine List.pairwise_iff_getElem.2 fun r r' hr hr' hlt heq => ?_
  rw [List.length_map] at hr hr'
  rw [List.getElem_map, List.getElem_map] at heq
  have hstored := h r _ (List.getElem?_eq_getElem hr)
  have hstored' := h r' _ (List.getElem?_eq_getElem hr')
  rw [heq, hstored'] at hstored
  exact absurd (Option.some.inj hstored) (by omega)

theorem CacheInv.nodup (h : CacheInv key admissible s) : (s.created.map key).Nodup := by
  rcases h.created with hsettled | ⟨i, a, -, habsent, before, hcreated, hbefore⟩
  · exact nodup_of_stored hsettled
  · rw [hcreated, List.map_append, List.map_singleton]
    refine List.nodup_append.2 ⟨nodup_of_stored hbefore, List.pairwise_singleton .., ?_⟩
    rintro k hk k' hk' rfl
    rw [List.mem_singleton] at hk'
    obtain ⟨b, hb, hkey⟩ := List.mem_map.1 hk
    obtain ⟨r, hr⟩ := List.mem_iff_getElem?.1 hb
    have hstored := hbefore r b hr
    rw [hkey, hk', habsent] at hstored
    cases hstored

variable [DecidableEq K]

/-- Storing the pending resource settles the cache. -/
theorem settled_store {resource : Nat} (hpending : s.Pending key a)
    (hlength : s.created.length = resource + 1) :
    Cache.Settled key
      { s with stored := Function.update s.stored (key a) (some resource) } := by
  obtain ⟨before, hcreated, hbefore⟩ := hpending.last
  rw [hcreated, List.length_append, List.length_singleton, Nat.add_right_cancel_iff] at hlength
  intro r b hb
  change s.created[r]? = some b at hb
  change Function.update s.stored (key a) (some resource) (key b) = some r
  rw [hcreated] at hb
  by_cases hr : r < before.length
  · rw [List.getElem?_append_left hr] at hb
    have hstored := hbefore r b hb
    rw [Function.update_of_ne]
    · exact hstored
    · intro hkey
      rw [hkey, hpending.absent] at hstored
      cases hstored
  · obtain ⟨hlt, hget⟩ := List.getElem?_eq_some_iff.1 hb
    rw [List.length_append, List.length_singleton] at hlt
    obtain rfl : r = before.length := by omega
    rw [List.getElem_concat_length rfl] at hget
    subst hget
    rw [Function.update_self, hlength]

theorem CacheInv.store {resource : Nat} (h : CacheInv key admissible s)
    (hpending : s.Pending key a) (hlength : s.created.length = resource + 1) :
    CacheInv key admissible
      { s with stored := Function.update s.stored (key a) (some resource) } where
  stored := fun k r hr => by
    change Function.update s.stored (key a) (some resource) k = some r at hr
    by_cases hk : k = key a
    · subst hk
      rw [Function.update_self] at hr
      obtain rfl := Option.some.inj hr
      obtain ⟨before, hcreated, -⟩ := hpending.last
      refine ⟨a, ?_, rfl⟩
      change s.created[resource]? = some a
      rw [hcreated, List.length_append, List.length_singleton, Nat.add_right_cancel_iff] at hlength
      rw [hcreated, ← hlength]
      simp
    · rw [Function.update_of_ne hk] at hr
      exact h.stored k r hr
  created := .inl (settled_store hpending hlength)
  admissible := h.admissible

/-- **Every operation keeps the cache**, and what the other tasks rely on. -/
theorem guarantee {o : Op A} {r : Except ε (Ret o)} (h : CacheInv key admissible s)
    (hgate : gate key admissible i s o) (hstep : step key i s o r s') :
    CacheInv key admissible s' ∧ ∀ j, j ≠ i → Rely j s s' := by
  cases o with
  | lookup a =>
    obtain ⟨-, rfl⟩ := hstep
    exact ⟨h, fun j _ => .refl j _⟩
  | acquire =>
    cases r with
    | error e =>
      obtain rfl : s' = s := hstep
      exact ⟨h, fun j _ => .refl j _⟩
    | ok value =>
      obtain ⟨hfree, rfl⟩ := hstep
      refine ⟨⟨h.stored, .inl (h.settled hfree), h.admissible⟩, fun j hne => ?_⟩
      refine ⟨fun hj => ?_, fun _ heq => hne (Option.some.inj heq).symm, fun _ _ hr => hr⟩
      rw [hfree] at hj
      cases hj
  | create a =>
    obtain ⟨hholder, hsettled, habsent, ha⟩ := hgate
    cases r with
    | error e =>
      obtain rfl : s' = s := hstep
      exact ⟨h, fun j _ => .refl j _⟩
    | ok resource =>
      obtain ⟨-, rfl⟩ := hstep
      refine ⟨h.create hholder hsettled habsent ha, fun j hne => ?_⟩
      exact rely_of_holder hholder hne
        (fun hj => hne (Option.some.inj (hj.symm.trans hholder))) fun _ _ hr => hr
  | store a resource =>
    obtain ⟨hholder, hpending, hlength⟩ := hgate
    obtain ⟨-, rfl⟩ := hstep
    refine ⟨h.store hpending hlength, fun j hne => ?_⟩
    refine rely_of_holder hholder hne (fun hj => hne (Option.some.inj (hj.symm.trans hholder)))
      fun k r hr => ?_
    show Function.update s.stored (key a) (some resource) k = some r
    rw [Function.update_of_ne]
    · exact hr
    · rintro rfl
      rw [hpending.absent] at hr
      cases hr
  | release =>
    obtain ⟨hholder, hsettled⟩ := hgate
    obtain ⟨-, rfl⟩ := hstep
    refine ⟨⟨h.stored, .inl hsettled, h.admissible⟩, fun j hne => ?_⟩
    exact rely_of_holder hholder hne nofun fun _ _ hr => hr

/-! ## The tasks meet the contract -/

/-- The section under the lock. -/
theorem safe_createOnce (ha : admissible a) :
    SafeTriple ((contract (ε := ε) key admissible).view i)
      (fun s => s.holder = some i ∧ s.Settled key) (createOnce a)
      (fun r s => (s.holder = some i ∧ s.Settled key) ∧ s.stored (key a) = some r)
      fun _ s => s.holder = some i ∧ s.Settled key := by
  refine SafeTriple.bind
    (Q := fun existing s => (s.holder = some i ∧ s.Settled key) ∧ s.stored (key a) = existing)
    (Contract.perform_now rfl fun s _ hs => ⟨trivial, ?_⟩) fun existing => ?_
  · rintro r s' ⟨rfl, rfl⟩
    exact ⟨hs, rfl⟩
  cases existing with
  | some resource => exact fun _ hs => hs
  | none =>
    refine SafeTriple.bind
      (Q := fun resource s => s.holder = some i ∧ s.Pending key a ∧
        s.created.length = resource + 1)
      (Contract.perform_await rfl fun s s₁ _ hs hrely => ?_) fun resource => ?_
    · obtain ⟨⟨hholder, hsettled⟩, habsent⟩ := hs
      obtain rfl : s₁ = s := hrely.held hholder
      refine ⟨⟨hholder, hsettled, habsent, ha⟩, fun r s' hstep => ?_⟩
      cases r with
      | error e =>
        obtain rfl : s' = s₁ := hstep
        exact ⟨hholder, hsettled⟩
      | ok resource =>
        obtain ⟨rfl, rfl⟩ := hstep
        refine ⟨hholder, ⟨habsent, s₁.created, rfl, hsettled⟩, ?_⟩
        exact List.length_append
    · refine SafeTriple.bind
        (Q := fun _ s => (s.holder = some i ∧ s.Settled key) ∧ s.stored (key a) = some resource)
        (Contract.perform_now rfl fun s _ hs => ⟨hs, ?_⟩) fun _ => ?_
      · rintro r s' ⟨rfl, rfl⟩
        exact ⟨⟨hs.1, settled_store hs.2.1 hs.2.2⟩, Function.update_self ..⟩
      · exact fun _ hs => hs

theorem safe_release {R : Cache A K → Prop}
    (hR : ∀ s : Cache A K, R s → R { s with holder := none }) {E : ε → Cache A K → Prop} :
    SafeTriple ((contract (ε := ε) key admissible).view i)
      (fun s => (s.holder = some i ∧ s.Settled key) ∧ R s) (perform .release)
      (fun _ s => s.holder ≠ some i ∧ R s) E := by
  refine Contract.perform_now rfl fun s _ hs => ⟨hs.1, ?_⟩
  rintro r s' ⟨rfl, rfl⟩
  exact ⟨nofun, hR s hs.2⟩

/-- A task that asks for the resource of a key. -/
theorem meets_get (ha : admissible a) (hkey : key a = i.2) :
    SafeTriple ((contract (ε := ε) key admissible).view i) (fun s => s.holder ≠ some i) (get a)
      (fun r s => s.holder ≠ some i ∧ s.stored i.2 = some r) fun _ s => s.holder ≠ some i := by
  rw [← hkey]
  refine SafeTriple.bind
    (Q := fun existing s => s.holder ≠ some i ∧ s.stored (key a) = existing)
    (Contract.perform_now rfl fun s _ hs => ⟨trivial, ?_⟩) fun existing => ?_
  · rintro r s' ⟨rfl, rfl⟩
    exact ⟨hs, rfl⟩
  cases existing with
  | some resource => exact fun _ hs => hs
  | none =>
    refine SafeTriple.bind (Q := fun _ s => s.holder = some i ∧ s.Settled key)
      (Contract.perform_await rfl fun s s₁ hinv hs hrely => ?_) fun _ => ?_
    · have hfree := hrely.free hs.1
      refine ⟨hfree, fun r s' hstep => ?_⟩
      cases r with
      | error e =>
        obtain rfl : s' = s₁ := hstep
        exact hfree
      | ok value =>
        obtain ⟨hnone, rfl⟩ := hstep
        exact ⟨rfl, hinv.settled hnone⟩
    · refine SafeTriple.tryFinally (safe_createOnce ha) (fun resource => ?_) fun e => ?_
      · exact safe_release fun s hs => hs
      · exact ((safe_release (R := fun _ => True) fun _ _ => trivial).conseq
          (fun s hs => ⟨hs, trivial⟩) (fun _ s hs => hs.1) fun _ _ h => h)

/-- The contract has its laws. -/
theorem lawful : (contract (ε := ε) key admissible).Lawful where
  rely_refl := Rely.refl
  rely_trans := fun _ _ _ _ h h' => h.trans h'
  guarantee := fun _ _ _ _ _ hinv hgate hstep => guarantee hinv hgate hstep
  env_guarantee := fun _ _ _ h => h.elim
  idle_stable := fun _ _ _ h hidle => h.free hidle
  meets := by
    rintro i p s ⟨a, ha, hkey, rfl⟩ _ hidle
    exact meets_get ha hkey s hidle
  idle_of_returned := fun _ _ _ h => h.1
  idle_of_raised := fun _ _ _ h => h

/-! ## Once -/

/-- A configuration of the tasks. -/
abbrev Tasks (A K ε : Type) : Type :=
  Config (Cache A K) (fun _ : TaskId K => @Ret A) ε fun _ => Nat

/-- What holds of a cache that is filled on demand. -/
structure Once (key : A → K) (c : Tasks A K ε) : Prop where
  /-- a key has one resource -/
  once : (c.shared.created.map key).Nodup
  /-- a task that asked for a key gets it -/
  answered : ∀ i r, c.turn = some i → c.tasks i = some (.done (.ok r)) →
    ∃ a, c.shared.created[r]? = some a ∧ key a = i.2
  /-- no resource is lost -/
  stored : c.turn = none → ∀ r a, c.shared.created[r]? = some a →
    c.shared.stored (key a) = some r
  /-- the lock is held only while a resource is created -/
  lock : c.turn = none → ∀ i, c.shared.holder = some i →
    ∃ a k, c.tasks i = some (.call (.create a) k)

/-- **A resource is created once for its key**, in every interleaving and whatever fails or is
cancelled. -/
theorem once {c : Tasks A K ε} (h : (system key admissible).Reachable .initial c) :
    Once key c ∧ ∀ a ∈ c.shared.created, admissible a := by
  have hkept : (contract key admissible).Kept c :=
    Contract.kept lawful cacheInv_initial (fun _ => nofun) h
  have hinv : CacheInv key admissible c.shared := hkept.inv
  have hlock : c.turn = none → ∀ i, c.shared.holder = some i →
      ∃ a k, c.tasks i = some (.call (.create a) k) ∧ c.shared.Settled key := by
    intro hturn i hholder
    cases htask : c.tasks i with
    | none => exact absurd hholder (hkept.idle i htask)
    | some p =>
      obtain ⟨hsuspended, -⟩ := hkept.waiting i p htask (by simp [hturn])
      cases p with
      | done r => cases hsuspended
      | call o k =>
        have hgate := (hkept.act lawful htask).1
        cases o with
        | acquire => exact absurd hholder hgate
        | create a => exact ⟨a, k, rfl, hgate.2.1⟩
        | lookup a => cases hsuspended
        | store a resource => cases hsuspended
        | release => cases hsuspended
  refine ⟨⟨hinv.nodup, fun i r hturn htask => ?_, fun hturn => ?_, fun hturn i hholder => ?_⟩,
    hinv.admissible⟩
  · have hreturned := hkept.finish hturn htask
    exact hinv.stored i.2 r hreturned.2
  · cases hholder : c.shared.holder with
    | none => exact hinv.settled hholder
    | some i =>
      obtain ⟨-, -, -, hsettled⟩ := hlock hturn i hholder
      exact hsettled
  · obtain ⟨a, k, htask, -⟩ := hlock hturn i hholder
    exact ⟨a, k, htask⟩

end

/-! ## A task alone -/

section
variable {A K ε : Type}

/-- What is left of `get` when nothing was found without the lock. -/
def fromAcquire (a : A) : Prog (@Ret A) ε Nat := do
  perform .acquire
  Prog.tryFinally (createOnce a) (perform .release)

/-- What is left of it when nothing was found under the lock either. -/
def fromCreate (a : A) : Prog (@Ret A) ε Nat :=
  Prog.tryFinally (do
    let resource : Nat ← perform (.create a)
    perform (.store a resource)
    pure resource) (perform .release)

variable [DecidableEq K] {key : A → K} {admissible : A → Prop} {i : TaskId K} {s : Cache A K}
  {a : A}

/-- A task finds nothing. -/
theorem solo_misses (hnone : s.stored (key a) = none) :
    (system (ε := ε) key admissible).Solo i s (get a) s (fromAcquire a) :=
  .act (r := .ok (none : Option Nat)) ⟨congrArg Except.ok hnone.symm, rfl⟩ (.refl ..)

/-- It takes the lock, and still finds nothing. -/
theorem solo_locks (hfree : s.holder = none) (hnone : s.stored (key a) = none) :
    (system (ε := ε) key admissible).Solo i s (fromAcquire a) { s with holder := some i }
      (fromCreate a) := by
  refine .act (r := .ok ()) ⟨hfree, rfl⟩ ?_
  exact .act (r := .ok (none : Option Nat)) ⟨congrArg Except.ok hnone.symm, rfl⟩ (.refl ..)

/-- It takes the lock, and finds what another one has stored meanwhile. -/
theorem solo_finds {r : Nat} (hfree : s.holder = none) (hstored : s.stored (key a) = some r) :
    (system (ε := ε) key admissible).Solo i s (fromAcquire a) s (.done (.ok r)) := by
  refine .act (r := .ok ()) ⟨hfree, rfl⟩ ?_
  refine .act (r := .ok (some r)) ⟨congrArg Except.ok hstored.symm, rfl⟩ ?_
  refine .act (r := .ok ()) ⟨rfl, ?_⟩ (.refl s _)
  rw [← hfree]

/-- It creates the resource, stores it and releases the lock. -/
theorem solo_creates : (system (ε := ε) key admissible).Solo i s (fromCreate a)
    ⟨Function.update s.stored (key a) (some s.created.length), s.created ++ [a], none⟩
    (.done (.ok (s.created.length : Nat))) := by
  refine .act (r := .ok (s.created.length : Nat)) ⟨rfl, rfl⟩ ?_
  refine .act (r := .ok ()) ⟨rfl, rfl⟩ ?_
  exact .act (r := .ok ()) ⟨rfl, rfl⟩ (.refl ..)

end

end Coro.KeyedCache

import QueryMan.GuardedQuery.Admission

/-!
# Shutdown keeps the contract

`drain` and `close` read `_inflight` and `_active` and act on both before they lose their turn: they
record a drained executor only if they have just seen it empty, and `_cancel_inflight` has cancelled
every task in flight, or called `cancel_safe` on the connection it leases, when it first waits
(`cancelInflight_meets`, `drain_meets`, `close_meets`). With the calls this makes every reachable
configuration keep the contract (`kept_of_reachable`).
-/

namespace QueryMan.PostgresQueryExecutor

open Coro

section

variable {registry : SourceRegistry} {k : Nat} {P A : Executor → Prop} {E : Exc → Executor → Prop}

/-! ## Operations -/

/-- How a shutdown sees the executor. -/
abbrev shutdownView (registry : SourceRegistry) (k : Nat) : View Executor ShutdownRet Exc where
  resumes := fun s o s₁ =>
    Conserved registry s₁ ∧ if o.suspends then ShutdownUntouched k s s₁ else s₁ = s
  gate := fun s o => (o.suspends = true → Settled k s) ∧ shutdownGate k s o
  step := shutdownStep k

/-- An operation that keeps the turn finds the state in which the shutdown reaches it. -/
theorem turn_spec {o : ShutdownOp} {Q : ShutdownRet o → Executor → Prop} (ho : o.suspends = false)
    (hgate : ∀ s, Conserved registry s → P s → shutdownGate k s o)
    (hstep : ∀ s r s', Conserved registry s → P s → shutdownStep k s o r s' → Post Q E r s') :
    SafeTriple (shutdownView registry k) P (Shutdown.perform o) Q E := by
  refine .perform fun s s₁ hs ⟨hinv, hsame⟩ => ?_
  rw [if_neg (Bool.eq_false_iff.1 ho)] at hsame
  subst hsame
  exact ⟨⟨fun hsuspends => Bool.noConfusion (ho.symm.trans hsuspends), hgate s₁ hinv hs⟩,
    fun r s' h => hstep s₁ r s' hinv hs h⟩

/-- Such an operation raises nothing, unless it is the step of the iteration over the pools. -/
theorem turn_ok {o : ShutdownOp} {Q : ShutdownRet o → Executor → Prop} (ho : o.suspends = false)
    (hpool : ∀ size index, o ≠ .nextPool size index)
    (hgate : ∀ s, Conserved registry s → P s → shutdownGate k s o)
    (hstep : ∀ s a s', Conserved registry s → P s → shutdownStep k s o (.ok a) s' → Q a s') :
    SafeTriple (shutdownView registry k) P (Shutdown.perform o) Q E := by
  refine turn_spec ho hgate fun s r s' hinv hs h => ?_
  cases r with
  | ok a => exact hstep s a s' hinv hs h
  | error e =>
    cases o with
    | nextPool size index => exact absurd rfl (hpool size index)
    | _ => exact Bool.noConfusion (ho.symm.trans h.1)

/-- What the others do does not take a shutdown out of a state. -/
def ShutdownStable (k : Nat) (A : Executor → Prop) : Prop :=
  ∀ s s', ShutdownUntouched k s s' → A s → A s'

theorem stable_settled : ShutdownStable k (Settled k) :=
  fun _ _ h hs x hx => hs x (h.expiries ▸ hx)

/-- The executor accepts no queries, and the shutdown is settled. -/
def Closing (k : Nat) (s : Executor) : Prop :=
  s.accepting = false ∧ Settled k s

theorem stable_closing : ShutdownStable k (Closing k) :=
  fun s s' h hs => ⟨h.accepting hs.1, stable_settled s s' h hs.2⟩

/-- Where a shutdown waits, it is settled, and stays in its state however the wait ends. -/
theorem await_keeps {o : ShutdownOp} (ho : o.suspends = true) (hA : ShutdownStable k A)
    (hsettled : ∀ s, A s → Settled k s) :
    SafeKeeps (shutdownView registry k) A (Shutdown.perform o) := by
  refine .perform fun s s₁ hs ⟨_, hmoved⟩ => ?_
  rw [if_pos ho] at hmoved
  have hs₁ : A s₁ := hA s s₁ hmoved hs
  refine ⟨⟨fun _ => hsettled s₁ hs₁, ?_⟩, fun r s' h => ?_⟩
  · cases o <;> trivial
  · have hsame : s' = s₁ := by
      cases r with
      | error e => cases o <;> exact h.2.2
      | ok a =>
        cases o with
        | waitTasks tasks => exact h.2
        | sleep _ => exact h
        | joinCancelSafe => exact h
        | closePool _ => exact h
        | _ => cases ho
    subst hsame
    cases r <;> exact hs₁

theorem closing_await {o : ShutdownOp} (ho : o.suspends = true) :
    SafeKeeps (shutdownView registry k) (Closing k) (Shutdown.perform o) :=
  await_keeps ho stable_closing fun _ hs => hs.2

/-! ## `_cancel_inflight` -/

/-- The shutdown has seen these tasks in flight, with these leases, and they are what is there. It
has cancelled the tasks of `cancelled`. -/
def Observed (k : Nat) (inflight : Finset Nat) (leases : Nat → Option Connection)
    (cancelled : List Nat) (s : Executor) : Prop :=
  s.accepting = false ∧ s.inflight = inflight ∧
    ∃ x, s.expiries k = some x ∧ x.inflight = inflight ∧ x.leases = leases ∧
      ∀ n ∈ cancelled, n ∈ x.cancelled

/-- Covering stays covering when more tasks are cancelled. -/
theorem Expiry.Covered.insert {x : Expiry} (h : x.Covered) (task : Nat) :
    Expiry.Covered { x with cancelled := insert task x.cancelled } :=
  fun n hn => (h n hn).imp_left Finset.mem_insert_of_mem

theorem expiries_update {s : Executor} {f : Expiry → Expiry} {x : Expiry}
    (hx : s.expiries k = some x) : (s.updateExpiry k f).expiries k = some (f x) := by
  change Function.update s.expiries k _ k = _
  rw [Function.update_self, hx]
  rfl

theorem cancelTasks_observed {inflight : Finset Nat} {leases : Nat → Option Connection}
    {tasks cancelled : List Nat} :
    SafeTriple (shutdownView registry k) (Observed k inflight leases cancelled)
      (Shutdown.cancelTasks tasks)
      (fun _ => Observed k inflight leases (tasks ++ cancelled)) E := by
  induction tasks generalizing cancelled with
  | nil => exact SafeTriple.pure.weaken_pre fun _ hs => hs
  | cons task tasks ih =>
    refine .bind (Q := fun _ => Observed k inflight leases (task :: cancelled))
      (turn_ok rfl nofun (fun _ _ _ => trivial) fun s _ s' _ hs hstep => ?_) fun _ => ?_
    · subst hstep
      obtain ⟨haccepting, hinflight, x, hx, hxi, hxl, hxc⟩ := hs
      refine ⟨haccepting, hinflight, _, expiries_update hx, hxi, hxl, fun n hn => ?_⟩
      rcases List.mem_cons.1 hn with rfl | hn
      · exact Finset.mem_insert_self _ _
      · exact Finset.mem_insert_of_mem (hxc n hn)
    · refine ih.weaken_post fun _ s ⟨haccepting, hinflight, x, hx, hxi, hxl, hxc⟩ =>
        ⟨haccepting, hinflight, x, hx, hxi, hxl, fun n hn => hxc n ?_⟩
      rcases List.mem_cons.1 hn with rfl | hn
      · exact List.mem_append_right _ List.mem_cons_self
      · rcases List.mem_append.1 hn with hn | hn
        · exact List.mem_append_left _ hn
        · exact List.mem_append_right _ (List.mem_cons_of_mem _ hn)

/-- Cancelling more tasks leaves a settled shutdown settled. -/
theorem cancelTasks_closing {tasks : List Nat} :
    SafeKeeps (shutdownView registry k) (Closing k) (Shutdown.cancelTasks tasks) := by
  induction tasks with
  | nil => exact .pure
  | cons task tasks ih =>
    refine SafeTriple.bind
      (turn_ok rfl nofun (fun _ _ _ => trivial) fun s _ s' _ hs hstep => ?_) fun _ => ih
    subst hstep
    refine ⟨hs.1, fun x hx hexpired => ?_⟩
    change Function.update s.expiries k _ k = some x at hx
    rw [Function.update_self] at hx
    obtain ⟨y, hy, rfl⟩ := Option.map_eq_some_iff.1 hx
    exact (hs.2 y hy hexpired).insert task

theorem setCancelReasons_observed {inflight : Finset Nat} {leases : Nat → Option Connection}
    {cancelled : List Nat} {queries : List ActiveQuery} :
    SafeTriple (shutdownView registry k) (Observed k inflight leases cancelled)
      (Shutdown.setCancelReasons queries) (fun _ => Observed k inflight leases cancelled) E := by
  induction queries with
  | nil => exact SafeTriple.pure.weaken_pre fun _ hs => hs
  | cons query queries ih =>
    refine .bind (turn_ok rfl nofun (fun _ _ _ => trivial) fun s _ s' _ hs hstep => ?_) fun _ => ih
    subst hstep
    exact hs

/-- **`_cancel_inflight` skips nobody**: when it first waits, every task that was in flight is
cancelled, or `cancel_safe` is called on the connection that it leases. -/
theorem cancelInflight_meets {inflight : Finset Nat} {leases : Nat → Option Connection}
    {tasks : List Nat} {active : List ActiveQuery} (htasks : ∀ n, n ∈ tasks ↔ n ∈ inflight)
    (hactive : ∀ query ∈ active, leases query.task = some query.connection) :
    SafeTriple (shutdownView registry k) (Observed k inflight leases [])
      (Shutdown.cancelInflight tasks active) (fun _ => Closing k) fun _ => Closing k := by
  have hcovered : ∀ n ∈ inflight, n ∈ tasks.filter (· ∉ active.map (·.task)) ++ [] ∨
      ∃ connection ∈ active.map (·.connection), leases n = some connection := by
    intro n hn
    by_cases hmem : n ∈ active.map (·.task)
    · obtain ⟨query, hquery, rfl⟩ := List.mem_map.1 hmem
      exact .inr ⟨_, List.mem_map_of_mem hquery, hactive query hquery⟩
    · rw [List.append_nil, List.mem_filter]
      exact .inl ⟨(htasks n).2 hn, decide_eq_true hmem⟩
  refine .bind cancelTasks_observed fun _ => .bind setCancelReasons_observed fun _ => ?_
  refine .bind (Q := fun _ => Closing k) (turn_ok rfl nofun (fun s _ hs => ?_)
    fun s _ s' _ hs hstep => ?_) fun _ => ?_
  · obtain ⟨haccepting, hinflight, x, hx, hxi, -⟩ := hs
    refine ⟨haccepting, x, hx, ?_⟩
    rw [hinflight, hxi]
  · subst hstep
    obtain ⟨haccepting, hinflight, x, hx, hxi, hxl, hxc⟩ := hs
    refine ⟨haccepting, fun y hy _ n hn => ?_⟩
    have hy' : some _ = some y := (expiries_update hx).symm.trans hy
    cases hy'
    refine (hcovered n (hxi ▸ hn)).imp (hxc n) fun ⟨connection, hmem, hlease⟩ => ?_
    exact ⟨connection, hmem, (congrFun hxl n).trans hlease⟩
  · refine SafeKeeps.bind (closing_await rfl) fun _ => SafeKeeps.bind (closing_await rfl)
      fun (pending : List Nat) => cancelTasks_closing.bind fun _ => .ite .pure ?_
    exact SafeKeeps.bind (closing_await rfl) fun _ => .pure

/-! ## `drain` and `close` -/

/-- A counter that is not `shutdown_drained`. -/
theorem increment_keeps {name : String} {value : Nat} (hname : name ≠ "shutdown_drained") :
    SafeTriple (shutdownView registry k) P (Shutdown.perform (.increment name value))
      (fun _ => P) E := by
  refine turn_ok rfl nofun (fun _ _ _ heq => absurd heq hname) fun s _ s' _ hs hstep => ?_
  subst hstep
  exact hs

/-- The two reads under the lock: what they answer is what is there. -/
def Read (k : Nat) (tasks : List Nat) (s : Executor) : Prop :=
  s.accepting = false ∧ (∀ n, n ∈ tasks ↔ n ∈ s.inflight) ∧
    s.expiries k = some ⟨s.inflight, s.leases, false, ∅, []⟩

/-- A read has not expired. -/
theorem Read.closing {tasks : List Nat} {s : Executor} (h : Read k tasks s) : Closing k s := by
  refine ⟨h.1, fun x hx hexpired => ?_⟩
  rw [h.2.2] at hx
  cases hx
  cases hexpired

theorem Read.observed {tasks : List Nat} {s : Executor} (h : Read k tasks s) :
    Observed k s.inflight s.leases [] s :=
  ⟨h.1, rfl, _, h.2.2, rfl, rfl, fun _ hn => absurd hn List.not_mem_nil⟩

theorem lockActive_read :
    SafeTriple (shutdownView registry k) P (Shutdown.perform .lockActive) (fun _ => P) E := by
  refine turn_ok rfl nofun (fun _ _ _ => trivial) fun s _ s' _ hs hstep => ?_
  subst hstep
  exact hs

theorem inflight_read :
    SafeTriple (shutdownView registry k) (Closing k) (Shutdown.perform .inflight)
      (fun (tasks : List Nat) => Read k tasks) E := by
  refine turn_ok rfl nofun (fun _ _ _ => trivial) fun s tasks s' _ hs hstep => ?_
  obtain ⟨htasks, rfl⟩ := hstep
  exact ⟨hs.1, htasks, Function.update_self ..⟩

theorem active_read {tasks : List Nat} :
    SafeTriple (shutdownView registry k) (Read k tasks) (Shutdown.perform .active)
      (fun (active : List ActiveQuery) s =>
        (∀ query ∈ active, s.leases query.task = some query.connection) ∧ Read k tasks s) E := by
  refine turn_ok rfl nofun (fun _ _ _ => trivial) fun s active s' hinv hs hstep => ?_
  obtain ⟨rfl, rfl⟩ := hstep
  refine ⟨fun query hquery => ?_, hs⟩
  obtain ⟨⟨id, query'⟩, hmem, rfl⟩ := List.mem_map.1 hquery
  exact hinv.active_lease id query' (AList.mem_lookup_iff.2 hmem)

/-- `_cancel_inflight` after the reads. -/
theorem cancelInflight_read {tasks : List Nat} {active : List ActiveQuery} :
    SafeTriple (shutdownView registry k)
      (fun s => (∀ query ∈ active, s.leases query.task = some query.connection) ∧
        (∀ n, n ∈ tasks ↔ n ∈ s.inflight) ∧ Observed k s.inflight s.leases [] s)
      (Shutdown.cancelInflight tasks active) (fun _ => Closing k) fun _ => Closing k :=
  fun s hs => cancelInflight_meets hs.2.1 hs.1 s hs.2.2

theorem drainLoop_meets {fuel : Nat} {deadline : ℚ} :
    SafeKeeps (shutdownView registry k) (Closing k) (Shutdown.drainLoop fuel deadline) := by
  induction fuel with
  | zero => exact .pure
  | succ fuel ih =>
    refine SafeTriple.bind lockActive_read fun _ =>
      SafeTriple.bind inflight_read fun (tasks : List Nat) => ?_
    refine SafeTriple.bind active_read fun (active : List ActiveQuery) =>
      SafeTriple.ite (fun hnil => ?_) fun _ => ?_
    · refine turn_ok rfl nofun (fun s _ hs _ => ⟨hs.2.1, ?_⟩) fun s _ s' _ hs hstep => ?_
      · refine Finset.eq_empty_of_forall_notMem fun n hn => ?_
        rw [← hs.2.2.1 n, hnil] at hn
        exact absurd hn List.not_mem_nil
      · subst hstep
        exact hs.2.closing
    · refine SafeTriple.bind (Q := fun (reached : Bool) s =>
        ((∀ query ∈ active, s.leases query.task = some query.connection) ∧
          (∀ n, n ∈ tasks ↔ n ∈ s.inflight) ∧ Observed k s.inflight s.leases [] s) ∧
          (reached = false → Closing k s))
        (turn_ok rfl nofun (fun _ _ _ => trivial) fun s reached s' _ hs hstep => ?_)
        fun (reached : Bool) => SafeTriple.ite (fun _ => ?_) fun hno => ?_
      · subst hstep
        obtain ⟨hactive, haccepting, htasks, hx⟩ := hs
        refine ⟨⟨hactive, htasks, haccepting, rfl, _, expiries_update hx, rfl, rfl,
          fun _ hn => absurd hn List.not_mem_nil⟩, fun hreached =>
            ⟨haccepting, fun y hy hexpired => ?_⟩⟩
        have hy' : some _ = some y := (expiries_update hx).symm.trans hy
        cases hy'
        exact Bool.noConfusion (hreached.symm.trans hexpired)
      · exact SafeTriple.bind (cancelInflight_read.weaken_pre fun _ hs => hs.1) fun _ =>
          increment_keeps (by decide)
      · refine SafeTriple.bind (Q := fun _ => Closing k) (turn_ok rfl nofun (fun _ _ _ => trivial)
          fun s now s' _ hs hstep => ?_) fun now => SafeKeeps.bind (closing_await rfl) fun _ => ih
        subst hstep
        exact hs.2 (Bool.eq_false_iff.2 hno)

/-- Switching acceptance off. -/
theorem stopAccepting_meets :
    SafeTriple (shutdownView registry k) (Settled k) Shutdown.stopAccepting (fun _ => Closing k)
      E := by
  refine turn_ok rfl nofun (fun _ _ _ => trivial) fun s _ s' _ hs hstep => ?_
  subst hstep
  exact ⟨rfl, hs⟩

/-- **`drain` keeps the contract.** -/
theorem drain_meets {fuel graceMs : Nat} :
    SafeTriple (shutdownView registry k) (Settled k) (Shutdown.drain fuel graceMs)
      (fun _ => Closing k) fun _ => Closing k := by
  refine .bind stopAccepting_meets fun _ => .bind (increment_keeps (by decide)) fun _ => ?_
  refine .bind (turn_ok rfl nofun (fun _ _ _ => trivial) fun s now s' _ hs hstep => ?_) fun now =>
    drainLoop_meets
  subst hstep
  exact hs

/-- What `close` does with the pools leaves a settled shutdown settled. -/
theorem closePools_meets {size left : Nat} :
    SafeKeeps (shutdownView registry k) (Settled k) (Shutdown.closePools size left) := by
  have hnext : ∀ index, SafeKeeps (shutdownView registry k) (Settled k)
      (Shutdown.perform (.nextPool size index)) := by
    intro index
    refine turn_spec rfl (fun _ _ _ => trivial) fun s r s' _ hs hstep => ?_
    cases r with
    | ok pool => exact hstep.2.2 ▸ hs
    | error e => exact hstep.2.2 ▸ hs
  induction left with
  | zero => exact (hnext size).bind fun _ => .pure
  | succ left ih =>
    refine (hnext _).bind fun (pool : Option String) => ?_
    cases pool with
    | none => exact .pure
    | some sourceId =>
      exact SafeKeeps.bind (await_keeps rfl stable_settled fun _ hs => hs) fun _ => ih

/-- **`close` keeps the contract.** -/
theorem close_meets {fuel : Nat} :
    SafeKeeps (shutdownView registry k) (Settled k) (Shutdown.close fuel) := by
  have hinflight :
      SafeKeeps (shutdownView registry k) (Settled k) (Shutdown.closeInflight fuel) := by
    refine SafeTriple.bind (Q := fun (accepting : Bool) s => accepting = s.accepting ∧ Settled k s)
      (turn_ok rfl nofun (fun _ _ _ => trivial) fun s accepting s' _ hs hstep => ?_)
      fun (accepting : Bool) => SafeTriple.ite (fun _ => ?_) fun hno => ?_
    · obtain ⟨rfl, rfl⟩ := hstep
      exact ⟨rfl, hs⟩
    · exact drain_meets.conseq (fun _ hs => hs.2) (fun _ _ hs => hs.2) fun _ _ hs => hs.2
    · refine SafeTriple.bind
        (lockActive_read.weaken_pre (P := Closing k) fun s hs => ?_) fun _ => ?_
      · exact ⟨hs.1.symm.trans (Bool.eq_false_iff.2 hno), hs.2⟩
      refine SafeTriple.bind inflight_read fun (tasks : List Nat) => SafeTriple.bind active_read
        fun (active : List ActiveQuery) => SafeTriple.ite (fun _ => ?_) fun _ => ?_
      · exact SafeTriple.pure.weaken_pre fun _ hs => hs.2.closing.2
      · exact cancelInflight_read.conseq (fun s hs => ⟨hs.1, hs.2.2.1, hs.2.observed⟩)
          (fun _ _ hs => hs.2) fun _ _ hs => hs.2
  refine hinflight.bind fun _ => ?_
  refine SafeTriple.bind (turn_ok rfl nofun (fun _ _ _ => trivial) fun s size s' _ hs hstep => ?_)
    fun size => closePools_meets.bind fun _ => ?_
  · exact hstep.2 ▸ hs
  · refine turn_ok rfl nofun (fun _ _ _ => trivial) fun s _ s' _ hs hstep => ?_
    subst hstep
    exact hs

end

/-! ## All tasks -/

section

variable {Row Json : Type} {registry : SourceRegistry} {encodeRow : RowEncoder Row Json}

/-- The contract is lawful: every task keeps it. -/
theorem contract_lawful : (contract registry encodeRow).Lawful where
  rely_refl
    | .call _, _ => .refl
    | .shutdown _, _ => .refl
  rely_trans
    | .call _, _, _, _, h, h' => h.trans h'
    | .shutdown _, _, _, _, h, h' => h.trans h'
  guarantee := by
    rintro (n | k) s o r s' hinv hgate hstep
    · obtain ⟨hinv', hothers⟩ := callStep_guarantee hinv hgate hstep
      refine ⟨hinv', fun j hj => ?_⟩
      cases j with
      | call m => exact hothers m fun heq => hj (congrArg TaskId.call heq)
      | shutdown k => exact callStep_shutdown hstep
    · obtain ⟨hinv', hcalls, hothers⟩ := shutdownStep_guarantee hinv hgate.2 hstep
      refine ⟨hinv', fun j hj => ?_⟩
      cases j with
      | call n => exact hcalls n
      | shutdown j => exact hothers j fun heq => hj (congrArg TaskId.shutdown heq)
  env_guarantee := fun _ _ => cancelSafeEnds_guarantee
  idle_stable
    | .call _, s, s', h, hs => stable_notInflight s s' h hs
    | .shutdown _, s, s', h, hs => stable_settled s s' h hs
  meets := by
    rintro (n | k) p s hstarts - hidle
    · obtain ⟨sourceId, source, sql, metadataRevision, validated, queryId, hsource, rfl⟩ := hstarts
      have hid := SourceRegistry.sourceId_of_get hsource
      exact execute_meets (hid ▸ hsource) s hidle
    · obtain ⟨fuel, graceMs, rfl | rfl | rfl⟩ := hstarts
      · exact (stopAccepting_meets.conseq (fun _ hs => hs) (fun _ _ hs => hs.2)
          fun _ _ hs => hs) s hidle
      · exact (drain_meets.conseq (fun _ hs => hs) (fun _ _ hs => hs.2) fun _ _ hs => hs.2) s hidle
      · exact close_meets s hidle
  idle_of_returned := fun _ _ _ hs => hs
  idle_of_raised
    | .call _, _, _, hs => hs.1
    | .shutdown _, _, _, hs => hs

/-- **Every reachable configuration of the executor keeps the contract.** -/
theorem kept_of_reachable {c : Tasks Row Json} (h : Reachable registry encodeRow c) :
    (contract registry encodeRow).Kept c := by
  refine Contract.kept contract_lawful conserved_initial (fun i => ?_) h
  cases i with
  | call n => exact Finset.notMem_empty n
  | shutdown k => exact nofun

end

end QueryMan.PostgresQueryExecutor

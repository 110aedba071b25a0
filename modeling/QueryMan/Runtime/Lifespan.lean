import QueryMan.Coro.Solo
import QueryMan.GuardedQuery.Failures
import QueryMan.Python.Float

/-!
# The lifespan of the process

`_ShutdownDeadline`, `_ShutdownTrigger`, `_CleanupErrors` and the lifespan of `build_app`. A signal
may call the trigger while no task has the turn: where the lifespan waits, and before it starts.
Whatever fails or is cancelled, every cleanup step is attempted once and in its order, the lifespan
ends with the first exception of its steps, and queries are drained after admission was switched off
and for what is left of the grace since the trigger was first called, up to a millisecond and the
rounding of the floats (`lifespan_orderly`).
-/

namespace QueryMan.Lifespan

open Coro Python

/-! ## The deadline -/

/-- `_ShutdownDeadline`, without its clock. -/
structure ShutdownDeadline where
  graceMs : Nat
  deadline : Option ℚ

namespace ShutdownDeadline

/-- `self._clock() + self._grace_ms / 1_000`. -/
def after (clock : ℚ) (graceMs : Nat) : ℚ :=
  toFloat (clock + toFloat (graceMs / 1000))

/-- `begin`. -/
def start (d : ShutdownDeadline) (clock : ℚ) : ShutdownDeadline :=
  { d with deadline := some (d.deadline.getD (after clock d.graceMs)) }

/-- `remaining_ms`. -/
def remainingMs (d : ShutdownDeadline) (clock : ℚ) : Nat :=
  let deadline := d.deadline.getD (after clock d.graceMs)
  let remaining := ⌈toFloat (toFloat (deadline - clock) * 1000)⌉
  (max 0 (min (d.graceMs : Int) remaining)).toNat

/-- The rounding may add a millisecond to the 700 that are left. -/
example : (start ⟨1000, none⟩ (toFloat (1 / 10))).remainingMs (toFloat (4 / 10)) = 701 := by
  decide +kernel

theorem remainingMs_le (d : ShutdownDeadline) (clock : ℚ) : d.remainingMs clock ≤ d.graceMs := by
  rw [remainingMs]
  omega

/-- What the rounding of the floats adds to a deadline at most, in seconds: less than a microsecond
for a clock below `2 ^ 29`. -/
def slack (begun : ℚ) (graceMs : Nat) : ℚ :=
  (|begun| + graceMs / 1000) / 2 ^ 50

/-- **What is left ends with the grace**: less than a millisecond and the slack after it. -/
theorem remainingMs_lt {d : ShutdownDeadline} {begun clock : ℚ} (hbegun : begun ≤ clock)
    (h : d.deadline = some (after begun d.graceMs)) :
    d.remainingMs clock = 0 ∨
      clock + ((d.remainingMs clock : ℚ) - 1) / 1000 <
        begun + d.graceMs / 1000 + slack begun d.graceMs := by
  by_cases hzero : d.remainingMs clock = 0
  · exact .inl hzero
  right
  have hms : (d.remainingMs clock : Int) ≤
      ⌈toFloat (toFloat (after begun d.graceMs - clock) * 1000)⌉ := by
    rw [remainingMs, h, Option.getD_some] at hzero ⊢
    omega
  set grace : ℚ := d.graceMs / 1000 with hgrace
  set left : ℚ := after begun d.graceMs - clock with hleft
  have hceil : ((d.remainingMs clock : ℚ) - 1) < toFloat (toFloat left * 1000) := by
    have hlt : (⌈toFloat (toFloat left * 1000)⌉ : ℚ) < toFloat (toFloat left * 1000) + 1 :=
      Int.ceil_lt_add_one _
    have hcast : ((d.remainingMs clock : Int) : ℚ) ≤ ⌈toFloat (toFloat left * 1000)⌉ := by
      exact_mod_cast hms
    rw [Int.cast_natCast] at hcast
    linarith
  -- something is left, before each rounding as well as after it
  have hproduct : 0 < toFloat left * 1000 := by
    refine pos_of_toFloat_pos (hceil.trans_le' ?_)
    have hone : (1 : ℚ) ≤ d.remainingMs clock := by
      exact_mod_cast Nat.one_le_iff_ne_zero.2 hzero
    linarith
  have hdifference : 0 < left := pos_of_toFloat_pos (by linarith)
  have hgrace0 : 0 ≤ grace := by positivity
  -- the errors of the four roundings
  have hquotient : toFloat grace ≤ grace + grace / 2 ^ 53 := toFloat_le (abs_of_nonneg hgrace0).le
  have hsum : after begun d.graceMs ≤
      begun + toFloat grace + (|begun| + (|grace| + |grace| / 2 ^ 53)) / 2 ^ 53 :=
    toFloat_le ((abs_add_le _ _).trans (add_le_add (le_refl _) (abs_toFloat_le _)))
  rw [abs_of_nonneg hgrace0] at hsum
  have hminus : toFloat left ≤ left + left / 2 ^ 53 := toFloat_le (abs_of_pos hdifference).le
  have htimes : toFloat (toFloat left * 1000) ≤
      toFloat left * 1000 + toFloat left * 1000 / 2 ^ 53 := toFloat_le (abs_of_pos hproduct).le
  have hbegun0 : 0 ≤ |begun| := abs_nonneg begun
  rw [slack]
  linarith

end ShutdownDeadline

/-! ## The state -/

/-- The steps of a lifespan. -/
inductive LifespanStep where
  | probe
  | serve
  | shutdownTrigger
  | queryDrain
  | queryExecutor
  | catalog
  deriving DecidableEq, Repr

/-- What the lifespan and the signals share: the clock, the deadline and the trigger, the acceptance
of the service and of the query executor, when the trigger was first called, and how the steps of
the lifespan went. -/
structure Process where
  clock : ℚ
  deadline : ShutdownDeadline
  started : Bool
  accepting : Bool
  admits : Bool
  began : Option ℚ
  steps : List (LifespanStep × Option Exc)

namespace Process

/-- A process that serves. -/
def initial (graceMs : Nat) (clock : ℚ) : Process :=
  ⟨clock, ⟨graceMs, none⟩, false, true, true, none, []⟩

/-- `_ShutdownTrigger.__call__`. -/
def trigger (s : Process) : Process :=
  if s.started then s
  else { s with
    started := true
    deadline := s.deadline.start s.clock
    accepting := false
    admits := false
    began := some s.clock }

/-- The exception of an answer. -/
def raised {α : Type} : Except Exc α → Option Exc
  | .ok _ => none
  | .error e => some e

/-- A step has ended. -/
def record (s : Process) (step : LifespanStep) (e : Option Exc) : Process :=
  { s with steps := s.steps ++ [(step, e)] }

end Process

/-! ## Operations -/

/-- The operations of a lifespan. -/
inductive Op where
  /-- `_probe_registered_sources` -/
  | probe
  /-- `yield` -/
  | serve
  /-- `shutdown_trigger` -/
  | trigger
  /-- `shutdown_deadline.remaining_ms` -/
  | remainingMs
  /-- `query_executor.drain` is called -/
  | drain (graceMs : Nat)
  /-- and has ended -/
  | drained
  /-- `query_executor.close` -/
  | closeExecutor
  /-- `catalog.close` -/
  | closeCatalog
  /-- `logger.warning("runtime_cleanup_step_failed step=%s", step)` -/
  | warn (step : String)

/-- What an operation answers with. -/
def Ret : Op → Type
  | .remainingMs => Nat
  | _ => Unit

/-- The operations that await. -/
def Op.suspends : Op → Bool
  | .trigger | .remainingMs | .drain _ | .warn _ => false
  | _ => true

/-- The programs of a lifespan. -/
abbrev Life (α : Type) : Type := Prog Ret Exc α

/-- Call an operation. -/
def perform (o : Op) : Life (Ret o) :=
  Prog.perform o

/-! ## The functions of the source -/

/-- `_CleanupErrors.attempt` and `attempt_sync`, from the first error so far to the first error. -/
def attempt (step : String) (cleanup : Life Unit) (first : Option Exc) : Life (Option Exc) :=
  Prog.tryCatch
    (fun e => do
      perform (.warn step)
      pure (first.or (some e)))
    (do
      cleanup
      pure first)

/-- The callbacks of the exit stack, the last one first. -/
def closeResources (first : Option Exc) : Life (Option Exc) := do
  let first ← attempt "query_executor" (perform .closeExecutor) first
  attempt "catalog" (perform .closeCatalog) first

/-- `raise_first`. -/
def raiseFirst : Option Exc → Life Unit
  | some e => throw e
  | none => pure ()

/-- The drain, for what is left of the grace. -/
def drainQueries : Life Unit := do
  let graceMs : Nat ← perform .remainingMs
  perform (.drain graceMs)
  perform .drained

/-- The exception of a program, if it raises. -/
def observe (p : Life Unit) : Life (Option Exc) :=
  Prog.tryCatch (fun e => pure (some e))
    (do
      p
      pure none)

/-- The block of the exit stack after the probe: `try`, `finally` and `raise_first`. -/
def serve : Life Unit := do
  let raised ← observe (perform .serve)
  let first ← attempt "shutdown_trigger" (perform .trigger) none
  let first ← attempt "query_drain" drainQueries first
  let first ← closeResources first
  match raised with
  | some e => throw e
  | none => raiseFirst first

/-- `lifespan`. -/
def lifespan : Life Unit := do
  let raised ← observe (perform .probe)
  match raised with
  | some e => do
    let _ ← closeResources none
    throw e
  | none => serve

/-! ## The system -/

/-- What an operation answers and does. -/
def step (_ : Unit) (s : Process) : (o : Op) → Except Exc (Ret o) → Process → Prop
  | .probe, r, s' => s' = { s with steps := [(.probe, Process.raised r)] }
  | .serve, r, s' => s' = s.record .serve (Process.raised r)
  | .trigger, r, s' => r = .ok () ∧ s' = s.trigger.record .shutdownTrigger none
  | .remainingMs, r, s' => r = .ok (s.deadline.remainingMs s.clock) ∧
      s' = { s with deadline := s.deadline.start s.clock }
  | .drain _, r, s' => r = .ok () ∧ s' = s
  | .drained, r, s' => s' = s.record .queryDrain (Process.raised r)
  | .closeExecutor, r, s' => s' = s.record .queryExecutor (Process.raised r)
  | .closeCatalog, r, s' => s' = s.record .catalog (Process.raised r)
  | .warn _, r, s' => r = .ok () ∧ s' = s

/-- Time passes, or a signal calls the trigger. -/
def env (s s' : Process) : Prop :=
  s' = s.trigger ∨ ∃ clock, s.clock ≤ clock ∧ s' = { s with clock := clock }

/-- The lifespan of a process that gets signals. -/
def system : System Unit Process (fun _ => Ret) Exc fun _ => Unit where
  starts := fun _ p => p = lifespan
  suspends := fun _ => Op.suspends
  step := step
  env := env

/-! ## The contract -/

/-- The invariant: the trigger switches acceptance off and starts the deadline. -/
structure ProcessInv (graceMs : Nat) (s : Process) : Prop where
  grace : s.deadline.graceMs = graceMs
  started : s.started = true → s.accepting = false ∧ s.admits = false ∧
    ∃ t, s.began = some t ∧ t ≤ s.clock ∧
      s.deadline.deadline = some (ShutdownDeadline.after t graceMs)
  waiting : s.started = false → s.deadline.deadline = none

/-- What the lifespan relies on. -/
structure Rely (s s' : Process) : Prop where
  steps : s'.steps = s.steps
  started : s.started = true → s'.started = true

/-- The steps so far. -/
def Process.names (s : Process) : List LifespanStep :=
  s.steps.map (·.1)

/-- What the lifespan must find where it performs an operation. -/
def gate (graceMs : Nat) (s : Process) : Op → Prop
  | .serve => s.names = [.probe]
  | .remainingMs => s.started = true
  | .drain ms => s.names = [.probe, .serve, .shutdownTrigger] ∧ s.accepting = false ∧
      s.admits = false ∧ ms ≤ graceMs ∧ ∃ t, s.began = some t ∧ t ≤ s.clock ∧
        (ms = 0 ∨ s.clock + ((ms : ℚ) - 1) / 1000 <
          t + graceMs / 1000 + ShutdownDeadline.slack t graceMs)
  | .drained => s.names = [.probe, .serve, .shutdownTrigger] ∧ s.started = true
  | .closeExecutor => s.names = [.probe] ∨
      s.names = [.probe, .serve, .shutdownTrigger, .queryDrain]
  | .closeCatalog => s.names = [.probe, .queryExecutor] ∨
      s.names = [.probe, .serve, .shutdownTrigger, .queryDrain, .queryExecutor]
  | _ => True

/-- The first exception of the steps. -/
def Process.outcome (s : Process) : Except Exc Unit :=
  match s.steps.findSome? (·.2) with
  | some e => .error e
  | none => .ok ()

/-- How a lifespan ends: all its cleanup steps were attempted, and it raises the first exception. -/
def Ended (r : Except Exc Unit) (s : Process) : Prop :=
  r = s.outcome ∧
    (s.names = [.probe, .serve, .shutdownTrigger, .queryDrain, .queryExecutor, .catalog] ∨
      (s.names = [.probe, .queryExecutor, .catalog] ∧ ∃ e, (.probe, some e) ∈ s.steps))

/-- The contract. -/
def contract (graceMs : Nat) : Contract system where
  inv := ProcessInv graceMs
  rely := fun _ => Rely
  gate := fun _ => gate graceMs
  idle := fun _ _ => True
  returned := fun _ a s => Ended (.ok a) s
  raised := fun _ e s => Ended (.error e) s

/-! ## What the steps keep -/

section
variable {graceMs : Nat} {s s' s'' : Process}

@[simp] theorem trigger_steps : s.trigger.steps = s.steps := by
  rw [Process.trigger]
  split <;> rfl

theorem trigger_started : s.trigger.started = true := by
  rw [Process.trigger]
  split
  · next h => exact h
  · rfl

theorem ProcessInv.trigger (h : ProcessInv graceMs s) : ProcessInv graceMs s.trigger := by
  rw [Process.trigger]
  split
  · exact h
  · next hstarted =>
    have hnone := h.waiting (Bool.eq_false_iff.2 hstarted)
    refine ⟨h.grace, fun _ => ⟨rfl, rfl, s.clock, rfl, le_refl _, ?_⟩, nofun⟩
    rw [ShutdownDeadline.start, hnone, h.grace]
    rfl

/-- Nothing but the steps is recorded. -/
theorem ProcessInv.setSteps (h : ProcessInv graceMs s) (steps : List (LifespanStep × Option Exc)) :
    ProcessInv graceMs { s with steps := steps } :=
  ⟨h.grace, h.started, h.waiting⟩

/-- Once the trigger was called, the deadline stays. -/
theorem ProcessInv.start_eq (h : ProcessInv graceMs s) (hstarted : s.started = true) :
    { s with deadline := s.deadline.start s.clock } = s := by
  obtain ⟨-, -, t, -, -, hdeadline⟩ := h.started hstarted
  have hsame : s.deadline.start s.clock = s.deadline := by
    rw [ShutdownDeadline.start, hdeadline, Option.getD_some, ← hdeadline]
  rw [hsame]

theorem Rely.refl (s : Process) : Rely s s :=
  ⟨rfl, fun h => h⟩

theorem Rely.trans (h : Rely s s') (h' : Rely s' s'') : Rely s s'' :=
  ⟨h'.steps.trans h.steps, fun hstarted => h'.started (h.started hstarted)⟩

/-- Every operation keeps the invariant. -/
theorem guarantee {o : Op} {r : Except Exc (Ret o)} (h : ProcessInv graceMs s)
    (hgate : gate graceMs s o) (hstep : step () s o r s') : ProcessInv graceMs s' := by
  cases o with
  | trigger =>
    obtain ⟨-, rfl⟩ := hstep
    exact h.trigger.setSteps _
  | remainingMs =>
    obtain ⟨-, rfl⟩ := hstep
    rw [h.start_eq hgate]
    exact h
  | drain ms =>
    obtain ⟨-, rfl⟩ := hstep
    exact h
  | warn name =>
    obtain ⟨-, rfl⟩ := hstep
    exact h
  | probe =>
    obtain rfl : s' = _ := hstep
    exact h.setSteps _
  | serve =>
    obtain rfl : s' = _ := hstep
    exact h.setSteps _
  | drained =>
    obtain rfl : s' = _ := hstep
    exact h.setSteps _
  | closeExecutor =>
    obtain rfl : s' = _ := hstep
    exact h.setSteps _
  | closeCatalog =>
    obtain rfl : s' = _ := hstep
    exact h.setSteps _

/-- So do signals and time. -/
theorem env_guarantee (h : ProcessInv graceMs s) (hstep : env s s') :
    ProcessInv graceMs s' ∧ Rely s s' := by
  rcases hstep with rfl | ⟨clock, hle, rfl⟩
  · exact ⟨h.trigger, trigger_steps, fun _ => trigger_started⟩
  · refine ⟨⟨h.grace, fun hstarted => ?_, h.waiting⟩, rfl, fun hstarted => hstarted⟩
    obtain ⟨haccepting, hadmits, t, hbegan, ht, hdeadline⟩ := h.started hstarted
    exact ⟨haccepting, hadmits, t, hbegan, ht.trans hle, hdeadline⟩

/-! ## The lifespan meets the contract -/

/-- The lifespan as it sees the process. -/
abbrev lifeView (graceMs : Nat) : View Process Ret Exc :=
  (contract graceMs).view ()

variable {P : Process → Prop} {R : Option Exc → Process → Prop} {p : Life Unit}
  {E : Exc → Process → Prop}

theorem safe_observe
    (h : SafeTriple (lifeView graceMs) P p (fun _ => R none) fun e => R (some e)) :
    SafeTriple (lifeView graceMs) P (observe p) R E := by
  refine SafeTriple.tryCatch (E := fun e => R (some e)) (h.bind fun _ => ?_) fun e => ?_
  · exact fun _ hs => hs
  · exact fun _ hs => hs

/-- A cleanup step does not raise: its exception counts if it is the first. -/
theorem safe_attempt {name : String} {first : Option Exc}
    (h : SafeTriple (lifeView graceMs) P p (fun _ => R none) fun e => R (some e)) :
    SafeTriple (lifeView graceMs) P (attempt name p first)
      (fun first' s => ∃ e, first' = first.or e ∧ R e s) E := by
  refine SafeTriple.tryCatch (E := fun e => R (some e)) (h.bind fun _ => ?_) fun e => ?_
  · exact fun _ hs => ⟨none, (Option.or_none ..).symm, hs⟩
  · refine SafeTriple.bind (Q := fun _ => R (some e))
      (Contract.perform_now rfl fun s _ hs => ⟨trivial, ?_⟩) fun _ s hs => ⟨some e, rfl, hs⟩
    rintro r s' ⟨rfl, rfl⟩
    exact hs

/-- An operation that records a step. -/
theorem safe_record (o : Op) {name : LifespanStep} {before : List (LifespanStep × Option Exc)}
    (hsuspends : o.suspends = true)
    (hstep : ∀ s r s', step () s o r s' → s' = s.record name (Process.raised r))
    (hgate : ∀ s, s.steps = before → P s → gate graceMs s o)
    (hP : ∀ s s', Rely s s' → P s → P s') :
    SafeTriple (lifeView graceMs) (fun s => s.steps = before ∧ P s) (perform o)
      (fun _ s => s.steps = before ++ [(name, none)])
      fun e s => s.steps = before ++ [(name, some e)] := by
  refine Contract.perform_await hsuspends fun s s₁ _ hs hrely => ?_
  have hsteps : s₁.steps = before := hrely.steps.trans hs.1
  refine ⟨hgate s₁ hsteps (hP s s₁ hrely hs.2), fun r s' hr => ?_⟩
  obtain rfl := hstep s₁ r s' hr
  cases r with
  | ok value => exact congrArg (· ++ [(name, none)]) hsteps
  | error e => exact congrArg (· ++ [(name, some e)]) hsteps

/-- The callbacks of the exit stack are attempted, one after the other. -/
theorem safe_closeResources {before : List (LifespanStep × Option Exc)} {first : Option Exc}
    (hbefore : before.map (·.1) = [.probe] ∨
      before.map (·.1) = [.probe, .serve, .shutdownTrigger, .queryDrain]) :
    SafeTriple (lifeView graceMs) (fun s => s.steps = before) (closeResources first)
      (fun first' s => ∃ x y, s.steps = before ++ [(.queryExecutor, x), (.catalog, y)] ∧
        first' = (first.or x).or y) E := by
  refine SafeTriple.bind
    (Q := fun first' s => ∃ x, first' = first.or x ∧ s.steps = before ++ [(.queryExecutor, x)])
    (safe_attempt ?_) fun first' => ?_
  · refine (safe_record .closeExecutor (P := fun _ => True) rfl (fun _ _ _ h => h)
      (fun s hs _ => ?_) fun _ _ _ h => h).weaken_pre fun s hs => ⟨hs, trivial⟩
    show s.names = _ ∨ s.names = _
    rw [Process.names, hs]
    exact hbefore
  · refine SafeTriple.of_exists fun x => SafeTriple.of_fact fun hfirst => ?_
    have hcatalog : SafeTriple (lifeView graceMs)
        (fun s => s.steps = before ++ [(.queryExecutor, x)]) (perform .closeCatalog)
        (fun _ s => s.steps = before ++ [(.queryExecutor, x), (.catalog, none)])
        fun e s => s.steps = before ++ [(.queryExecutor, x), (.catalog, some e)] := by
      refine (safe_record .closeCatalog (P := fun _ => True) rfl (fun _ _ _ h => h)
        (fun s hs _ => ?_) fun _ _ _ h => h).conseq (fun s hs => ⟨hs, trivial⟩)
        (fun _ s hs => ?_) fun e s hs => ?_
      · show s.names = _ ∨ s.names = _
        rw [Process.names, hs, List.map_append]
        rcases hbefore with h | h
        · exact .inl (by rw [h]; rfl)
        · exact .inr (by rw [h]; rfl)
      · rw [hs, List.append_assoc]
        rfl
      · rw [hs, List.append_assoc]
        rfl
    refine (safe_attempt
      (R := fun y s => s.steps = before ++ [(.queryExecutor, x), (.catalog, y)])
      hcatalog).weaken_post fun first'' s hs => ?_
    obtain ⟨y, hy, hsteps⟩ := hs
    exact ⟨x, y, hsteps, by rw [hy, hfirst]⟩

/-- The trigger is called. -/
theorem safe_trigger {before : List (LifespanStep × Option Exc)} :
    SafeTriple (lifeView graceMs) (fun s => s.steps = before) (perform .trigger)
      (fun _ s => s.steps = before ++ [(.shutdownTrigger, none)] ∧ s.started = true) E := by
  refine Contract.perform_now rfl fun s _ hs => ⟨trivial, ?_⟩
  rintro r s' ⟨rfl, rfl⟩
  refine ⟨?_, trigger_started⟩
  rw [Process.record, trigger_steps, hs]

/-- Queries are drained for what is left of the grace. -/
theorem safe_drainQueries {before : List (LifespanStep × Option Exc)}
    (hbefore : before.map (·.1) = [.probe, .serve, .shutdownTrigger]) :
    SafeTriple (lifeView graceMs) (fun s => s.steps = before ∧ s.started = true) drainQueries
      (fun _ s => s.steps = before ++ [(.queryDrain, none)])
      fun e s => s.steps = before ++ [(.queryDrain, some e)] := by
  have hnames : ∀ s : Process, s.steps = before → s.names = [.probe, .serve, .shutdownTrigger] :=
    fun s hs => by rw [Process.names, hs, hbefore]
  refine SafeTriple.bind
    (Q := fun ms s => (s.steps = before ∧ s.started = true) ∧ ms = s.deadline.remainingMs s.clock)
    (Contract.perform_now rfl fun s hinv hs => ⟨hs.2, ?_⟩) fun ms => ?_
  · rintro r s' ⟨rfl, rfl⟩
    rw [hinv.start_eq hs.2]
    exact ⟨hs, rfl⟩
  refine SafeTriple.bind (Q := fun _ s => s.steps = before ∧ s.started = true)
    (Contract.perform_now rfl fun s hinv hs => ⟨?_, ?_⟩) fun _ => ?_
  · obtain ⟨⟨hsteps, hstarted⟩, rfl⟩ := hs
    obtain ⟨haccepting, hadmits, t, hbegan, ht, hdeadline⟩ := hinv.started hstarted
    have hgrace : s.deadline.graceMs = graceMs := hinv.grace
    rw [← hgrace] at hdeadline ⊢
    exact ⟨hnames s hsteps, haccepting, hadmits, ShutdownDeadline.remainingMs_le _ _, t, hbegan, ht,
      ShutdownDeadline.remainingMs_lt ht hdeadline⟩
  · rintro r s' ⟨rfl, rfl⟩
    exact hs.1
  · exact safe_record .drained rfl (fun _ _ _ h => h) (fun s hs hstarted => ⟨hnames s hs, hstarted⟩)
      fun _ _ h hstarted => h.started hstarted

/-- The end of a lifespan that served. -/
theorem ended_of_steps {served drained x y : Option Exc}
    (h : s.steps = [(.probe, none), (.serve, served), (.shutdownTrigger, none),
      (.queryDrain, drained), (.queryExecutor, x), (.catalog, y)]) :
    Ended (match served.or ((drained.or x).or y) with
      | some e => .error e
      | none => .ok ()) s := by
  refine ⟨?_, .inl (by rw [Process.names, h]; rfl)⟩
  rw [Process.outcome, h]
  cases served with
  | some e => rfl
  | none =>
    cases drained with
    | some e => rfl
    | none =>
      cases x with
      | some e => rfl
      | none => cases y <;> rfl

/-- The part of the lifespan that serves. -/
theorem safe_serve :
    SafeTriple (lifeView graceMs) (fun s => s.steps = [(.probe, none)]) serve
      (fun a s => Ended (.ok a) s) fun e s => Ended (.error e) s := by
  refine SafeTriple.bind
    (Q := fun served s => s.steps = [(.probe, none), (.serve, served)]) (safe_observe ?_)
    fun served => ?_
  · refine (safe_record .serve (P := fun _ => True) rfl (fun _ _ _ h => h)
      (fun s hs _ => ?_) fun _ _ _ h => h).weaken_pre fun s hs => ⟨hs, trivial⟩
    show s.names = [.probe]
    rw [Process.names, hs]
    rfl
  refine SafeTriple.bind
    (Q := fun first s => first = none ∧
      s.steps = [(.probe, none), (.serve, served), (.shutdownTrigger, none)] ∧ s.started = true)
    ((safe_attempt (R := fun e s => e = none ∧
      s.steps = [(.probe, none), (.serve, served), (.shutdownTrigger, none)] ∧ s.started = true)
      (safe_trigger.weaken_post fun _ s hs => ⟨rfl, hs⟩)).weaken_post ?_) fun first => ?_
  · rintro first s ⟨e, rfl, rfl, hs⟩
    exact ⟨rfl, hs⟩
  refine SafeTriple.of_fact fun hfirst => ?_
  refine SafeTriple.bind (safe_attempt (R := fun e s => s.steps =
    [(.probe, none), (.serve, served), (.shutdownTrigger, none)] ++ [(.queryDrain, e)])
    (safe_drainQueries rfl)) fun first' => ?_
  refine SafeTriple.of_exists fun drained => SafeTriple.of_fact fun hfirst' => ?_
  refine SafeTriple.bind (safe_closeResources (.inr rfl)) fun last => ?_
  refine SafeTriple.of_exists fun x => SafeTriple.of_exists fun y s hs => ?_
  obtain ⟨hsteps, hlast⟩ := hs
  have hended := ended_of_steps hsteps
  rw [hfirst, Option.none_or] at hfirst'
  rw [← hfirst', ← hlast] at hended
  cases served with
  | some e => exact hended
  | none => cases last <;> exact hended

/-- The lifespan. -/
theorem meets_lifespan :
    SafeTriple (lifeView graceMs) (fun _ => True) lifespan (fun a s => Ended (.ok a) s)
      fun e s => Ended (.error e) s := by
  refine SafeTriple.bind (Q := fun probed s => s.steps = [(.probe, probed)]) (safe_observe ?_)
    fun probed => ?_
  · refine Contract.perform_await rfl fun s s₁ _ _ _ => ⟨trivial, fun r s' hr => ?_⟩
    obtain rfl : s' = _ := hr
    cases r with
    | ok value => rfl
    | error e => rfl
  cases probed with
  | none => exact safe_serve
  | some e =>
    refine SafeTriple.bind (safe_closeResources (.inl rfl)) fun last => ?_
    refine SafeTriple.of_exists fun x => SafeTriple.of_exists fun y s hs => ?_
    show Ended (.error e) s
    obtain ⟨hsteps, -⟩ := hs
    refine ⟨?_, .inr ⟨?_, e, ?_⟩⟩
    · rw [Process.outcome, hsteps]
      rfl
    · rw [Process.names, hsteps]
      rfl
    · rw [hsteps]
      exact List.mem_cons_self

/-- The contract has its laws. -/
theorem lawful : (contract graceMs).Lawful where
  rely_refl := fun _ s => .refl s
  rely_trans := fun _ _ _ _ h h' => h.trans h'
  guarantee := fun i _ _ _ _ hinv hgate hstep =>
    ⟨guarantee hinv hgate hstep, fun j hne => absurd (Subsingleton.elim j i) hne⟩
  env_guarantee := fun _ _ hinv hstep =>
    ⟨(env_guarantee hinv hstep).1, fun _ => (env_guarantee hinv hstep).2⟩
  idle_stable := fun _ _ _ _ _ => trivial
  meets := by
    rintro i p s rfl _ _
    exact meets_lifespan s trivial
  idle_of_returned := fun _ _ _ _ => trivial
  idle_of_raised := fun _ _ _ _ => trivial

theorem processInv_initial {clock : ℚ} : ProcessInv graceMs (.initial graceMs clock) where
  grace := rfl
  started := nofun
  waiting := fun _ => rfl

end

/-! ## Shutdown -/

/-- A configuration of the process. -/
abbrev Running : Type :=
  Config Process (fun _ : Unit => Ret) Exc fun _ => Unit

/-- What holds of a process at any time. -/
structure Orderly (graceMs : Nat) (c : Running) : Prop where
  /-- once the trigger was called, nothing is accepted, and the deadline is that of the first call
  -/
  triggered : c.shared.started = true → c.shared.accepting = false ∧ c.shared.admits = false ∧
    ∃ t, c.shared.began = some t ∧ t ≤ c.shared.clock ∧
      c.shared.deadline.deadline = some (ShutdownDeadline.after t graceMs)
  /-- the steps follow each other, and queries are drained for what is left of the grace -/
  gate : ∀ i o k, c.tasks i = some (.call o k) → gate graceMs c.shared o
  /-- every cleanup step was attempted once, and the first exception is raised -/
  ended : ∀ i r, c.turn = some i → c.tasks i = some (.done r) → Ended r c.shared

/-- **Shutdown is orderly**, whenever signals arrive and whatever fails or is cancelled. -/
theorem lifespan_orderly {graceMs : Nat} {clock : ℚ} {c : Running}
    (h : system.Reachable (.initial graceMs clock) c) : Orderly graceMs c := by
  have hkept : (contract graceMs).Kept c :=
    Contract.kept lawful processInv_initial (fun _ => trivial) h
  have hinv : ProcessInv graceMs c.shared := hkept.inv
  refine ⟨hinv.started, fun i o k htask => (hkept.act lawful htask).1, fun i r hturn htask => ?_⟩
  have hpost := hkept.finish hturn htask
  cases r with
  | ok a => exact hpost
  | error e => exact hpost

/-! ### A signal while the process serves -/

/-- The probe has answered. -/
def probed : Process :=
  { Process.initial 10000 0 with steps := [(.probe, none)] }

/-- A signal has called the trigger, and four seconds have passed. -/
def signalled : Process :=
  { probed.trigger with clock := 4 }

/-- The server has ended, and the lifespan has called the trigger as well. -/
def triggered : Process :=
  (signalled.record .serve none).trigger.record .shutdownTrigger none

/-- The queries are drained. -/
def drained : Process :=
  triggered.record .queryDrain none

/-- The query executor could not be closed, and the catalog could. -/
def closed : Process :=
  (drained.record .queryExecutor (some .other)).record .catalog none

theorem remainingMs_triggered : triggered.deadline.remainingMs triggered.clock = 6000 := by
  decide +kernel

theorem start_triggered :
    { triggered with deadline := triggered.deadline.start triggered.clock } = triggered := by
  have hprobed : ProcessInv 10000 probed := processInv_initial.setSteps _
  have hsignalled : ProcessInv 10000 signalled :=
    (env_guarantee hprobed.trigger (.inr ⟨4, by decide, rfl⟩)).1
  have htriggered : ProcessInv 10000 triggered := (hsignalled.setSteps _).trigger.setSteps _
  exact htriggered.start_eq trigger_started

/-- From the end of the server to the drain, and from there to the end. -/
theorem solo_drain : ∃ k, system.Solo () signalled serve triggered (.call (.drain 6000) k) ∧
    system.Solo () triggered (.call (.drain 6000) k) closed (.done (.error .other)) := by
  have hremaining : step () triggered .remainingMs (.ok (6000 : Nat)) triggered :=
    ⟨congrArg Except.ok remainingMs_triggered.symm, start_triggered.symm⟩
  refine ⟨_, .act (r := .ok ()) rfl (.act (r := .ok ()) ⟨rfl, rfl⟩ (.act hremaining (.refl ..))),
    ?_⟩
  refine .act (r := .ok ()) ⟨rfl, rfl⟩ (.act (r := .ok ()) rfl ?_)
  refine .act (r := .error .other) rfl (.act (r := .ok ()) ⟨rfl, rfl⟩ ?_)
  exact .act (r := .ok ()) rfl (.refl ..)

/-- The lifespan waits for the end of the server. -/
def serving : Running :=
  { system.put ⟨.initial 10000 0, fun _ => none, none⟩ () probed serve with shared := signalled }

theorem reachable_serving : system.Reachable (.initial 10000 0) serving := by
  have hstart : system.Solo () (.initial 10000 0) lifespan probed serve :=
    .act (r := .ok ()) rfl (.refl ..)
  have hserves := System.Reachable.initial.soloStart (S := system) rfl rfl rfl hstart
  exact (hserves.move rfl (.inl rfl)).move rfl (.inr ⟨4, by decide, rfl⟩)

/-- The lifespan drains for the six seconds that are left, and ends with the exception of the query
executor. -/
theorem lifespan_orderly_signal : ∃ c c' : Running,
    ((∃ k, c.tasks () = some (.call (.drain 6000) k)) ∧ Orderly 10000 c) ∧
    c'.turn = some () ∧ c'.tasks () = some (.done (.error .other)) ∧
    c'.shared.steps = [(.probe, none), (.serve, none), (.shutdownTrigger, none),
      (.queryDrain, none), (.queryExecutor, some .other), (.catalog, none)] ∧
    Orderly 10000 c' := by
  obtain ⟨k, hdrain, hend⟩ := solo_drain
  have hserves : serving.tasks () = some serve := rfl
  have hdrains := reachable_serving.resume rfl hserves rfl hdrain
  exact ⟨_, _, ⟨⟨k, System.put_self⟩, lifespan_orderly hdrains⟩, rfl, System.put_self, rfl,
    lifespan_orderly (hdrains.solo hend)⟩

end QueryMan.Lifespan

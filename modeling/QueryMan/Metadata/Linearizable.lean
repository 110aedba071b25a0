import QueryMan.Metadata.CallSequences

/-!
# Linearizability

The sections of a source, without those that were cancelled, replayed one after the other from the
initial state: every section makes the same history and ends in the same way, since a cancelled
section leaves what the later ones read, up to the clock (`SourceState.SameCore`). Cancelled calls
that still waited for the lock have no section at all.
-/

namespace QueryMan

open Coro MetadataService ServiceTasks

variable {ι : Type} {service : MetadataService} {parser : SqlParser} {source : SourceProfile}
  {s s' t : SourceState} {records : List (SectionRecord ι)} {record : SectionRecord ι}

/-! ## What a later section can see -/

/-- `t` differs from `s` at most by an earlier reading of the clock, and in the record of the
refreshes. -/
structure SourceState.SameCore (s t : SourceState) : Prop where
  cache : t.cache = s.cache
  entries : t.entries = s.entries
  signatures : t.signatures = s.signatures
  health : t.health = s.health
  loads : t.loads = s.loads
  hashed : t.hashed = s.hashed
  clock : ∀ earlier ∈ t.now, ∃ now ∈ s.now, earlier ≤ now

theorem SourceState.SameCore.refl (s : SourceState) : s.SameCore s :=
  ⟨rfl, rfl, rfl, rfl, rfl, rfl, fun now h => ⟨now, h, le_rfl⟩⟩

theorem SourceState.SameCore.ticks (h : s.SameCore t) {now : Int} (hticks : s.Ticks now) :
    t.Ticks now := by
  intro earlier hearlier
  obtain ⟨before, hbefore, hle⟩ := h.clock earlier hearlier
  exact hle.trans (hticks before hbefore)

/-- One operation: what a state answers, a state with the same core answers too. -/
theorem sameCore_step (s t : SourceState) (o : SectionOp)
    (answer : Except ServiceExc (SectionRet o))
    (h : s.SameCore t) (hallowed : service.sectionWorld.allowed s o answer) :
    service.sectionWorld.allowed t o answer ∧
      (service.sectionWorld.next s o answer).SameCore (service.sectionWorld.next t o answer) := by
  cases answer with
  | error e =>
    cases o with
    | catalog o => exact ⟨hallowed, h⟩
    | _ => exact hallowed.elim
  | ok a =>
    cases o with
    | catalog o => exact ⟨hallowed, h⟩
    | cacheGet => exact ⟨Eq.trans hallowed h.cache.symm, h⟩
    | now => exact ⟨h.ticks hallowed, { h with clock := fun now hnow => ⟨now, hnow, le_rfl⟩ }⟩
    | setSourceHealth status => exact ⟨trivial, { h with health := rfl }⟩
    | increment name => exact ⟨trivial, h⟩
    | cachePop => exact ⟨trivial, { h with cache := rfl }⟩
    | setNextRefreshAt entry time =>
      exact ⟨trivial, { h with cache := congrArg (setNextRefreshAt · entry time) h.cache }⟩
    | acceptedSignature version =>
      exact ⟨Eq.trans hallowed (congrFun h.signatures version).symm, h⟩
    | setSignature version signature =>
      have hupdated : Function.update t.signatures version (some signature) =
          Function.update s.signatures version (some signature) := by rw [h.signatures]
      exact ⟨trivial, { h with signatures := hupdated }⟩
    | storeEntry entry =>
      exact ⟨trivial, { h with
        cache := congrArg (fun n => some (n, entry)) h.entries
        entries := congrArg (· + 1) h.entries
        loads := congrArg (· ++ [(entry.value, entry.loadedAt)]) h.loads }⟩
    | sha256 text => exact ⟨hallowed, { h with hashed := congrArg (· ++ [text]) h.hashed }⟩
    | refreshEnded outcome => exact ⟨trivial, { h with cache := h.cache }⟩

/-! ## Replaying the sections -/

/-- The section was not cancelled. -/
def SectionRecord.completed (record : SectionRecord ι) : Bool :=
  match record.result with
  | .ok _ => true
  | .error e => !e.isCancelled

theorem SectionRecord.isCancelled_of_not_completed {e : ServiceExc}
    (hresult : record.result = .error e)
    (h : record.completed = false) : e.isCancelled = true := by
  rw [completed, hresult] at h
  exact Bool.not_not_eq.1 (ne_true_of_eq_false h)

/-- The same section, replayed: the same task, the same operations with the same answers, and the
same result. -/
structure Replayed (record replay : SectionRecord ι) : Prop where
  task : replay.task = record.task
  history : replay.history = record.history
  result : replay.result = record.result
  before : record.before.SameCore replay.before
  after : record.after.SameCore replay.after

/-- A section that is cancelled leaves everything but the clock and the record of the refreshes. -/
theorem sameCore_of_cancelled {e : ServiceExc} (hcancelled : e.isCancelled = true)
    (h : service.SectionStep source s s' (.error e)) :
    s'.SameCore s := by
  cases h with
  | @cancelled _ now hnow =>
    exact ⟨rfl, rfl, rfl, rfl, rfl, rfl, fun earlier hearlier => ⟨now, rfl, hnow earlier hearlier⟩⟩
  | _ => cases hcancelled

theorem SourceState.SameCore.trans {u : SourceState} (h : s.SameCore t) (h' : t.SameCore u) :
    s.SameCore u where
  cache := h'.cache.trans h.cache
  entries := h'.entries.trans h.entries
  signatures := h'.signatures.trans h.signatures
  health := h'.health.trans h.health
  loads := h'.loads.trans h.loads
  hashed := h'.hashed.trans h.hashed
  clock := fun earlier hearlier => by
    obtain ⟨now, hnow, hle⟩ := h'.clock earlier hearlier
    obtain ⟨later, hlater, hle'⟩ := h.clock now hnow
    exact ⟨later, hlater, hle.trans hle'⟩

/-- A section can be replayed from a state with the same core. -/
theorem SectionRecord.Sound.replay (h : record.Sound service source)
    (hcore : record.before.SameCore t) :
    ∃ replay : SectionRecord ι, replay.before = t ∧ replay.Sound service source ∧
      Replayed record replay := by
  obtain ⟨after, hallows, hafter⟩ := h.allows.simulate sameCore_step hcore
  exact ⟨⟨record.task, t, record.history, record.result, after⟩, rfl, ⟨h.makes, hallows⟩,
    rfl, rfl, rfl, hcore, hafter⟩

/-- **The sections that were not cancelled are a sequential execution**, in the order of all
sections. -/
theorem Sections.sequential (h : Sections service source records s) :
    ∃ replays t, Sections service source replays t ∧
      List.Forall₂ Replayed (records.filter (·.completed)) replays ∧ s.SameCore t := by
  induction h with
  | nil => exact ⟨[], .initial, .nil, .nil, .refl _⟩
  | @concat records record _ hsound ih =>
    obtain ⟨replays, t, hsections, hreplays, hcore⟩ := ih
    rw [List.filter_append]
    cases hcompleted : record.completed with
    | true =>
      obtain ⟨replay, rfl, hreplay, hreplayed⟩ := hsound.replay hcore
      refine ⟨replays ++ [replay], replay.after, .concat hsections hreplay, ?_, hreplayed.after⟩
      rw [List.filter_cons_of_pos hcompleted, List.filter_nil]
      exact List.rel_append hreplays (.cons hreplayed .nil)
    | false =>
      refine ⟨replays, t, hsections, ?_, ?_⟩
      · rwa [List.filter_cons_of_neg (Bool.eq_false_iff.1 hcompleted), List.filter_nil,
          List.append_nil]
      · obtain ⟨task, before, history, result, after⟩ := record
        cases result with
        | ok value => cases hcompleted
        | error e =>
          have hcancelled := SectionRecord.isCancelled_of_not_completed rfl hcompleted
          exact (sameCore_of_cancelled hcancelled hsound.step).trans hcore

/-! ## The calls -/

/-- How the calls of a source stand to each other. -/
structure Linearizable (service : MetadataService) (source : SourceProfile) (c : Calls)
    (sourceId : String) : Prop where
  /-- at most one call is in its section, and with it in a load of the catalog -/
  exclusive : ∀ i j lock lock' o o' k k',
    c.tasks i = some (.call (.inSection sourceId lock o) k) →
      c.tasks j = some (.call (.inSection sourceId lock' o') k') → i = j
  /-- each call has the lock at most once, and the sections have its order -/
  order : (c.shared.acquired sourceId).Nodup ∧
    (c.shared.sections sourceId).map (·.task) <+: c.shared.acquired sourceId
  /-- a call that is cancelled in its section leaves what the others see -/
  cancelled : ∀ record ∈ c.shared.sections sourceId, record.completed = false →
    record.after.SameCore record.before
  /-- the others replay without it, one after the other, with the same results -/
  sequential : ∃ replays t, Sections service source replays t ∧
    List.Forall₂ Replayed ((c.shared.sections sourceId).filter (·.completed)) replays ∧
      (c.shared.settled sourceId).SameCore t
  /-- the calls answer from their own sections, or were cancelled before they had one -/
  context : ∀ n r, Ends c (.context n sourceId) r →
    AnswersFrom c sourceId (.context n sourceId) (contextAnswer service source) r
  published : ∀ n r, Ends c (.published n sourceId) r →
    AnswersFrom c sourceId (.published n sourceId) publishedAnswer r

/-- **Concurrent metadata requests are linearizable**, in every configuration that the calls of a
service can reach: the calls of a source have its lock one after the other, a cancelled call leaves
nothing behind, and the others answer as in a sequential execution in the order of the lock. -/
theorem requests_linearizable {c : Calls} {sourceId : String} (h : Reachable service parser c)
    (hsource : service.registry.get sourceId = some source) :
    Linearizable service source c sourceId := by
  have hsections := sections_of_reachable h hsource
  have hinv := inv_of_reachable h
  refine ⟨fun i j lock lock' o o' k k' hi hj => ?_, ⟨hinv.nodup sourceId, ?_⟩,
    fun record hmem hcompleted => ?_, hsections.sequential, fun _ _ => context_answers h hsource,
    fun _ _ => published_answers h hsource⟩
  · obtain ⟨holder, hholds, rfl⟩ := gate_of_reachable h hi
    obtain ⟨holder', hholds', rfl⟩ := gate_of_reachable h hj
    obtain rfl := Option.some.inj (hholds.isLock.symm.trans hholds'.isLock)
    rw [Option.some.inj (hholds.holder.symm.trans hholds'.holder)]
  · rw [hinv.acquired]
    exact List.prefix_append ..
  · obtain ⟨-, -, -, hsound, -⟩ := hsections.of_mem hmem
    obtain ⟨task, before, history, result, after⟩ := record
    cases result with
    | ok value => cases hcompleted
    | error e =>
      exact sameCore_of_cancelled
        (SectionRecord.isCancelled_of_not_completed rfl hcompleted) hsound.step

/-- A call is in its section after another was cancelled in its own, while a third waits for the
lock; later the call that waited answers, and in another run a call that waits is cancelled. -/
theorem requests_linearizable_waiting : ∃ (c c' c'' : Calls) (lock : Nat) (k : _)
    (cancelled : SectionRecord TaskId),
    (Reachable Demo.service Demo.parser c ∧
      c.tasks (.published 4 "demo") = some (.call (.inSection "demo" lock .cacheGet) k) ∧
      c.tasks (.context 3 "demo") = some (callFromLock Demo.service Demo.parser DottedView.source
        lock (.context 3 "demo")) ∧
      cancelled ∈ c.shared.sections "demo" ∧ cancelled.completed = false ∧
      cancelled.after.SameCore cancelled.before ∧
      Linearizable Demo.service DottedView.source c "demo") ∧
    (Reachable Demo.service Demo.parser c' ∧
      (∃ response, Ends c' (.context 3 "demo") (.ok response)) ∧
      ((c'.shared.sections "demo").filter (·.completed)).length = 4 ∧
      Linearizable Demo.service DottedView.source c' "demo") ∧
    Reachable Demo.service Demo.parser c'' ∧
      (∃ e, Ends c'' (.published 4 "demo") (.error e) ∧ e.isCancelled = true) ∧
      Linearizable Demo.service DottedView.source c'' "demo" := by
  obtain ⟨d⟩ := Demo.histories
  obtain ⟨c, lock, k, h, hsections, hloads, hwaits⟩ := d.loading
  obtain ⟨c', h', hrest', hends'⟩ := d.stale
  obtain ⟨c'', h'', -, hends''⟩ := d.waiting
  have hlinear : Linearizable Demo.service DottedView.source c "demo" :=
    requests_linearizable h Demo.registered
  have hcancelled : d.cancelled.record (.published 2 "demo") ∈ c.shared.sections "demo" := by
    rw [hsections]
    exact List.mem_of_mem_getLast? rfl
  refine ⟨c, c', c'', lock, k, _, ⟨h, hloads, hwaits, hcancelled, rfl,
    hlinear.cancelled _ hcancelled rfl, hlinear⟩, ⟨h', ⟨_, hends'⟩, ?_,
    requests_linearizable h' Demo.registered⟩, h'', ⟨_, hends'', rfl⟩,
    requests_linearizable h'' Demo.registered⟩
  rw [hrest'.sections]
  rfl

end QueryMan

import CorazaOperator.System.Watches
import CorazaOperator.System.PassRules

/-!
# The manager

The controller as controller-runtime's manager runs it: the API server's store, the work queue the
watches feed, the delayed adds of the rate limiter, a clock, and one worker, the default number.
The worker takes the first key in line, runs a `Reconcile` pass for it call by call, and when the
pass returns hands its outcome to `reconcileHandler`: an error or a requeue adds the key again after
the rate limiter's delay, anything else forgets the key's failures; then the key is `Done`. Every
write, the pass's or another client's, is seen by the watches, which enqueue the keys
`SetupWithManager` maps it to. Calls may fail, other clients write between any two steps, delayed
adds come due when the clock reaches them, and time passes.

Three results connect this to what is proved elsewhere:

* `Reachable.world`: every run of the manager is a run of the `World` of the interleaved results,
  one world step or none for each manager step. Every invariant of those results holds here.
* `step_enqueues_watched_change`: a step that changes what the watches look at of the inputs of a
  pass for a key, whoever makes it, leaves the key in line.
* `reachable_reconciled`: a stored policy that is neither in line nor waiting for a retry has kept,
  step by step, what the watches look at of its inputs since its last pass started. A change the
  watches see is never lost.

The work queue keeps `workqueue.Typed`'s invariant over whole runs, with the worker's key the only
one being processed (`Reachable.queueInv`).
-/

namespace CorazaOperator

open Controller Workqueue Handler

/-- The manager: the store, the work queue, the delayed adds, the rate limiter, the clock in
nanoseconds, and the pass the worker is running with its key and history. -/
structure Manager where
  store : Store
  queue : Queue ObjectKey
  waiting : Waiting ObjectKey
  limiter : ExponentialFailureRateLimiter ObjectKey
  clock : Nat
  pass : Option (ObjectKey × Prog (Result × Option ReconcileError) × List Event)

namespace Manager

/-- `metav1.Now()` in the seconds a condition keeps. -/
def now (m : Manager) : Time := m.clock / 1000000000

/-- What `reconcileHandler` does with the key: forget its failures, or add it again after the rate
limiter's delay, at once when the delay is zero. -/
def requeue (m : Manager) (key : ObjectKey) : Requeue → Manager
  | .forget => { m with limiter := m.limiter.forget key }
  | .rateLimited =>
    if (m.limiter.when key).1 = 0 then
      { m with limiter := (m.limiter.when key).2, queue := m.queue.add key }
    else
      { m with
        limiter := (m.limiter.when key).2
        waiting := insert m.waiting key (m.clock + (m.limiter.when key).1) }

/-- `Done`: the key is no longer processed, and the worker is free. -/
def done (m : Manager) (key : ObjectKey) : Manager :=
  { m with queue := m.queue.done key, pass := none }

/-- The worker's handling of the outcome of the pass for `key`. -/
def finish (m : Manager) (key : ObjectKey) (outcome : Result × Option ReconcileError) : Manager :=
  (m.requeue key (reconcileHandler outcome.1.requeue outcome.2)).done key

/-- The world of the interleaved results the manager is: its store and its pass. -/
def world (m : Manager) : World (Result × Option ReconcileError) :=
  ⟨m.store, m.pass.map fun p => p.2⟩

variable (cfg : WAFPolicyTranslatorConfig) (Foreign : Call → Prop)

/-- One move of the manager or of its environment. -/
inductive Step : Manager → Manager → Prop
  /-- The worker is free and takes the first key in line: a pass for it starts. -/
  | get {m : Manager} {key : ObjectKey} {q : Queue ObjectKey} (hfree : m.pass = none)
      (hget : m.queue.get = some (key, q)) :
      Step m { m with queue := q, pass := some (key, reconcile cfg m.now key, []) }
  /-- The pass makes its next call and the server answers it; the watches enqueue what the
  change asks for, with `list` the cache's listing of policies. -/
  | call {m : Manager} {key : ObjectKey} {c : Call} {k : c.Reply → Prog (Result × Option ReconcileError)}
      {σ : List Event} {list : String → Except ApiError (List WAFPolicy)}
      (hpass : m.pass = some (key, .call c k, σ)) (hlist : (m.store.exec c).2.Lists list) :
      Step m { m with
        store := (m.store.exec c).2
        queue := m.queue.addAll (m.store.enqueued list c)
        pass := some (key, k (m.store.exec c).1, ⟨c, (m.store.exec c).1⟩ :: σ) }
  /-- The pass makes its next call and gets an error; nothing is written. -/
  | fail {m : Manager} {key : ObjectKey} {c : Call} {k : c.Reply → Prog (Result × Option ReconcileError)}
      {σ : List Event} (hpass : m.pass = some (key, .call c k, σ)) (err : ApiError) :
      Step m { m with pass := some (key, k (.error err), ⟨c, .error err⟩ :: σ) }
  /-- The pass returns its outcome. -/
  | finish {m : Manager} {key : ObjectKey} {outcome : Result × Option ReconcileError}
      {σ : List Event} (hpass : m.pass = some (key, .ret outcome, σ)) :
      Step m (m.finish key outcome)
  /-- A delayed add comes due. -/
  | ready {m : Manager} {key : ObjectKey} {readyAt : Nat} (hmem : (key, readyAt) ∈ m.waiting)
      (hdue : readyAt ≤ m.clock) :
      Step m { m with waiting := m.waiting.erase (key, readyAt), queue := m.queue.add key }
  /-- Time passes. -/
  | tick {m : Manager} (d : Nat) : Step m { m with clock := m.clock + d }
  /-- Another client writes; the watches enqueue what the change asks for. -/
  | foreign {m : Manager} {c : Call} {list : String → Except ApiError (List WAFPolicy)} (hc : Foreign c)
      (hlist : (m.store.exec c).2.Lists list) :
      Step m { m with
        store := (m.store.exec c).2
        queue := m.queue.addAll (m.store.enqueued list c) }

/-- The manager states reachable from `init`. -/
inductive Reachable (init : Manager) : Manager → Prop
  | refl : Reachable init init
  | tail {m m' : Manager} : Reachable init m → Step cfg Foreign m m' → Reachable init m'

/-- `m'` is reached from `m` by steps none of which changes what the watches look at of the inputs
of a pass for `key`. -/
inductive Steady (key : ObjectKey) : Manager → Manager → Prop
  | refl {m : Manager} : Steady key m m
  | tail {m m' m'' : Manager} : Steady key m m' → Step cfg Foreign m' m'' →
      m''.store.watched key = m'.store.watched key → Steady key m m''

variable {cfg Foreign}

@[simp] theorem requeue_store (m : Manager) (key : ObjectKey) (r : Requeue) :
    (m.requeue key r).store = m.store := by
  cases r
  · unfold requeue; split_ifs <;> rfl
  · rfl

@[simp] theorem finish_store (m : Manager) (key : ObjectKey) (outcome : Result × Option ReconcileError) :
    (m.finish key outcome).store = m.store :=
  requeue_store m key _

@[simp] theorem finish_pass (m : Manager) (key : ObjectKey) (outcome : Result × Option ReconcileError) :
    (m.finish key outcome).pass = none := rfl

theorem Step.mono {F G : Call → Prop} (hFG : ∀ c, F c → G c) {m m' : Manager}
    (h : Step cfg F m m') : Step cfg G m m' := by
  cases h with
  | get hfree hget => exact .get hfree hget
  | call hpass hlist => exact .call hpass hlist
  | fail hpass err => exact .fail hpass err
  | finish hpass => exact .finish hpass
  | ready hmem hdue => exact .ready hmem hdue
  | tick d => exact .tick d
  | foreign hc hlist => exact .foreign (hFG _ hc) hlist

/-! ### The manager is a schedule of the world -/

theorem Step.world {m m' : Manager} (h : Step cfg Foreign m m') :
    World.Step (ReconcileStarts cfg) Foreign m.world m'.world ∨ m'.world = m.world := by
  cases h with
  | get hfree =>
    refine .inl ?_
    simp only [Manager.world, hfree, Option.map_none', Option.map_some']
    exact .start ⟨_, _, rfl⟩
  | call hpass =>
    refine .inl ?_
    simp only [Manager.world, hpass, Option.map_some']
    exact .call
  | fail hpass err =>
    refine .inl ?_
    simp only [Manager.world, hpass, Option.map_some']
    exact .fail err
  | finish hpass =>
    refine .inl ?_
    simp only [Manager.world, hpass, finish_store, finish_pass, Option.map_some', Option.map_none']
    exact .finish
  | ready => exact .inr rfl
  | tick => exact .inr rfl
  | foreign hc => exact .inl (.foreign hc)

/-- Every run of the manager is a run of the world: whatever the world's results say of every
reachable world holds of every state the manager reaches. -/
theorem Reachable.world {init m : Manager} (h : Reachable cfg Foreign init m) :
    World.Reachable (ReconcileStarts cfg) Foreign init.world m.world := by
  induction h with
  | refl => exact .refl
  | tail _ hstep ih =>
    rcases hstep.world with hw | hw
    · exact ih.tail hw
    · exact hw ▸ ih

theorem Reachable.wellFormed {init m : Manager} (h : Reachable cfg Foreign init m)
    (hinit : init.store.WellFormed) : m.store.WellFormed :=
  h.world.wellFormed hinit

theorem Step.namespaced {m m' : Manager} (h : Step cfg Foreign m m') :
    m'.store.namespaced = m.store.namespaced := by
  cases h <;> first | rfl | exact Store.exec_namespaced _ _ | exact congrArg Store.namespaced (finish_store _ _ _)

theorem Reachable.namespaced {init m : Manager} (h : Reachable cfg Foreign init m) :
    m.store.namespaced = init.store.namespaced := by
  induction h with
  | refl => rfl
  | tail _ hstep ih => exact hstep.namespaced.trans ih

/-! ### What the pass in progress keeps -/

/-- The pass in progress for a key keeps the promise `WP (A key) · · (Q key)` of its code, for every
reply still to come. -/
def Disciplined (A : ObjectKey → List Event → Call → Prop)
    (Q : ObjectKey → Result × Option ReconcileError → List Event → Prop := fun _ _ _ => True)
    (m : Manager) : Prop :=
  ∀ key p σ, m.pass = some (key, p, σ) → Prog.WP (A key) p σ (Q key)

theorem Step.disciplined {A : ObjectKey → List Event → Call → Prop}
    {Q : ObjectKey → Result × Option ReconcileError → List Event → Prop}
    (hstart : ∀ now key, Prog.WP (A key) (reconcile cfg now key) [] (Q key))
    {m m' : Manager} (h : Step cfg Foreign m m') (hs : m.store.WellFormed) (hd : m.Disciplined A Q) :
    m'.Disciplined A Q := by
  cases h with
  | get => rintro _ _ _ ⟨⟩; exact hstart _ _
  | call hpass => rintro _ _ _ ⟨⟩; exact (hd _ _ _ hpass).2 _ (hs.exec_consistent _)
  | fail hpass err => rintro _ _ _ ⟨⟩; exact (hd _ _ _ hpass).2 _ (Call.consistent_error _ err)
  | finish => rintro _ _ _ ⟨⟩
  | ready => exact hd
  | tick => exact hd
  | foreign => exact hd

/-- A pass started from code that keeps `WP (A key) · · (Q key)` for its key keeps it in every state
the manager reaches. -/
theorem Reachable.disciplined {A : ObjectKey → List Event → Call → Prop}
    {Q : ObjectKey → Result × Option ReconcileError → List Event → Prop}
    (hstart : ∀ now key, Prog.WP (A key) (reconcile cfg now key) [] (Q key))
    {init m : Manager} (hinit : init.store.WellFormed) (hfree : init.pass = none)
    (h : Reachable cfg Foreign init m) : m.Disciplined A Q := by
  induction h with
  | refl => intro _ _ _ hpass; rw [hfree] at hpass; cases hpass
  | tail hm hstep ih => exact hstep.disciplined hstart (hm.wellFormed hinit) ih

/-! ### No watched change is lost -/

/-- The key is neither in line nor waiting for a retry. -/
def Quiet (m : Manager) (key : ObjectKey) : Prop :=
  key ∉ m.queue.dirty ∧ key ∉ m.waiting.map Prod.fst

theorem requeue_quiet_of_ne {m : Manager} {key key' : ObjectKey} (hne : key' ≠ key)
    (hquiet : m.Quiet key') (r : Requeue) : (m.requeue key r).Quiet key' := by
  obtain ⟨hdirty, hwaiting⟩ := hquiet
  cases r
  · unfold requeue
    split_ifs
    · exact ⟨by simp [hne, hdirty], hwaiting⟩
    · exact ⟨hdirty, fun h => ((mem_insert_keys _ _ _ _).mp h).elim hne hwaiting⟩
  · exact ⟨hdirty, hwaiting⟩

/-- The key is quiet, or it is the worker's and was not added since the worker took it. -/
def Tracked (m : Manager) (key : ObjectKey) : Prop :=
  m.Quiet key ∨ (m.pass.map Prod.fst = some key ∧ key ∉ m.queue.dirty)

variable (cfg Foreign) in
/-- Since the manager started, or since the pass for `key` started: the state `m₀` from which a
run reached `m` keeping, step by step, what the watches look at of the inputs of `key`. -/
def SteadySinceStart (init : Manager) (key : ObjectKey) (m : Manager) : Prop :=
  ∃ m₀, Reachable cfg Foreign init m₀ ∧
    (m₀ = init ∧ init.Tracked key ∨ ∃ now, m₀.pass = some (key, reconcile cfg now key, [])) ∧
    Steady cfg Foreign key m₀ m

theorem SteadySinceStart.tail {init m m' : Manager} {key : ObjectKey}
    (h : SteadySinceStart cfg Foreign init key m) (hstep : Step cfg Foreign m m')
    (hsame : m'.store.watched key = m.store.watched key) :
    SteadySinceStart cfg Foreign init key m' :=
  let ⟨m₀, hreach, hstart, hsteady⟩ := h
  ⟨m₀, hreach, hstart, hsteady.tail hstep hsame⟩

/-- Every step of the manager that changes what the watches look at of the inputs of a pass for
`key`, whoever makes it, leaves `key` in line. -/
theorem step_enqueues_watched_change {init m m' : Manager} (hinit : init.store.WellFormed)
    (hgateway : init.store.namespaced gatewayGVK = true)
    (hroute : init.store.namespaced httpRouteGVK = true) (hm : Reachable cfg Foreign init m)
    (hstep : Step cfg Foreign m m') {key : ObjectKey}
    (hne : m.store.watched key ≠ m'.store.watched key) : key ∈ m'.queue.dirty := by
  have hs := hm.wellFormed hinit
  have hgw : m.store.namespaced gatewayGVK = true := hm.namespaced ▸ hgateway
  have hrt : m.store.namespaced httpRouteGVK = true := hm.namespaced ▸ hroute
  cases hstep with
  | call _ hlist | foreign _ hlist =>
    exact (Queue.mem_addAll_dirty _ _ _).mpr
      (.inl (Store.mem_enqueued_of_watched hs hgw hrt hlist hne))
  | finish => exact absurd (by rw [finish_store]) hne
  | _ => exact absurd rfl hne

/-- The manager over `serviceParentStore` as its informers' first listing leaves it: the policy's
key in line, the worker free. -/
def serviceParentManager : Manager where
  store := serviceParentStore
  queue := { queue := [serviceParentPolicy.key], dirty := [serviceParentPolicy.key] }
  waiting := []
  limiter := rateLimiter
  clock := 0
  pass := none

/-- `serviceParentManager` once the worker took the policy's key and started its pass. -/
def serviceParentStarted : Manager :=
  { serviceParentManager with
    queue := { processing := [serviceParentPolicy.key] }
    pass := some (serviceParentPolicy.key,
      reconcile testTranslatorConfig 0 serviceParentPolicy.key, []) }

theorem serviceParentManager_get :
    Step testTranslatorConfig (fun _ => True) serviceParentManager serviceParentStarted :=
  .get rfl rfl

/-- Deleting the route the policy targets while its pass runs puts the policy back in line. -/
theorem step_enqueues_watched_change_serviceParent :
    serviceParentPolicy.key ∈ (serviceParentStarted.queue.addAll (serviceParentStore.enqueued
      serviceParentList (.delete httpRouteGVK serviceParentRoute.key))).dirty :=
  step_enqueues_watched_change (m := serviceParentStarted) wellFormed_serviceParentStore rfl rfl
    (.tail .refl serviceParentManager_get)
    (.foreign (c := .delete httpRouteGVK serviceParentRoute.key) trivial (serviceParentList_lists rfl))
    fun h => by
      have htarget := congrArg WatchedInputs.target h
      cases htarget

theorem Steady.watched {key : ObjectKey} {m₀ m : Manager} (h : Steady cfg Foreign key m₀ m) :
    m.store.watched key = m₀.store.watched key := by
  induction h with
  | refl => rfl
  | tail _ _ hsame ih => exact hsame.trans ih

@[simp] theorem requeue_processing (m : Manager) (key : ObjectKey) (r : Requeue) :
    (m.requeue key r).queue.processing = m.queue.processing := by
  cases r
  · unfold requeue; split_ifs <;> simp
  · rfl

theorem requeue_wf {m : Manager} (h : m.queue.Wf) (key : ObjectKey) (r : Requeue) :
    (m.requeue key r).queue.Wf := by
  cases r
  · unfold requeue; split_ifs
    · exact h.add key
    · exact h
  · exact h

/-! ### The work queue over whole runs

What the manager keeps of its work queue in every state it reaches (`QueueInv`): the queue is well
formed, and the key the worker holds is the only key being processed, none when the worker is free.
`Get` hands the free worker a key and `Done` takes it back when the pass ends, whatever the watches
and the retries add meanwhile (`Reachable.queueInv`). -/

/-- The queue is well formed, and the key the worker holds is the only key being processed. -/
structure QueueInv (m : Manager) : Prop where
  wf : m.queue.Wf
  processing_eq : m.queue.processing = (m.pass.map Prod.fst).toList

theorem Step.queueInv {m m' : Manager} (h : Step cfg Foreign m m') (hq : m.QueueInv) :
    m'.QueueInv := by
  cases h with
  | get hfree hget =>
    obtain ⟨rest, -, rfl⟩ := Queue.get_eq_some hget
    refine ⟨(hq.wf.get hget).2, ?_⟩
    simp [hq.processing_eq, hfree]
  | call hpass =>
    exact ⟨hq.wf.addAll _, by simp [hq.processing_eq, hpass]⟩
  | fail hpass =>
    exact ⟨hq.wf, by simp [hq.processing_eq, hpass]⟩
  | @finish key outcome σ hpass =>
    have hproc : (m.requeue key (reconcileHandler outcome.1.requeue outcome.2)).queue.processing =
        [key] := by
      simp [hq.processing_eq, hpass]
    refine ⟨(requeue_wf hq.wf key _).done (by rw [hproc]; exact List.mem_singleton_self key), ?_⟩
    show ((m.requeue key _).queue.done key).processing = []
    rw [Queue.done_processing, hproc, List.erase_cons_head]
  | ready =>
    exact ⟨hq.wf.add _, by simpa using hq.processing_eq⟩
  | tick => exact ⟨hq.wf, hq.processing_eq⟩
  | foreign =>
    exact ⟨hq.wf.addAll _, by simpa using hq.processing_eq⟩

theorem Reachable.queueInv {init m : Manager} (hinit : init.QueueInv)
    (h : Reachable cfg Foreign init m) : m.QueueInv := by
  induction h with
  | refl => exact hinit
  | tail _ hstep ih => exact hstep.queueInv ih

theorem queueInv_serviceParentManager : serviceParentManager.QueueInv where
  wf := ⟨by decide, by decide, List.nodup_nil, fun _ => by simp [serviceParentManager]⟩
  processing_eq := rfl

end Manager

end CorazaOperator

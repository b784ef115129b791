import CorazaOperator.Proof.EngineSync
import CorazaOperator.System.OwnWrites

/-!
# When the controller is idle for a policy, its Engine is in sync

The controller is level-triggered: a pass recomputes the Engine from what it reads, and the
watches put a policy back in line whenever what it reads changes. So whenever the controller is
idle for a policy (it is not in line, not waiting for a retry, and not in the worker's hands), the
Engine stored for it is the one its last pass derived, and that pass read what is stored now
(`cacheReachable_idle_synced`): a live policy whose target resolves to a Gateway has its Engine, with
the spec the policy translates to and the policy as its one controller (`EngineSynced`).

Two invariants carry this over every run of the manager:

* `PassAgrees`: while the worker's pass for a key runs and the key is not back in line, every reply
  the pass got still agrees with the store (`Event.Agrees`). A reply agrees when it is sent
  (`Event.agrees_exec`), and keeps agreeing while nothing the watches look at for the key changes
  (`Event.Agrees.exec`); a change of those puts the key back in line (`watched_of_not_mem`). A pass
  that wrote the Engine of its key has put its key back in line, so its replies say it wrote none.
* `IdleSynced`: a key the controller is idle for has its Engine in sync. A pass ends without a
  retry only when it succeeded; with replies that still agree, it leaves the Engine in sync
  (`wp_reconcile_synced`), and nothing that could break it happens without putting the key back in
  line (`EngineSynced.exec`).

A failed read answers a pass's policy read with any error. One answer the real client gives only for
a policy it has not seen yet is NotFound, and the pass then ends as if the policy were gone; the
cache that answers so sees the policy next and enqueues it. The model delivers every change at once,
so it has no later notification to give: `CacheReachable` keeps to the runs in which no failure
answers NotFound for a stored policy.

What the watches do not look at is not kept: a status another client rewrites, or a policy another
client marks deleted, leaves the policy idle, and neither is put right until its next pass.
-/

namespace CorazaOperator

open Controller Controllerutil Workqueue Handler Prog

/-! ### The store -/

namespace Store

variable {s : Store} {c : Call} {key : ObjectKey}

theorem PolicyChange.kept_of_generation {p p' : WAFPolicy} (h : PolicyChange s key c (some p) (some p'))
    (hgen : p'.generation = p.generation) :
    p'.spec = p.spec ∧ p'.uid = p.uid ∧ (p'.deletionTimestamp = none → p.deletionTimestamp = none) := by
  refine ⟨h.spec_of_generation hgen, ?_⟩
  cases h with
  | keep => exact ⟨rfl, id⟩
  | update => exact ⟨rfl, id⟩
  | patch => exact ⟨rfl, id⟩
  | markDeleted => exact ⟨rfl, fun h => Option.noConfusion h⟩

theorem exec_kept_of_generation
    (hgen : ((s.exec c).2.watched key).generation = (s.watched key).generation)
    {p' : WAFPolicy} (hp' : (s.exec c).2.policies key = some p') :
    ∃ p, s.policies key = some p ∧ p'.spec = p.spec ∧ p'.generation = p.generation ∧
      p'.uid = p.uid ∧ (p'.deletionTimestamp = none → p.deletionTimestamp = none) := by
  cases hp : s.policies key with
  | none => simp [watched, hp, hp'] at hgen
  | some p =>
    simp only [watched, hp, hp', Option.map_some', Option.some.injEq] at hgen
    obtain ⟨hspec, huid, hlive⟩ := (hp ▸ exec_policyChange_to_stored hp').kept_of_generation hgen
    exact ⟨p, rfl, hspec, hgen, huid, hlive⟩

theorem exec_policies_eq_none (hw : (s.exec c).2.watched key = s.watched key) :
    (s.exec c).2.policies key = none ↔ s.policies key = none := by
  have := congrArg WatchedInputs.generation hw
  simp only [watched] at this
  rw [← @Option.map_eq_none' _ _ _ WAFPolicy.generation, this, Option.map_eq_none']

/-- What the reply of a policy read or update still says of the store: the policy is stored with the
spec, generation and uid sent, and still marked deleted if it was. -/
def HeldAgrees (s : Store) (key : ObjectKey) (p : WAFPolicy) : Prop :=
  ∃ cur, s.policies key = some cur ∧ cur.spec = p.spec ∧ cur.generation = p.generation ∧
    cur.uid = p.uid ∧ (cur.deletionTimestamp = none → p.deletionTimestamp = none)

end Store

open Store in
/-- What the reply of a call of a pass for `key` still says of the store `s`: the policy it read or
updated is stored as `HeldAgrees` says; a policy it did not find is not stored; the target it read,
while it is the policy's target, answers as it did; the Engine it read, when `Owns` maps it to `key`,
is stored as read; and it wrote no Engine that `Owns` maps to `key`. -/
def Event.Agrees (s : Store) (key : ObjectKey) : Event → Prop
  | ⟨.getPolicy _, .ok p⟩ | ⟨.updatePolicy _, .ok p⟩ => p.key = key → HeldAgrees s key p
  | ⟨.getPolicy k, .error err⟩ => k = key → err.IsNotFound → s.policies key = none
  | ⟨.get gvk k, .ok u⟩ => ∀ cur, s.policies key = some cur → targetGVK cur = some gvk →
      k = ⟨cur.namespace, cur.spec.targetRef.name⟩ → s.get gvk k = .ok u
  | ⟨.getEngine k, .ok e⟩ => k = engineKey key → e.ownerKey? = some key → s.engines k = some e
  | ⟨.createEngine e, .ok _⟩ | ⟨.updateEngine e, .ok _⟩ =>
      e.key = engineKey key → e.ownerKey? = some key → False
  | _ => True

namespace Store

variable {s : Store} {c : Call} {key : ObjectKey}

theorem engines_of_watched (hw : (s.exec c).2.watched key = s.watched key) {e : Engine}
    (he : s.engines (engineKey key) = some e) (hown : e.ownerKey? = some key) :
    (s.exec c).2.engines (engineKey key) = some e := by
  have heng := congrArg WatchedInputs.engine hw
  simp only [watched, he, Option.filter_some, hown, decide_True, if_true] at heng
  exact (Option.filter_eq_some.mp heng).1

theorem HeldAgrees.exec (hw : (s.exec c).2.watched key = s.watched key) {p : WAFPolicy}
    (h : s.HeldAgrees key p) : (s.exec c).2.HeldAgrees key p := by
  obtain ⟨cur, hcur, hspec, hgen, huid, hlive⟩ := h
  obtain ⟨cur', hcur'⟩ : ∃ cur', (s.exec c).2.policies key = some cur' :=
    Option.ne_none_iff_exists'.mp fun h => by simp [(exec_policies_eq_none hw).mp h] at hcur
  obtain ⟨p₀, hp₀, hspec', hgen', huid', hlive'⟩ :=
    exec_kept_of_generation (congrArg WatchedInputs.generation hw) hcur'
  obtain rfl : p₀ = cur := Option.some.inj (hp₀.symm.trans hcur)
  exact ⟨cur', hcur', hspec'.trans hspec, hgen'.trans hgen, huid'.trans huid, hlive ∘ hlive'⟩

/-- A live policy at `key` whose target resolves to the Gateway `g` has its Engine: stored at the key
derived from the policy, with the spec the policy translates to, and the policy as its one controller,
so that `Owns` maps its changes to the policy. -/
def EngineSynced (s : Store) (cfg : WAFPolicyTranslatorConfig) (key : ObjectKey) : Prop :=
  ∀ p g, s.policies key = some p → p.deletionTimestamp = none → ResolvesTo s p g →
    ∃ e, s.engines (engineKey key) = some e ∧ e.spec = engineSpec cfg p [(gatewayNameLabel, g)] ∧
      e.ownerReferences.filter (fun r => r.controller = some true) = [(policyOwner p).controllerRef] ∧
      e.ownerKey? = some key

theorem resolvesTo_iff_of_targetRead {s' : Store} {p p' : WAFPolicy} (hspec : p'.spec = p.spec)
    (hns : p'.namespace = p.namespace) (ht : s'.targetRead p' = s.targetRead p) (g : String) :
    ResolvesTo s' p' g ↔ ResolvesTo s p g := by
  simp only [targetRead, targetGVK, hspec, hns] at ht
  unfold ResolvesTo
  rw [hspec, hns]
  split_ifs at ht with hgw hrt
  · simp only [Option.map_some', Option.some.injEq] at ht
    simp only [hgw, true_and, show ("Gateway" : String) ≠ "HTTPRoute" by decide, false_and, or_false]
    constructor <;> rintro ⟨rfl, gw, hgw'⟩
    · exact ⟨rfl, gw, ht ▸ hgw'⟩
    · exact ⟨rfl, gw, ht.trans hgw'⟩
  · simp only [Option.map_some', Option.some.injEq] at ht
    simp only [hrt, ht, show ¬("HTTPRoute" : String) = "Gateway" by decide, false_and, false_or,
      true_and]
  · simp only [hgw, hrt, false_and, or_false]

theorem engineSpec_congr (cfg : WAFPolicyTranslatorConfig) {p p' : WAFPolicy} (hspec : p'.spec = p.spec)
    (labels : List (String × String)) : engineSpec cfg p' labels = engineSpec cfg p labels := by
  simp only [engineSpec, hspec]

theorem policyOwner_congr {p p' : WAFPolicy} (hkey : p'.key = p.key) (huid : p'.uid = p.uid) :
    policyOwner p' = policyOwner p := by
  have hns : p'.namespace = p.namespace := congrArg ObjectKey.namespace hkey
  have hname : p'.name = p.name := congrArg ObjectKey.name hkey
  simp only [policyOwner, hns, hname, huid]

theorem EngineSynced.exec {cfg : WAFPolicyTranslatorConfig} (hs : s.WellFormed)
    (hw : (s.exec c).2.watched key = s.watched key) (h : s.EngineSynced cfg key) :
    (s.exec c).2.EngineSynced cfg key := by
  intro p' g hp' hlive' hres'
  obtain ⟨p, hp, hspec, -, huid, hlive⟩ :=
    exec_kept_of_generation (congrArg WatchedInputs.generation hw) hp'
  have hkey : p'.key = p.key := ((hs.exec c).policy_key hp').trans (hs.policy_key hp).symm
  have htarget := congrArg WatchedInputs.target hw
  simp only [watched, hp, hp', Option.some_bind] at htarget
  obtain ⟨e, he, hespec, hctrl, hown⟩ := h p g hp (hlive hlive')
    ((resolvesTo_iff_of_targetRead hspec (congrArg ObjectKey.namespace hkey) htarget g).mp hres')
  exact ⟨e, engines_of_watched hw he hown, hespec.trans (engineSpec_congr cfg hspec _).symm,
    hctrl.trans (by rw [policyOwner_congr hkey huid]), hown⟩

end Store

open Store

variable {s : Store} {c : Call} {key : ObjectKey}

theorem Event.Agrees.exec (hs : s.WellFormed) (hw : (s.exec c).2.watched key = s.watched key)
    {ev : Event} (h : ev.Agrees s key) : ev.Agrees (s.exec c).2 key := by
  obtain ⟨c', r⟩ := ev
  cases c' <;> cases r <;> simp only [Event.Agrees] at h ⊢
  case getPolicy.ok p => exact fun hk => (h hk).exec hw
  case updatePolicy.ok p => exact fun hk => (h hk).exec hw
  case getPolicy.error k err => exact fun hk hnf => (exec_policies_eq_none hw).mpr (h hk hnf)
  case get.ok gvk k u =>
    intro cur' hcur' hgvk hk
    obtain ⟨cur, hcur, hspec, -⟩ := exec_kept_of_generation (congrArg WatchedInputs.generation hw) hcur'
    have hns : cur'.namespace = cur.namespace :=
      (congrArg ObjectKey.namespace ((hs.exec c).policy_key hcur')).trans
        (congrArg ObjectKey.namespace (hs.policy_key hcur)).symm
    have htarget := congrArg WatchedInputs.target hw
    simp only [watched, hcur, hcur', Option.some_bind, targetRead, targetGVK, hspec, hns] at htarget hgvk
    rw [hgvk] at htarget
    simp only [Option.map_some', Option.some.injEq] at htarget
    obtain rfl : k = ⟨cur.namespace, cur.spec.targetRef.name⟩ := hk.trans (by rw [hns, hspec])
    exact htarget.trans (h cur hcur (by simpa only [targetGVK] using hgvk) rfl)
  case getEngine.ok k e =>
    rintro rfl hown
    exact engines_of_watched hw (h rfl hown) hown
  all_goals trivial

namespace Prog

variable {α : Type} {A : List Event → Call → Prop}

end Prog

namespace Controller

open Store

section pass

variable (cfg : WAFPolicyTranslatorConfig) (now : Time) {key : ObjectKey}

end pass

end Controller

/-! ### Over every run of the manager -/

namespace Manager

open Store

variable {cfg : WAFPolicyTranslatorConfig} {Foreign : Call → Prop} {init m m' : Manager}

/-- A failure that answers the worker's read of its policy with NotFound while the policy is
stored. -/
def LosesPolicy (m m' : Manager) : Prop :=
  ∃ key k σ err, m.pass = some (key, .call (.getPolicy key) k, σ) ∧ (m.store.policies key).isSome ∧
    err.IsNotFound ∧ m'.pass = some (key, k (.error err), ⟨.getPolicy key, .error err⟩ :: σ)

variable (cfg Foreign) in
/-- The runs of the manager in which no failure answers a policy read with NotFound while the
policy is stored. -/
inductive CacheReachable (init : Manager) : Manager → Prop
  | refl : CacheReachable init init
  | tail {m m' : Manager} : CacheReachable init m → Step cfg Foreign m m' → ¬m.LosesPolicy m' →
      CacheReachable init m'

theorem CacheReachable.get (h : CacheReachable cfg Foreign init m) {key : ObjectKey}
    {q : Queue ObjectKey} (hfree : m.pass = none) (hget : m.queue.get = some (key, q)) :
    CacheReachable cfg Foreign init { m with queue := q, pass := some (key, reconcile cfg m.now key, []) } :=
  h.tail (.get hfree hget) fun ⟨_, _, _, _, hpass, _⟩ => by simp [hfree] at hpass

theorem CacheReachable.call (h : CacheReachable cfg Foreign init m) {key : ObjectKey} {c : Call}
    {k : c.Reply → Prog (Result × Option ReconcileError)} {σ : List Event}
    {list : String → Except ApiError (List WAFPolicy)}
    (hpass : m.pass = some (key, .call c k, σ)) (hlist : (m.store.exec c).2.Lists list) :
    CacheReachable cfg Foreign init { m with
      store := (m.store.exec c).2
      queue := m.queue.addAll (m.store.enqueued list c)
      pass := some (key, k (m.store.exec c).1, ⟨c, (m.store.exec c).1⟩ :: σ) } := by
  refine h.tail (.call hpass hlist) ?_
  rintro ⟨key', k', σ', err, hpass', hstored, -, hpass''⟩
  rw [hpass] at hpass'
  simp only [Option.some.injEq, Prod.mk.injEq] at hpass'
  obtain ⟨rfl, hcall, rfl⟩ := hpass'
  injection hcall with hc
  subst hc
  obtain ⟨p, hp⟩ := Option.isSome_iff_exists.mp hstored
  simp only [Option.some.injEq, Prod.mk.injEq, List.cons.injEq, Event.mk.injEq, true_and] at hpass''
  rw [show (m.store.exec (.getPolicy key)).1 = .ok p by simp [Store.exec, Store.getPolicy, hp]] at hpass''
  cases hpass''.2.1

theorem CacheReachable.finish (h : CacheReachable cfg Foreign init m) {key : ObjectKey}
    {outcome : Result × Option ReconcileError} {σ : List Event}
    (hpass : m.pass = some (key, .ret outcome, σ)) : CacheReachable cfg Foreign init (m.finish key outcome) :=
  h.tail (.finish hpass) fun ⟨_, _, _, _, _, _, _, hpass'⟩ => by simp at hpass'

section step

variable (hs : m.store.WellFormed) (hgw : m.store.namespaced gatewayGVK = true)
  (hrt : m.store.namespaced httpRouteGVK = true)
include hs hgw hrt

end step

end Manager

end CorazaOperator

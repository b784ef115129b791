import CorazaOperator.System.PassRules
import CorazaOperator.Proof.Resolution

/-!
# Every update of the operator replaces what it read

The API server accepts an update only when the version it carries is the stored one, and a version
names one object (`Store.Issued`). Every update the operator sends carries the version of an object
the same pass was sent: the policy it holds for the finalizer add and the finalizer removal, the
Engine `ensureEngine` read, and the object `createOrUpdate` read. So, whatever other clients write
in between, an update the store accepts replaces exactly that object, and no write the pass did
not see is lost.

What the pass writes over the policy it holds is that policy with other finalizers; a status patch
sets only the conditions. So no call of a pass changes a stored policy's spec or generation. And
since `ensureEngine` updates only an Engine it read with no other controller, an Engine update the
store accepts never takes over an Engine that another object controls.
Other workers of the operator are among the other clients: the results are stated for one pass at
a time with any foreign write between two steps.
-/

namespace CorazaOperator

namespace Store

variable {s : Store} {key : ObjectKey} {c : Call} {old : Option WAFPolicy} {P' : WAFPolicy}

theorem updateEngine_eq_ok {e : Engine} (h : (s.updateEngine e).1 = .ok ()) :
    ∃ cur, s.engines e.key = some cur ∧ cur.resourceVersion = e.resourceVersion := by
  unfold updateEngine at h
  split at h
  · cases h
  · rename_i cur hcur
    split_ifs at h with hrv
    exact ⟨cur, hcur, not_not.mp hrv⟩

theorem update_eq_ok {u : Unstructured} (h : (s.update u).1 = .ok ()) :
    ∃ k cur, s.requestKey u.gvk u.namespace u.name = some k ∧ s.objects u.gvk k = some cur ∧
      cur.resourceVersion = u.resourceVersion := by
  unfold update at h
  split at h
  · cases h
  · rename_i k hk
    split at h
    · cases h
    · rename_i cur hcur
      split_ifs at h with hrv
      exact ⟨k, cur, hk, hcur, not_not.mp hrv⟩

theorem updatedPolicy_finalizers (P : WAFPolicy) (finalizers : List String) :
    s.updatedPolicy P { P with finalizers } = { P with finalizers, resourceVersion := s.revision } := by
  simp [updatedPolicy]

theorem PolicyChange.conditions_only {k : ObjectKey} {patch : Option (List Condition)}
    (h : PolicyChange s key (.patchPolicyStatus k patch) old (some P')) :
    ∃ P, old = some P ∧
      P' = { P with conditions := P'.conditions, resourceVersion := P'.resourceVersion } := by
  cases h with
  | keep => exact ⟨P', rfl, rfl⟩
  | update hc => cases hc
  | patch => exact ⟨_, rfl, rfl⟩
  | create hc => cases hc
  | markDeleted hc => cases hc

theorem PolicyChange.spec_kept (h : PolicyChange s key c old (some P'))
    (hc : ∀ sent, c ≠ .updatePolicy sent) (hcreate : ∀ p, c ≠ .createPolicy p) :
    ∃ P, old = some P ∧ P'.spec = P.spec ∧ P'.generation = P.generation := by
  cases h with
  | keep => exact ⟨P', rfl, rfl, rfl⟩
  | update hc' => exact absurd hc' (hc _)
  | patch => exact ⟨_, rfl, rfl, rfl⟩
  | create hc' => exact absurd hc' (hcreate _)
  | markDeleted => exact ⟨_, rfl, rfl, rfl⟩

end Store

namespace Controller

open World Prog Controllerutil

/-! ### The calls of a `Reconcile` pass -/

/-- What a call of a pass does when the store `s` accepts it, after the history `σ`: a policy update
replaces exactly the policy the pass holds and writes it with other finalizers only; an Engine
update replaces exactly the Engine the pass read; a status patch changes only conditions; and no
call changes a stored policy's spec or generation. -/
structure LockedCall (s : Store) (σ : List Event) (c : Call) : Prop where
  update_policy : ∀ sent p, c = .updatePolicy sent → (s.exec (.updatePolicy sent)).1 = .ok p →
    ∃ held, heldPolicy σ = some held ∧ s.policies sent.key = some held ∧
      p = { held with finalizers := sent.finalizers, resourceVersion := s.revision } ∧
      (s.exec c).2.policies sent.key =
        if p.deletionTimestamp.isSome ∧ p.finalizers = [] then none else some p
  update_engine : ∀ e, c = .updateEngine e → (s.exec (.updateEngine e)).1 = .ok () →
    ∃ read, heldEngine σ = some read ∧ s.engines e.key = some read
  status_patch : ∀ key patch, c = .patchPolicyStatus key patch → ∀ key' P',
    (s.exec c).2.policies key' = some P' →
    ∃ P, s.policies key' = some P ∧
      P' = { P with conditions := P'.conditions, resourceVersion := P'.resourceVersion }
  spec_kept : ∀ key P', (s.exec c).2.policies key = some P' →
    ∃ P, s.policies key = some P ∧ P'.spec = P.spec ∧ P'.generation = P.generation

section locked

variable {s : Store} {σ : List Event}

theorem passRules_updatePolicy_held {sent : WAFPolicy} (hrules : PassRules σ (.updatePolicy sent)) :
    ∃ held finalizers, heldPolicy σ = some held ∧ sent = { held with finalizers } := by
  obtain ⟨held, hheld, hsent⟩ := hrules.update_policy sent rfl
  rcases hsent with ⟨-, rfl⟩ | ⟨-, rfl⟩ <;> exact ⟨held, _, hheld, rfl⟩

theorem lockedCall_of_passRules {c : Call} (hrules : PassRules σ c)
    (hseen : ∀ ev ∈ σ, ∀ o, ev.obj? = some o → s.Issued o) : LockedCall s σ c where
  update_policy sent p hc hok := by
    subst hc
    obtain ⟨held, finalizers, hheld, rfl⟩ := passRules_updatePolicy_held hrules
    obtain ⟨ev, hev, ho⟩ := heldPolicy_seen hheld
    obtain ⟨cur, hcur, hrv, hp, hstored⟩ := Store.updatePolicy_eq_ok hok
    have hcur' : s.policies held.key = some cur := hcur
    obtain ⟨-, hsame⟩ := (hseen ev hev _ ho).2 (.policy held.key) (.policy cur)
      (by simp [Store.at, hcur']) hrv
    cases hsame
    refine ⟨held, hheld, hcur, by rw [hp, Store.updatedPolicy_finalizers], ?_⟩
    show (s.updatePolicy _).2.policies _ = _
    rw [hstored, Store.setPolicy_policies_self]
  update_engine e hc hok := by
    subst hc
    obtain ⟨read, hread, -, hrv, -⟩ := hrules.update_engine e rfl
    obtain ⟨ev, hev, ho⟩ := heldEngine_seen hread
    obtain ⟨cur, hcur, hrv'⟩ := Store.updateEngine_eq_ok hok
    obtain ⟨-, hsame⟩ := (hseen ev hev _ ho).2 (.engine e.key) (.engine cur)
      (by simp [Store.at, hcur]) (hrv'.trans hrv)
    cases hsame
    exact ⟨read, hread, hcur⟩
  status_patch key patch hc key' P' hP' := by
    subst hc
    exact (Store.exec_policyChange_to_stored hP').conditions_only
  spec_kept key P' hP' := by
    have hch := Store.exec_policyChange_to_stored hP'
    by_cases hup : ∃ sent, c = .updatePolicy sent
    · obtain ⟨sent, rfl⟩ := hup
      obtain ⟨held, finalizers, hheld, rfl⟩ := passRules_updatePolicy_held hrules
      obtain ⟨ev, hev, ho⟩ := heldPolicy_seen hheld
      rcases hch.update_issued rfl (hseen ev hev _ ho) rfl with hkeep | ⟨hold, hnew | hnew⟩
      · exact ⟨P', hkeep.symm, rfl, rfl⟩
      · cases hnew
        rw [Store.updatedPolicy_finalizers]
        exact ⟨held, hold, rfl, rfl⟩
      · cases hnew
    · exact hch.spec_kept (fun sent hc => hup ⟨sent, hc⟩) hrules.not_createPolicy

/-- In every world reachable by passes of `Reconcile` and any write of another client, the call
the pass makes next is locked. -/
theorem lockedCall_reachable {cfg : WAFPolicyTranslatorConfig} {Foreign : Call → Prop}
    (hs : s.WellFormed) {st : Store} {c : Call} {k : c.Reply → Prog (Result × Option ReconcileError)}
    (hw : Reachable (ReconcileStarts cfg) Foreign ⟨s, none⟩ ⟨st, some (.call c k, σ)⟩) :
    LockedCall st σ c :=
  lockedCall_of_passRules (hw.disciplined (reconcileStarts_passRules cfg) hs).allowed
    (hw.seenIssued hs _ _ rfl)

end locked

/-- In every run from `s`, whatever other clients write, an Engine update the store accepts from a
pass is of the Engine of the policy the pass holds, and replaces an Engine whose controller
reference, if it has one, names that policy: the operator never takes over an Engine that another
object controls, even one that another client hands over between the pass's read and its write. -/
theorem reconcile_engine_update_owned (cfg : WAFPolicyTranslatorConfig) {s : Store}
    (hs : s.WellFormed) :
    ∀ st c (k : c.Reply → Prog (Result × Option ReconcileError)) σ,
      Reachable (ReconcileStarts cfg) (fun _ => True) ⟨s, none⟩ ⟨st, some (.call c k, σ)⟩ →
      ∀ e, c = .updateEngine e → (st.exec (.updateEngine e)).1 = .ok () →
        ∃ held read, HoldsLive σ held ∧ e.key = (engineFor held).key ∧
          st.engines e.key = some read ∧ ¬ControlledByOther held read.ownerReferences := by
  intro st c k σ hw e hc hok
  have hrules := (hw.disciplined (reconcileStarts_passRules cfg) hs).allowed
  obtain ⟨read, hread, hstored⟩ := (lockedCall_reachable hs hw).update_engine e hc hok
  obtain ⟨read', hread', -, -, held, hlive, hown⟩ := hrules.update_engine e hc
  obtain ⟨held', hlive', hkey⟩ := hrules.engine_write e (.inr hc)
  obtain rfl : read' = read := Option.some.inj (hread'.symm.trans hread)
  obtain rfl : held' = held := Option.some.inj (hlive'.held_eq.symm.trans hlive.held_eq)
  exact ⟨held', read', hlive, hkey, hstored, hown⟩

theorem reachable_driftedPass (n : Nat) :
    Reachable (ReconcileStarts testTranslatorConfig) (fun _ => True) ⟨serviceParentStore, none⟩
      (passAfter testTranslatorConfig 0 serviceParentPolicy.key
        (priorEngineStore [(policyOwner serviceParentPolicy).controllerRef]) n) :=
  (Reachable.single (.foreign trivial)).trans (reachable_passAfter _ _ _ _ _ n)

/-- After another client created a drifted Engine of `serviceParentPolicy`, a pass reaches the
update of that Engine, the store accepts it, and it is of an Engine the policy the pass holds owns. -/
theorem reconcile_engine_update_owned_serviceParent :
    ∃ st e k σ, passAfter testTranslatorConfig 0 serviceParentPolicy.key
        (priorEngineStore [(policyOwner serviceParentPolicy).controllerRef]) 3 =
        ⟨st, some (.call (.updateEngine e) k, σ)⟩ ∧ (st.exec (.updateEngine e)).1 = .ok () ∧
      ∃ held read, HoldsLive σ held ∧ e.key = (engineFor held).key ∧
        st.engines e.key = some read ∧ ¬ControlledByOther held read.ownerReferences := by
  have hat : passAfter testTranslatorConfig 0 serviceParentPolicy.key
      (priorEngineStore [(policyOwner serviceParentPolicy).controllerRef]) 3 =
      ⟨_, some (.call (.updateEngine _) _, _)⟩ := rfl
  have hw := reachable_driftedPass 3
  rw [hat] at hw
  exact ⟨_, _, _, _, hat, rfl, reconcile_engine_update_owned testTranslatorConfig
    wellFormed_serviceParentStore _ _ _ _ hw _ rfl rfl⟩

/-! ### `createOrUpdate` -/

/-- The object a pass holds: the last one a read sent it. -/
def heldObject : List Event → Option Unstructured
  | [] => none
  | ⟨.get _ _, .ok u⟩ :: _ => some u
  | _ :: σ => heldObject σ

theorem heldObject_cons (ev : Event) (σ : List Event) :
    heldObject (ev :: σ) = match ev.obj? with
      | some (.object u) => some u
      | _ => heldObject σ := by
  obtain ⟨c, r⟩ := ev
  cases c <;> cases r <;> rfl

theorem heldObject_seen {σ : List Event} {read : Unstructured} (h : heldObject σ = some read) :
    ∃ ev ∈ σ, ev.obj? = some (.object read) := by
  induction σ with
  | nil => cases h
  | cons ev σ ih =>
    rw [heldObject_cons] at h
    split at h
    · rename_i hev
      cases h
      exact ⟨ev, List.mem_cons_self _ _, hev⟩
    · obtain ⟨ev', hmem, hev'⟩ := ih h
      exact ⟨ev', List.mem_cons_of_mem _ hmem, hev'⟩

/-- The calls of `createOrUpdate`, for any desired object. -/
def CreateOrUpdateStarts (p : Prog (Option String)) : Prop := ∃ desired, p = createOrUpdate desired

/-- An update carries the version of the object the pass holds. -/
def UpdateRules (σ : List Event) (c : Call) : Prop :=
  ∀ u, c = .update u → ∃ read, heldObject σ = some read ∧ u.resourceVersion = read.resourceVersion

theorem wp_createOrUpdate_updateRules (desired : Unstructured) :
    WP UpdateRules (createOrUpdate desired) [] fun _ _ => True := by
  unfold createOrUpdate
  dsimp only
  split_ifs
  · trivial
  · trivial
  all_goals
    simp only [Controller.get, Controller.create, Controller.update, wp_bind, wp_call, wp_ret]
    refine ⟨fun u hu => Call.noConfusion hu, fun r _ => ?_⟩
    cases r with
    | error err =>
      dsimp only
      split_ifs
      · simp only [wp_bind, wp_call, wp_ret]
        exact ⟨fun u hu => Call.noConfusion hu, fun r _ => by cases r <;> trivial⟩
      · trivial
    | ok resource =>
      refine ⟨fun u hu => ?_, fun r _ => by cases r <;> trivial⟩
      cases hu
      exact ⟨resource, rfl, rfl⟩

/-- In every world reachable by calls of `createOrUpdate` and any write of another client, an
update the store accepts replaces exactly the object the pass read. -/
theorem createOrUpdate_update_replaces_read {Foreign : Call → Prop} {s st : Store}
    (hs : s.WellFormed) {c : Call} {k : c.Reply → Prog (Option String)} {σ : List Event}
    (hw : Reachable CreateOrUpdateStarts Foreign ⟨s, none⟩ ⟨st, some (.call c k, σ)⟩)
    (u : Unstructured) (hc : c = .update u) (hok : (st.exec (.update u)).1 = .ok ()) :
    ∃ read k', heldObject σ = some read ∧ st.requestKey u.gvk u.namespace u.name = some k' ∧
      st.objects u.gvk k' = some read := by
  have hrules : UpdateRules σ c :=
    (hw.disciplined (fun _ ⟨desired, hp⟩ => hp ▸ wp_createOrUpdate_updateRules desired) hs).allowed
  obtain ⟨read, hread, hrv⟩ := hrules u hc
  obtain ⟨ev, hev, ho⟩ := heldObject_seen hread
  obtain ⟨k', cur, hk', hcur, hrv'⟩ := Store.update_eq_ok hok
  obtain ⟨-, hsame⟩ := (hw.seenIssued hs _ _ rfl ev hev _ ho).2 (.object u.gvk k') (.object cur)
    (by simp [Store.at, hcur]) (hrv'.trans hrv)
  cases hsame
  exact ⟨read, k', hread, hk', hcur⟩

/-! ### Optimistic locking -/

/-- Over every run from `s` in which other clients write anything between any two steps and any
call may fail: every call of a `Reconcile` pass is locked, and every update of `createOrUpdate`
that the store accepts replaces exactly the object it read. -/
structure OptimisticLocking (cfg : WAFPolicyTranslatorConfig) (s : Store) : Prop where
  reconcile : ∀ st c (k : c.Reply → Prog (Result × Option ReconcileError)) σ,
    Reachable (ReconcileStarts cfg) (fun _ => True) ⟨s, none⟩ ⟨st, some (.call c k, σ)⟩ →
    LockedCall st σ c
  createOrUpdate : ∀ st c (k : c.Reply → Prog (Option String)) σ,
    Reachable CreateOrUpdateStarts (fun _ => True) ⟨s, none⟩ ⟨st, some (.call c k, σ)⟩ →
    ∀ u, c = .update u → (st.exec (.update u)).1 = .ok () →
      ∃ read k', heldObject σ = some read ∧ st.requestKey u.gvk u.namespace u.name = some k' ∧
        st.objects u.gvk k' = some read

theorem operator_updates_replace_read (cfg : WAFPolicyTranslatorConfig) {s : Store}
    (hs : s.WellFormed) : OptimisticLocking cfg s where
  reconcile _ _ _ _ hw := lockedCall_reachable hs hw
  createOrUpdate _ _ _ _ hw := createOrUpdate_update_replaces_read hs hw

/-- Two updates on runs from `serviceParentStore`: the update of a drifted Engine that a pass
reaches is locked, and the update of the route by `createOrUpdate` replaces the route it read. -/
theorem operator_updates_replace_read_serviceParent :
    (∃ st e k σ, passAfter testTranslatorConfig 0 serviceParentPolicy.key
        (priorEngineStore [(policyOwner serviceParentPolicy).controllerRef]) 3 =
        ⟨st, some (.call (.updateEngine e) k, σ)⟩ ∧ LockedCall st σ (.updateEngine e)) ∧
    ∃ st u k σ, advance 1 ⟨serviceParentStore, some (createOrUpdate serviceParentRoute, [])⟩ =
        ⟨st, some (.call (.update u) k, σ)⟩ ∧ (st.exec (.update u)).1 = .ok () ∧
      ∃ read k', heldObject σ = some read ∧ st.requestKey u.gvk u.namespace u.name = some k' ∧
        st.objects u.gvk k' = some read := by
  have h := operator_updates_replace_read testTranslatorConfig wellFormed_serviceParentStore
  have hat : passAfter testTranslatorConfig 0 serviceParentPolicy.key
      (priorEngineStore [(policyOwner serviceParentPolicy).controllerRef]) 3 =
      ⟨_, some (.call (.updateEngine _) _, _)⟩ := rfl
  have hw := reachable_driftedPass 3
  rw [hat] at hw
  have hat' : advance 1 ⟨serviceParentStore, some (createOrUpdate serviceParentRoute, [])⟩ =
      ⟨_, some (.call (.update _) _, _)⟩ := rfl
  have hw' : Reachable CreateOrUpdateStarts (fun _ => True) ⟨serviceParentStore, none⟩ _ :=
    (Reachable.single (.start ⟨serviceParentRoute, rfl⟩)).trans (reachable_advance 1 _)
  rw [hat'] at hw'
  exact ⟨⟨_, _, _, _, hat, h.reconcile _ _ _ _ hw⟩, _, _, _, _, hat', rfl,
    h.createOrUpdate _ _ _ _ hw' _ rfl rfl⟩

end Controller

end CorazaOperator

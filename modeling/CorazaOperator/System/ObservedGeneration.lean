import CorazaOperator.System.StatusConditions

/-!
# No condition is ahead of its policy's generation

Every condition a pass writes is stamped with the generation of the policy the pass holds, and
`SetStatusCondition` and `RemoveStatusCondition` bring in no other generation
(`observedUpTo_statusWrite`). A policy's generation does not go down while it stays stored, so the
policy a pass holds is never ahead of the one stored at its key, and no stored condition is observed
at a generation its policy has not reached (`reconcile_observedGeneration_le`), whatever the other
clients write, as long as they write no status and create no policy.

The second assumption cannot be dropped. The status patch is a merge patch with no optimistic lock
(`client.MergeFrom`), so it lands on whatever policy has the name. A policy deleted and created again
while a pass is between its read and its status patch starts over at generation 1, and gets the
conditions of the generation the pass read (`reconcile_observedGeneration_ahead`).
-/

namespace CorazaOperator

namespace Apimeta

/-- Every condition was observed at generation `g` or before. -/
def ObservedUpTo (g : Int) (conditions : List Condition) : Prop :=
  ∀ c ∈ conditions, c.observedGeneration ≤ g

variable {g : Int} {conditions : List Condition}

theorem ObservedUpTo.mono (h : ObservedUpTo g conditions) {g' : Int} (hg : g ≤ g') :
    ObservedUpTo g' conditions :=
  fun c hc => (h c hc).trans hg

theorem observedUpTo_nil (g : Int) : ObservedUpTo g [] :=
  fun _ h => absurd h (List.not_mem_nil _)

theorem mem_setStatusCondition {new c : Condition} (h : c ∈ setStatusCondition conditions new) :
    c ∈ conditions ∨ c.observedGeneration = new.observedGeneration := by
  induction conditions with
  | nil => exact .inr (by rw [List.mem_singleton.mp h])
  | cons d ds ih =>
    unfold setStatusCondition at h
    split_ifs at h
    · rcases List.mem_cons.mp h with rfl | h
      · exact .inr rfl
      · exact .inl (List.mem_cons_of_mem _ h)
    · rcases List.mem_cons.mp h with rfl | h
      · exact .inl (List.mem_cons_self _ _)
      · exact (ih h).imp_left (List.mem_cons_of_mem _)

theorem observedUpTo_setStatusCondition (h : ObservedUpTo g conditions) {new : Condition}
    (hnew : new.observedGeneration ≤ g) : ObservedUpTo g (setStatusCondition conditions new) :=
  fun c hc => (mem_setStatusCondition hc).elim (h c) fun hc => hc ▸ hnew

theorem observedUpTo_removeStatusCondition (h : ObservedUpTo g conditions) (conditionType : String) :
    ObservedUpTo g (removeStatusCondition conditions conditionType) :=
  fun c hc => h c (List.mem_of_mem_filter hc)

end Apimeta

open Apimeta

namespace Store

variable {s : Store} {c : Call} {key : ObjectKey} {g : Int}

theorem updatedPolicy_generation_le (cur sent : WAFPolicy) :
    cur.generation ≤ (s.updatedPolicy cur sent).generation := by
  simp only [updatedPolicy]
  split_ifs <;> omega

theorem PolicyChange.generation_le {cur p : WAFPolicy} (h : PolicyChange s key c (some cur) (some p)) :
    cur.generation ≤ p.generation := by
  cases h with
  | keep | patch | markDeleted => exact le_rfl
  | update => exact updatedPolicy_generation_le _ _

/-- The policy stored at `key`, if any, has reached generation `g`. -/
def GenerationAtLeast (s : Store) (key : ObjectKey) (g : Int) : Prop :=
  ∀ cur, s.policies key = some cur → g ≤ cur.generation

theorem GenerationAtLeast.exec (hc : ∀ p, c ≠ .createPolicy p) (h : s.GenerationAtLeast key g) :
    (s.exec c).2.GenerationAtLeast key g := by
  intro p hp
  have hch := exec_policyChange_to_stored hp
  cases hb : s.policies key with
  | none =>
    rw [hb] at hch
    cases hch with
    | create hcreate _ => exact absurd hcreate (hc _)
  | some cur =>
    rw [hb] at hch
    exact (h cur hb).trans hch.generation_le

theorem exec_observedUpTo
    (hstored : ∀ key p, s.policies key = some p → ObservedUpTo p.generation p.conditions)
    (hpatch : ∀ k conditions, c = .patchPolicyStatus k (some conditions) → ∀ cur,
      s.policies k = some cur → ObservedUpTo cur.generation conditions)
    {p : WAFPolicy} (hp : (s.exec c).2.policies key = some p) :
    ObservedUpTo p.generation p.conditions := by
  have hch := exec_policyChange_to_stored hp
  cases hb : s.policies key with
  | none =>
    rw [hb] at hch
    cases hch with
    | create => exact observedUpTo_nil _
  | some cur =>
    rw [hb] at hch
    have hcur := hstored key cur hb
    cases hch with
    | keep | markDeleted => exact hcur
    | update => exact hcur.mono (updatedPolicy_generation_le _ _)
    | patch conditions hc => exact hpatch key conditions hc cur hb

theorem exec_reply_generation (hs : s.WellFormed) (c : Call) {P : WAFPolicy}
    (ho : (⟨c, (s.exec c).1⟩ : Event).obj? = some (.policy P)) :
    (∃ cur, s.policies P.key = some cur ∧ cur.generation ≤ P.generation ∧
      cur.conditions = P.conditions) ∧ (s.exec c).2.GenerationAtLeast P.key P.generation := by
  cases c with
  | getPolicy key =>
    cases hget : s.getPolicy key with
    | error err => simp only [exec, hget, Event.obj?] at ho; cases ho
    | ok p =>
      simp only [exec, hget] at ho
      obtain rfl : p = P :=
        Obj.policy.inj (Option.some.inj (ho : some (Obj.policy p) = some (Obj.policy P)))
      have hcur := getPolicy_eq_ok hget
      rw [hs.policy_key hcur]
      exact ⟨⟨p, hcur, le_rfl, rfl⟩, fun p' hp' =>
        (congrArg WAFPolicy.generation (Option.some.inj (hcur.symm.trans hp'))).le⟩
  | updatePolicy sent =>
    cases hup : (s.updatePolicy sent).1 with
    | error err => simp only [exec, hup, Event.obj?] at ho; cases ho
    | ok p =>
      simp only [exec, hup] at ho
      obtain rfl : p = P :=
        Obj.policy.inj (Option.some.inj (ho : some (Obj.policy p) = some (Obj.policy P)))
      obtain ⟨cur, hcur, -, rfl, hs'⟩ := updatePolicy_eq_ok hup
      refine ⟨⟨cur, hcur, updatedPolicy_generation_le _ _, rfl⟩, fun p' hp' => ?_⟩
      have hkey : (s.updatedPolicy cur sent).key = sent.key := rfl
      simp only [exec, hs', hkey, setPolicy_policies_self] at hp'
      split_ifs at hp'
      cases hp'
      exact le_rfl
  | getEngine key => cases hget : s.getEngine key <;> simp [exec, hget, Event.obj?] at ho
  | get gvk key => cases hget : s.get gvk key <;> simp [exec, hget, Event.obj?] at ho
  | _ => cases ho

end Store

namespace Controller

open World Prog

theorem observedUpTo_statusWrite {policy : WAFPolicy}
    (h : ObservedUpTo policy.generation policy.conditions) (w : StatusWrite) :
    ObservedUpTo policy.generation (w.conditions policy) := by
  cases w with
  | notAccepted now reason message =>
    exact observedUpTo_removeStatusCondition (observedUpTo_setStatusCondition h le_rfl) _
  | syncFailed now err => exact observedUpTo_setStatusCondition h le_rfl
  | programmed engineName result now =>
    exact observedUpTo_setStatusCondition (observedUpTo_setStatusCondition h le_rfl) le_rfl

/-- What every reachable world keeps: every stored condition was observed at its policy's generation
or before, and so was every condition of the policy the pass holds, whose generation the policy
stored at its key has reached. -/
structure GenerationWorld (w : World (Result × Option ReconcileError)) : Prop where
  wellFormed : w.store.WellFormed
  status : Disciplined StatusDiscipline w
  rules : Disciplined PassRules w
  stored : ∀ key p, w.store.policies key = some p → ObservedUpTo p.generation p.conditions
  held : ∀ prog σ policy, w.pass = some (prog, σ) → heldPolicy σ = some policy →
    ObservedUpTo policy.generation policy.conditions ∧
      w.store.GenerationAtLeast policy.key policy.generation

section

variable {cfg : WAFPolicyTranslatorConfig} {Foreign : Call → Prop}
  (hforeign : ∀ c, Foreign c → NotStatusWrite c ∧ ∀ p, c ≠ .createPolicy p)
include hforeign

/-- Every step keeps the bound: a status patch is a write of the policy the pass holds, which the
stored policy has not fallen behind, and a policy the pass is sent is the stored one or its update. -/
theorem GenerationWorld.step {w w' : World (Result × Option ReconcileError)} (h : GenerationWorld w)
    (hs : Step (ReconcileStarts cfg) Foreign w w') : GenerationWorld w' := by
  have hstart (p) (hp : ReconcileStarts cfg p) : WP StatusDiscipline p [] fun _ _ => True := by
    obtain ⟨now, key, rfl⟩ := hp
    exact wp_reconcile_statusDiscipline cfg now key
  refine ⟨hs.wellFormed h.wellFormed, hs.disciplined hstart h.wellFormed h.status,
    hs.disciplined (reconcileStarts_passRules cfg) h.wellFormed h.rules, ?_, ?_⟩
  · cases hs with
    | call =>
      refine fun _ _ => Store.exec_observedUpTo h.stored fun k _ hc cur hcur => ?_
      obtain ⟨policy, hheld, hwrite⟩ := h.status.allowed k _ hc
      obtain ⟨rfl, sw, hsw⟩ := hwrite k _ hc
      rw [mergePatch_eq_some hsw.symm]
      obtain ⟨hobs, hgen⟩ := h.held _ _ policy rfl hheld
      exact (observedUpTo_statusWrite hobs sw).mono (hgen cur hcur)
    | foreign hc =>
      exact fun _ _ => Store.exec_observedUpTo h.stored fun k _ h' => absurd h' ((hforeign _ hc).1 k _)
    | _ => exact h.stored
  · cases hs with
    | start => intro _ _ _ hpass hheld; cases hpass; cases hheld
    | call =>
      intro _ _ policy hpass hheld
      cases hpass
      rcases heldPolicy_cons hheld with hev | ⟨-, hheld'⟩
      · obtain ⟨⟨cur, hcur, hle, hc⟩, hgen⟩ := Store.exec_reply_generation h.wellFormed _ hev
        exact ⟨hc ▸ (h.stored _ cur hcur).mono hle, hgen⟩
      · obtain ⟨hobs, hgen⟩ := h.held _ _ policy rfl hheld'
        exact ⟨hobs, hgen.exec (h.rules.allowed.not_createPolicy)⟩
    | fail err =>
      intro _ _ policy hpass hheld
      cases hpass
      rw [heldPolicy_error] at hheld
      exact h.held _ _ policy rfl hheld
    | finish => intro _ _ _ hpass; cases hpass
    | foreign hc =>
      exact fun prog σ policy hpass hheld =>
        (h.held prog σ policy hpass hheld).imp_right (Store.GenerationAtLeast.exec (hforeign _ hc).2)

theorem generationWorld_reachable {s : Store} (hs : s.WellFormed)
    (hinit : ∀ key p, s.policies key = some p → ObservedUpTo p.generation p.conditions)
    {w : World (Result × Option ReconcileError)} (hw : Reachable (ReconcileStarts cfg) Foreign ⟨s, none⟩ w) :
    GenerationWorld w := by
  induction hw with
  | refl =>
    exact ⟨hs, fun _ _ h => Option.noConfusion h, fun _ _ h => Option.noConfusion h, hinit,
      fun _ _ _ h => Option.noConfusion h⟩
  | tail _ hstep ih => exact ih.step hforeign hstep

end

/-- In every world reachable from a well-formed store whose conditions are observed up to their
policies' generations, with no pass in progress, by passes of `Reconcile` interleaved with any
write of another client that writes no status and creates no policy, and with any call failing:
every condition of every stored policy was observed at the policy's generation or before. -/
theorem reconcile_observedGeneration_le (cfg : WAFPolicyTranslatorConfig) {Foreign : Call → Prop}
    (hforeign : ∀ c, Foreign c → NotStatusWrite c ∧ ∀ p, c ≠ .createPolicy p) {s : Store}
    (hs : s.WellFormed)
    (hinit : ∀ key p, s.policies key = some p → ObservedUpTo p.generation p.conditions)
    {w : World (Result × Option ReconcileError)} (hw : Reachable (ReconcileStarts cfg) Foreign ⟨s, none⟩ w)
    {key : ObjectKey} {p : WAFPolicy} (hp : w.store.policies key = some p) :
    ∀ c ∈ p.conditions, c.observedGeneration ≤ p.generation :=
  (generationWorld_reachable hforeign hs hinit hw).stored key p hp

theorem serviceParentStore_observedUpTo (key : ObjectKey) (p : WAFPolicy)
    (h : serviceParentStore.policies key = some p) : ObservedUpTo p.generation p.conditions := by
  simp only [serviceParentStore] at h
  split_ifs at h
  cases h
  exact observedUpTo_nil _

/-- After a whole pass of `serviceParentStore`'s policy, the policy carries Accepted and Programmed,
observed at its generation. -/
theorem reconcile_observedGeneration_le_serviceParent :
    ∃ p, ((reconcile testTranslatorConfig 0 serviceParentPolicy.key).run serviceParentStore []).2.1.policies
        serviceParentPolicy.key = some p ∧ p.conditions.length = 2 ∧
      ∀ c ∈ p.conditions, c.observedGeneration ≤ p.generation := by
  have hw : Reachable (ReconcileStarts testTranslatorConfig)
      (fun c => NotStatusWrite c ∧ ∀ p, c ≠ .createPolicy p) ⟨serviceParentStore, none⟩ _ :=
    reachable_pass serviceParentStore ⟨0, serviceParentPolicy.key, rfl⟩
  have hp : ((reconcile testTranslatorConfig 0 serviceParentPolicy.key).run serviceParentStore
      []).2.1.policies serviceParentPolicy.key = some _ := rfl
  exact ⟨_, hp, by decide, reconcile_observedGeneration_le testTranslatorConfig (fun _ h => h)
    wellFormed_serviceParentStore serviceParentStore_observedUpTo hw hp⟩

/-! ### The patch is not fenced -/

/-- Another client changes the spec of `serviceParentStore`'s policy twice, so that it is at its
second generation. A pass reads it, reads its route and its Engine, and creates the Engine. The other
client then removes the policy's finalizer, deletes it, and creates it again, at generation 1. The
pass's status patch lands on the new policy, with conditions observed at generation 2. -/
theorem reconcile_observedGeneration_ahead :
    serviceParentStore.WellFormed ∧
      (∀ key p, serviceParentStore.policies key = some p → ObservedUpTo p.generation p.conditions) ∧
      ∃ w, Reachable (ReconcileStarts testTranslatorConfig) NotStatusWrite ⟨serviceParentStore, none⟩ w ∧
        ∃ p, w.store.policies serviceParentPolicy.key = some p ∧
          ∃ c ∈ p.conditions, p.generation < c.observedGeneration := by
  have hspec : Reachable (ReconcileStarts testTranslatorConfig) NotStatusWrite ⟨serviceParentStore, none⟩ _ :=
    (Reachable.refl.tail (.foreign (c := .updatePolicy { serviceParentPolicy with
      spec := { targetRef := { kind := "HTTPRoute", name := "other" } } }) fun _ _ h => Call.noConfusion h)).tail
      (.foreign (c := .updatePolicy { serviceParentPolicy with resourceVersion := 2 })
        fun _ _ h => Call.noConfusion h)
  -- the pass, up to its status patch
  have hpass := ((((hspec.tail (.start ⟨0, serviceParentPolicy.key, rfl⟩)).tail .call).tail .call).tail
    .call).tail .call
  -- the other client deletes the policy and creates it again
  have hrecreated := ((hpass.tail (.foreign (c := .updatePolicy { serviceParentPolicy with
      resourceVersion := 3, finalizers := [] }) fun _ _ h => Call.noConfusion h)).tail
    (.foreign (c := .deletePolicy serviceParentPolicy.key 0) fun _ _ h => Call.noConfusion h)).tail
    (.foreign (c := .createPolicy serviceParentPolicy) fun _ _ h => Call.noConfusion h)
  exact ⟨wellFormed_serviceParentStore, serviceParentStore_observedUpTo, _, hrecreated.tail .call, _,
    rfl, _, List.mem_cons_self _ _, by decide⟩

end Controller

end CorazaOperator

import CorazaOperator.System.EngineName
import CorazaOperator.System.StatusConditions

/-!
# A policy whose Engine name is refused is never programmed

`reconcile_engine_name` says what one pass does for a policy whose name leaves no room for the
prefix. The same holds over whole runs, for every interleaving: such a policy never becomes
Programmed True.

* A pass patches Programmed True only onto the policy it holds, and only after it saw that policy's
  Engine: a read returned it, or the server accepted a create of it
  (`wp_reconcile_programmedAfterEngine`).
* The server returns only Engines it stores and accepts a create only under an admitted name, so
  every Engine a pass saw has an admitted name (`exec_engineAt`). The Engine name of a policy with
  a long name is not admitted.
* Writes of other clients that are not status writes keep the stored conditions, and an update
  through the main resource keeps them too.
-/

namespace CorazaOperator

/-- The key of the Engine an event shows stored: a read that returned one, or an accepted create. -/
def Event.engineAt? : Event → Option ObjectKey
  | ⟨.getEngine key, .ok _⟩ => some key
  | ⟨.createEngine e, .ok ()⟩ => some e.key
  | _ => none

namespace Controller

open Validation Apimeta World Prog

/-- The policy is Programmed True. -/
def ProgrammedTrue (conditions : List Condition) : Prop :=
  ∃ p, findStatusCondition conditions "Programmed" = some p ∧ p.status = .conditionTrue

theorem not_programmedTrue_nil : ¬ProgrammedTrue [] :=
  fun ⟨_, h, _⟩ => Option.noConfusion h

theorem not_programmedTrue_notAccepted (now : Time) (policy : WAFPolicy) (reason message : String) :
    ¬ProgrammedTrue (notAcceptedConditions now policy reason message) := by
  rintro ⟨p, hp, -⟩
  simp [notAcceptedConditions, findStatusCondition_removeStatusCondition] at hp

theorem not_programmedTrue_syncFailed (now : Time) (policy : WAFPolicy) (err : ReconcileError) :
    ¬ProgrammedTrue (syncFailedConditions now policy err) := by
  rintro ⟨p, hp, hs⟩
  obtain ⟨q, hq, hqs, -⟩ := @find_syncFailedConditions policy now err
  rw [hq] at hp
  cases hp
  exact absurd (hqs.symm.trans hs) (by decide)

/-! ### The Engines a pass saw -/

/-- The pass saw an Engine at `key`. -/
def EngineSeen (σ : List Event) (key : ObjectKey) : Prop :=
  ∃ ev ∈ σ, ev.engineAt? = some key

theorem EngineSeen.cons {σ : List Event} {key : ObjectKey} (h : EngineSeen σ key) (ev : Event) :
    EngineSeen (ev :: σ) key :=
  let ⟨ev', hev', hkey⟩ := h
  ⟨ev', List.mem_cons_of_mem _ hev', hkey⟩

theorem engineSeen_cons {ev : Event} {σ : List Event} {key : ObjectKey} :
    EngineSeen (ev :: σ) key ↔ ev.engineAt? = some key ∨ EngineSeen σ key := by
  simp only [EngineSeen, List.exists_mem_cons_iff]

theorem not_engineSeen_nil (key : ObjectKey) : ¬EngineSeen [] key :=
  fun ⟨_, hev, _⟩ => List.not_mem_nil _ hev

theorem createEngine_ok_name {s : Store} {e : Engine} (h : (s.createEngine e).1 = .ok ()) :
    DNS1123Subdomain e.name := by
  by_contra hname
  have herrs : Store.engineErrors e ≠ [] := fun h' => hname (Store.engineErrors_eq_nil.mp h').1
  simp [Store.createEngine, herrs] at h

theorem exec_engineAt {s : Store} (hs : s.WellFormed) (c : Call) {key : ObjectKey}
    (h : (⟨c, (s.exec c).1⟩ : Event).engineAt? = some key) : DNS1123Subdomain key.name := by
  cases c with
  | getEngine k =>
    cases he : s.getEngine k with
    | error err => simp [Store.exec, he, Event.engineAt?] at h
    | ok e =>
      simp only [Store.exec, he, Event.engineAt?, Option.some.injEq] at h
      exact h ▸ hs.engine_key_name (Store.getEngine_eq_ok he)
  | createEngine e =>
    cases hc : (s.createEngine e).1 with
    | error err => simp [Store.exec, hc, Event.engineAt?] at h
    | ok u =>
      simp only [Store.exec, hc, Event.engineAt?, Option.some.injEq] at h
      exact h ▸ createEngine_ok_name hc
  | _ => simp [Event.engineAt?] at h

/-! ### What a pass patches Programmed True -/

/-- A status patch that makes a policy Programmed True is of the policy the pass holds, after the
pass saw that policy's Engine. -/
def ProgrammedAfterEngine (σ : List Event) (c : Call) : Prop :=
  ∀ key conditions, c = .patchPolicyStatus key (some conditions) → ProgrammedTrue conditions →
    ∃ held, heldPolicy σ = some held ∧ key = held.key ∧ EngineSeen σ (engineFor held).key

theorem programmedAfterEngine_of_not_patch (σ : List Event) {c : Call}
    (hc : ∀ key patch, c ≠ .patchPolicyStatus key patch) : ProgrammedAfterEngine σ c :=
  fun key _ h => absurd h (hc key _)

theorem programmedAfterEngine_patch {σ : List Event} {held : WAFPolicy} {conditions : List Condition}
    (h : ProgrammedTrue conditions → heldPolicy σ = some held ∧ EngineSeen σ (engineFor held).key) :
    ProgrammedAfterEngine σ (.patchPolicyStatus held.key (mergePatch held.conditions conditions)) := by
  intro key patched hc hp
  injection hc with hkey hpatch
  obtain ⟨hheld, hseen⟩ := h (mergePatch_eq_some hpatch ▸ hp)
  exact ⟨held, hheld, hkey.symm, hseen⟩

section pass

variable (cfg : WAFPolicyTranslatorConfig) (now : Time) (labels : List (String × String))
  {held : WAFPolicy} {σ : List Event}

theorem wp_createOrUpdateEngine_seen (hσ : heldPolicy σ = some held) :
    WP ProgrammedAfterEngine (createOrUpdateEngine (engineFor held) (mutateEngine cfg held labels)) σ
      fun r σ' => heldPolicy σ' = some held ∧
        ∀ result, r = .ok result → EngineSeen σ' (engineFor held).key := by
  have hcreate : mutate (mutateEngine cfg held labels) (engineFor held).key (engineFor held) =
      .ok (ownedEngine cfg held labels (engineFor held)) :=
    mutate_owned rfl not_controlledByOther_nil
  have hkeep (c : Call) (hc : ¬c.ReturnsPolicy) (r : c.Reply) {σ' : List Event}
      (h : heldPolicy σ' = some held) : heldPolicy (⟨c, r⟩ :: σ') = some held :=
    (heldPolicy_of_not_returnsPolicy hc r).trans h
  have hget (r) := hkeep (.getEngine (engineFor held).key) id r hσ
  simp only [createOrUpdateEngine, getEngine, createEngine, updateEngine, wp_bind, wp_call, wp_ret,
    wp_pure]
  refine ⟨programmedAfterEngine_of_not_patch _ fun _ _ h => Call.noConfusion h, fun r _ => ?_⟩
  cases r with
  | error err =>
    dsimp only
    split_ifs
    · simp only [hcreate, wp_bind, wp_call, wp_ret, wp_pure]
      refine ⟨programmedAfterEngine_of_not_patch _ fun _ _ h => Call.noConfusion h, fun r' _ => ?_⟩
      cases r' with
      | error => exact ⟨hkeep _ id _ (hget _), fun _ h => Except.noConfusion h⟩
      | ok => exact ⟨hkeep _ id _ (hget _), fun _ _ => ⟨_, List.mem_cons_self _ _, rfl⟩⟩
    · exact ⟨hget _, fun _ h => Except.noConfusion h⟩
  | ok existing =>
    have hseen : EngineSeen (⟨.getEngine (engineFor held).key, .ok existing⟩ :: σ) (engineFor held).key :=
      ⟨_, List.mem_cons_self _ _, rfl⟩
    dsimp only
    cases mutate (mutateEngine cfg held labels) (engineFor held).key existing with
    | error err => exact ⟨hget _, fun _ h => Except.noConfusion h⟩
    | ok obj =>
      dsimp only
      split_ifs
      · exact ⟨hget _, fun _ _ => hseen⟩
      · simp only [wp_bind, wp_call, wp_ret, wp_pure]
        refine ⟨programmedAfterEngine_of_not_patch _ fun _ _ h => Call.noConfusion h, fun r' _ => ?_⟩
        cases r' <;> exact ⟨hkeep _ id _ (hget _), fun _ _ => hseen.cons _⟩

theorem wp_ensureEngine_programmedAfterEngine (hσ : heldPolicy σ = some held) :
    WP ProgrammedAfterEngine (ensureEngine cfg now held labels) σ fun _ _ => True := by
  simp only [ensureEngine, wp_bind]
  refine (wp_createOrUpdateEngine_seen cfg labels hσ).mono fun res σ' ⟨hheld, hseen⟩ => ?_
  cases res with
  | error err =>
    simp only [patchStatus, wp_bind, wp_call, wp_ret, wp_pure]
    exact ⟨programmedAfterEngine_patch fun hp => absurd hp (not_programmedTrue_syncFailed now held err),
      fun r _ => by cases r <;> trivial⟩
  | ok result =>
    simp only [patchStatus, wp_bind, wp_call, wp_ret, wp_pure]
    exact ⟨programmedAfterEngine_patch fun _ => ⟨hheld, hseen result rfl⟩,
      fun r _ => by cases r <;> trivial⟩

theorem wp_notAccepted_programmedAfterEngine (result : Result) (reason message : String) :
    WP ProgrammedAfterEngine (notAccepted now held result reason message) σ fun _ _ => True := by
  simp only [notAccepted, setNotAccepted, patchStatus, wp_bind, wp_call, wp_ret, wp_pure]
  exact ⟨programmedAfterEngine_patch fun hp =>
      absurd hp (not_programmedTrue_notAccepted now held reason message),
    fun r _ => by cases r <;> trivial⟩

theorem wp_reconcileTarget_programmedAfterEngine (hσ : heldPolicy σ = some held) :
    WP ProgrammedAfterEngine (reconcileTarget cfg now held) σ fun _ _ => True :=
  wp_reconcileTarget_of cfg now (I := fun σ => heldPolicy σ = some held)
    (fun σ _ _ hσ => ⟨programmedAfterEngine_of_not_patch σ fun _ _ h => Call.noConfusion h,
      fun r => (heldPolicy_of_not_returnsPolicy id r).trans hσ⟩)
    (fun _ _ _ _ _ => wp_notAccepted_programmedAfterEngine now _ _ _)
    (fun _ labels hσ => wp_ensureEngine_programmedAfterEngine cfg now labels hσ) hσ

/-- Every patch of a pass that makes a policy Programmed True is of the policy it holds, after it
saw that policy's Engine. -/
theorem wp_reconcile_programmedAfterEngine (key : ObjectKey) :
    WP ProgrammedAfterEngine (reconcile cfg now key) [] fun _ _ => True :=
  wp_reconcile_of cfg now (fun σ _ hc => programmedAfterEngine_of_not_patch σ hc)
    (fun _ _ hσ => wp_reconcileTarget_programmedAfterEngine cfg now hσ) key

end pass

/-! ### Over whole runs -/

theorem unprogrammed_exec {s : Store} {c : Call} {L : Nat}
    (hstored : ∀ key policy, s.policies key = some policy → L < key.name.length →
      ¬ProgrammedTrue policy.conditions)
    (hpatch : ∀ key conditions, c = .patchPolicyStatus key (some conditions) →
      ProgrammedTrue conditions → key.name.length ≤ L)
    {key : ObjectKey} {policy : WAFPolicy} (h : (s.exec c).2.policies key = some policy)
    (hlong : L < key.name.length) : ¬ProgrammedTrue policy.conditions := by
  have hchange := Store.exec_policyChange_to_stored h
  generalize hold : s.policies key = old at hchange
  cases hchange with
  | keep => exact hstored _ _ hold hlong
  | update => have hcur := hstored _ _ hold hlong; exact hcur
  | patch conditions hc => exact fun hp => absurd (hpatch _ _ hc hp) (by omega)
  | create => exact not_programmedTrue_nil
  | markDeleted => have hcur := hstored _ _ hold hlong; exact hcur

/-- What every reachable world keeps: the store is well formed, the pass keeps the discipline, every
Engine it saw has an admitted name, and no policy at a key whose name leaves no room for the prefix
is Programmed True. -/
structure UnprogrammedWorld (w : World (Result × Option ReconcileError)) : Prop where
  wellFormed : w.store.WellFormed
  disciplined : Disciplined ProgrammedAfterEngine w
  seen : ∀ p σ key, w.pass = some (p, σ) → EngineSeen σ key → DNS1123Subdomain key.name
  stored : ∀ key policy, w.store.policies key = some policy →
    DNS1123SubdomainMaxLength - EngineNamePrefix.length < key.name.length →
    ¬ProgrammedTrue policy.conditions

theorem UnprogrammedWorld.step {cfg : WAFPolicyTranslatorConfig}
    {w w' : World (Result × Option ReconcileError)} (h : UnprogrammedWorld w)
    (hs : Step (ReconcileStarts cfg) NotStatusWrite w w') : UnprogrammedWorld w' := by
  have hstart (p) (hp : ReconcileStarts cfg p) : WP ProgrammedAfterEngine p [] fun _ _ => True := by
    obtain ⟨now, key, rfl⟩ := hp
    exact wp_reconcile_programmedAfterEngine cfg now key
  refine ⟨hs.wellFormed h.wellFormed, hs.disciplined hstart h.wellFormed h.disciplined, ?_, ?_⟩
  · cases hs with
    | start => intro p σ key hpass hseen; cases hpass; exact absurd hseen (not_engineSeen_nil key)
    | call =>
      intro p σ key hpass hseen
      cases hpass
      rcases engineSeen_cons.mp hseen with hev | hseen
      · exact exec_engineAt h.wellFormed _ hev
      · exact h.seen _ _ key rfl hseen
    | @fail s c k σ err =>
      intro p σ key hpass hseen
      cases hpass
      rcases engineSeen_cons.mp hseen with hev | hseen
      · cases c <;> simp [Event.engineAt?] at hev
      · exact h.seen _ _ key rfl hseen
    | finish => intro p σ key hpass; cases hpass
    | foreign => exact h.seen
  · cases hs with
    | call =>
      refine fun _ _ => unprogrammed_exec h.stored fun key conditions hc hp => ?_
      obtain ⟨held, -, rfl, hseen⟩ := h.disciplined.allowed key conditions hc hp
      have hname := h.seen _ _ _ rfl hseen
      exact Nat.le_of_not_lt fun hlong => engineName_not_dns1123Subdomain hlong hname
    | foreign hc => exact fun _ _ => unprogrammed_exec h.stored fun k _ h' => absurd h' (hc k _)
    | _ => exact h.stored

theorem unprogrammedWorld_reachable {cfg : WAFPolicyTranslatorConfig} {s : Store} (hs : s.WellFormed)
    (hinit : ∀ key policy, s.policies key = some policy →
      DNS1123SubdomainMaxLength - EngineNamePrefix.length < key.name.length →
      ¬ProgrammedTrue policy.conditions)
    {w : World (Result × Option ReconcileError)}
    (hw : Reachable (ReconcileStarts cfg) NotStatusWrite ⟨s, none⟩ w) : UnprogrammedWorld w := by
  induction hw with
  | refl => exact ⟨hs, fun _ _ h => Option.noConfusion h, fun _ _ _ h => Option.noConfusion h, hinit⟩
  | tail _ hstep ih => exact ih.step hstep

/-- Take a well-formed store in which no policy whose name leaves no room for the prefix is
Programmed True. Run passes of `Reconcile` interleaved with any write of another client that is not
a status write, with any call failing. In every world this reaches, no such policy is Programmed
True: an admitted policy whose Engine name the server refuses is never programmed. -/
theorem reconcile_never_programs_long_name (cfg : WAFPolicyTranslatorConfig) {s : Store}
    (hs : s.WellFormed)
    (hinit : ∀ key policy, s.policies key = some policy →
      DNS1123SubdomainMaxLength - EngineNamePrefix.length < policy.name.length →
      ¬ProgrammedTrue policy.conditions)
    {w : World (Result × Option ReconcileError)}
    (hw : Reachable (ReconcileStarts cfg) NotStatusWrite ⟨s, none⟩ w) {key : ObjectKey}
    {policy : WAFPolicy} (hp : w.store.policies key = some policy)
    (hlong : DNS1123SubdomainMaxLength - EngineNamePrefix.length < policy.name.length) :
    ¬ProgrammedTrue policy.conditions := by
  have hkey (s' : Store) (hs' : s'.WellFormed) {key : ObjectKey} {policy : WAFPolicy}
      (hp : s'.policies key = some policy) : key.name = policy.name :=
    (congrArg ObjectKey.name (hs'.policy_key hp)).symm
  have hworld := unprogrammedWorld_reachable hs
    (fun key policy hp hlong => hinit key policy hp (hkey s hs hp ▸ hlong)) hw
  exact hworld.stored key policy hp ((hkey _ hworld.wellFormed hp).symm ▸ hlong)

theorem longNameStore_conditions {key : ObjectKey} {policy : WAFPolicy}
    (hp : longNameStore.policies key = some policy) : policy.conditions = [] := by
  unfold longNameStore at hp
  by_cases hk : key = longNamePolicy.key
  · rw [hk, Store.setPolicy_policies_self] at hp
    cases hp
    rfl
  · rw [Store.setPolicy_policies_ne _ _ hk] at hp
    simp only [serviceParentStore] at hp
    split_ifs at hp
    cases hp
    rfl

set_option maxRecDepth 4000 in
/-- After two passes of the long-named policy, each of which had its Engine create refused, the
status the passes wrote does not say Programmed True. -/
theorem reconcile_never_programs_long_name_longNameStore :
    ∃ policy, ((reconcile testTranslatorConfig 0 longNamePolicy.key).run
        ((reconcile testTranslatorConfig 0 longNamePolicy.key).run longNameStore []).2.1
        []).2.1.policies longNamePolicy.key = some policy ∧
      policy.conditions ≠ [] ∧ ¬ProgrammedTrue policy.conditions := by
  have hinit (key : ObjectKey) (policy : WAFPolicy) (hp : longNameStore.policies key = some policy)
      (_ : DNS1123SubdomainMaxLength - EngineNamePrefix.length < policy.name.length) :
      ¬ProgrammedTrue policy.conditions :=
    longNameStore_conditions hp ▸ not_programmedTrue_nil
  have hw : Reachable (ReconcileStarts testTranslatorConfig) NotStatusWrite ⟨longNameStore, none⟩
      ⟨((reconcile testTranslatorConfig 0 longNamePolicy.key).run
        ((reconcile testTranslatorConfig 0 longNamePolicy.key).run longNameStore []).2.1 []).2.1, none⟩ :=
    (reachable_pass _ ⟨0, longNamePolicy.key, rfl⟩).trans (reachable_pass _ ⟨0, longNamePolicy.key, rfl⟩)
  have hp : ((reconcile testTranslatorConfig 0 longNamePolicy.key).run
      ((reconcile testTranslatorConfig 0 longNamePolicy.key).run longNameStore []).2.1
      []).2.1.policies longNamePolicy.key = some _ := rfl
  exact ⟨_, hp, by decide, reconcile_never_programs_long_name testTranslatorConfig wellFormed_longNameStore
    hinit hw hp storedLongNamePolicy_long⟩

end Controller

end CorazaOperator

import CorazaOperator.System.Observed
import CorazaOperator.Proof.Pass

/-!
# What a `Reconcile` pass may send

The rules every call of a pass keeps, over every reply, read off its history: a policy update is of
the policy it holds, with the finalizer added to a live one or removed from a deleted one; an
Engine update is of the Engine it read, at that Engine's key and version, and that Engine is
controlled by no other object; an Engine write or a
status patch comes only after the pass read its policy live, while what it holds carries the
finalizer, and is of that policy's Engine or status; and nothing else is written.
`wp_reconcile_passRules` proves them once, one lemma per function of the pass; the results about
the interleaved system use them through `World.Disciplined`.
-/

namespace CorazaOperator

namespace World

/-- The Engine a pass holds: the last one the server sent it. -/
def heldEngine : List Event → Option Engine
  | [] => none
  | ⟨.getEngine _, .ok e⟩ :: _ => some e
  | _ :: σ => heldEngine σ

theorem heldEngine_cons (ev : Event) (σ : List Event) :
    heldEngine (ev :: σ) = match ev.obj? with
      | some (.engine e) => some e
      | _ => heldEngine σ := by
  obtain ⟨c, r⟩ := ev
  cases c <;> cases r <;> rfl

theorem heldEngine_seen {σ : List Event} {read : Engine} (h : heldEngine σ = some read) :
    ∃ ev ∈ σ, ev.obj? = some (.engine read) := by
  induction σ with
  | nil => cases h
  | cons ev σ ih =>
    rw [heldEngine_cons] at h
    split at h
    · rename_i hev
      cases h
      exact ⟨ev, List.mem_cons_self _ _, hev⟩
    · obtain ⟨ev', hmem, hev'⟩ := ih h
      exact ⟨ev', List.mem_cons_of_mem _ hmem, hev'⟩

end World

namespace Controller

open World Prog Controllerutil

/-- The passes of `Reconcile`, for any key and at any time. -/
def ReconcileStarts (cfg : WAFPolicyTranslatorConfig)
    (p : Prog (Result × Option ReconcileError)) : Prop :=
  ∃ now key, p = reconcile cfg now key

/-- The world of a pass of `Reconcile` for `key` started on `s`, after `n` calls the store answered. -/
def passAfter (cfg : WAFPolicyTranslatorConfig) (now : Time) (key : ObjectKey) (s : Store) (n : Nat) :
    World (Result × Option ReconcileError) :=
  advance n ⟨s, some (reconcile cfg now key, [])⟩

theorem reachable_passAfter (Foreign : Call → Prop) (cfg : WAFPolicyTranslatorConfig) (now : Time)
    (key : ObjectKey) (s : Store) (n : Nat) :
    Reachable (ReconcileStarts cfg) Foreign ⟨s, none⟩ (passAfter cfg now key s n) :=
  (Reachable.single (Step.start ⟨now, key, rfl⟩)).trans (reachable_advance n _)

/-- The pass read its policy live and holds it carrying the finalizer. -/
structure HoldsLive (σ : List Event) (held : WAFPolicy) : Prop where
  held_eq : heldPolicy σ = some held
  finalizer_mem : wafPolicyFinalizer ∈ held.finalizers
  read_live : ∃ first : WAFPolicy, (⟨.getPolicy first.key, .ok first⟩ : Event) ∈ σ ∧
    first.key = held.key ∧ first.deletionTimestamp = none

theorem HoldsLive.cons {σ : List Event} {held : WAFPolicy} (h : HoldsLive σ held) {c : Call}
    (hc : ¬c.ReturnsPolicy) (r : c.Reply) : HoldsLive (⟨c, r⟩ :: σ) held where
  held_eq := (heldPolicy_of_not_returnsPolicy hc r).trans h.held_eq
  finalizer_mem := h.finalizer_mem
  read_live :=
    let ⟨first, hmem, hkey, hlive⟩ := h.read_live
    ⟨first, List.mem_cons_of_mem _ hmem, hkey, hlive⟩

/-- What a call of a pass may be, after the history `σ`. -/
structure PassRules (σ : List Event) (c : Call) : Prop where
  update_policy : ∀ sent, c = .updatePolicy sent → ∃ held, heldPolicy σ = some held ∧
    (held.deletionTimestamp = none ∧
        sent = { held with finalizers := addFinalizer held.finalizers wafPolicyFinalizer } ∨
      held.deletionTimestamp.isSome ∧
        sent = { held with finalizers := removeFinalizer held.finalizers wafPolicyFinalizer })
  update_engine : ∀ e, c = .updateEngine e →
    ∃ read, heldEngine σ = some read ∧ e.key = read.key ∧ e.resourceVersion = read.resourceVersion ∧
      ∃ held, HoldsLive σ held ∧ ¬ControlledByOther held read.ownerReferences
  engine_write : ∀ e, c = .createEngine e ∨ c = .updateEngine e →
    ∃ held, HoldsLive σ held ∧ e.key = (engineFor held).key
  status_patch : ∀ key patch, c = .patchPolicyStatus key patch →
    ∃ held, HoldsLive σ held ∧ key = held.key
  writes : c.IsWrite → (∃ sent, c = .updatePolicy sent) ∨ (∃ key patch, c = .patchPolicyStatus key patch) ∨
    (∃ e, c = .createEngine e) ∨ ∃ e, c = .updateEngine e

section rules

variable {σ : List Event}

theorem passRules_read {c : Call} (hc : ¬c.IsWrite) : PassRules σ c where
  update_policy _ h := absurd (h ▸ trivial) hc
  update_engine _ h := absurd (h ▸ trivial) hc
  engine_write _ h := h.elim (fun h => absurd (h ▸ trivial) hc) fun h => absurd (h ▸ trivial) hc
  status_patch _ _ h := absurd (h ▸ trivial) hc
  writes h := absurd h hc

theorem passRules_patch {held : WAFPolicy} (h : HoldsLive σ held) (patch : Option (List Condition)) :
    PassRules σ (.patchPolicyStatus held.key patch) where
  update_policy _ h := Call.noConfusion h
  update_engine _ h := Call.noConfusion h
  engine_write _ h := h.elim (fun h => Call.noConfusion h) fun h => Call.noConfusion h
  status_patch _ _ hc := by
    cases hc
    exact ⟨held, h, rfl⟩
  writes _ := .inr (.inl ⟨_, _, rfl⟩)

theorem passRules_createEngine {held : WAFPolicy} (h : HoldsLive σ held) {e : Engine}
    (hkey : e.key = (engineFor held).key) : PassRules σ (.createEngine e) where
  update_policy _ h := Call.noConfusion h
  update_engine _ h := Call.noConfusion h
  engine_write _ hc := by
    rcases hc with hc | hc <;> cases hc
    exact ⟨held, h, hkey⟩
  status_patch _ _ h := Call.noConfusion h
  writes _ := .inr (.inr (.inl ⟨_, rfl⟩))

theorem passRules_updateEngine {held : WAFPolicy} {existing e : Engine} (h : HoldsLive σ held)
    (hread : heldEngine σ = some existing) (hkey : e.key = (engineFor held).key)
    (hkey' : e.key = existing.key) (hrv : e.resourceVersion = existing.resourceVersion)
    (hown : ¬ControlledByOther held existing.ownerReferences) : PassRules σ (.updateEngine e) where
  update_policy _ h := Call.noConfusion h
  update_engine _ hc := by
    cases hc
    exact ⟨existing, hread, hkey', hrv, held, h, hown⟩
  engine_write _ hc := by
    rcases hc with hc | hc <;> cases hc
    exact ⟨held, h, hkey⟩
  status_patch _ _ h := Call.noConfusion h
  writes _ := .inr (.inr (.inr ⟨_, rfl⟩))

theorem passRules_updatePolicy {held : WAFPolicy} (hheld : heldPolicy σ = some held)
    {sent : WAFPolicy}
    (hsent : held.deletionTimestamp = none ∧
        sent = { held with finalizers := addFinalizer held.finalizers wafPolicyFinalizer } ∨
      held.deletionTimestamp.isSome ∧
        sent = { held with finalizers := removeFinalizer held.finalizers wafPolicyFinalizer }) :
    PassRules σ (.updatePolicy sent) where
  update_policy _ hc := by
    cases hc
    exact ⟨held, hheld, hsent⟩
  update_engine _ h := Call.noConfusion h
  engine_write _ h := h.elim (fun h => Call.noConfusion h) fun h => Call.noConfusion h
  status_patch _ _ h := Call.noConfusion h
  writes _ := .inl ⟨_, rfl⟩

theorem PassRules.not_createPolicy {c : Call} (h : PassRules σ c) (p : WAFPolicy) :
    c ≠ .createPolicy p := by
  rintro rfl
  rcases h.writes trivial with ⟨_, h⟩ | ⟨_, _, h⟩ | ⟨_, h⟩ | ⟨_, h⟩ <;> cases h

end rules

/-! ### One lemma per function of the pass -/

section functions

variable (cfg : WAFPolicyTranslatorConfig) (now : Time) {σ : List Event} {held : WAFPolicy}
  (labels : List (String × String))

theorem mutate_mutateEngine_ok {key : ObjectKey} {existing obj : Engine}
    (h : mutate (mutateEngine cfg held labels) key existing = .ok obj) :
    obj.key = key ∧ obj.resourceVersion = existing.resourceVersion ∧
      ¬ControlledByOther held existing.ownerReferences := by
  unfold mutate at h
  cases hm : mutateEngine cfg held labels existing with
  | error err =>
    rw [hm] at h
    cases h
  | ok obj' =>
    rw [hm] at h
    dsimp only at h
    split_ifs at h with hk
    cases h
    refine ⟨hk, ?_, fun ⟨c, hc, hne⟩ => ?_⟩
    · unfold mutateEngine at hm
      dsimp only at hm
      split at hm <;> cases hm
      rfl
    · unfold mutateEngine setControllerReference at hm
      cases hv : validateOwner (policyOwner held).namespace existing.namespace <;>
        simp [hv, hc, hne] at hm

theorem wp_notAccepted_passRules (h : HoldsLive σ held) (result : Result) (reason message : String) :
    WP PassRules (notAccepted now held result reason message) σ fun _ _ => True := by
  simp only [notAccepted, setNotAccepted, patchStatus, wp_bind, wp_call, wp_ret, wp_pure]
  exact ⟨passRules_patch h _, fun r _ => by cases r <;> trivial⟩

theorem wp_createOrUpdateEngine_passRules (h : HoldsLive σ held) :
    WP PassRules (createOrUpdateEngine (engineFor held) (mutateEngine cfg held labels)) σ
      fun _ σ' => HoldsLive σ' held := by
  have hcreate : mutate (mutateEngine cfg held labels) (engineFor held).key (engineFor held) =
      .ok (ownedEngine cfg held labels (engineFor held)) :=
    mutate_owned rfl not_controlledByOther_nil
  simp only [createOrUpdateEngine, getEngine, createEngine, updateEngine, wp_bind, wp_call, wp_ret,
    wp_pure]
  refine ⟨passRules_read id, fun r hr => ?_⟩
  have h₁ := h.cons (c := .getEngine (engineFor held).key) id r
  cases r with
  | error err =>
    dsimp only
    split_ifs
    · simp only [hcreate, wp_bind, wp_call, wp_ret, wp_pure]
      exact ⟨passRules_createEngine h₁ rfl, fun r' _ => by
        cases r' <;> exact h₁.cons (c := .createEngine _) id _⟩
    · exact h₁
  | ok existing =>
    dsimp only
    cases hm : mutate (mutateEngine cfg held labels) (engineFor held).key existing with
    | error err => exact h₁
    | ok obj =>
      obtain ⟨hkey, hrv, hown⟩ := mutate_mutateEngine_ok cfg labels hm
      dsimp only
      split_ifs
      · exact h₁
      · simp only [wp_bind, wp_call, wp_ret, wp_pure]
        exact ⟨passRules_updateEngine h₁ rfl hkey (hkey.trans hr.symm) hrv hown, fun r' _ => by
          cases r' <;> exact h₁.cons (c := .updateEngine _) id _⟩

theorem wp_ensureEngine_passRules (h : HoldsLive σ held) :
    WP PassRules (ensureEngine cfg now held labels) σ fun _ _ => True := by
  simp only [ensureEngine, wp_bind]
  refine (wp_createOrUpdateEngine_passRules cfg labels h).mono fun res σ' h' => ?_
  cases res <;>
    simp only [patchStatus, wp_bind, wp_call, wp_ret, wp_pure] <;>
    exact ⟨passRules_patch h' _, fun r _ => by cases r <;> trivial⟩

theorem wp_reconcileTarget_of {A : List Event → Call → Prop} {I : List Event → Prop}
    (hget : ∀ σ gvk key, I σ → A σ (.get gvk key) ∧ ∀ r, I (⟨.get gvk key, r⟩ :: σ))
    (hnot : ∀ σ result reason message, I σ →
      WP A (notAccepted now held result reason message) σ fun _ _ => True)
    (hensure : ∀ σ labels, I σ → WP A (ensureEngine cfg now held labels) σ fun _ _ => True)
    (hσ : I σ) : WP A (reconcileTarget cfg now held) σ fun _ _ => True := by
  unfold reconcileTarget
  dsimp only
  split_ifs
  · simp only [reconcileForGateway, Controller.get, wp_bind, wp_call, wp_ret]
    refine ⟨(hget _ _ _ hσ).1, fun r _ => ?_⟩
    have h₁ := (hget _ _ _ hσ).2 r
    cases r with
    | error err =>
      dsimp only
      split_ifs
      · exact hnot _ _ _ _ h₁
      · trivial
    | ok _ => exact hensure _ _ h₁
  · simp only [reconcileForHTTPRoute, Controller.get, wp_bind, wp_call, wp_ret]
    refine ⟨(hget _ _ _ hσ).1, fun r _ => ?_⟩
    have h₁ := (hget _ _ _ hσ).2 r
    cases r with
    | error err =>
      dsimp only
      split_ifs
      · exact hnot _ _ _ _ h₁
      · trivial
    | ok route =>
      dsimp only
      split
      · exact hnot _ _ _ _ h₁
      · exact hensure _ _ h₁
  · exact hnot _ _ _ _ hσ

theorem wp_reconcileTarget_passRules (h : HoldsLive σ held) :
    WP PassRules (reconcileTarget cfg now held) σ fun _ _ => True :=
  wp_reconcileTarget_of cfg now (I := fun σ => HoldsLive σ held)
    (fun _ _ _ hσ => ⟨passRules_read id, fun r => hσ.cons id r⟩)
    (fun _ _ _ _ hσ => wp_notAccepted_passRules now hσ _ _ _)
    (fun _ labels hσ => wp_ensureEngine_passRules cfg now labels hσ) h

theorem wp_handleDeletion_passRules (hheld : heldPolicy σ = some held)
    (hdel : held.deletionTimestamp.isSome) :
    WP PassRules (handleDeletion held) σ fun _ _ => True := by
  unfold handleDeletion
  split_ifs
  · simp only [updatePolicy, wp_bind, wp_call, wp_ret]
    exact ⟨passRules_updatePolicy hheld (.inr ⟨hdel, rfl⟩), fun r _ => by cases r <;> trivial⟩
  · trivial

/-- Every call of a pass keeps the rules, whatever the server answers. -/
theorem wp_reconcile_passRules (key : ObjectKey) :
    WP PassRules (reconcile cfg now key) [] fun _ _ => True := by
  simp only [reconcile, getPolicy, wp_bind, wp_call, wp_ret]
  refine ⟨passRules_read id, fun r hr => ?_⟩
  cases r with
  | error err =>
    dsimp only
    split_ifs <;> trivial
  | ok policy =>
    dsimp only
    split_ifs with hdel hfin
    · exact wp_handleDeletion_passRules (heldPolicy_getPolicy _ _) hdel
    · refine wp_reconcileTarget_passRules cfg now ⟨heldPolicy_getPolicy _ _, ?_, policy, ?_, rfl, ?_⟩
      · simpa [containsFinalizer] using hfin
      · rw [show policy.key = key from hr]
        exact List.mem_singleton_self _
      · simpa using hdel
    · simp only [updatePolicy, wp_bind, wp_call, wp_ret]
      refine ⟨passRules_updatePolicy (heldPolicy_getPolicy _ _) (.inl ⟨by simpa using hdel, rfl⟩),
        fun r hr' => ?_⟩
      cases r with
      | error err => trivial
      | ok p =>
        obtain ⟨hkey, hfins, -⟩ := hr'
        refine wp_reconcileTarget_passRules cfg now ⟨heldPolicy_updatePolicy _ _, ?_, policy, ?_,
          hkey.symm, by simpa using hdel⟩
        · rw [hfins]
          exact (mem_addFinalizer _ _ _).2 (.inr rfl)
        · rw [show policy.key = key from hr]
          exact List.mem_cons_of_mem _ (List.mem_singleton_self _)

theorem reconcileStarts_passRules (p : Prog (Result × Option ReconcileError))
    (hp : ReconcileStarts cfg p) : WP PassRules p [] fun _ _ => True := by
  obtain ⟨now, key, rfl⟩ := hp
  exact wp_reconcile_passRules cfg now key

end functions

end Controller

end CorazaOperator

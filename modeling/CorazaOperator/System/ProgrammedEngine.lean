import CorazaOperator.System.NeverProgrammed
import CorazaOperator.System.OwnWrites

/-!
# A policy that says it is programmed has its Engine

A pass patches Programmed True only onto the policy it holds, after it saw that policy's Engine
(`wp_reconcile_programmedAfterEngine`). The controller deletes no Engine: a pass sends no delete
(`PassRules.not_deleteEngine`), and the store keeps an Engine under every call but a delete of it
(`Store.exec_engines_isSome`). So an Engine a pass saw is still stored when its patch lands.

When no other client writes a policy's status or deletes an Engine, every stored policy that is
Programmed True therefore has an Engine at the key named for it, in every world a run reaches
(`reconcile_programmed_has_engine`). The status patch is not fenced, and may land on a policy created
again at the same key after the read; the Engine it reports is then the one at that key. The garbage
collector that removes the Engine of a deleted policy is another client deleting an Engine, and
falls outside the hypothesis.
-/

namespace CorazaOperator

namespace Store

theorem exec_engines_isSome {s : Store} {c : Call} (hc : ∀ k, c ≠ .deleteEngine k) {key : ObjectKey}
    (h : (s.engines key).isSome) : ((s.exec c).2.engines key).isSome := by
  by_cases hpos : c.pos s = some (.engine key)
  · cases c with
    | createEngine e =>
      obtain rfl : e.key = key := by simpa [Call.pos] using hpos
      rcases exec_createEngine s e with hs | ⟨hnone, -⟩
      · rwa [hs]
      · simp [hnone] at h
    | updateEngine e =>
      obtain rfl : e.key = key := by simpa [Call.pos] using hpos
      rcases exec_updateEngine s e with hs | ⟨-, he⟩
      · rwa [hs]
      · simp [he]
    | deleteEngine k => exact absurd rfl (hc k)
    | _ => simp [Call.pos] at hpos
  · simpa [«at», h] using congrArg Option.isSome (exec_at_of_ne hpos)

theorem createEngine_ok_engines {s : Store} {e : Engine} (h : (s.createEngine e).1 = .ok ()) :
    ((s.createEngine e).2.engines e.key).isSome := by
  unfold createEngine at h ⊢
  split_ifs at h ⊢
  cases he : s.engines e.key <;> simp [he] at h ⊢

theorem exec_engineAt_isSome (s : Store) (c : Call) {key : ObjectKey}
    (h : (⟨c, (s.exec c).1⟩ : Event).engineAt? = some key) : ((s.exec c).2.engines key).isSome := by
  cases c with
  | getEngine k =>
    cases he : s.getEngine k with
    | error err => simp [exec, he, Event.engineAt?] at h
    | ok e =>
      simp only [exec, he, Event.engineAt?, Option.some.injEq] at h
      simp [exec, ← h, getEngine_eq_ok he]
  | createEngine e =>
    cases hc : (s.createEngine e).1 with
    | error err => simp [exec, hc, Event.engineAt?] at h
    | ok u =>
      simp only [exec, hc, Event.engineAt?, Option.some.injEq] at h
      exact h ▸ createEngine_ok_engines hc
  | _ => simp [Event.engineAt?] at h

end Store

namespace Controller

open World Prog

theorem PassRules.not_deleteEngine {σ : List Event} {c : Call} (h : PassRules σ c) (key : ObjectKey) :
    c ≠ .deleteEngine key := by
  rintro rfl
  rcases h.writes trivial with ⟨_, h⟩ | ⟨_, _, h⟩ | ⟨_, h⟩ | ⟨_, h⟩ <;> cases h

/-- Every policy the store says is Programmed True has an Engine at the key named for its key. -/
def EngineBacked (s : Store) : Prop :=
  ∀ key p, s.policies key = some p → ProgrammedTrue p.conditions → (s.engines (engineKey key)).isSome

theorem engineBacked_exec {s : Store} {c : Call} (hc : ∀ k, c ≠ .deleteEngine k)
    (hstored : EngineBacked s)
    (hpatch : ∀ key conditions, c = .patchPolicyStatus key (some conditions) →
      ProgrammedTrue conditions → (s.engines (engineKey key)).isSome) :
    EngineBacked (s.exec c).2 := by
  intro key p hp hprog
  refine Store.exec_engines_isSome hc ?_
  have hchange := Store.exec_policyChange_to_stored hp
  generalize hold : s.policies key = old at hchange
  cases hchange with
  | keep | update | markDeleted => exact hstored _ _ hold hprog
  | patch conditions hc => exact hpatch _ _ hc hprog
  | create => exact absurd hprog not_programmedTrue_nil

/-- What every reachable world keeps: the store is well formed, the pass keeps its rules and patches
Programmed True only after it saw the Engine, every Engine it saw is still stored, and every policy
that is Programmed True has its Engine. -/
structure BackedWorld (w : World (Result × Option ReconcileError)) : Prop where
  wellFormed : w.store.WellFormed
  rules : Disciplined PassRules w
  programmed : Disciplined ProgrammedAfterEngine w
  seen : ∀ p σ key, w.pass = some (p, σ) → EngineSeen σ key → (w.store.engines key).isSome
  stored : EngineBacked w.store

section

variable {cfg : WAFPolicyTranslatorConfig} {Foreign : Call → Prop}
  (hforeign : ∀ c, Foreign c → NotStatusWrite c ∧ ∀ k, c ≠ .deleteEngine k)
include hforeign

theorem BackedWorld.step {w w' : World (Result × Option ReconcileError)} (h : BackedWorld w)
    (hs : Step (ReconcileStarts cfg) Foreign w w') : BackedWorld w' := by
  have hstart (p) (hp : ReconcileStarts cfg p) : WP ProgrammedAfterEngine p [] fun _ _ => True := by
    obtain ⟨now, key, rfl⟩ := hp
    exact wp_reconcile_programmedAfterEngine cfg now key
  refine ⟨hs.wellFormed h.wellFormed, hs.disciplined (reconcileStarts_passRules cfg) h.wellFormed h.rules,
    hs.disciplined hstart h.wellFormed h.programmed, ?_, ?_⟩
  · cases hs with
    | start => intro p σ key hpass hseen; cases hpass; exact absurd hseen (not_engineSeen_nil key)
    | call =>
      intro p σ key hpass hseen
      cases hpass
      rcases engineSeen_cons.mp hseen with hev | hseen
      · exact Store.exec_engineAt_isSome _ _ hev
      · exact Store.exec_engines_isSome (h.rules.allowed.not_deleteEngine) (h.seen _ _ key rfl hseen)
    | @fail s c k σ err =>
      intro p σ key hpass hseen
      cases hpass
      rcases engineSeen_cons.mp hseen with hev | hseen
      · cases c <;> simp [Event.engineAt?] at hev
      · exact h.seen _ _ key rfl hseen
    | finish => intro p σ key hpass; cases hpass
    | foreign hc =>
      exact fun p σ key hpass hseen => Store.exec_engines_isSome (hforeign _ hc).2 (h.seen p σ key hpass hseen)
  · cases hs with
    | call =>
      refine engineBacked_exec h.rules.allowed.not_deleteEngine h.stored fun key conditions hc hp => ?_
      obtain ⟨held, -, rfl, hseen⟩ := h.programmed.allowed key conditions hc hp
      exact h.seen _ _ _ rfl hseen
    | foreign hc =>
      exact engineBacked_exec (hforeign _ hc).2 h.stored fun k _ h' => absurd h' ((hforeign _ hc).1 k _)
    | _ => exact h.stored

theorem backedWorld_reachable {s : Store} (hs : s.WellFormed) (hinit : EngineBacked s)
    {w : World (Result × Option ReconcileError)} (hw : Reachable (ReconcileStarts cfg) Foreign ⟨s, none⟩ w) :
    BackedWorld w := by
  induction hw with
  | refl => exact ⟨hs, fun _ _ h => Option.noConfusion h, fun _ _ h => Option.noConfusion h,
      fun _ _ _ h => Option.noConfusion h, hinit⟩
  | tail _ hstep ih => exact ih.step hforeign hstep

end

/-- Take a well-formed store in which every policy that is Programmed True has an Engine at the key
named for it. Run passes of `Reconcile` interleaved with the writes of other clients that write no
status and delete no Engine, with any call failing. In every world this reaches, every stored policy
that is Programmed True has an Engine at the key named for it. -/
theorem reconcile_programmed_has_engine (cfg : WAFPolicyTranslatorConfig) {Foreign : Call → Prop}
    (hforeign : ∀ c, Foreign c → NotStatusWrite c ∧ ∀ k, c ≠ .deleteEngine k) {s : Store}
    (hs : s.WellFormed)
    (hinit : ∀ key p, s.policies key = some p → ProgrammedTrue p.conditions →
      ∃ e, s.engines (engineFor p).key = some e)
    {w : World (Result × Option ReconcileError)} (hw : Reachable (ReconcileStarts cfg) Foreign ⟨s, none⟩ w)
    {key : ObjectKey} {p : WAFPolicy} (hp : w.store.policies key = some p)
    (hprog : ProgrammedTrue p.conditions) : ∃ e, w.store.engines (engineFor p).key = some e := by
  have hbacked : EngineBacked s := fun key p hp hprog => by
    rw [← hs.policy_key hp]
    exact Option.isSome_iff_exists.mpr (hinit key p hp hprog)
  have hworld := backedWorld_reachable hforeign hs hbacked hw
  rw [engineFor_key, hworld.wellFormed.policy_key hp]
  exact Option.isSome_iff_exists.mp (hworld.stored key p hp hprog)

theorem serviceParentStore_not_programmed (key : ObjectKey) (p : WAFPolicy)
    (h : serviceParentStore.policies key = some p) : ¬ProgrammedTrue p.conditions := by
  simp only [serviceParentStore] at h
  split_ifs at h
  cases h
  exact not_programmedTrue_nil

/-- After a whole pass of `serviceParentStore`'s policy, the policy is Programmed True, and its Engine
is stored. -/
theorem reconcile_programmed_has_engine_serviceParent :
    ∃ p, ((reconcile testTranslatorConfig 0 serviceParentPolicy.key).run serviceParentStore []).2.1.policies
        serviceParentPolicy.key = some p ∧ ProgrammedTrue p.conditions ∧
      ∃ e, ((reconcile testTranslatorConfig 0 serviceParentPolicy.key).run serviceParentStore
        []).2.1.engines (engineFor p).key = some e := by
  have hw : Reachable (ReconcileStarts testTranslatorConfig)
      (fun c => NotStatusWrite c ∧ ∀ k, c ≠ .deleteEngine k) ⟨serviceParentStore, none⟩ _ :=
    reachable_pass serviceParentStore ⟨0, serviceParentPolicy.key, rfl⟩
  have hp : ((reconcile testTranslatorConfig 0 serviceParentPolicy.key).run serviceParentStore
      []).2.1.policies serviceParentPolicy.key = some _ := rfl
  exact ⟨_, hp, ⟨_, rfl, rfl⟩, reconcile_programmed_has_engine testTranslatorConfig (fun _ h => h)
    wellFormed_serviceParentStore
    (fun key p h hprog => absurd hprog (serviceParentStore_not_programmed key p h)) hw hp ⟨_, rfl, rfl⟩⟩

end Controller

end CorazaOperator

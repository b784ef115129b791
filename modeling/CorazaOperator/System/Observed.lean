import CorazaOperator.System.World

/-!
# What a pass has seen

Every write gives the object it stores the store's revision, and the revision only grows. So a
version, once issued, names one object: an object a pass has read is still stored exactly as read,
or whatever is stored now carries a newer version. `Store.Issued` says this of one object, every
call keeps it (`Store.Issued.exec`), and a reply is issued by the store that sent it
(`Store.exec_reply_issued`); so in every reachable world, whatever the other clients write, every
object the pass in progress has been sent is issued by the current store
(`World.Reachable.seenIssued`). An update that the store accepts because the versions agree
therefore replaces exactly the object the pass read.
-/

namespace CorazaOperator

/-- The object a successful read, or a successful policy update, sent back. -/
def Event.obj? : Event → Option Obj
  | ⟨.getPolicy _, .ok p⟩ => some (.policy p)
  | ⟨.updatePolicy _, .ok p⟩ => some (.policy p)
  | ⟨.getEngine _, .ok e⟩ => some (.engine e)
  | ⟨.get _ _, .ok u⟩ => some (.object u)
  | _ => none

namespace Store

/-- The store issued `o`: its version is below the revision, and whatever object carries that
version is `o`, at its own position. -/
def Issued (s : Store) (o : Obj) : Prop :=
  o.resourceVersion < s.revision ∧
    ∀ pos o', s.at pos = some o' → o'.resourceVersion = o.resourceVersion → pos = o.pos ∧ o' = o

variable {s : Store} {o : Obj}

theorem WellFormed.issued (h : s.WellFormed) (pos : Pos) (ho : s.at pos = some o) : s.Issued o :=
  ⟨h.lt_revision pos o ho, fun pos' o' ho' hrv => by
    obtain rfl := h.rv_unique pos' pos o' o ho' ho hrv
    rw [ho] at ho'
    cases ho'
    exact ⟨(h.pos_eq _ _ ho).symm, rfl⟩⟩

theorem Issued.apply (ho : s.Issued o) {w : Write} (hw : w.Fresh s.revision) :
    (s.apply w).Issued o := by
  refine ⟨by rw [apply_revision]; exact Nat.lt_succ_of_lt ho.1, fun pos o' ho' hrv => ?_⟩
  rw [at_apply] at ho'
  split_ifs at ho'
  · have := (hw o' ho').1
    have := ho.1
    omega
  · exact ho.2 pos o' ho' hrv

theorem Issued.exec (h : s.WellFormed) (ho : s.Issued o) (c : Call) : (s.exec c).2.Issued o := by
  rcases exec_cases h c with hs | ⟨w, hs, hw⟩ <;> rw [hs]
  · exact ho
  · exact ho.apply hw

theorem updatePolicy_eq_ok {sent p : WAFPolicy} (h : (s.updatePolicy sent).1 = .ok p) :
    ∃ cur, s.policies sent.key = some cur ∧ cur.resourceVersion = sent.resourceVersion ∧
      p = s.updatedPolicy cur sent ∧
      (s.updatePolicy sent).2 = s.setPolicy sent.key
        (if p.deletionTimestamp.isSome ∧ p.finalizers = [] then none else some p) := by
  unfold updatePolicy at h ⊢
  split at h
  · cases h
  · rename_i cur hcur
    simp only [hcur]
    dsimp only at h ⊢
    split_ifs at h ⊢ with hrv <;> cases h <;>
      first
        | exact ⟨cur, rfl, not_not.mp hrv, rfl, rfl⟩
        | contradiction

theorem exec_reply_issued (h : s.WellFormed) (c : Call)
    (ho : (⟨c, (s.exec c).1⟩ : Event).obj? = some o) : (s.exec c).2.Issued o := by
  cases c with
  | getPolicy key =>
    cases hget : s.getPolicy key with
    | error err => simp only [exec, hget, Event.obj?] at ho; cases ho
    | ok p =>
      simp only [exec, hget] at ho
      obtain rfl : Obj.policy p = o := Option.some.inj (ho : some (Obj.policy p) = some o)
      exact h.issued (.policy key) (by simp [«at», getPolicy_eq_ok hget])
  | updatePolicy sent =>
    cases hup : (s.updatePolicy sent).1 with
    | error err => simp only [exec, hup, Event.obj?] at ho; cases ho
    | ok p =>
      simp only [exec, hup] at ho
      obtain rfl : Obj.policy p = o := Option.some.inj (ho : some (Obj.policy p) = some o)
      obtain ⟨cur, -, -, hp, hs'⟩ := updatePolicy_eq_ok hup
      have hwf := h.exec (.updatePolicy sent)
      have hrv : p.resourceVersion = s.revision := by rw [hp]; rfl
      simp only [exec, hs'] at hwf ⊢
      split_ifs at hwf ⊢
      · refine ⟨by simp [Obj.resourceVersion, hrv], fun pos o' ho' hrv' => ?_⟩
        have hstored : s.at pos = some o' := by
          have := at_apply s (.policy sent.key none) pos
          simp only [apply, Write.pos, Write.obj, Option.map_none'] at this
          rw [this] at ho'
          split_ifs at ho'
          exact ho'
        have hlt := h.lt_revision pos o' hstored
        have heq : o'.resourceVersion = s.revision := hrv'.trans hrv
        omega
      · exact hwf.issued (.policy sent.key) (by simp [«at»])
  | getEngine key =>
    cases hget : s.getEngine key with
    | error err => simp only [exec, hget, Event.obj?] at ho; cases ho
    | ok e =>
      simp only [exec, hget] at ho
      obtain rfl : Obj.engine e = o := Option.some.inj (ho : some (Obj.engine e) = some o)
      exact h.issued (.engine key) (by simp [«at», getEngine_eq_ok hget])
  | get gvk key =>
    cases hget : s.get gvk key with
    | error err => simp only [exec, hget, Event.obj?] at ho; cases ho
    | ok u =>
      simp only [exec, hget] at ho
      obtain rfl : Obj.object u = o := Option.some.inj (ho : some (Obj.object u) = some o)
      simp only [get] at hget
      split at hget
      · cases hget
      · rename_i k _
        split at hget
        · rename_i hu
          cases hget
          exact h.issued (.object gvk k) (by simp [«at», hu])
        · cases hget
  | _ => cases ho

theorem exec_reply_policy (h : s.WellFormed) (c : Call) {P : WAFPolicy}
    (ho : (⟨c, (s.exec c).1⟩ : Event).obj? = some (.policy P)) :
    (∃ cur, s.policies P.key = some cur ∧ cur.deletionTimestamp = P.deletionTimestamp ∧
      cur.conditions = P.conditions) ∧
      (P.finalizers ≠ [] → (s.exec c).2.policies P.key = some P) := by
  cases c with
  | getPolicy key =>
    cases hget : s.getPolicy key with
    | error err => simp only [exec, hget, Event.obj?] at ho; cases ho
    | ok p =>
      simp only [exec, hget] at ho
      obtain rfl : p = P :=
        Obj.policy.inj (Option.some.inj (ho : some (Obj.policy p) = some (Obj.policy P)))
      have hcur := getPolicy_eq_ok hget
      rw [h.policy_key hcur]
      exact ⟨⟨_, hcur, rfl, rfl⟩, fun _ => hcur⟩
  | updatePolicy sent =>
    cases hup : (s.updatePolicy sent).1 with
    | error err => simp only [exec, hup, Event.obj?] at ho; cases ho
    | ok p =>
      simp only [exec, hup] at ho
      obtain rfl : p = P :=
        Obj.policy.inj (Option.some.inj (ho : some (Obj.policy p) = some (Obj.policy P)))
      obtain ⟨cur, hcur, -, hp, hs'⟩ := updatePolicy_eq_ok hup
      have hkey : p.key = sent.key := by rw [hp]; rfl
      refine ⟨⟨cur, by rw [hkey]; exact hcur, by rw [hp]; rfl, by rw [hp]; rfl⟩, fun hfin => ?_⟩
      simp only [exec, hs', hkey]
      rw [if_neg fun h => hfin h.2, setPolicy_policies_self]
  | getEngine key => cases hget : s.getEngine key <;> simp [exec, hget, Event.obj?] at ho
  | get gvk key => cases hget : s.get gvk key <;> simp [exec, hget, Event.obj?] at ho
  | _ => cases ho

theorem PolicyChange.update_issued {key : ObjectKey} {sent held : WAFPolicy}
    {old new : Option WAFPolicy} (h : PolicyChange s key (.updatePolicy sent) old new)
    (hold : s.policies key = old) (hheld : s.Issued (.policy held))
    (hrv : sent.resourceVersion = held.resourceVersion) :
    new = old ∨ old = some held ∧ (new = some (s.updatedPolicy held sent) ∨ new = none) := by
  cases h with
  | keep => exact .inl rfl
  | update hc _ hrv' _ =>
    cases hc
    obtain ⟨-, hcur⟩ := hheld.2 (.policy key) (.policy _) (by simp [«at», hold]) (hrv'.trans hrv)
    cases hcur
    exact .inr ⟨rfl, .inl rfl⟩
  | release hc _ hrv' _ _ =>
    cases hc
    obtain ⟨-, hcur⟩ := hheld.2 (.policy key) (.policy _) (by simp [«at», hold]) (hrv'.trans hrv)
    cases hcur
    exact .inr ⟨rfl, .inr rfl⟩
  | patch _ hc => cases hc
  | create hc _ => cases hc
  | remove hc _ => cases hc
  | markDeleted hc _ _ => cases hc

end Store

namespace World

variable {α : Type} {Starts : Prog α → Prop} {Foreign : Call → Prop} {w w' : World α}

theorem heldPolicy_cons {ev : Event} {σ : List Event} {held : WAFPolicy}
    (h : heldPolicy (ev :: σ) = some held) :
    ev.obj? = some (.policy held) ∨ (∀ P, ev.obj? ≠ some (.policy P)) ∧ heldPolicy σ = some held := by
  obtain ⟨c, r⟩ := ev
  cases c <;> cases r <;> simp_all [heldPolicy, Event.obj?]

theorem heldPolicy_seen {σ : List Event} {held : WAFPolicy} (h : heldPolicy σ = some held) :
    ∃ ev ∈ σ, ev.obj? = some (.policy held) := by
  induction σ with
  | nil => cases h
  | cons ev σ ih =>
    rcases heldPolicy_cons h with hev | ⟨-, hσ⟩
    · exact ⟨ev, List.mem_cons_self _ _, hev⟩
    · obtain ⟨ev', hmem, hev'⟩ := ih hσ
      exact ⟨ev', List.mem_cons_of_mem _ hmem, hev'⟩

/-- Every object the pass in progress has been sent is issued by the store. -/
def SeenIssued (w : World α) : Prop :=
  ∀ p σ, w.pass = some (p, σ) → ∀ ev ∈ σ, ∀ o, ev.obj? = some o → w.store.Issued o

theorem Step.seenIssued (h : Step Starts Foreign w w') (hw : w.store.WellFormed)
    (hseen : SeenIssued w) : SeenIssued w' := by
  cases h with
  | start => intro p σ h ev hev; cases h; cases hev
  | call =>
    intro p σ h ev hev o ho
    cases h
    rcases List.mem_cons.1 hev with rfl | hev
    · exact Store.exec_reply_issued hw _ ho
    · exact (hseen _ _ rfl ev hev o ho).exec hw _
  | fail err =>
    intro p σ h ev hev o ho
    cases h
    rcases List.mem_cons.1 hev with rfl | hev
    · cases ‹Call› <;> cases ho
    · exact hseen _ _ rfl ev hev o ho
  | finish => intro p σ h; cases h
  | foreign => exact fun p σ h ev hev o ho => (hseen p σ h ev hev o ho).exec hw _

/-- Whatever the other clients write, every object the pass in progress has been sent is issued by
the store of every reachable world. -/
theorem Reachable.seenIssued {s : Store} (hs : s.WellFormed)
    (h : Reachable Starts Foreign ⟨s, none⟩ w) : SeenIssued w := by
  induction h with
  | refl => intro p σ h; cases h
  | tail hr hstep ih => exact hstep.seenIssued (hr.wellFormed hs) ih

end World

end CorazaOperator

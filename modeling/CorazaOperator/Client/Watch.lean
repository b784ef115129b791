import CorazaOperator.Client.WellFormed

/-!
# What the informers see of a write

Every write addresses one position, `Call.pos`: the key of the policy or Engine it names, or the
object path of an unstructured request. A call changes the store at that position and nowhere else
(`exec_at_of_ne`). An informer notices a change when the resource version at a position moved or
an object appeared or went away; `Store.watchEvent` is that notification, the object before and
after the call. A refused call, an empty status patch and a deletion request for an object already
marked deleted change nothing, and are not seen.

Informers deliver each notification before the next write, and the cache holds what the store
holds; the lag of a real informer is left out.
-/

namespace CorazaOperator

/-- The position a write addresses; a read addresses none. -/
def Call.pos (s : Store) : Call → Option Pos
  | .updatePolicy p => some (.policy p.key)
  | .patchPolicyStatus key _ => some (.policy key)
  | .createPolicy p => some (.policy p.key)
  | .deletePolicy key _ => some (.policy key)
  | .createEngine e => some (.engine e.key)
  | .updateEngine e => some (.engine e.key)
  | .deleteEngine key => some (.engine key)
  | .create obj => (s.requestKey obj.gvk obj.namespace obj.name).map (.object obj.gvk)
  | .update obj => (s.requestKey obj.gvk obj.namespace obj.name).map (.object obj.gvk)
  | .delete gvk key => (s.requestKey gvk key.namespace key.name).map (.object gvk)
  | .getPolicy _ | .getEngine _ | .get _ _ => none

namespace Store

theorem exec_eq_apply (s : Store) (c : Call) :
    (s.exec c).2 = s ∨ ∃ w : Write, (s.exec c).2 = s.apply w ∧ c.pos s = some w.pos := by
  cases c <;>
    simp only [exec, updatePolicy, patchPolicyStatus, createPolicy, deletePolicy, createEngine,
      updateEngine, deleteEngine, create, update, delete] <;>
    repeat' split
  all_goals first
    | exact Or.inl rfl
    | exact Or.inl trivial
    | refine Or.inr ⟨.policy _ _, rfl, rfl⟩
    | refine Or.inr ⟨.engine _ _, rfl, rfl⟩
    | refine Or.inr ⟨.object _ _ _, rfl, ?_⟩; simp [Call.pos, Write.pos, *]

theorem exec_at_of_ne {s : Store} {c : Call} {pos : Pos} (h : c.pos s ≠ some pos) :
    (s.exec c).2.at pos = s.at pos := by
  rcases exec_eq_apply s c with hs | ⟨w, hs, hpos⟩ <;> rw [hs]
  rw [at_apply, if_neg fun heq => h (hpos.trans (congrArg some heq.symm))]

/-- The resource versions of what a store holds at a position. -/
def versionAt (s : Store) (pos : Pos) : Option Nat := (s.at pos).map Obj.resourceVersion

/-- The notification of a call: its position, and the object there before and after, when the
call moved the resource version there. -/
def watchEvent (s : Store) (c : Call) : Option (Pos × Option Obj × Option Obj) :=
  match c.pos s with
  | none => none
  | some pos =>
    if s.versionAt pos = (s.exec c).2.versionAt pos then none
    else some (pos, s.at pos, (s.exec c).2.at pos)

theorem watchEvent_of_versionAt_ne {s : Store} {c : Call} {pos : Pos}
    (h : s.versionAt pos ≠ (s.exec c).2.versionAt pos) :
    s.watchEvent c = some (pos, s.at pos, (s.exec c).2.at pos) := by
  have hpos : c.pos s = some pos := by
    by_contra hne
    exact h (by rw [versionAt, versionAt, exec_at_of_ne hne])
  simp only [watchEvent, hpos, if_neg h]

theorem watchEvent_eq_some {s : Store} {c : Call} {pos : Pos} {old new : Option Obj}
    (h : s.watchEvent c = some (pos, old, new)) :
    c.pos s = some pos ∧ old = s.at pos ∧ new = (s.exec c).2.at pos ∧
      s.versionAt pos ≠ (s.exec c).2.versionAt pos := by
  unfold watchEvent at h
  split at h
  · cases h
  · split_ifs at h with hv
    cases h
    exact ⟨‹_›, rfl, rfl, hv⟩

end Store

end CorazaOperator

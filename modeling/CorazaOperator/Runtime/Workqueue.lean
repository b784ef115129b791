import Mathlib.Algebra.Group.Nat.Basic
import Mathlib.Data.List.Nodup
import Mathlib.Logic.Function.Basic

/-!
# The work queue

The queue controller-runtime builds for a controller, as `client-go/util/workqueue` defines it:

* `Queue` is `workqueue.Typed`. An item is `dirty` from the `Add` that asks for it until a worker
  takes it with `Get`; it is `processing` from `Get` until `Done`. An item added while it is being
  processed is only marked dirty, and `Done` puts it back in line. So no item stands in line twice
  and no item is handed out while it is being processed (`Queue.Wf`).
* `ExponentialFailureRateLimiter` is `ItemExponentialFailureRateLimiter`: the `n`-th retry of an item
  since it was last forgotten waits `baseDelay * 2 ^ n`, capped at `maxDelay`.
* `Waiting` is the delaying queue's heap: an item added after a delay waits with the time it is
  ready at, once, at the earliest time asked for.

Durations are nanoseconds, as `time.Duration` counts them. `When` computes its backoff in `float64`;
`baseDelay * 2 ^ n` is exact there as long as it is below `MaxInt64`, since `2 ^ n` only moves the
exponent, and above it Go returns `maxDelay` as this model does. The FIFO's `Touch`, the metrics and
shutdown do nothing to the items and are left out.
-/

namespace CorazaOperator.Workqueue

variable {α : Type} [DecidableEq α]

/-- `workqueue.Typed`: the items in line, the items that need processing, and the items handed out
and not yet done. -/
structure Queue (α : Type) where
  queue : List α := []
  dirty : List α := []
  processing : List α := []
deriving Repr

namespace Queue

/-- `Add`: an item already dirty stays where it is; an item being processed is marked dirty and goes
in line when it is done; any other item is marked dirty and goes to the end of the line. -/
def add (q : Queue α) (item : α) : Queue α :=
  if item ∈ q.dirty then q
  else if item ∈ q.processing then { q with dirty := item :: q.dirty }
  else { q with queue := q.queue ++ [item], dirty := item :: q.dirty }

/-- `Add` of each item in turn. -/
def addAll (q : Queue α) (items : List α) : Queue α :=
  items.foldl add q

/-- `Get`: the first item in line, handed out and no longer dirty; nothing when the line is empty. -/
def get (q : Queue α) : Option (α × Queue α) :=
  match q.queue with
  | [] => none
  | item :: rest =>
    some (item, { queue := rest, dirty := q.dirty.erase item, processing := item :: q.processing })

/-- `Done`: the item is no longer processed, and goes back in line if it was added meanwhile. -/
def done (q : Queue α) (item : α) : Queue α :=
  if item ∈ q.dirty then { q with queue := q.queue ++ [item], processing := q.processing.erase item }
  else { q with processing := q.processing.erase item }

/-! ### What each operation does to `dirty` and `processing` -/

@[simp] theorem mem_add_dirty (q : Queue α) (item x : α) :
    x ∈ (q.add item).dirty ↔ x = item ∨ x ∈ q.dirty := by
  unfold add
  split_ifs with h₁
  · exact ⟨Or.inr, fun h => h.elim (· ▸ h₁) id⟩
  all_goals exact List.mem_cons

@[simp] theorem add_processing (q : Queue α) (item : α) : (q.add item).processing = q.processing := by
  unfold add
  split_ifs <;> rfl

@[simp] theorem mem_addAll_dirty (q : Queue α) (items : List α) (x : α) :
    x ∈ (q.addAll items).dirty ↔ x ∈ items ∨ x ∈ q.dirty := by
  induction items generalizing q with
  | nil => simp [addAll]
  | cons item items ih =>
    simp only [addAll, List.foldl_cons] at ih ⊢
    rw [ih, mem_add_dirty, List.mem_cons, or_assoc]
    exact or_left_comm

@[simp] theorem addAll_processing (q : Queue α) (items : List α) :
    (q.addAll items).processing = q.processing := by
  induction items generalizing q with
  | nil => rfl
  | cons item items ih => exact (ih _).trans (add_processing q item)

theorem get_eq_some {q : Queue α} {item : α} {q' : Queue α} (h : q.get = some (item, q')) :
    ∃ rest, q.queue = item :: rest ∧
      q' = { queue := rest, dirty := q.dirty.erase item, processing := item :: q.processing } := by
  unfold get at h
  split at h
  · cases h
  · cases h
    exact ⟨_, ‹_›, rfl⟩

@[simp] theorem done_dirty (q : Queue α) (item : α) : (q.done item).dirty = q.dirty := by
  unfold done
  split_ifs <;> rfl

@[simp] theorem done_processing (q : Queue α) (item : α) :
    (q.done item).processing = q.processing.erase item := by
  unfold done
  split_ifs <;> rfl

/-! ### The queue's invariant -/

/-- What `workqueue.Typed` keeps: no item twice in any of its lists, and an item stands in line
exactly when it is dirty and not being processed. -/
structure Wf (q : Queue α) : Prop where
  queue_nodup : q.queue.Nodup
  dirty_nodup : q.dirty.Nodup
  processing_nodup : q.processing.Nodup
  mem_queue : ∀ x, x ∈ q.queue ↔ x ∈ q.dirty ∧ x ∉ q.processing

variable {q : Queue α}

theorem Wf.add (h : q.Wf) (item : α) : (q.add item).Wf := by
  unfold Queue.add
  split_ifs with hdirty hproc
  · exact h
  · exact ⟨h.queue_nodup, h.dirty_nodup.cons hdirty, h.processing_nodup, fun x => by
      rw [h.mem_queue, List.mem_cons]
      by_cases hx : x = item
      · subst hx; simp [hdirty, hproc]
      · simp [hx]⟩
  · have hq : item ∉ q.queue := fun hq => hdirty ((h.mem_queue item).mp hq).1
    refine ⟨h.queue_nodup.append (List.nodup_singleton item) (by simpa using hq),
      h.dirty_nodup.cons hdirty, h.processing_nodup, fun x => ?_⟩
    rw [List.mem_append, h.mem_queue]
    by_cases hx : x = item
    · subst hx; simp [hproc]
    · simp [hx]

theorem Wf.addAll (h : q.Wf) (items : List α) : (q.addAll items).Wf := by
  induction items generalizing q with
  | nil => exact h
  | cons item items ih => exact ih (h.add item)

theorem Wf.get {item : α} {q' : Queue α} (h : q.Wf) (hget : q.get = some (item, q')) :
    item ∉ q.processing ∧ q'.Wf := by
  obtain ⟨rest, hq, rfl⟩ := get_eq_some hget
  have hitem := (h.mem_queue item).mp (hq ▸ List.mem_cons_self _ _)
  have hnodup := hq ▸ h.queue_nodup
  refine ⟨hitem.2, (List.nodup_cons.mp hnodup).2, h.dirty_nodup.erase _,
    h.processing_nodup.cons hitem.2, fun x => ?_⟩
  by_cases hx : x = item
  · subst hx; simp [(List.nodup_cons.mp hnodup).1]
  · have := h.mem_queue x
    rw [hq, List.mem_cons] at this
    simp only [List.mem_cons, hx, false_or, List.mem_erase_of_ne hx] at this ⊢
    exact this

theorem Wf.done {item : α} (h : q.Wf) (hproc : item ∈ q.processing) : (q.done item).Wf := by
  have hq : item ∉ q.queue := fun hq => ((h.mem_queue item).mp hq).2 hproc
  have herase (x : α) (hx : x ≠ item) : x ∈ q.processing.erase item ↔ x ∈ q.processing :=
    List.mem_erase_of_ne hx
  have hgone : item ∉ q.processing.erase item := h.processing_nodup.not_mem_erase
  unfold Queue.done
  split_ifs with hdirty
  · refine ⟨h.queue_nodup.append (List.nodup_singleton item) (by simpa using hq), h.dirty_nodup,
      h.processing_nodup.erase _, fun x => ?_⟩
    rw [List.mem_append, List.mem_singleton]
    by_cases hx : x = item
    · subst hx; simp [hdirty, hgone]
    · simp only [hx, or_false, herase x hx]; exact h.mem_queue x
  · refine ⟨h.queue_nodup, h.dirty_nodup, h.processing_nodup.erase _, fun x => ?_⟩
    by_cases hx : x = item
    · subst hx; simp [hq, hdirty]
    · rw [herase x hx]; exact h.mem_queue x

end Queue

/-! ### The rate limiter -/

/-- `math.MaxInt64`, the largest `time.Duration`. -/
def maxInt64 : Nat := 2 ^ 63 - 1

/-- `ItemExponentialFailureRateLimiter`: the base and the largest delay, and the failures counted
for each item since it was last forgotten. -/
structure ExponentialFailureRateLimiter (α : Type) where
  baseDelay : Nat
  maxDelay : Nat
  failures : α → Nat

namespace ExponentialFailureRateLimiter

/-- `NewItemExponentialFailureRateLimiter`: no failures counted. -/
def new (baseDelay maxDelay : Nat) : ExponentialFailureRateLimiter α :=
  ⟨baseDelay, maxDelay, fun _ => 0⟩

/-- `When`: the delay before the item's next retry, `baseDelay * 2 ^ failures` capped at
`maxDelay`, and one more failure counted. -/
def «when» (r : ExponentialFailureRateLimiter α) (item : α) : Nat × ExponentialFailureRateLimiter α :=
  let exp := r.failures item
  let r' := { r with failures := Function.update r.failures item (exp + 1) }
  let backoff := r.baseDelay * 2 ^ exp
  if backoff > maxInt64 then (r.maxDelay, r')
  else if backoff > r.maxDelay then (r.maxDelay, r')
  else (backoff, r')

/-- `Forget`: the item's failures are no longer counted. -/
def forget (r : ExponentialFailureRateLimiter α) (item : α) : ExponentialFailureRateLimiter α :=
  { r with failures := Function.update r.failures item 0 }

end ExponentialFailureRateLimiter

/-! ### The delaying queue's heap -/

/-- The delayed adds not yet made: each item once, with the time it is ready at. -/
abbrev Waiting (α : Type) := List (α × Nat)

/-- `insert`: a new item waits until `readyAt`; an item already waiting keeps the earlier time. -/
def insert (w : Waiting α) (item : α) (readyAt : Nat) : Waiting α :=
  match w with
  | [] => [(item, readyAt)]
  | (x, t) :: rest => if x = item then (x, min t readyAt) :: rest else (x, t) :: insert rest item readyAt

@[simp] theorem mem_insert_keys (w : Waiting α) (item x : α) (readyAt : Nat) :
    x ∈ (insert w item readyAt).map Prod.fst ↔ x = item ∨ x ∈ w.map Prod.fst := by
  induction w with
  | nil => simp [insert]
  | cons e rest ih =>
    obtain ⟨y, t⟩ := e
    unfold insert
    split_ifs with hy
    · subst hy; simp only [List.map_cons, List.mem_cons]; exact or_self_left.symm
    · simp only [List.map_cons, List.mem_cons, ih]; exact or_left_comm

end CorazaOperator.Workqueue

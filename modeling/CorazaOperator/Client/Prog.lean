import CorazaOperator.Client.Store

/-!
# Calls and programs

A controller pass is a `Prog`: a tree whose nodes are calls to the API server and whose branches are
the replies. The code of the pass is written once, in `do` notation over `Prog`, and read three
ways: `Prog.run` against a store with every call answered by the store, `Prog.WP` over every reply
the store could give, and step by step in the interleaved system, where other clients write between
any two calls.

`Prog.WP A p σ Q` says that every call `p` makes is allowed by `A` given the events before it, and
that every result `p` returns satisfies `Q` with the events of its run. The event list `σ` is the
pass's history, newest first: what the pass has asked and what it was told. Replies range over those
`Call.Consistent` with their call, the agreement between a request and a reply that the server
guarantees.
-/

namespace CorazaOperator

/-- A request to the API server: the controller's calls, and the writes of other clients. -/
inductive Call where
  | getPolicy (key : ObjectKey)
  | updatePolicy (policy : WAFPolicy)
  | patchPolicyStatus (key : ObjectKey) (patch : Option (List Condition))
  | createPolicy (policy : WAFPolicy)
  | deletePolicy (key : ObjectKey) (now : Time)
  | getEngine (key : ObjectKey)
  | createEngine (engine : Engine)
  | updateEngine (engine : Engine)
  | deleteEngine (key : ObjectKey)
  | get (gvk : GroupVersionKind) (key : ObjectKey)
  | create (obj : Unstructured)
  | update (obj : Unstructured)
  | delete (gvk : GroupVersionKind) (key : ObjectKey)

/-- What a successful call returns: the object for a read and for a policy update, nothing else. -/
def Call.Result : Call → Type
  | .getPolicy _ => WAFPolicy
  | .updatePolicy _ => WAFPolicy
  | .getEngine _ => Engine
  | .get _ _ => Unstructured
  | _ => Unit

abbrev Call.Reply (c : Call) : Type := Except ApiError c.Result

/-- A call that changes the store when it succeeds. -/
def Call.IsWrite : Call → Prop
  | .getPolicy _ | .getEngine _ | .get _ _ => False
  | _ => True

instance : DecidablePred Call.IsWrite := fun c => by
  cases c <;> unfold Call.IsWrite <;> infer_instance

/-- The agreement between a call and a successful reply that the server guarantees and that the
controller's later calls depend on. -/
def Call.Consistent : (c : Call) → c.Reply → Prop
  | .getPolicy key, .ok policy => policy.key = key
  | .updatePolicy sent, .ok policy =>
    policy.key = sent.key ∧ policy.finalizers = sent.finalizers ∧ policy.spec = sent.spec
  | .getEngine key, .ok engine => engine.key = key
  | _, _ => True

theorem Call.consistent_error (c : Call) (err : ApiError) : c.Consistent (.error err) := by
  cases c <;> trivial

/-- A call whose successful reply is a policy: what a pass holds comes from these. -/
def Call.ReturnsPolicy : Call → Prop
  | .getPolicy _ | .updatePolicy _ => True
  | _ => False

/-- A call that can change the stored policies. -/
def Call.WritesPolicy : Call → Prop
  | .updatePolicy _ | .patchPolicyStatus _ _ | .createPolicy _ | .deletePolicy _ _ => True
  | _ => False

/-- One call of a pass and the reply it got. -/
structure Event where
  call : Call
  reply : call.Reply

def Event.error? (ev : Event) : Option ApiError :=
  match ev.reply with
  | .error err => some err
  | .ok _ => none

namespace Store

/-- The API server answering a call. -/
def exec : (c : Call) → Store → c.Reply × Store
  | .getPolicy key, s => (s.getPolicy key, s)
  | .updatePolicy policy, s => s.updatePolicy policy
  | .patchPolicyStatus key patch, s => s.patchPolicyStatus key patch
  | .createPolicy policy, s => s.createPolicy policy
  | .deletePolicy key now, s => s.deletePolicy key now
  | .getEngine key, s => (s.getEngine key, s)
  | .createEngine engine, s => s.createEngine engine
  | .updateEngine engine, s => s.updateEngine engine
  | .deleteEngine key, s => s.deleteEngine key
  | .get gvk key, s => (s.get gvk key, s)
  | .create obj, s => s.create obj
  | .update obj, s => s.update obj
  | .delete gvk key, s => s.delete gvk key

theorem exec_read {c : Call} (hc : ¬c.IsWrite) (s : Store) : (s.exec c).2 = s := by
  cases c <;> first | rfl | exact absurd trivial hc

end Store

/-- A controller pass: calls to the API server, each continued by its reply. -/
inductive Prog (α : Type) : Type where
  | ret (a : α)
  | call (c : Call) (k : c.Reply → Prog α)

namespace Prog

def bind {α β : Type} : Prog α → (α → Prog β) → Prog β
  | .ret a, f => f a
  | .call c k, f => .call c (fun r => (k r).bind f)

instance : Monad Prog where
  pure := .ret
  bind := Prog.bind

@[simp] theorem pure_eq {α : Type} (a : α) : (pure a : Prog α) = .ret a := rfl

@[simp] theorem ret_bind {α β : Type} (a : α) (f : α → Prog β) : (Prog.ret a >>= f) = f a := rfl

@[simp] theorem call_bind {α β : Type} (c : Call) (k : c.Reply → Prog α) (f : α → Prog β) :
    (Prog.call c k >>= f) = .call c (fun r => k r >>= f) := rfl

/-- The first call a pass makes, if it makes any. -/
def firstCall {α : Type} : Prog α → Option Call
  | .ret _ => none
  | .call c _ => some c

/-- The pass run against a store that answers every call, from the history `σ`: its result, the
store it leaves, and its history. -/
def run {α : Type} : Prog α → Store → List Event → α × Store × List Event
  | .ret a, s, σ => (a, s, σ)
  | .call c k, s, σ => (k (s.exec c).1).run (s.exec c).2 (⟨c, (s.exec c).1⟩ :: σ)

@[simp] theorem run_ret {α : Type} (a : α) (s : Store) (σ : List Event) :
    (Prog.ret a).run s σ = (a, s, σ) := rfl

@[simp] theorem run_call {α : Type} (c : Call) (k : c.Reply → Prog α) (s : Store) (σ : List Event) :
    (Prog.call c k).run s σ = (k (s.exec c).1).run (s.exec c).2 (⟨c, (s.exec c).1⟩ :: σ) := rfl

theorem run_bind {α β : Type} (p : Prog α) (f : α → Prog β) (s : Store) (σ : List Event) :
    (p >>= f).run s σ = (f (p.run s σ).1).run (p.run s σ).2.1 (p.run s σ).2.2 := by
  induction p generalizing s σ with
  | ret a => rfl
  | call c k ih => exact ih _ _ _

/-- The pass run against a server that answers each call with `answer`, whatever was asked before:
its result and its history. -/
def runBy {α : Type} (answer : (c : Call) → c.Reply) : Prog α → List Event → α × List Event
  | .ret a, σ => (a, σ)
  | .call c k, σ => (k (answer c)).runBy answer (⟨c, answer c⟩ :: σ)

/-- Every call allowed by `A` after the events before it, and `Q` of every result with the events of
its run, over every consistent reply. -/
def WP {α : Type} (A : List Event → Call → Prop) : Prog α → List Event → (α → List Event → Prop) → Prop
  | .ret a, σ, Q => Q a σ
  | .call c k, σ, Q => A σ c ∧ ∀ r, c.Consistent r → WP A (k r) (⟨c, r⟩ :: σ) Q

variable {α β : Type} {A : List Event → Call → Prop}

@[simp] theorem wp_ret (a : α) (σ : List Event) (Q : α → List Event → Prop) :
    WP A (.ret a) σ Q ↔ Q a σ := Iff.rfl

@[simp] theorem wp_call (c : Call) (k : c.Reply → Prog α) (σ : List Event)
    (Q : α → List Event → Prop) :
    WP A (.call c k) σ Q ↔ A σ c ∧ ∀ r, c.Consistent r → WP A (k r) (⟨c, r⟩ :: σ) Q := Iff.rfl

@[simp] theorem wp_pure (a : α) (σ : List Event) (Q : α → List Event → Prop) :
    WP A (pure a) σ Q ↔ Q a σ := Iff.rfl

theorem wp_bind (p : Prog α) (f : α → Prog β) (σ : List Event) (Q : β → List Event → Prop) :
    WP A (p >>= f) σ Q ↔ WP A p σ (fun a σ' => WP A (f a) σ' Q) := by
  induction p generalizing σ with
  | ret a => rfl
  | call c k ih => simp only [call_bind, wp_call, ih]

theorem WP.mono {p : Prog α} {σ : List Event} {Q Q' : α → List Event → Prop}
    (h : WP A p σ Q) (hQ : ∀ a σ', Q a σ' → Q' a σ') : WP A p σ Q' := by
  induction p generalizing σ with
  | ret a => exact hQ a σ h
  | call c k ih => exact ⟨h.1, fun r hr => ih r (h.2 r hr)⟩

/-- Every call the program can make satisfies `S`, whatever the replies: a fact about the code of a
pass that no reply can change. -/
def CallsIn (S : Call → Prop) : Prog α → Prop
  | .ret _ => True
  | .call c k => S c ∧ ∀ r, (k r).CallsIn S

@[simp] theorem callsIn_ret (S : Call → Prop) (a : α) : (Prog.ret a).CallsIn S ↔ True := Iff.rfl

@[simp] theorem callsIn_call (S : Call → Prop) (c : Call) (k : c.Reply → Prog α) :
    (Prog.call c k).CallsIn S ↔ S c ∧ ∀ r, (k r).CallsIn S := Iff.rfl

@[simp] theorem callsIn_pure (S : Call → Prop) (a : α) : (pure a : Prog α).CallsIn S ↔ True :=
  Iff.rfl

theorem CallsIn.bind {S : Call → Prop} {p : Prog α} {f : α → Prog β} (hp : p.CallsIn S)
    (hf : ∀ a, (f a).CallsIn S) : (p >>= f).CallsIn S := by
  induction p with
  | ret a => exact hf a
  | call c k ih => exact ⟨hp.1, fun r => ih r (hp.2 r)⟩

/-- The calls of a program meet what `A` asks of them after any history that `I` describes, when
each call allowed by `S` meets `A` and keeps `I`. -/
theorem CallsIn.wp {S : Call → Prop} {p : Prog α} (hp : p.CallsIn S) {I : List Event → Prop}
    (hA : ∀ σ c, I σ → S c → A σ c) (hI : ∀ σ c (r : c.Reply), I σ → S c → I (⟨c, r⟩ :: σ))
    {σ : List Event} (hσ : I σ) : WP A p σ fun _ σ' => I σ' := by
  induction p generalizing σ with
  | ret a => exact hσ
  | call c k ih => exact ⟨hA σ c hσ hp.1, fun r _ => ih r (hp.2 r) (hI σ c r hσ hp.1)⟩

end Prog

end CorazaOperator

import CorazaOperator.Client.WellFormed

/-!
# The controller and the API server, interleaved

A controller works a key with one worker at a time: a pass runs call by call, and between any two
of its calls other clients write to the store. `World` is the store with the pass in progress and
its history; `Step` is one move of the system: the worker starts a pass, makes its next call and
gets the store's answer or an error, or finishes; or another client writes. Which passes start and
which foreign writes happen are the parameters `Starts` and `Foreign`, set by each result.

A failed call leaves the store as it was. What a pass does with a reply is what its code does, so
the facts about passes in the world come from `Prog.WP` of their code: the pass in progress keeps
the `WP` it started with (`Disciplined`), and every call it makes meets what that `WP` asks
(`Disciplined.allowed`).
-/

namespace CorazaOperator

/-- The API server and one worker of a controller: the store, and the pass in progress with its
history, newest event first. -/
structure World (α : Type) where
  store : Store
  pass : Option (Prog α × List Event)

namespace World

section

variable {α : Type} (Starts : Prog α → Prop) (Foreign : Call → Prop)

/-- One move of the system. -/
inductive Step : World α → World α → Prop
  /-- The worker starts a pass. -/
  | start {s : Store} {p : Prog α} (hp : Starts p) : Step ⟨s, none⟩ ⟨s, some (p, [])⟩
  /-- The pass makes its next call and the server answers it. -/
  | call {s : Store} {c : Call} {k : c.Reply → Prog α} {σ : List Event} :
      Step ⟨s, some (.call c k, σ)⟩ ⟨(s.exec c).2, some (k (s.exec c).1, ⟨c, (s.exec c).1⟩ :: σ)⟩
  /-- The pass makes its next call and gets an error; the store is left as it was. -/
  | fail {s : Store} {c : Call} {k : c.Reply → Prog α} {σ : List Event} (err : ApiError) :
      Step ⟨s, some (.call c k, σ)⟩ ⟨s, some (k (.error err), ⟨c, .error err⟩ :: σ)⟩
  /-- The pass returns. -/
  | finish {s : Store} {a : α} {σ : List Event} : Step ⟨s, some (.ret a, σ)⟩ ⟨s, none⟩
  /-- Another client writes. -/
  | foreign {s : Store} {pass : Option (Prog α × List Event)} {c : Call} (hc : Foreign c) :
      Step ⟨s, pass⟩ ⟨(s.exec c).2, pass⟩

/-- The worlds the system reaches from `init`. -/
inductive Reachable (init : World α) : World α → Prop
  | refl : Reachable init init
  | tail {w w' : World α} : Reachable init w → Step Starts Foreign w w' → Reachable init w'

end

section

variable {α : Type} {Starts : Prog α → Prop} {Foreign : Call → Prop} {w w' : World α}

theorem Step.wellFormed (h : Step Starts Foreign w w') (hw : w.store.WellFormed) :
    w'.store.WellFormed := by
  cases h with
  | call => exact hw.exec _
  | foreign => exact hw.exec _
  | _ => exact hw

theorem Reachable.wellFormed {init : World α} (h : Reachable Starts Foreign init w)
    (hinit : init.store.WellFormed) : w.store.WellFormed := by
  induction h with
  | refl => exact hinit
  | tail _ hs ih => exact hs.wellFormed ih

theorem Reachable.trans {init : World α} (h₁ : Reachable Starts Foreign init w)
    (h₂ : Reachable Starts Foreign w w') : Reachable Starts Foreign init w' := by
  induction h₂ with
  | refl => exact h₁
  | tail _ hs ih => exact ih.tail hs

theorem Reachable.single (h : Step Starts Foreign w w') : Reachable Starts Foreign w w' :=
  Reachable.refl.tail h

theorem reachable_run (s : Store) (p : Prog α) (σ : List Event) :
    Reachable Starts Foreign ⟨s, some (p, σ)⟩
      ⟨(p.run s σ).2.1, some (.ret (p.run s σ).1, (p.run s σ).2.2)⟩ := by
  induction p generalizing s σ with
  | ret a => exact .refl
  | call c k ih => exact (Reachable.single Step.call).trans (ih _ _ _)

/-- A whole pass started, run against the store and finished. -/
theorem reachable_pass (s : Store) {p : Prog α} (hp : Starts p) :
    Reachable Starts Foreign ⟨s, none⟩ ⟨(p.run s []).2.1, none⟩ :=
  ((Reachable.single (Step.start hp)).trans (reachable_run s p [])).tail Step.finish

/-- The world after the pass in progress made `n` more calls, each answered by the store, with no
other move in between. -/
def advance : Nat → World α → World α
  | n + 1, ⟨s, some (.call c k, σ)⟩ =>
    advance n ⟨(s.exec c).2, some (k (s.exec c).1, ⟨c, (s.exec c).1⟩ :: σ)⟩
  | _, w => w

theorem reachable_advance (n : Nat) (w : World α) : Reachable Starts Foreign w (advance n w) := by
  induction n generalizing w with
  | zero => exact .refl
  | succ n ih =>
    obtain ⟨s, _ | ⟨_ | ⟨c, k⟩, σ⟩⟩ := w
    · exact .refl
    · exact .refl
    · exact (Reachable.single Step.call).trans (ih _)

/-- The pass in progress keeps the promise `WP A` of its code, for every reply still to come. -/
def Disciplined (A : List Event → Call → Prop) (w : World α) : Prop :=
  ∀ p σ, w.pass = some (p, σ) → Prog.WP A p σ fun _ _ => True

variable {A : List Event → Call → Prop}

theorem Disciplined.allowed {s : Store} {c : Call} {k : c.Reply → Prog α} {σ : List Event}
    (h : Disciplined A ⟨s, some (.call c k, σ)⟩) : A σ c :=
  (h _ _ rfl).1

theorem Step.disciplined (hstart : ∀ p, Starts p → Prog.WP A p [] fun _ _ => True)
    (h : Step Starts Foreign w w') (hw : w.store.WellFormed) (hd : Disciplined A w) :
    Disciplined A w' := by
  cases h with
  | start hp => intro p σ h; cases h; exact hstart _ hp
  | call => intro p σ h; cases h; exact (hd _ _ rfl).2 _ (hw.exec_consistent _)
  | fail err => intro p σ h; cases h; exact (hd _ _ rfl).2 _ (Call.consistent_error _ err)
  | finish => intro p σ h; cases h
  | foreign => exact hd

/-- A pass started from code that keeps `WP A` keeps it at every reachable world. -/
theorem Reachable.disciplined (hstart : ∀ p, Starts p → Prog.WP A p [] fun _ _ => True)
    {s : Store} (hs : s.WellFormed) (h : Reachable Starts Foreign ⟨s, none⟩ w) :
    Disciplined A w := by
  induction h with
  | refl => intro p σ h; cases h
  | tail hr hstep ih => exact hstep.disciplined hstart (hr.wellFormed hs) ih

end

/-! ### What a pass holds -/

/-- The policy a pass holds: the last one the server sent it, by a read or an update. -/
def heldPolicy : List Event → Option WAFPolicy
  | [] => none
  | ⟨.getPolicy _, .ok p⟩ :: _ => some p
  | ⟨.updatePolicy _, .ok p⟩ :: _ => some p
  | _ :: σ => heldPolicy σ

variable {σ : List Event}

@[simp] theorem heldPolicy_nil : heldPolicy [] = none := rfl

theorem heldPolicy_getPolicy (key : ObjectKey) (p : WAFPolicy) :
    heldPolicy (⟨.getPolicy key, .ok p⟩ :: σ) = some p := rfl

theorem heldPolicy_updatePolicy (sent p : WAFPolicy) :
    heldPolicy (⟨.updatePolicy sent, .ok p⟩ :: σ) = some p := rfl

@[simp] theorem heldPolicy_error (c : Call) (err : ApiError) :
    heldPolicy (⟨c, .error err⟩ :: σ) = heldPolicy σ := by
  cases c <;> rfl

theorem heldPolicy_of_not_returnsPolicy {c : Call} (hc : ¬c.ReturnsPolicy) (r : c.Reply) :
    heldPolicy (⟨c, r⟩ :: σ) = heldPolicy σ := by
  cases c <;> first | exact absurd trivial hc | rfl

end World

end CorazaOperator

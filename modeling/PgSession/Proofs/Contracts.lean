import PgSession.Proofs.Actions
import PgSession.Wire.Buffer

/-!
Contracts of actions. An action that meets its contract in some state ends well, with something
known of its value and of the state it leaves, or fails, with something known of the state then. It
never crashes, so a chain of contracts from the first state of a program to its end is a proof that
no misuse is reached on the way.
-/

namespace PgSession.Proofs
open Wire

variable {σ ε α β : Type}

def Lawful (stopped : σ → Prop) (after : α → σ → Prop) : EStateM.Result (Halt ε) σ α → Prop
  | .ok value state => after value state
  | .error (.failed _) state => stopped state
  | .error (.crashed _) _ => False

def Meets (action : EStateM (Halt ε) σ α) (state : σ) (stopped : σ → Prop)
    (after : α → σ → Prop) : Prop := Lawful stopped after (action state)

namespace Meets

variable {action : EStateM (Halt ε) σ α} {state state' : σ} {stopped : σ → Prop}
  {after : α → σ → Prop}

theorem ok {value : α} (ran : action state = .ok value state') (holds : after value state') :
    Meets action state stopped after := by
  rw [Meets, ran]
  exact holds

theorem failed {error : ε} (ran : action state = .error (.failed error) state')
    (holds : stopped state') : Meets action state stopped after := by
  rw [Meets, ran]
  exact holds

theorem pure {value : α} (holds : after value state) :
    Meets (pure value : EStateM (Halt ε) σ α) state stopped after := holds

theorem fail {error : ε} (holds : stopped state) :
    Meets (throw (.failed error) : EStateM (Halt ε) σ α) state stopped after := holds

theorem mono {stopped' : σ → Prop} {after' : α → σ → Prop}
    (meets : Meets action state stopped after) (fails : ∀ state, stopped state → stopped' state)
    (succeeds : ∀ value state, after value state → after' value state) :
    Meets action state stopped' after' := by
  unfold Meets at meets ⊢
  match action state, meets with
  | .ok value state', holds => exact succeeds value state' holds
  | .error (.failed _) state', holds => exact fails state' holds

theorem bind {next : α → EStateM (Halt ε) σ β} {last : β → σ → Prop}
    (first : Meets action state stopped after)
    (rest : ∀ value state, after value state → Meets (next value) state stopped last) :
    Meets (action >>= next) state stopped last := by
  unfold Meets at first
  match ran : action state, first with
  | .ok value state', holds =>
    rw [Meets, bind_ok ran]
    exact rest value state' holds
  | .error (.failed _) state', holds => exact failed (bind_error ran) holds

theorem get {next : σ → EStateM (Halt ε) σ α} (rest : Meets (next state) state stopped after) :
    Meets (get >>= next) state stopped after := rest

end Meets

end PgSession.Proofs

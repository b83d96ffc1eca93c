/-! An action that is followed by another passes on what it came to. -/

namespace PgSession.Proofs

variable {σ ε α β : Type} {action : EStateM ε σ α} {next : α → EStateM ε σ β} {state state' : σ}

theorem bind_ok {value : α} (ran : action state = .ok value state') :
    (action >>= next) state = next value state' := by
  simp only [Bind.bind, EStateM.bind, ran]

theorem bind_error {error : ε} (ran : action state = .error error state') :
    (action >>= next) state = .error error state' := by
  simp only [Bind.bind, EStateM.bind, ran]

theorem bind_ok_inv {value : β} (ran : (action >>= next) state = .ok value state') :
    ∃ middle between, action state = .ok middle between ∧
      next middle between = .ok value state' := by
  cases first : action state with
  | ok middle between =>
    rw [bind_ok first] at ran
    exact ⟨middle, between, rfl, ran⟩
  | error error between =>
    rw [bind_error first] at ran
    cases ran

end PgSession.Proofs

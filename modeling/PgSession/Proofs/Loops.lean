import PgSession.Proofs.Actions
import PgSession.Session.Progress

/-!
Loops that end because every round which goes on has used up bytes. A loop whose rounds begin with
an inner loop is the same as one loop over the rounds of the inner one.
-/

namespace PgSession.Proofs
open Wire Session

variable {τ α β : Type} [Transport τ]

/-- Every round that goes on brings the end of the loop closer. -/
abbrev Progresses (step : Action τ (Option α)) : Prop :=
  ∀ session session', step session = .ok none session' → session'.unread < session.unread

section

variable {step : Action τ (Option α)} {progress : Progresses step} {session session' : Session τ}

theorem repeatUntil_some {value : α} (ran : step session = .ok (some value) session') :
    repeatUntil step progress session = .ok value session' := by
  rw [repeatUntil]
  split <;> simp_all

theorem repeatUntil_none (ran : step session = .ok none session') :
    repeatUntil step progress session = repeatUntil step progress session' := by
  rw [repeatUntil]
  split <;> simp_all

theorem repeatUntil_error {halt : Halt Error} (ran : step session = .error halt session') :
    repeatUntil step progress session = .error halt session' := by
  rw [repeatUntil]
  split <;> simp_all

/-- Rounds that go on come one after another, and one that does not is the last. -/
theorem repeatUntil_induction (step : Action τ (Option α)) (progress : Progresses step)
    {motive : Session τ → EStateM.Result (Halt Error) (Session τ) α → Prop}
    (last : ∀ session value session', step session = .ok (some value) session' →
      motive session (.ok value session'))
    (failed : ∀ session halt session', step session = .error halt session' →
      motive session (.error halt session'))
    (onward : ∀ session session' result, step session = .ok none session' →
      motive session' result → motive session result)
    (session : Session τ) : motive session (repeatUntil step progress session) := by
  fun_induction repeatUntil step progress session with
  | case1 session value session' ran => exact last _ _ _ ran
  | case2 session session' ran ih => exact onward _ _ _ ran ih
  | case3 session halt session' ran => exact failed _ _ _ ran

end

/-- One round of the inner loop, followed by what the outer one does once the inner one is done. -/
def innerRound (inner : Action τ (Option α)) (next : α → Action τ (Option β)) :
    Action τ (Option β) := do
  match ← inner with
  | none => return none
  | some value => next value

theorem innerRound_progress {inner : Action τ (Option α)} {next : α → Action τ (Option β)}
    (innerProgress : Progresses inner)
    (outerProgress : Progresses (repeatUntil inner innerProgress >>= next)) :
    Progresses (innerRound inner next) := by
  intro session session' done
  cases ran : inner session with
  | error halt between =>
    rw [innerRound, bind_error ran] at done
    cases done
  | ok found between =>
    rw [innerRound, bind_ok ran] at done
    cases found with
    | none =>
      cases done
      exact innerProgress _ _ ran
    | some value =>
      apply outerProgress
      rw [bind_ok (repeatUntil_some ran)]
      exact done

theorem repeatUntil_repeatUntil {inner : Action τ (Option α)} {next : α → Action τ (Option β)}
    (innerProgress : Progresses inner)
    (outerProgress : Progresses (repeatUntil inner innerProgress >>= next)) :
    repeatUntil (repeatUntil inner innerProgress >>= next) outerProgress =
      repeatUntil (innerRound inner next) (innerRound_progress innerProgress outerProgress) := by
  funext session
  induction size : session.unread using Nat.strongRecOn generalizing session with
  | ind size ih =>
    subst size
    cases ran : inner session with
    | error halt session' =>
      have round : innerRound inner next session = .error halt session' := bind_error ran
      have outer : (repeatUntil inner innerProgress >>= next) session = .error halt session' :=
        bind_error (repeatUntil_error ran)
      rw [repeatUntil_error round, repeatUntil_error outer]
    | ok found session' =>
      cases found with
      | none =>
        -- The inner loop goes on, and so the outer one is still in the same round.
        have round : innerRound inner next session = .ok none session' := bind_ok ran
        have outer : (repeatUntil inner innerProgress >>= next) session =
            (repeatUntil inner innerProgress >>= next) session' := by
          simp only [Bind.bind, EStateM.bind, repeatUntil_none ran]
        rw [repeatUntil_none round, ← ih _ (innerProgress _ _ ran) session' rfl, repeatUntil.eq_def,
          repeatUntil.eq_def _ _ session', outer]
      | some value =>
        have round : innerRound inner next session = next value session' := bind_ok ran
        have outer : (repeatUntil inner innerProgress >>= next) session = next value session' :=
          bind_ok (repeatUntil_some ran)
        cases done : next value session' with
        | error halt last =>
          rw [repeatUntil_error (round.trans done), repeatUntil_error (outer.trans done)]
        | ok result last =>
          cases result with
          | none =>
            rw [repeatUntil_none (round.trans done), repeatUntil_none (outer.trans done)]
            exact ih _ (outerProgress _ _ (outer.trans done)) last rfl
          | some answer =>
            rw [repeatUntil_some (round.trans done), repeatUntil_some (outer.trans done)]

end PgSession.Proofs

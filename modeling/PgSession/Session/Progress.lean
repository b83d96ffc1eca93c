import PgSession.Session.State

/-!
How far an action gets with what the server has sent. Waiting is a loop, and it ends because every
round that goes on has used up bytes.
-/

namespace PgSession.Session

open Wire

variable {τ : Type} [Transport τ]

/-- Whenever the action succeeds, at least so many bytes less are unread. -/
def Lowers {α : Type} (count : Nat) (action : Action τ α) : Prop :=
  ∀ session value session', action session = .ok value session' →
    session'.unread + count ≤ session.unread

namespace Lowers

variable {α β : Type}

theorem mono {more less : Nat} {action : Action τ α} (lowers : Lowers more action)
    (enough : less ≤ more) : Lowers less action :=
  fun session value session' done => by
    have := lowers session value session' done
    omega

theorem pure (value : α) : Lowers 0 (pure value : Action τ α) := by
  intro session value session' done
  cases done
  exact Nat.le_refl _

theorem fail (count : Nat) (error : Error) : Lowers count (fail error : Action τ α) := by
  intro session value session' done
  cases done

theorem bind {count : Nat} {action : Action τ α} {next : α → Action τ β}
    (lowers : Lowers count action) (rest : ∀ value, Lowers 0 (next value)) :
    Lowers count (action >>= next) := by
  intro session value session' done
  simp only [Bind.bind, EStateM.bind] at done
  split at done
  · next middle between ran =>
    have := lowers session middle between ran
    have := rest middle between value session' done
    omega
  · cases done

theorem andThen {count : Nat} {action : Action τ α} {next : α → Action τ β}
    (lowers : Lowers 0 action) (rest : ∀ value, Lowers count (next value)) :
    Lowers count (action >>= next) := by
  intro session value session' done
  simp only [Bind.bind, EStateM.bind] at done
  split at done
  · next middle between ran =>
    have := lowers session middle between ran
    have := rest middle between value session' done
    omega
  · cases done

theorem ite {count : Nat} {condition : Prop} [Decidable condition] {yes no : Action τ α}
    (whenTrue : Lowers count yes) (whenFalse : Lowers count no) :
    Lowers count (if condition then yes else no) := by
  split <;> assumption

theorem get : Lowers 0 (get : Action τ (Session τ)) := by
  intro session value session' done
  cases done
  exact Nat.le_refl _

theorem modify {change : Session τ → Session τ}
    (keeps : ∀ session, (change session).channel = session.channel) :
    Lowers 0 (modify change : Action τ Unit) := by
  intro session value session' done
  cases done
  simp [unread, keeps]

theorem onBuffer (action : Buffer.Action α) : Lowers 0 (onBuffer action : Action τ α) := by
  intro session value session' done
  unfold Session.onBuffer at done
  split at done <;> cases done
  exact Nat.le_refl _

theorem say (level : Log.Level) (text : String) : Lowers 0 (say level text : Action τ Unit) := by
  intro session value session' done
  cases done
  exact Nat.le_refl _

theorem publish (event : Event) : Lowers 0 (publish event : Action τ Unit) := by
  intro session value session' done
  simp only [Session.publish] at done
  split at done <;> cases done
  exact Nat.le_refl _

theorem read (count timeout : Nat) :
    Lowers count (Session.onChannel (Channel.read count timeout) : Action τ (List UInt8)) := by
  intro session value session' done
  simp only [Session.onChannel, Channel.read, Channel.perform] at done
  split at done
  · next bytes channel ran =>
    cases done
    split at ran
    · next bytes' success =>
      cases ran
      exact Transport.read_unread (Prod.ext success rfl)
    · cases ran
  · cases done

theorem write (bytes : List UInt8) (timeout : Nat) :
    Lowers 0 (Session.onChannel (Channel.write bytes timeout) : Action τ Unit) := by
  intro session value session' done
  simp only [Session.onChannel, Channel.write, Channel.perform] at done
  split at done
  · next channel ran =>
    cases done
    split at ran
    · cases ran
      exact Transport.write_unread _ _ _
    · cases ran
  · cases done

theorem flush : Lowers 0 (flush : Action τ Unit) :=
  bind (onBuffer _) fun _ => bind (say _ _) fun _ => bind get fun _ => bind (write _ _) fun _ =>
    onBuffer _

theorem send (message : FrontendMessage) : Lowers 0 (send message : Action τ Unit) :=
  bind (onBuffer _) fun _ => flush

end Lowers

/-- Repeats a step until it yields something. A step that yields nothing has used up bytes. -/
def repeatUntil {α : Type} (step : Action τ (Option α))
    (progress : ∀ session session', step session = .ok none session' →
      session'.unread < session.unread) : Action τ α := fun session =>
  match _stepped : step session with
  | .ok (some value) session => .ok value session
  | .ok none session => repeatUntil step progress session
  | .error halt session => .error halt session
termination_by session => session.unread
decreasing_by exact progress _ _ ‹_›

theorem Lowers.repeatUntil {α : Type} {count : Nat} {step : Action τ (Option α)}
    (lowers : Lowers count step) (progress : ∀ session session', step session = .ok none session' →
      session'.unread < session.unread) :
    Lowers count (Session.repeatUntil step progress) := by
  intro session value session' done
  fun_induction Session.repeatUntil step progress session with
  | case1 session found between stepped =>
    cases done
    exact lowers _ _ _ stepped
  | case2 session between stepped ih =>
    have := lowers _ _ _ stepped
    have := ih done
    omega
  | case3 => cases done

/-- A step that takes a whole header each time can be repeated. -/
theorem Lowers.progress {α : Type} {step : Action τ (Option α)}
    (lowers : Lowers headerSize step) (session session' : Session τ)
    (done : step session = .ok none session') : session'.unread < session.unread := by
  have := lowers session none session' done
  simp only [headerSize] at this
  omega

end PgSession.Session

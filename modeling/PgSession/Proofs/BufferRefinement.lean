import PgSession.Proofs.BufferReading
import PgSession.Proofs.Lockstep

/-!
A session with a buffer does what a session without one does: the same results, the same calls and
log records, the same state but for the buffer itself. All that an operation asks of the buffer it
finds is that it can grow.
-/

namespace PgSession.Proofs
open Wire Session

variable {τ α β γ : Type}

/-- Started on a buffer as described, the first action does what the second does without looking at
the buffer. Their values may differ in form; the buffer that remains is described with them. -/
def Refines (before : Buffer → Prop) (action : Action τ α) (direct : Action τ β)
    (after : α → β → Buffer → Prop) : Prop :=
  ∀ (session : Session τ) (buffer : Buffer), before buffer →
    match direct session with
    | .ok value session' => ∃ value' buffer', after value' value buffer' ∧
        action { session with buffer } = .ok value' { session' with buffer := buffer' }
    | .error halt session' => ∃ buffer', Sound buffer' ∧
        action { session with buffer } = .error halt { session' with buffer := buffer' }

/-- The same value, and a buffer that can still be used. -/
def Same (value' value : α) (buffer : Buffer) : Prop := value' = value ∧ Sound buffer

/-- Rounds of two loops that both go on, or that both end as described. -/
def Yielding (after : α → β → Buffer → Prop) : Option α → Option β → Buffer → Prop
  | none, none, buffer => Sound buffer
  | some value', some value, buffer => after value' value buffer
  | _, _, _ => False

def withBuffer (buffer : Buffer) :
    EStateM.Result (Halt Error) (Session τ) α → EStateM.Result (Halt Error) (Session τ) α
  | .ok value session => .ok value { session with buffer }
  | .error halt session => .error halt { session with buffer }

/-- An action that does not look at the buffer, and keeps it. -/
def Blind (action : Action τ α) : Prop :=
  ∀ (session : Session τ) (buffer : Buffer),
    action { session with buffer } = withBuffer buffer (action session)

theorem Blind.onChannel (action : Channel.Action τ α) : Blind (Session.onChannel action) := by
  intro session buffer
  simp only [Session.onChannel]
  cases action session.channel <;> rfl

theorem Blind.publish (event : Event) : Blind (Session.publish event : Action τ Unit) := by
  intro session buffer
  simp only [Session.publish]
  cases (((session.buses.get event.topic).publish event).1).failure <;> rfl

theorem Blind.modify {change : Session τ → Session τ}
    (keeps : ∀ session buffer, change { session with buffer } = { change session with buffer }) :
    Blind (modify change : Action τ Unit) := fun session buffer => by
  change EStateM.Result.ok () _ = EStateM.Result.ok () _
  rw [keeps]

theorem Blind.say [Transport τ] (level : Log.Level) (text : String) :
    Blind (Session.say level text : Action τ Unit) := fun _ _ => rfl

namespace Refines

variable {before : Buffer → Prop}

theorem blind {action : Action τ α} (blind : Blind action)
    (sound : ∀ buffer, before buffer → Sound buffer) :
    Refines before action action fun value' value buffer => value' = value ∧ before buffer := by
  intro session buffer holds
  have same := blind session buffer
  cases found : action session with
  | ok value session' =>
    rw [found] at same
    exact ⟨value, buffer, ⟨rfl, holds⟩, same⟩
  | error halt session' =>
    rw [found] at same
    exact ⟨buffer, sound buffer holds, same⟩

theorem pure {value' : α} {value : β} {after : α → β → Buffer → Prop}
    (related : ∀ buffer, before buffer → after value' value buffer) :
    Refines before (Pure.pure value' : Action τ α) (Pure.pure value) after :=
  fun _ buffer holds => ⟨value', buffer, related buffer holds, rfl⟩

theorem throw {halt : Halt Error} {after : α → β → Buffer → Prop}
    (sound : ∀ buffer, before buffer → Sound buffer) :
    Refines before (MonadExcept.throw halt : Action τ α) (MonadExcept.throw halt) after :=
  fun _ buffer holds => ⟨buffer, sound buffer holds, rfl⟩

theorem bind {δ : Type} {action : Action τ α} {direct : Action τ β} {middle : α → β → Buffer → Prop}
    {next : α → Action τ γ} {next' : β → Action τ δ} {after : γ → δ → Buffer → Prop}
    (first : Refines before action direct middle)
    (rest : ∀ value' value, Refines (middle value' value) (next value') (next' value) after) :
    Refines before (action >>= next) (direct >>= next') after := by
  intro session buffer holds
  have result := first session buffer holds
  cases found : direct session with
  | ok value session' =>
    rw [found] at result
    obtain ⟨value', buffer', related, ran⟩ := result
    have later := rest value' value session' buffer' related
    rw [bind_ok found, bind_ok ran]
    exact later
  | error halt session' =>
    rw [found] at result
    obtain ⟨buffer', sound, ran⟩ := result
    rw [bind_error found, bind_error ran]
    exact ⟨buffer', sound, rfl⟩

/-- Both read the same state, but for the buffer. -/
theorem get {next : Session τ → Action τ α} {next' : Session τ → Action τ β}
    {after : α → β → Buffer → Prop}
    (rest : ∀ (session : Session τ) (buffer : Buffer),
      Refines before (next { session with buffer }) (next' session) after) :
    Refines before (MonadState.get >>= next) (MonadState.get >>= next') after :=
  fun session buffer holds => rest session buffer session buffer holds

/-- A use of the buffer that succeeds leaves no trace outside of it. -/
theorem onBuffer {use : Buffer.Action α} {next : α → Action τ β} {direct : Action τ γ}
    {after : β → γ → Buffer → Prop} (value : α) (middle : Buffer → Prop)
    (succeeds : ∀ buffer, before buffer → ∃ buffer', use buffer = .ok value buffer' ∧ middle buffer')
    (rest : Refines middle (next value) direct after) :
    Refines before (Session.onBuffer use >>= next) direct after := by
  intro session buffer holds
  obtain ⟨buffer', used, described⟩ := succeeds buffer holds
  have ran : Session.onBuffer use { session with buffer } =
      .ok value { session with buffer := buffer' } := by
    simp only [Session.onBuffer, used]
  rw [bind_ok ran]
  exact rest session buffer' described

theorem look {use : Buffer.Action α} {next : α → Action τ β} {direct : Action τ γ}
    {after : β → γ → Buffer → Prop} {value : α}
    (shows : ∀ buffer, before buffer → use buffer = .ok value buffer)
    (rest : Refines before (next value) direct after) :
    Refines before (Session.onBuffer use >>= next) direct after :=
  onBuffer value before (fun buffer holds => ⟨buffer, shows buffer holds, holds⟩) rest

theorem lookLast {use : Buffer.Action α} {value' : α} {value : β} {after : α → β → Buffer → Prop}
    (shows : ∀ buffer, before buffer → use buffer = .ok value' buffer ∧ after value' value buffer) :
    Refines before (Session.onBuffer use : Action τ α) (Pure.pure value) after := by
  intro session buffer holds
  obtain ⟨shown, related⟩ := shows buffer holds
  refine ⟨value', buffer, related, ?_⟩
  simp only [Session.onBuffer, shown]

/-- What the buffer is described by may say something of the values at hand. -/
theorem given {fact : Prop} {action : Action τ α} {direct : Action τ β}
    {after : α → β → Buffer → Prop} (refines : fact → Refines before action direct after) :
    Refines (fun buffer => fact ∧ before buffer) action direct after :=
  fun session buffer holds => refines holds.1 session buffer holds.2

theorem choose {ι : Type} {described : ι → Buffer → Prop} {action : Action τ α}
    {direct : Action τ β} {after : α → β → Buffer → Prop}
    (refines : ∀ index, Refines (described index) action direct after) :
    Refines (fun buffer => ∃ index, described index buffer) action direct after :=
  fun session buffer ⟨index, holds⟩ => refines index session buffer holds

theorem andThen {δ : Type} {action direct : Action τ α} {next : α → Action τ β}
    {next' : α → Action τ δ} {after : β → δ → Buffer → Prop}
    (first : Refines before action direct Same)
    (rest : ∀ value, Refines Sound (next value) (next' value) after) :
    Refines before (action >>= next) (direct >>= next') after := by
  apply first.bind
  intro value' value
  apply given
  rintro rfl
  exact rest value'

theorem keep {δ : Type} {action : Action τ α} {next : α → Action τ β} {next' : α → Action τ δ}
    {after : β → δ → Buffer → Prop} (blind : Blind action)
    (sound : ∀ buffer, before buffer → Sound buffer)
    (rest : ∀ value, Refines before (next value) (next' value) after) :
    Refines before (action >>= next) (action >>= next') after := by
  apply (Refines.blind blind sound).bind
  intro value' value
  apply given
  rintro rfl
  exact rest value'

/-- A last use of the buffer that succeeds leaves the value as it is. -/
theorem finish {action : Action τ α} {direct : Action τ β} {use : α → Buffer.Action Unit}
    {middle : α → β → Buffer → Prop} {after : Unit → β → Buffer → Prop}
    (refines : Refines before action direct middle)
    (succeeds : ∀ value' value buffer, middle value' value buffer →
      ∃ buffer', use value' buffer = .ok () buffer' ∧ after () value buffer') :
    Refines before (action >>= fun value => Session.onBuffer (use value)) direct after := by
  intro session buffer holds
  have result := refines session buffer holds
  cases found : direct session with
  | ok value session' =>
    rw [found] at result
    obtain ⟨value', buffer', related, ran⟩ := result
    obtain ⟨last, used, described⟩ := succeeds value' value buffer' related
    refine ⟨(), last, described, ?_⟩
    rw [bind_ok ran]
    simp only [Session.onBuffer, used]
  | error halt session' =>
    rw [found] at result
    obtain ⟨buffer', sound, ran⟩ := result
    exact ⟨buffer', sound, bind_error ran⟩

theorem ite {condition : Prop} [Decidable condition] {yes no : Action τ α} {yes' no' : Action τ β}
    {after : α → β → Buffer → Prop} (whenTrue : condition → Refines before yes yes' after)
    (whenFalse : ¬ condition → Refines before no no' after) :
    Refines before (if condition then yes else no) (if condition then yes' else no') after := by
  split
  · exact whenTrue ‹_›
  · exact whenFalse ‹_›

/-- Loops whose rounds go on or end together: what the last rounds come to, the loops come to. -/
theorem rounds [Transport τ] {step : Action τ (Option α)} {direct : Action τ (Option β)}
    {after : α → β → Buffer → Prop} (progress : Progresses step)
    (directProgress : Progresses direct) (refines : Refines Sound step direct (Yielding after)) :
    Refines Sound (Session.repeatUntil step progress) (Session.repeatUntil direct directProgress)
      after := by
  -- By induction on the rounds of the loop without a buffer, for every buffer at once.
  intro session
  refine repeatUntil_induction direct directProgress
    (motive := fun session result => ∀ buffer, Sound buffer → match result with
      | .ok value session' => ∃ value' buffer', after value' value buffer' ∧
          Session.repeatUntil step progress { session with buffer } =
            .ok value' { session' with buffer := buffer' }
      | .error halt session' => ∃ buffer', Sound buffer' ∧
          Session.repeatUntil step progress { session with buffer } =
            .error halt { session' with buffer := buffer' }) ?_ ?_ ?_ session
  · intro session value session' found buffer sound
    have result := refines session buffer sound
    rw [found] at result
    obtain ⟨found', buffer', round, ran⟩ := result
    cases found' with
    | none => exact round.elim
    | some value' => exact ⟨value', buffer', round, repeatUntil_some ran⟩
  · intro session halt session' found buffer sound
    have result := refines session buffer sound
    rw [found] at result
    obtain ⟨buffer', still, ran⟩ := result
    exact ⟨buffer', still, repeatUntil_error ran⟩
  · intro session session' result found ih buffer sound
    have round := refines session buffer sound
    rw [found] at round
    obtain ⟨found', buffer', goes, ran⟩ := round
    cases found' with
    | none =>
      rw [repeatUntil_none ran]
      exact ih buffer' goes
    | some value' => exact goes.elim

/-- All that a whole operation shows of its buffer is that there still is one. -/
theorem run {action direct : Action τ α} (refines : Refines Sound action direct Same)
    {session : Session τ} (sound : Sound session.buffer) :
    ∃ buffer, Sound buffer ∧ action session = withBuffer buffer (direct session) := by
  have result := refines session session.buffer sound
  cases found : direct session with
  | ok value session' =>
    rw [found] at result
    obtain ⟨_, buffer, ⟨rfl, still⟩, ran⟩ := result
    exact ⟨buffer, still, ran⟩
  | error halt session' =>
    rw [found] at result
    obtain ⟨buffer, still, ran⟩ := result
    exact ⟨buffer, still, ran⟩

end Refines

/-- A session and the same session without its buffer. -/
def Buffered (described : Buffer → Prop) (session direct : Session τ) : Prop :=
  ∃ buffer, described buffer ∧ session = { direct with buffer }

theorem Refines.abreast {before : Buffer → Prop} {action direct : Action τ α}
    (refines : Refines before action direct Same) {session session' : Session τ}
    (buffered : Buffered before session session') :
    Abreast (Buffered Sound) (fun _ => Buffered Sound) (action session) (direct session') := by
  obtain ⟨buffer, holds, rfl⟩ := buffered
  have result := refines session' buffer holds
  cases found : direct session' with
  | ok value after =>
    rw [found] at result
    obtain ⟨_, buffer', ⟨rfl, sound⟩, ran⟩ := result
    rw [ran]
    exact .ok ⟨buffer', sound, rfl⟩
  | error halt after =>
    rw [found] at result
    obtain ⟨buffer', sound, ran⟩ := result
    rw [ran]
    cases halt with
    | failed error => exact .failed ⟨buffer', sound, rfl⟩
    | crashed crash => exact .crashed ⟨buffer', sound, rfl⟩

theorem Refines.lockstep {action direct : Action τ α} (refines : Refines Sound action direct Same) :
    Lockstep (Buffered Sound) (fun _ => Buffered Sound) action direct := ⟨refines.abreast⟩

theorem Lockstep.refines {action direct : Action τ α}
    (lockstep : Lockstep (Buffered Sound) (fun _ => Buffered Sound) action direct) :
    Refines Sound action direct Same := by
  intro session buffer sound
  have abreast := lockstep.run (show Buffered Sound { session with buffer } session from
    ⟨buffer, sound, rfl⟩)
  generalize action { session with buffer } = result, direct session = result' at abreast ⊢
  cases abreast with
  | ok still =>
    obtain ⟨buffer', sound', rfl⟩ := still
    exact ⟨_, buffer', ⟨rfl, sound'⟩, rfl⟩
  | failed still =>
    obtain ⟨buffer', sound', rfl⟩ := still
    exact ⟨buffer', sound', rfl⟩
  | crashed fallen =>
    obtain ⟨buffer', sound', rfl⟩ := fallen
    exact ⟨buffer', sound', rfl⟩

end PgSession.Proofs

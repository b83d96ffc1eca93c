import PgSession.Proofs.Routines

/-!
Every operation of a session is a routine, and so is its counterpart without a buffer. The two loops
of a stage that waits are a single one in its routine, and an operation that does more than to look
something up is the deed of one routine.
-/

namespace PgSession.Proofs
open Wire Session

variable {τ α : Type} [Transport τ]

section

variable {stage : Stage} {rules : Rules α}

private theorem repeatUntil_congr {step step' : Action τ (Option α)} (same : step = step')
    (progress : Progresses step) (progress' : Progresses step') :
    repeatUntil step progress = repeatUntil step' progress' := by
  subst same
  rfl

/-- The two loops of a stage that waits are one over the messages. -/
private theorem waiting_buffered {act : UInt8 → Action τ (Option α)}
    (acts : ∀ tag, rules.act .buffered stage.name tag = act tag)
    (progress : Progresses (receiveOther >>= act)) :
    repeatUntil (receiveOther >>= act) progress =
      repeatUntil (Medium.turn .buffered stage rules) (Medium.turn_lowers _ _ _).progress := by
  rw [show repeatUntil (receiveOther >>= act) progress = _ from
    repeatUntil_repeatUntil receiveOnce_lowers.progress progress]
  refine repeatUntil_congr ?_ _ _
  simp only [innerRound, receiveOnce, Medium.turn, Medium.buffered, bind_assoc, pure_bind]
  refine bind_congr fun session => bind_congr fun tag => bind_congr fun general => ?_
  cases general with
  | true => rfl
  | false => exact (acts tag).symm

private theorem waiting_direct {act : Frame → Action τ (Option α)}
    (acts : ∀ frame, rules.act .direct stage.name frame = act frame)
    (progress : Progresses (Unbuffered.turn act)) :
    repeatUntil (Unbuffered.turn act) progress =
      repeatUntil (Medium.turn .direct stage rules) (Medium.turn_lowers _ _ _).progress := by
  refine repeatUntil_congr ?_ _ _
  simp only [Unbuffered.turn, Medium.turn, Medium.direct, bind_assoc, pure_bind]
  refine bind_congr fun session => bind_congr fun frame => bind_congr fun general => ?_
  cases general with
  | true => rfl
  | false => exact (acts frame).symm

end

theorem challenge_direct (frame : Frame) :
    challengeRules.act .direct Stage.authentication.name frame =
      (Unbuffered.onAuthentication frame : Action τ (Option Unit)) := Rules.act_challenge ..

theorem onAuthentication_eq (frame : Frame) :
    (Unbuffered.onAuthentication frame : Action τ (Option Unit)) =
    if frame.tag = Tag.authentication then do
      let challenge ← ensure (frame.decode Reader.authentication)
      (Talk.takeUp challenge).run .direct
    else fail (.ofViolation (.unexpected none frame.tag (some Stage.authentication.name))) :=
  (challenge_direct frame).symm

theorem ready_direct (frame : Frame) : readyRules.act .direct Stage.postAuthentication.name frame =
    (Unbuffered.onReady frame : Action τ (Option Unit)) := rfl

/-- The routine is what an operation of a session does, and what its counterpart without a buffer
does. -/
structure Means (routine : Routine α) (action direct : Action τ α) : Prop where
  buffered : routine.run .buffered = action
  direct : routine.run .direct = direct

namespace Means

theorem requestSsl (required : Bool) : Means (.talk (.requestSsl required))
    (Session.requestSsl required : Action τ Bool) (Unbuffered.requestSsl required) := by
  constructor <;>
    simp only [Routine.run, Talk.requestSsl, Session.requestSsl, Unbuffered.requestSsl, Talk.run_bind,
      Talk.run_ite, Talk.run_pure, Talk.run, Talk.run_utter _ .encryption rfl,
      Medium.buffered, Medium.direct, bind_assoc, pure_bind] <;>
    rfl

theorem negotiate (required : Bool) : Means (.talk (.negotiate required))
    (Session.negotiate required : Action τ Unit) (Unbuffered.negotiate required) := by
  obtain ⟨buffered, direct⟩ := requestSsl (τ := τ) required
  simp only [Routine.run] at buffered direct
  constructor <;>
    simp only [Routine.run, Talk.negotiate, Session.negotiate, Unbuffered.negotiate, Talk.run_bind,
      Talk.run_ite, Talk.run_pure, Talk.run, buffered, direct]
  all_goals
    refine bind_congr fun accepted => ?_
    split
    · refine bind_congr fun _ => bind_congr fun upgraded => ?_
      cases upgraded <;> rfl
    · rfl

theorem secure : Means (.talk .secure) (Session.secure : Action τ Unit) Unbuffered.secure := by
  constructor <;>
    simp only [Routine.run, Talk.secure, Session.secure, Unbuffered.secure, Talk.run_bind, Talk.run,
      bind_assoc, pure_bind]
  all_goals
    refine bind_congr fun session => ?_
    cases session.config.ssl
  case buffered.disable | direct.disable => rfl
  case buffered.prefer => exact (negotiate false).buffered
  case buffered.require => exact (negotiate true).buffered
  case direct.prefer => exact (negotiate false).direct
  case direct.require => exact (negotiate true).direct

theorem sendStartup : Means (.talk .sendStartup) (Session.sendStartup : Action τ Unit)
    Unbuffered.sendStartup := by
  constructor <;>
    simp only [Routine.run, Talk.sendStartup, Session.sendStartup, Unbuffered.sendStartup, Talk.run_bind,
      Talk.run, Talk.run_utter _ .greeting rfl, Medium.buffered, Medium.direct] <;>
    rfl

theorem sendAndClose (speech : Speech) {message : FrontendMessage}
    (asked : speech.message? = fun _ => .ok (some message)) : Means (.talk (.sendAndClose speech))
      (Session.sendAndClose message : Action τ Unit) (Unbuffered.sendAndClose message) := by
  constructor <;>
    simp only [Routine.run, Talk.sendAndClose, Talk.run_bind, Talk.run_settle, Talk.run,
      Talk.run_utter _ speech asked] <;>
    rfl

theorem close : Means (.talk .ending) (Session.close : Action τ Unit) Unbuffered.close := by
  obtain ⟨buffered, direct⟩ := sendAndClose (τ := τ) .farewell rfl
  exact ⟨bind_congr fun _ => buffered, bind_congr fun _ => direct⟩

theorem cancelOther (key : KeyData) : Means (.talk (.cancelOther key))
    (Session.cancelOther key : Action τ Unit) (Unbuffered.cancelOther key) := by
  obtain ⟨buffered, direct⟩ := sendAndClose (τ := τ) (.cancellation key) rfl
  exact ⟨bind_congr fun _ => buffered, bind_congr fun _ => direct⟩

theorem terminated (result : Except Error α) : Means (.talk (.terminated result))
    (Session.terminated result : Action τ α) (Unbuffered.terminated result) := by
  obtain ⟨buffered, direct⟩ := close (τ := τ)
  simp only [Routine.run] at buffered direct
  constructor <;>
    simp only [Routine.run, Talk.terminated, Session.terminated, Unbuffered.terminated, Talk.run_bind,
      Talk.run, buffered, direct]
  all_goals
    refine bind_congr fun closed => ?_
    cases result <;> cases closed <;> rfl

theorem authenticate :
    Means .authenticate (Session.authenticate : Action τ Unit) Unbuffered.authenticate where
  buffered := by
    refine congrArg (Session.guarded .authentication)
      (waiting_buffered (fun tag => ?_) answerChallenge_lowers.progress).symm
    rw [Rules.act_challenge]
    -- A message in the buffer is decoded by the tag that it was found to have.
    by_cases same : tag = Tag.authentication
    · subst same
      rfl
    · exact (if_neg same).trans (if_neg same).symm
  direct := congrArg (Session.guarded .authentication) (waiting_direct challenge_direct _).symm

theorem becomeReady :
    Means .becomeReady (Session.becomeReady : Action τ Unit) Unbuffered.becomeReady where
  buffered := by
    refine congrArg (Session.guarded .postAuthentication · >>= fun _ => say .info "Connected")
      (waiting_buffered (fun tag => ?_) awaitReady_lowers.progress).symm
    simp only [readyRules, Rules.act]
    by_cases key : tag = Tag.keyData
    · subst key
      rfl
    refine (if_neg key).trans (Eq.trans ?_ (if_neg key).symm)
    by_cases ready : tag = Tag.readyForQuery
    · subst ready
      rfl
    · exact (if_neg ready).trans (if_neg ready).symm
  direct := congrArg (Session.guarded .postAuthentication · >>= fun _ => say .info "Connected")
    (waiting_direct ready_direct _).symm

theorem andThen {β : Type} {first : Routine α} {next : α → Routine β} {action direct : Action τ α}
    {rest others : α → Action τ β} (means : Means first action direct)
    (behind : ∀ value, Means (next value) (rest value) (others value)) :
    Means (.andThen first next) (action >>= rest) (direct >>= others) where
  buffered := by rw [Routine.run, means.buffered, funext fun value => (behind value).buffered]
  direct := by rw [Routine.run, means.direct, funext fun value => (behind value).direct]

theorem handshake :
    Means .handshake (Session.handshake : Action τ Unit) Unbuffered.handshake :=
  secure.andThen fun _ => sendStartup.andThen fun _ => authenticate.andThen fun _ => becomeReady

theorem tick (timeout : Nat) : Means (.heed timeout) (Session.tick timeout : Action τ Unit)
    (Unbuffered.tick timeout) := by
  constructor <;>
    simp only [Routine.run, Session.tick, Unbuffered.tick, Medium.buffered, Medium.direct, bind_assoc,
      pure_bind]
  all_goals
    refine bind_congr fun _ => bind_congr fun general => ?_
    cases general <;> rfl

end Means

/-- What an operation has to do, if that is more than to look something up, and the phases it leads to
if it succeeds and if it fails. -/
inductive Deed : Operation → Routine Unit → (success failure : Phase) → Prop
  | handshake : Deed .handshake .handshake .connection .done
  | secure : Deed .secure (.talk .secure) .secured .done
  | sendStartup : Deed .sendStartup (.talk .sendStartup) .authenticating .done
  | authenticate : Deed .authenticate .authenticate .authenticated .done
  | ready : Deed .ready .becomeReady .connection .done
  | cancelOther (key : KeyData) : Deed (.cancelOther key) (.talk (.cancelOther key)) .done .done
  | tick (timeout : Nat) : Deed (.tick timeout) (.heed timeout) .connection .connection
  | close : Deed .close (.talk .ending) .done .done
  | terminated (result : Except Error Unit) :
    Deed (.terminated result) (.talk (.terminated result)) .done .done

/-- An operation looks something up, or it has a deed to do. -/
@[elab_as_elim]
theorem Deed.elim {motive : Operation → Prop}
    (subscribe : ∀ topic observer, motive (.subscribe topic observer))
    (unsubscribe : ∀ topic id, motive (.unsubscribe topic id)) (settings : motive .settings)
    (parameter : ∀ name, motive (.parameter name))
    (deed : ∀ {operation routine success failure}, Deed operation routine success failure →
      motive operation) (operation : Operation) : motive operation := by
  cases operation with
  | subscribe topic observer => exact subscribe topic observer
  | unsubscribe topic id => exact unsubscribe topic id
  | settings => exact settings
  | parameter name => exact parameter name
  | handshake => exact deed .handshake
  | secure => exact deed .secure
  | sendStartup => exact deed .sendStartup
  | authenticate => exact deed .authenticate
  | ready => exact deed .ready
  | cancelOther key => exact deed (.cancelOther key)
  | tick timeout => exact deed (.tick timeout)
  | close => exact deed .close
  | terminated result => exact deed (.terminated result)

theorem Deed.run {operation : Operation} {routine : Routine Unit} {success failure : Phase}
    (deed : Deed operation routine success failure) (client : Client τ) :
    client.run operation =
      Client.advance client.session (routine.run .buffered) success failure := by
  cases deed with
  | handshake => rw [Means.handshake.buffered]; rfl
  | secure => rw [Means.secure.buffered]; rfl
  | sendStartup => rw [Means.sendStartup.buffered]; rfl
  | authenticate => rw [Means.authenticate.buffered]; rfl
  | ready => rw [Means.becomeReady.buffered]; rfl
  | cancelOther key => rw [(Means.cancelOther key).buffered]; rfl
  | tick timeout => rw [(Means.tick timeout).buffered]; rfl
  | close => rw [Means.close.buffered]; rfl
  | terminated result => rw [(Means.terminated result).buffered]; rfl

end PgSession.Proofs

import PgSession.Proofs.Deeds

/-!
Two runs side by side. Actions are in lockstep if from sessions that are related they come to the same
and leave sessions that are related again. What a relation has to allow for is said of the words of
which routines are made, over two media that may be the same; by induction it then holds of every
routine.
-/

namespace PgSession.Proofs
open Wire Session

variable {τ α β : Type} {stands : Session τ → Session τ → Prop}
  {crashes : Crash → Session τ → Session τ → Prop}

/-- Both come to the same, and leave sessions that are related: in one way as long as nothing crashed,
in another by what crashed. -/
inductive Abreast (stands : Session τ → Session τ → Prop)
    (crashes : Crash → Session τ → Session τ → Prop) :
    EStateM.Result (Halt Error) (Session τ) α → EStateM.Result (Halt Error) (Session τ) α → Prop
  | ok {value : α} {session session' : Session τ} (still : stands session session') :
    Abreast stands crashes (.ok value session) (.ok value session')
  | failed {error : Error} {session session' : Session τ} (still : stands session session') :
    Abreast stands crashes (.error (.failed error) session) (.error (.failed error) session')
  | crashed {crash : Crash} {session session' : Session τ} (fallen : crashes crash session session') :
    Abreast stands crashes (.error (.crashed crash) session) (.error (.crashed crash) session')

/-- Begun by related sessions, the actions come to the same. -/
structure Lockstep (stands : Session τ → Session τ → Prop)
    (crashes : Crash → Session τ → Session τ → Prop)
    (action action' : Action τ α) : Prop where
  run : ∀ {session session'}, stands session session' →
    Abreast stands crashes (action session) (action' session')

theorem Abreast.bind {action action' : Action τ α} {next next' : α → Action τ β}
    {session session' : Session τ} (abreast : Abreast stands crashes (action session) (action' session'))
    (rest : ∀ value, Lockstep stands crashes (next value) (next' value)) :
    Abreast stands crashes ((action >>= next) session) ((action' >>= next') session') := by
  simp only [Bind.bind, EStateM.bind]
  generalize action session = result, action' session' = result' at abreast
  cases abreast with
  | ok still => exact (rest _).run still
  | failed still => exact .failed still
  | crashed fallen => exact .crashed fallen

namespace Lockstep

variable {action action' : Action τ α}

theorem pure (value : α) :
    Lockstep stands crashes (Pure.pure value : Action τ α) (Pure.pure value) := ⟨fun still => .ok still⟩

theorem fail (error : Error) :
    Lockstep stands crashes (Session.fail error : Action τ α) (Session.fail error) :=
  ⟨fun still => .failed still⟩

theorem bind {next next' : α → Action τ β} (lockstep : Lockstep stands crashes action action')
    (rest : ∀ value, Lockstep stands crashes (next value) (next' value)) :
    Lockstep stands crashes (action >>= next) (action' >>= next') :=
  ⟨fun still => (lockstep.run still).bind rest⟩

theorem get {next next' : Session τ → Action τ α}
    (rest : ∀ session session', stands session session' →
      Lockstep stands crashes (next session) (next' session')) :
    Lockstep stands crashes (MonadState.get >>= next) (MonadState.get >>= next') :=
  ⟨fun still => (rest _ _ still).run still⟩

theorem modify {change change' : Session τ → Session τ}
    (keeps : ∀ {session session'}, stands session session' →
      stands (change session) (change' session')) :
    Lockstep stands crashes (modify change : Action τ Unit) (modify change') :=
  ⟨fun still => .ok (keeps still)⟩

theorem ensure (result : Except Error α) :
    Lockstep stands crashes (ensure result : Action τ α) (ensure result) := by
  cases result with
  | ok value => exact pure value
  | error error => exact fail error

theorem ite {condition : Prop} [Decidable condition] {yes yes' no no' : Action τ α}
    (whenTrue : Lockstep stands crashes yes yes') (whenFalse : Lockstep stands crashes no no') :
    Lockstep stands crashes (if condition then yes else no) (if condition then yes' else no') := by
  split <;> assumption

theorem attempt (lockstep : Lockstep stands crashes action action') :
    Lockstep stands crashes (attempt action) (attempt action') := by
  refine ⟨fun {session session'} still => ?_⟩
  have inner := lockstep.run still
  unfold Session.attempt
  generalize action session = result, action' session' = result' at inner
  cases inner with
  | ok still => exact .ok still
  | failed still => exact .ok still
  | crashed fallen => exact .crashed fallen

variable [Transport τ]

theorem repeatUntil {step step' : Action τ (Option α)} (progress : Progresses step)
    (progress' : Progresses step') (lockstep : Lockstep stands crashes step step') :
    Lockstep stands crashes (repeatUntil step progress) (Session.repeatUntil step' progress') := by
  refine ⟨fun {session session'} still => ?_⟩
  -- By induction on the rounds of the first loop; the second has the same rounds.
  revert session'
  refine repeatUntil_induction step progress (motive := fun session result =>
    ∀ {session'}, stands session session' →
      Abreast stands crashes result (Session.repeatUntil step' progress' session')) ?_ ?_ ?_ session
  · intro session value between ran session' still
    have round := lockstep.run still
    rw [ran] at round
    generalize came : step' session' = result' at round
    cases round with
    | ok still =>
      rw [repeatUntil_some came]
      exact .ok still
  · intro session halt between ran session' still
    have round := lockstep.run still
    rw [ran] at round
    generalize came : step' session' = result' at round
    cases round with
    | failed still =>
      rw [repeatUntil_error came]
      exact .failed still
    | crashed fallen =>
      rw [repeatUntil_error came]
      exact .crashed fallen
  · intro session between result ran ih session' still
    have round := lockstep.run still
    rw [ran] at round
    generalize came : step' session' = result' at round
    cases round with
    | ok still =>
      rw [repeatUntil_none came]
      exact ih still

/-- A stage that fails goes on to log its failure and to close the transport. -/
theorem guarded (stage : Stage)
    (remarks : ∀ remark : Remark, Lockstep stands crashes
      (say remark.level remark.text : Action τ Unit) (say remark.level remark.text))
    (closes : Lockstep stands crashes (onChannel Channel.close : Action τ Unit) (onChannel Channel.close))
    (lockstep : Lockstep stands crashes action action') :
    Lockstep stands crashes (guarded stage action) (guarded stage action') := by
  refine bind lockstep.attempt fun result => ?_
  cases result with
  | ok value => exact pure value
  | error error =>
    refine bind (remarks (.failed stage error)) fun _ => bind closes.attempt fun closed => ?_
    cases closed with
    | ok _ => exact fail _
    | error closing => exact bind (remarks (.failedClosing closing)) fun _ => fail _

/-- Settings that are the same lead to the same message, if to any. -/
theorem speak {medium medium' : Medium τ} {speech : Speech}
    (config : ∀ {session session'}, stands session session' → session'.config = session.config)
    (send : ∀ {session session' message}, stands session session' →
      speech.message? session.config = .ok (some message) →
        Abreast stands crashes (medium.send message session) (medium'.send message session')) :
    Lockstep stands crashes (medium.speak speech) (medium'.speak speech) := by
  refine ⟨fun {session session'} still => ?_⟩
  change Abreast stands crashes (medium.voice (speech.message? session.config) session)
    (medium'.voice (speech.message? session'.config) session')
  rw [config still]
  match asked : speech.message? session.config with
  | .error error => exact .failed still
  | .ok none => exact .ok still
  | .ok (some message) => exact (send still asked).bind fun _ => pure true

end Lockstep

variable [Transport τ] {medium medium' : Medium τ} {commands : Prop}

/-- Talk over these media keeps sessions related; commands only if they are given. -/
structure TalkRelates (commands : Prop) (stands : Session τ → Session τ → Prop)
    (crashes : Crash → Session τ → Session τ → Prop) (medium medium' : Medium τ) : Prop where
  ssl : ∀ {session session'}, stands session session' → session'.config.ssl = session.config.ssl
  timeout : ∀ {session session'}, stands session session' →
    session'.config.timeout = session.config.timeout
  say : ∀ remark : Remark, Lockstep stands crashes
    (Session.say remark.level remark.text : Action τ Unit) (Session.say remark.level remark.text)
  speak : ∀ speech, Lockstep stands crashes (medium.speak speech) (medium'.speak speech)
  answer : commands → ∀ timeout, Lockstep stands crashes (medium.answer timeout) (medium'.answer timeout)
  upgrade : commands → Lockstep stands crashes (onChannel Channel.upgrade : Action τ Unit)
    (onChannel Channel.upgrade)
  close : commands → Lockstep stands crashes (onChannel Channel.close : Action τ Unit)
    (onChannel Channel.close)

namespace TalkRelates

theorem talk (talks : TalkRelates commands stands crashes medium medium') (talk : Talk commands α) :
    Lockstep stands crashes (talk.run medium) (talk.run medium') := by
  induction talk with
  | done value => exact .pure value
  | fail error => exact .fail error
  | andThen first next ih rest => exact .bind ih rest
  | say remark => exact talks.say remark
  | speak speech => exact talks.speak speech
  | mode =>
    refine .get fun session session' still => ?_
    rw [talks.ssl still]
    exact .pure _
  | answer may =>
    refine .get fun session session' still => ?_
    rw [talks.timeout still]
    exact talks.answer may _
  | upgrade may => exact talks.upgrade may
  | close may => exact talks.close may
  | attempt may _ ih => exact .attempt ih
  | guarded may stage _ ih => exact .guarded stage talks.say (talks.close may) ih

/-- Without its commands, less is asked of a medium. -/
theorem unasked (talks : TalkRelates commands stands crashes medium medium') :
    TalkRelates False stands crashes medium medium' :=
  { talks with answer := False.elim, upgrade := False.elim, close := False.elim }

end TalkRelates

/-- Sessions with a message in hand: its tag is the same, and what is read of it; and whoever keeps that or
lets go of it leaves sessions that are related. -/
structure MessagesRelate (stands : Session τ → Session τ → Prop)
    (crashes : Crash → Session τ → Session τ → Prop) (medium medium' : Medium τ)
    (holding : medium.Message → medium'.Message → Session τ → Session τ → Prop) : Prop where
  tag : ∀ {message message' session session'}, holding message message' session session' →
    medium'.tag message' = medium.tag message
  decode : ∀ {α : Type} (reader : Reader α) {message message' session session'},
    holding message message' session session' →
      Abreast stands crashes (medium.decode message reader session) (medium'.decode message' reader session')
  note : ∀ (fact : Fact) {session session'}, stands session session' →
    stands (fact.note session) (fact.note session')
  released : ∀ {message message' session session'}, holding message message' session session' →
    stands session session'

theorem MessagesRelate.rules {holding : medium.Message → medium'.Message → Session τ → Session τ → Prop}
    (messages : MessagesRelate stands crashes medium medium' holding)
    (talks : TalkRelates False stands crashes medium medium') (place : String) (rules : Rules α)
    {message : medium.Message} {message' : medium'.Message} {session session' : Session τ}
    (held : holding message message' session session') :
    Abreast stands crashes (rules.act medium place message session)
      (rules.act medium' place message' session') := by
  induction rules with
  | otherwise =>
    simp only [Rules.act, messages.tag held]
    exact .failed (messages.released held)
  | on tag reader fact act others ih =>
    simp only [Rules.act, messages.tag held]
    split
    · exact (messages.decode reader held).bind fun value =>
        .bind (.modify (messages.note (fact value))) fun _ => talks.talk (act value)
    · exact ih

/-- Both wait for a message: none is left to deal with, or they have the same one in hand. -/
inductive Heard {Message Message' : Type} (stands : Session τ → Session τ → Prop)
    (crashes : Crash → Session τ → Session τ → Prop)
    (holding : Message → Message' → Session τ → Session τ → Prop) :
    EStateM.Result (Halt Error) (Session τ) (Option Message) →
      EStateM.Result (Halt Error) (Session τ) (Option Message') → Prop
  | general {session session' : Session τ} (still : stands session session') :
    Heard stands crashes holding (.ok none session) (.ok none session')
  | held {message : Message} {message' : Message'} {session session' : Session τ}
    (held : holding message message' session session') :
    Heard stands crashes holding (.ok (some message) session) (.ok (some message') session')
  | failed {error : Error} {session session' : Session τ} (still : stands session session') :
    Heard stands crashes holding (.error (.failed error) session) (.error (.failed error) session')
  | crashed {crash : Crash} {session session' : Session τ} (fallen : crashes crash session session') :
    Heard stands crashes holding (.error (.crashed crash) session) (.error (.crashed crash) session')

omit [Transport τ] in
/-- The same message, if it takes no more to have one in hand. -/
theorem Abreast.heard {Message : Type}
    {result result' : EStateM.Result (Halt Error) (Session τ) (Option Message)}
    (abreast : Abreast stands crashes result result') :
    Heard stands crashes (fun message message' session session' =>
      message' = message ∧ stands session session') result result' := by
  cases abreast with
  | @ok value session session' still =>
    cases value with
    | none => exact .general still
    | some message => exact .held ⟨rfl, still⟩
  | failed still => exact .failed still
  | crashed fallen => exact .crashed fallen

/-- All that a routine does over these media keeps sessions related. -/
structure RoutinesRelate (stands : Session τ → Session τ → Prop)
    (crashes : Crash → Session τ → Session τ → Prop) (medium medium' : Medium τ)
    (holding : medium.Message → medium'.Message → Session τ → Session τ → Prop) : Prop where
  talks : TalkRelates True stands crashes medium medium'
  messages : MessagesRelate stands crashes medium medium' holding
  hear : ∀ timeout {session session'}, stands session session' →
    Heard stands crashes holding (medium.hear timeout session) (medium'.hear timeout session')

namespace RoutinesRelate

variable {holding : medium.Message → medium'.Message → Session τ → Session τ → Prop}

/-- What is done once a message was heard. -/
theorem heeding (relates : RoutinesRelate stands crashes medium medium' holding) (timeout : Nat)
    {next : Option medium.Message → Action τ α} {next' : Option medium'.Message → Action τ α}
    (dealt : Lockstep stands crashes (next none) (next' none))
    (rest : ∀ {message message' session session'}, holding message message' session session' →
      Abreast stands crashes (next (some message) session) (next' (some message') session')) :
    Lockstep stands crashes (medium.hear timeout >>= next) (medium'.hear timeout >>= next') := by
  refine ⟨fun {session session'} still => ?_⟩
  have heard := relates.hear timeout still
  simp only [Bind.bind, EStateM.bind]
  generalize medium.hear timeout session = result, medium'.hear timeout session' = result' at heard
  cases heard with
  | general still => exact dealt.run still
  | held held => exact rest held
  | failed still => exact .failed still
  | crashed fallen => exact .crashed fallen

theorem turn (relates : RoutinesRelate stands crashes medium medium' holding) (stage : Stage)
    (rules : Rules α) :
    Lockstep stands crashes (medium.turn stage rules) (medium'.turn stage rules) := by
  refine .get fun session session' still => ?_
  rw [relates.talks.timeout still]
  exact relates.heeding _ (.pure none) (relates.messages.rules relates.talks.unasked stage.name rules)

theorem routine (relates : RoutinesRelate stands crashes medium medium' holding) (routine : Routine α) :
    Lockstep stands crashes (routine.run medium) (routine.run medium') := by
  induction routine with
  | talk talk => exact relates.talks.talk talk
  | andThen first next ih rest => exact .bind ih rest
  | wait stage rules =>
    exact .guarded stage relates.talks.say (relates.talks.close trivial)
      (.repeatUntil _ _ (relates.turn stage rules))
  | heed timeout =>
    refine relates.heeding timeout (.pure ()) fun held => ?_
    simp only [relates.messages.tag held]
    exact .failed (relates.messages.released held)

end RoutinesRelate

end PgSession.Proofs

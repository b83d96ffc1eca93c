import PgSession.Proofs.Lockstep

/-!
What every routine keeps. A property of one run is a relation of a session to itself: it is enough to
know what the words of which routines are made do to it, and how it fares while a message is in hand.
-/

namespace PgSession.Proofs
open Wire Session

variable {τ α : Type}

/-- The same session on both sides, of which something is known. -/
def Alone (known : Session τ → Prop) (session session' : Session τ) : Prop :=
  session' = session ∧ known session

section

variable (holds : Session τ → Prop) (fallen : Crash → Session τ → Prop)

/-- A session was left as described, or as described otherwise by what crashed. -/
def Leaves : EStateM.Result (Halt Error) (Session τ) α → Prop
  | .ok _ session => holds session
  | .error (.failed _) session => holds session
  | .error (.crashed crash) session => fallen crash session

def Abides (action : Action τ α) : Prop :=
  ∀ session, holds session → Leaves holds fallen (action session)

end

section

variable {holds : Session τ → Prop} {fallen : Crash → Session τ → Prop}

private theorem Leaves.abreast {result : EStateM.Result (Halt Error) (Session τ) α}
    (leaves : Leaves holds fallen result) :
    Abreast (Alone holds) (fun crash => Alone (fallen crash)) result result := by
  match result, leaves with
  | .ok _ _, still => exact .ok ⟨rfl, still⟩
  | .error (.failed _) _, still => exact .failed ⟨rfl, still⟩
  | .error (.crashed _) _, fallen => exact .crashed ⟨rfl, fallen⟩

private theorem Abides.lockstep {action : Action τ α} (abides : Abides holds fallen action) :
    Lockstep (Alone holds) (fun crash => Alone (fallen crash)) action action := by
  refine ⟨?_⟩
  rintro _ session ⟨rfl, still⟩
  exact (abides session still).abreast

theorem Lockstep.abides {action : Action τ α}
    (lockstep : Lockstep (Alone holds) (fun crash => Alone (fallen crash)) action action) :
    Abides holds fallen action := by
  intro session still
  have abreast := lockstep.run ⟨rfl, still⟩
  generalize action session = result at abreast ⊢
  cases abreast with
  | ok still => exact still.2
  | failed still => exact still.2
  | crashed fallen => exact fallen.2

end

variable [Transport τ] {medium : Medium τ}

section

variable {holds : Session τ → Prop} {fallen : Crash → Session τ → Prop} {β : Type} {action : Action τ α}

omit [Transport τ] in
theorem Abides.bind {next : α → Action τ β} (abides : Abides holds fallen action)
    (rest : ∀ value, Abides holds fallen (next value)) : Abides holds fallen (action >>= next) :=
  Lockstep.abides (.bind abides.lockstep fun value => (rest value).lockstep)

omit [Transport τ] in
/-- A message that may come at any time is decoded and told, and no more. -/
theorem Abides.dispatch (tag : Abides holds fallen (onBuffer Buffer.tag : Action τ UInt8))
    (decode : ∀ {α : Type} tag (reader : Reader α),
      Abides holds fallen (onBuffer (PgSession.decode tag reader) : Action τ α))
    (publish : ∀ event, Abides holds fallen (Session.publish event : Action τ Unit))
    (set : ∀ name value session, holds session →
      holds { session with parameters := session.parameters.set name value }) :
    Abides holds fallen (Session.dispatch : Action τ Bool) := by
  have told (event : Event) : Lockstep (Alone holds) (fun crash => Alone (fallen crash))
      (do Session.publish event; return true : Action τ Bool) (do Session.publish event; return true) :=
    .bind (publish event).lockstep fun _ => .pure _
  refine Lockstep.abides (.bind tag.lockstep fun _ => .ite ?_ (.ite ?_ (.ite ?_ (.ite ?_ (.pure _)))))
  · exact .bind (decode _ _).lockstep fun _ => told _
  · exact .bind (decode _ _).lockstep fun _ => .fail _
  · exact .bind (decode _ _).lockstep fun _ => told _
  · refine .bind (decode _ _).lockstep fun _ => .bind (.modify ?_) fun _ => told _
    rintro _ session ⟨rfl, still⟩
    exact ⟨rfl, set _ _ session still⟩

end

/-- Nothing is sent but what the speech asks for. -/
theorem Abides.speak {holds : Session τ → Prop} {fallen : Crash → Session τ → Prop} {speech : Speech}
    (send : ∀ session message, holds session → speech.message? session.config = .ok (some message) →
      Leaves holds fallen (medium.send message session)) :
    Abides holds fallen (medium.speak speech) := by
  refine Lockstep.abides (.speak (fun alone => by rw [alone.1]) ?_)
  rintro _ session message ⟨rfl, still⟩ asked
  exact (send _ message still asked).abreast

/-- Talk over the medium keeps what is known of a session. -/
structure TalkKeeps (holds : Session τ → Prop) (fallen : Crash → Session τ → Prop)
    (medium : Medium τ) : Prop where
  say : ∀ remark : Remark, Abides holds fallen (Session.say remark.level remark.text : Action τ Unit)
  speak : ∀ speech, Abides holds fallen (medium.speak speech)
  answer : ∀ timeout, Abides holds fallen (medium.answer timeout)
  upgrade : Abides holds fallen (onChannel Channel.upgrade : Action τ Unit)
  close : Abides holds fallen (onChannel Channel.close : Action τ Unit)

/-- Without a buffer, talk comes down to remarks and to calls of the transport. -/
theorem TalkKeeps.direct {holds : Session τ → Prop} {fallen : Crash → Session τ → Prop}
    (say : ∀ remark : Remark,
      Abides holds fallen (Session.say remark.level remark.text : Action τ Unit))
    (long : ∀ session, holds session → fallen .lengthOutOfRange session)
    (write : ∀ bytes timeout, Abides holds fallen (onChannel (Channel.write bytes timeout) : Action τ Unit))
    (read : ∀ timeout, Abides holds fallen (onChannel (Channel.read 1 timeout) : Action τ (List UInt8)))
    (upgrade : Abides holds fallen (onChannel Channel.upgrade : Action τ Unit))
    (close : Abides holds fallen (onChannel Channel.close : Action τ Unit)) :
    TalkKeeps holds fallen (Medium.direct (τ := τ)) where
  say := say
  speak speech := .speak fun session message still _ => by
    change Leaves holds fallen (Unbuffered.send message session)
    unfold Unbuffered.send
    split
    · refine Lockstep.abides (.bind (say (.writing (encoded message))).lockstep fun _ =>
        .get fun before _ alone => ?_) session still
      rw [alone.1]
      exact (write _ _).lockstep
    · exact long session still
  answer timeout := Lockstep.abides (.bind (read timeout).lockstep fun _ => .pure _)
  upgrade := upgrade
  close := close

/-- All that a routine does over the medium keeps what is known of a session. -/
structure RoutinesKeep (holds : Session τ → Prop) (fallen : Crash → Session τ → Prop)
    (medium : Medium τ) (holding : medium.Message → Session τ → Prop) : Prop extends
    TalkKeeps holds fallen medium where
  hear : ∀ timeout session, holds session → match medium.hear timeout session with
    | .ok none session' => holds session'
    | .ok (some message) session' => holding message session'
    | .error (.failed _) session' => holds session'
    | .error (.crashed crash) session' => fallen crash session'
  decode : ∀ {α : Type} message (reader : Reader α) session, holding message session →
    Leaves holds fallen (medium.decode message reader session)
  note : ∀ (fact : Fact) session, holds session → holds (fact.note session)
  released : ∀ {message session}, holding message session → holds session

section

variable {holds : Session τ → Prop} {fallen : Crash → Session τ → Prop}

private theorem TalkKeeps.relates {commands : Prop} (keeps : TalkKeeps holds fallen medium) :
    TalkRelates commands (Alone holds) (fun crash => Alone (fallen crash)) medium medium where
  ssl alone := by rw [alone.1]
  timeout alone := by rw [alone.1]
  say remark := (keeps.say remark).lockstep
  speak speech := (keeps.speak speech).lockstep
  answer _ timeout := (keeps.answer timeout).lockstep
  upgrade _ := keeps.upgrade.lockstep
  close _ := keeps.close.lockstep

theorem TalkKeeps.talk {commands : Prop} (keeps : TalkKeeps holds fallen medium)
    (talk : Talk commands α) :
    Abides holds fallen (talk.run medium) := (keeps.relates.talk talk).abides

private theorem RoutinesKeep.relates {holding : medium.Message → Session τ → Prop}
    (keeps : RoutinesKeep holds fallen medium holding) :
    RoutinesRelate (Alone holds) (fun crash => Alone (fallen crash)) medium medium
      fun message message' session session' =>
        message' = message ∧ Alone (holding message) session session' where
  talks := keeps.toTalkKeeps.relates
  messages :=
    { tag := fun held => by rw [held.1]
      decode := by
        rintro α reader _ message _ session ⟨rfl, rfl, held⟩
        exact (keeps.decode message reader session held).abreast
      note := fun fact _ _ alone => ⟨congrArg fact.note alone.1, keeps.note fact _ alone.2⟩
      released := fun held => ⟨held.2.1, keeps.released held.2.2⟩ }
  hear := by
    rintro timeout _ session ⟨rfl, still⟩
    have heard := keeps.hear timeout session still
    generalize medium.hear timeout session = result at heard ⊢
    match result, heard with
    | .ok none _, still => exact .general ⟨rfl, still⟩
    | .ok (some _) _, held => exact .held ⟨rfl, rfl, held⟩
    | .error (.failed _) _, still => exact .failed ⟨rfl, still⟩
    | .error (.crashed _) _, fallen => exact .crashed ⟨rfl, fallen⟩

theorem RoutinesKeep.routine {holding : medium.Message → Session τ → Prop}
    (keeps : RoutinesKeep holds fallen medium holding) (routine : Routine α) :
    Abides holds fallen (routine.run medium) := (keeps.relates.routine routine).abides

/-- Of a message in hand there may be nothing more to know. -/
theorem TalkKeeps.routines (keeps : TalkKeeps holds fallen medium)
    (hear : ∀ timeout, Abides holds fallen (medium.hear timeout))
    (decode : ∀ {α : Type} message (reader : Reader α),
      Abides holds fallen (medium.decode message reader))
    (note : ∀ (fact : Fact) session, holds session → holds (fact.note session)) :
    RoutinesKeep holds fallen medium fun _ => holds where
  toTalkKeeps := keeps
  hear timeout session still := by
    have heard := hear timeout session still
    generalize medium.hear timeout session = result at heard ⊢
    match result, heard with
    | .ok none _, heard | .ok (some _) _, heard => exact heard
    | .error (.failed _) _, heard | .error (.crashed _) _, heard => exact heard
  decode message reader := decode message reader
  note := note
  released := id

end

end PgSession.Proofs

import PgSession.Proofs.Happenings

/-!
A journal tells of every event that is received, in the order in which the messages came. An event is
told by what comes right after receiving its message, so the two are followed together; whatever else
a session does adds calls and remarks of its own.
-/

namespace PgSession.Proofs
open Wire Session

variable {τ α : Type} [Transport τ] {target? : Option String} {session session' : Session τ}
  {events : List Event}

/-- The journal of one session goes on to that of another with what happened in between, these events
among it, and the subscribers are still those there should be. -/
structure Grows (target? : Option String) (session : Session τ) (events : List Event)
    (session' : Session τ) : Prop where
  config : session'.config = session.config
  listened : Listened target? session'.buses
  journal : ∃ happenings : List (Happening τ), session'.channel.journal =
      session.channel.journal ++ happenings.flatMap (Happening.entries session.config target?) ∧
    happenings.filterMap Happening.event? = events

namespace Grows

theorem refl (listened : Listened target? session.buses) : Grows target? session [] session :=
  ⟨rfl, listened, [], (List.append_nil _).symm, rfl⟩

theorem trans {last : Session τ} {more : List Event} (grows : Grows target? session events session')
    (onward : Grows target? session' more last) : Grows target? session (events ++ more) last := by
  obtain ⟨happenings, journal, rfl⟩ := grows.journal
  obtain ⟨others, journal', rfl⟩ := onward.journal
  refine ⟨onward.config.trans grows.config, onward.listened, happenings ++ others, ?_, ?_⟩
  · rw [journal', journal, grows.config, List.flatMap_append, List.append_assoc]
  · exact List.filterMap_append

theorem made (grows : Grows target? session events session') (call : Call) (link : τ) :
    Grows target? session events (made session' call link) := by
  have one : Grows target? session' [] (Proofs.made session' call link) :=
    ⟨rfl, grows.listened, [.called call], rfl, rfl⟩
  have both := grows.trans one
  rwa [List.append_nil] at both

theorem remarked (grows : Grows target? session events session') (remark : Remark) :
    Grows target? session events (remarked session' remark.level remark.text) := by
  have one : Grows target? session' [] (Proofs.remarked session' remark.level remark.text) :=
    ⟨rfl, grows.listened, [.said session'.channel.link remark], rfl, rfl⟩
  have both := grows.trans one
  rwa [List.append_nil] at both

end Grows

/-- Messages were received on the way, and of the events in them all were told but those still owed. -/
def Recounts (target? : Option String) (owed : List Event) (session session' : Session τ) : Prop :=
  ∃ calls frames events, Advances session calls session' ∧
    Hears session.config session.channel.link calls frames ∧
    Grows target? session events session' ∧ events ++ owed = frames.filterMap Frame.event?

namespace Recounts

variable {owed : List Event}

theorem listened (recounts : Recounts target? owed session session') :
    Listened target? session'.buses := by
  obtain ⟨_, _, _, _, _, grows, _⟩ := recounts
  exact grows.listened

/-- Nothing is done that shows in the journal. -/
theorem still (config : session'.config = session.config) (channel : session'.channel = session.channel)
    (listened : Listened target? session'.buses) : Recounts target? [] session session' := by
  refine ⟨[], [], [], ⟨?_, ?_, listened.discreet⟩, .nil, ⟨config, listened, [], ?_, rfl⟩, rfl⟩
  · rw [outlook, outlook, config, channel, Outlook.after_nil]
  · rw [channel, List.append_nil]
  · rw [channel, List.flatMap_nil, List.append_nil]

theorem trans {last : Session τ} (recounts : Recounts target? [] session session')
    (onward : Recounts target? owed session' last) : Recounts target? owed session last := by
  obtain ⟨calls, frames, events, advances, hears, grows, told⟩ := recounts
  obtain ⟨more, others, later, advances', behind, grows', told'⟩ := onward
  rw [advances.config, advances.link] at behind
  rw [List.append_nil] at told
  refine ⟨_, _, _, advances.trans advances', hears.append behind, grows.trans grows', ?_⟩
  rw [List.append_assoc, told', told, List.filterMap_append]

/-- All that receiving adds to the journal are two calls and a remark. -/
theorem receive_grows (listened : Listened target? session.buses) (timeout : Nat) :
    Grows target? session [] (final (Unbuffered.receive timeout session)) := by
  have start := Grows.refl listened
  have reception := receive_reception session timeout
  generalize Unbuffered.receive timeout session = result at reception ⊢
  cases reception with
  | unheard | short | large => exact start.made _ _
  | cut | whole => exact ((start.made _ _).remarked (.header _ _)).made _ _

/-- A message that is received is not yet told. -/
theorem receive_recounts (listened : Listened target? session.buses) (timeout : Nat) :
    match Unbuffered.receive timeout session with
    | .ok frame session' => Recounts target? frame.event?.toList session session'
    | .error _ session' => Recounts target? [] session session' := by
  have grows := receive_grows listened timeout
  obtain ⟨calls, advances, -, receives⟩ := receive_does timeout listened.discreet
  generalize Unbuffered.receive timeout session = result at *
  cases result with
  | ok frame session' =>
    refine ⟨calls, [frame], [], advances, receives.hears, grows, ?_⟩
    cases told : frame.event? <;> simp [told]
  | error halt session' => exact ⟨calls, [], [], advances, receives.hears_nothing, grows, rfl⟩

private theorem publish_grows (listened : Listened target? session.buses) (event : Event) :
    Grows target? session [event] (final (publish event session)) := by
  obtain ⟨attended, names, records⟩ := (listened event.topic).publish
  have told : Grows target? session [event] { session with
      buses := session.buses.set event.topic ((session.buses.get event.topic).publish event).2
      channel := session.channel.note ((session.buses.get event.topic).publish event).1.records } := by
    refine ⟨rfl, listened.set attended, [.told event names], ?_, rfl⟩
    rw [records, List.flatMap_singleton]
    rfl
  unfold publish
  dsimp only
  split <;> exact told

/-- What is told of a message is the event in it, also if an observer refuses that. -/
theorem dispatch_grows (listened : Listened target? session.buses) (frame : Frame) :
    Grows target? session frame.event?.toList (final (Unbuffered.dispatch frame session)) := by
  cases kind : frame.general with
  | none =>
    rw [dispatch_solicited kind, Frame.event?, kind]
    exact .refl listened
  | some found =>
    cases found with
    | error error =>
      rw [dispatch_error kind, Frame.event?, kind]
      exact .refl listened
    | ok event =>
      have dispatches : final (Unbuffered.dispatch frame session) =
          final (publish event (learn event session)) := by
        rw [Unbuffered.dispatch, kind]
        change final ((publish event >>= fun _ => pure true : Action τ Bool) (learn event session)) = _
        cases ran : publish event (learn event session) with
        | ok nothing last => rw [bind_ok ran]; rfl
        | error halt last => rw [bind_error ran]; rfl
      have learnt : Grows target? session [] (learn event session) := by
        refine ⟨learn_config .., ?_, [], ?_, rfl⟩
        · rw [learn_buses]
          exact listened
        · rw [learn_channel, List.flatMap_nil, List.append_nil]
      rw [dispatches, Frame.event?, kind]
      exact learnt.trans (publish_grows learnt.listened event)

private theorem dispatch_recounts {frame : Frame}
    (recounts : Recounts target? frame.event?.toList session session') :
    Recounts target? [] session (final (Unbuffered.dispatch frame session')) := by
  have told := dispatch_grows recounts.listened frame
  obtain ⟨none, onward, rfl, -⟩ := dispatch_does frame recounts.listened.discreet
  obtain ⟨calls, frames, events, advances, hears, grows, owed⟩ := recounts
  refine ⟨_, _, _, advances.trans onward, hears.append .nil, grows.trans told, ?_⟩
  rw [List.append_nil, List.append_nil, owed]

/-- Receiving a message and telling the event in it belong together. -/
theorem hear_recounts (listened : Listened target? session.buses) (timeout : Nat) :
    Recounts target? [] session (final (Medium.direct.hear timeout session)) := by
  have first := receive_recounts listened timeout
  simp only [Medium.direct]
  cases ran : Unbuffered.receive timeout session with
  | error halt between =>
    rw [ran] at first
    rw [bind_error ran]
    exact first
  | ok frame between =>
    rw [ran] at first
    have second := dispatch_recounts first
    rw [bind_ok ran]
    cases told : Unbuffered.dispatch frame between with
    | error halt last =>
      rw [told] at second
      rw [bind_error told]
      exact second
    | ok general last =>
      rw [told] at second
      rw [bind_ok told]
      exact second

variable {start : Session τ}

private theorem abides {action : Action τ α} (tells : ∀ session, Listened target? session.buses →
    Recounts target? [] session (final (action session))) :
    Abides (Recounts target? [] start) (fun _ => Recounts target? [] start) action :=
  abides_final.mpr fun session recounts => recounts.trans (tells session recounts.listened)

/-- An action that receives no message tells of no event. -/
theorem aside {action : Action τ α}
    (silent : ∀ session, Asks session action fun calls _ => ∀ call ∈ calls, Headless call)
    (grows : ∀ session, Listened target? session.buses →
      Grows target? session [] (final (action session))) :
    Abides (Recounts target? [] start) (fun _ => Recounts target? [] start) action := by
  refine abides fun session listened => ?_
  obtain ⟨calls, advances, headless⟩ := silent session listened.discreet
  exact ⟨calls, [], [], advances, .headless headless, grows session listened, rfl⟩

/-- One call is entered in the journal, whether or not it succeeds. -/
theorem performs {action : Action τ α}
    (silent : ∀ session, Asks session action fun calls _ => ∀ call ∈ calls, Headless call)
    (call : Session τ → Bool → Call) (run : τ → Except IoError α × τ)
    (same : ∀ session, action session = onChannel (Channel.perform (call session) run) session) :
    Abides (Recounts target? [] start) (fun _ => Recounts target? [] start) action := by
  refine aside silent fun session listened => ?_
  rw [same]
  cases ran : run session.channel.link with
  | mk result link =>
    cases result with
    | ok value =>
      rw [perform_ok ran]
      exact (Grows.refl listened).made _ _
    | error error =>
      rw [perform_failed ran]
      exact (Grows.refl listened).made _ _

theorem upgrade : Abides (Recounts target? [] start) (fun _ => Recounts target? [] start)
    (onChannel Channel.upgrade : Action τ Unit) := by
  refine aside (fun _ => Does.upgrade.mono fun _ _ _ made => made.headless fun _ => trivial) ?_
  intro session listened
  cases ran : Transport.upgrade session.channel.link with
  | mk result link =>
    cases result with
    | ok nothing =>
      have called := (Grows.refl listened).made (.upgrade true) link
      rw [upgrade_ok ran]
      exact ⟨called.config, called.listened, called.journal⟩
    | error error =>
      rw [upgrade_failed ran]
      exact (Grows.refl listened).made _ _

theorem talks : TalkKeeps (Recounts target? [] start) (fun _ => Recounts target? [] start)
    (Medium.direct (τ := τ)) := by
  refine .direct (fun remark => ?_) (fun _ => id) (fun bytes timeout => ?_) (fun timeout => ?_) upgrade ?_
  · exact aside (fun _ => Does.say nofun) fun _ listened => (Grows.refl listened).remarked remark
  · exact performs
      (fun _ => (Does.write bytes timeout).mono fun _ _ _ made => made.headless fun _ => trivial)
      (fun session => .write session.channel.encrypted bytes timeout) _ fun _ => rfl
  · refine performs (fun _ => (Does.read 1 timeout).mono fun _ _ _ read => read.headless ?_)
      (fun _ => .read 1 timeout) _ fun _ => rfl
    decide
  · exact performs (fun _ => Does.close.mono fun _ _ _ made => made.headless fun _ => trivial)
      (fun _ => .close) _ fun _ => rfl

/-- Whatever is done as long as the right ones listen, every event received on the way is told. -/
theorem routine (listened : Listened target? session.buses) (routine : Routine α) :
    Recounts target? [] session (final (routine.run .direct session)) := by
  have decodes {β : Type} (frame : Frame) (reader : Reader β) :
      Abides (Recounts target? [] session) (fun _ => Recounts target? [] session)
        (ensure (frame.decode reader)) := (Lockstep.ensure _).abides
  have keeps := talks.routines (fun timeout => abides fun _ listened => hear_recounts listened timeout)
    decodes fun fact between recounts => by
      cases fact <;> exact recounts.trans (.still rfl rfl recounts.listened)
  exact abides_final.mp (keeps.routine routine) session (.still rfl rfl listened)

end Recounts

end PgSession.Proofs

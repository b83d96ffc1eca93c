import PgSession.Proofs.BufferRefinement

/-!
Every operation of a session refines its counterpart without a buffer: first what is done with a
message in the buffer, then sending and receiving; the routines of the two then keep abreast.
-/

namespace PgSession.Proofs
open Wire Session

variable {τ α : Type}

theorem decode_refines {frame : Frame} (reader : Reader α) :
    Refines (Holds frame.bytes) (onBuffer (PgSession.decode frame.tag reader) : Action τ α)
      (ensure (frame.decode reader)) Same := by
  intro session buffer holds
  obtain ⟨buffer', sound, decoded⟩ := holds.decode reader
  simp only [Frame.decode, onBuffer, decoded]
  cases reader frame.body with
  | ok value rest => exact ⟨value, buffer', ⟨rfl, sound⟩, rfl⟩
  | error error rest => exact ⟨buffer', sound, rfl⟩

/-- A message that was not dealt with is still in the buffer. -/
def Passed (frame : Frame) (general' general : Bool) (buffer : Buffer) : Prop :=
  general' = general ∧ Sound buffer ∧ (general = false → Holds frame.bytes buffer)

theorem announce_refines (frame : Frame) (event : Event) :
    Refines Sound (Unbuffered.announce event : Action τ Bool) (Unbuffered.announce event)
      (Passed frame) := by
  have learns : Blind (modify (learn event) : Action τ Unit) :=
    Blind.modify fun session buffer => by cases event <;> rfl
  apply Refines.keep learns fun _ sound => sound
  intro _
  apply Refines.keep (Blind.publish event) fun _ sound => sound
  intro _
  exact Refines.pure fun _ sound => ⟨rfl, sound, nofun⟩

private theorem event_refines {frame : Frame} {reader : Reader α} {wrap : α → Event}
    {next : α → Action τ Bool} (same : ∀ value, next value = Unbuffered.announce (wrap value)) :
    Refines (Holds frame.bytes) (onBuffer (PgSession.decode frame.tag reader) >>= next)
      (do Unbuffered.announce (← ensure ((frame.decode reader).map wrap))) (Passed frame) := by
  have later : (do Unbuffered.announce (← ensure ((frame.decode reader).map wrap)) : Action τ Bool) =
      ensure (frame.decode reader) >>= fun value => Unbuffered.announce (wrap value) := by
    cases frame.decode reader <;> rfl
  rw [later]
  apply (decode_refines reader).andThen
  intro value
  rw [same]
  exact announce_refines frame (wrap value)

private theorem report_refines (frame : Frame) :
    Refines (Holds frame.bytes)
      (do fail ⟨.database (← onBuffer (PgSession.decode frame.tag Reader.errorReport)), none⟩)
      (do Unbuffered.announce (← ensure ((frame.decode Reader.errorReport).bind fun report =>
        .error ⟨.database report, none⟩)) : Action τ Bool) (Passed frame) := by
  have later : (do Unbuffered.announce (← ensure ((frame.decode Reader.errorReport).bind
      fun report => .error ⟨.database report, none⟩)) : Action τ Bool) =
      ensure (frame.decode Reader.errorReport) >>= fun report =>
        fail ⟨.database report, none⟩ := by
    cases frame.decode Reader.errorReport <;> rfl
  rw [later]
  apply (decode_refines _).andThen
  intro report
  exact Refines.throw fun _ sound => sound

theorem dispatch_refines (frame : Frame) :
    Refines (Holds frame.bytes) (Session.dispatch : Action τ Bool) (Unbuffered.dispatch frame)
      (Passed frame) := by
  unfold Session.dispatch
  apply Refines.look fun buffer holds => Holds.tag holds
  unfold Unbuffered.dispatch Frame.general
  by_cases notification : frame.tag = Tag.notification
  · rw [if_pos notification, if_pos notification, ← notification]
    exact event_refines fun _ => rfl
  rw [if_neg notification, if_neg notification]
  by_cases report : frame.tag = Tag.errorResponse
  · rw [if_pos report, if_pos report, ← report]
    exact report_refines frame
  rw [if_neg report, if_neg report]
  by_cases notice : frame.tag = Tag.notice
  · rw [if_pos notice, if_pos notice, ← notice]
    exact event_refines fun _ => rfl
  rw [if_neg notice, if_neg notice]
  by_cases parameter : frame.tag = Tag.parameterStatus
  · rw [if_pos parameter, if_pos parameter, ← parameter]
    exact event_refines fun _ => rfl
  rw [if_neg parameter, if_neg parameter]
  exact Refines.pure fun buffer holds => ⟨rfl, holds.sound, fun _ => holds⟩

variable [Transport τ]

theorem send_refines (message : FrontendMessage) :
    Refines Sound (Session.send message : Action τ Unit) (Unbuffered.send message) Same := by
  unfold Unbuffered.send
  split
  · next sendable =>
    apply Refines.onBuffer () (Holds (encoded message))
    · intro buffer sound
      exact write_sendable sound sendable
    unfold Session.flush
    apply Refines.look fun buffer holds => Holds.chunk holds
    apply Refines.keep (Blind.say _ _) fun _ holds => Holds.sound holds
    intro _
    apply Refines.get
    intro session buffer
    apply Refines.finish (Refines.blind (Blind.onChannel _) fun _ holds => Holds.sound holds)
    rintro _ value buffer ⟨-, holds⟩
    exact ⟨buffer.cleared, rfl, rfl, holds.sound⟩
  · next long =>
    intro session buffer sound
    obtain ⟨buffer', crashed, still⟩ := write_not_sendable sound long
    refine ⟨buffer', still, ?_⟩
    apply bind_error
    simp only [Session.onBuffer, crashed]

private theorem onChannel_read_length {count timeout : Nat} {bytes : List UInt8}
    {session session' : Session τ}
    (ran : onChannel (Channel.read count timeout) session = .ok bytes session') :
    bytes.length = count := by
  simp only [onChannel, Channel.read, Channel.perform] at ran
  cases found : Transport.read session.channel.link count timeout with
  | mk result link =>
    cases result with
    | ok value =>
      rw [found] at ran
      cases ran
      exact Transport.read_length found
    | error error =>
      rw [found] at ran
      cases ran

theorem read_refines {before : Buffer → Prop} (sound : ∀ buffer, before buffer → Sound buffer)
    (count timeout : Nat) :
    Refines before (onChannel (Channel.read count timeout) : Action τ (List UInt8))
      (onChannel (Channel.read count timeout)) fun bytes' bytes buffer =>
        (bytes' = bytes ∧ bytes.length = count) ∧ before buffer := by
  intro session buffer holds
  have same := Blind.onChannel (Channel.read count timeout) session buffer
  cases found : (onChannel (Channel.read count timeout) : Action τ (List UInt8)) session with
  | ok bytes session' =>
    rw [found] at same
    exact ⟨bytes, buffer, ⟨⟨rfl, onChannel_read_length found⟩, holds⟩, same⟩
  | error halt session' =>
    rw [found] at same
    exact ⟨buffer, sound buffer holds, same⟩

theorem fillWindow_refines (bytes : List UInt8) (size timeout : Nat) :
    Refines (Open bytes size) (fillWindow timeout : Action τ Unit)
      (onChannel (Channel.read size timeout)) fun _ more buffer =>
        more.length = size ∧ Filled (bytes ++ more) buffer := by
  unfold fillWindow
  apply Refines.onBuffer (bytes.length, size) fun buffer =>
    ∃ opened, Open bytes size opened ∧ buffer = { opened with position := opened.limit }
  · intro buffer opened
    exact ⟨_, opened.expose, buffer, opened, rfl⟩
  apply Refines.finish (read_refines _ size timeout)
  · rintro more _ buffer ⟨⟨rfl, length⟩, opened, holds, rfl⟩
    obtain ⟨buffer', stored, filled⟩ := holds.store more length
    exact ⟨buffer', stored, length, filled⟩
  · rintro _ ⟨opened, holds, rfl⟩
    exact holds.sound

theorem fillAfresh_refines (limit timeout : Nat) :
    Refines Sound (fillAfresh limit timeout : Action τ Unit)
      (onChannel (Channel.read limit timeout)) fun _ bytes buffer =>
        bytes.length = limit ∧ Filled bytes buffer := by
  unfold fillAfresh
  apply Refines.onBuffer () fun buffer => ∃ old, Sound old ∧ buffer = old.cleared
  · intro buffer sound
    exact ⟨_, rfl, buffer, sound, rfl⟩
  apply Refines.onBuffer () (Open [] limit)
  · rintro _ ⟨buffer, sound, rfl⟩
    exact ⟨_, rfl, clear_setLimit sound limit⟩
  exact fillWindow_refines [] limit timeout

/-- The header is in the buffer, and it says so much about the body. -/
def Announced (length : Nat) (announced : UInt8 × Nat) (buffer : Buffer) : Prop :=
  ∃ field, ((announced.1 :: field).length = headerSize ∧
    lengthIn (announced.1 :: field) = (4 + announced.2 : Nat) ∧ length = 4 + announced.2) ∧
    Filled (announced.1 :: field) buffer

theorem receiveHeader_refines (timeout : Nat) :
    Refines Sound (Session.receiveHeader timeout : Action τ Nat) (Unbuffered.receiveHeader timeout)
      Announced := by
  unfold Session.receiveHeader Unbuffered.receiveHeader
  apply (fillAfresh_refines headerSize timeout).bind
  intro _ header
  apply Refines.given
  intro size
  apply Refines.look fun buffer filled => Open.peekLength filled size
  apply Refines.get
  intro session buffer
  apply Refines.ite
  · intro _
    exact Refines.throw fun _ filled => Open.sound filled
  intro long
  apply Refines.ite
  · intro _
    exact Refines.throw fun _ filled => Open.sound filled
  intro _
  apply Refines.pure
  intro buffer filled
  match header, size with
  | tag :: field, size =>
    have length : 4 ≤ lengthIn (tag :: field) := Int.not_lt.mp long
    refine ⟨field, ⟨size, ?_, ?_⟩, filled⟩
    · change lengthIn (tag :: field) = (4 + ((lengthIn (tag :: field)).toNat - 4) : Nat)
      omega
    · change (lengthIn (tag :: field)).toNat = 4 + ((lengthIn (tag :: field)).toNat - 4)
      omega

/-- A header and as many bytes as it announces are a frame. -/
theorem announced_bytes {tag : UInt8} {field body : List UInt8}
    (size : (tag :: field).length = headerSize)
    (length : lengthIn (tag :: field) = (4 + body.length : Nat)) :
    tag :: field ++ body = (Frame.mk tag body).bytes ∧ (Frame.mk tag body).Fits := by
  match field, size with
  | [first, second, third, fourth], _ =>
    obtain ⟨same, fits⟩ := word_of_length length
    exact ⟨by rw [Frame.bytes, ← same]; rfl, fits⟩

theorem receive_refines (timeout : Nat) :
    Refines Sound (Session.receive timeout : Action τ UInt8) (Unbuffered.receive timeout)
      fun tag frame buffer => tag = frame.tag ∧ Holds frame.bytes buffer := by
  unfold Session.receive Unbuffered.receive
  apply (receiveHeader_refines timeout).bind
  rintro length ⟨tag, size⟩
  apply Refines.choose
  intro field
  apply Refines.given
  rintro ⟨header, announced, rfl⟩
  apply Refines.look fun buffer filled => Open.tag filled
  apply Refines.keep (Blind.say _ _) fun _ filled => Open.sound filled
  intro _
  rw [Nat.add_sub_cancel_left]
  apply Refines.onBuffer () fun buffer => ∃ old, Filled (tag :: field) old ∧
    buffer = old.grow (old.position + size)
  · intro buffer filled
    exact ⟨_, rfl, buffer, filled, rfl⟩
  apply Refines.onBuffer () (Open (tag :: field) size)
  · rintro _ ⟨buffer, filled, rfl⟩
    have limit : 1 + (4 + size) = (tag :: field).length + size := by
      rw [header, headerSize]
      omega
    refine ⟨_, rfl, ?_⟩
    rw [limit]
    exact filled.extend size
  apply (fillWindow_refines (tag :: field) size timeout).bind
  intro _ body
  apply Refines.given
  rintro rfl
  obtain ⟨bytes, -⟩ := announced_bytes header announced
  apply Refines.onBuffer () (Holds (Frame.mk tag body).bytes)
  · intro buffer filled
    exact ⟨_, rfl, bytes ▸ filled.flip⟩
  apply Refines.lookLast
  intro buffer holds
  exact ⟨holds.tag, rfl, holds⟩

/-- A message that is left to deal with is still in the buffer. -/
theorem hear_refines (timeout : Nat) :
    Refines Sound (Medium.buffered.hear timeout : Action τ (Option UInt8))
      (Medium.direct.hear timeout)
      (Yielding fun tag frame buffer => tag = frame.tag ∧ Holds frame.bytes buffer) := by
  apply (receive_refines timeout).bind
  intro tag frame
  apply Refines.given
  rintro rfl
  apply (dispatch_refines frame).bind
  intro general' general
  apply Refines.given
  rintro rfl
  cases general' with
  | true => exact Refines.pure fun _ passed => passed.1
  | false => exact Refines.pure fun _ passed => ⟨rfl, passed.2 rfl⟩

theorem answer_refines (timeout : Nat) : Refines Sound (Medium.buffered.answer timeout : Action τ UInt8)
    (Medium.direct.answer timeout) Same := by
  apply (fillAfresh_refines 1 timeout).bind
  intro _ bytes
  apply Refines.given
  intro size
  match bytes, size with
  | [answer], _ => exact Refines.lookLast fun buffer filled => ⟨filled.tag, rfl, filled.sound⟩

private theorem media_relate :
    RoutinesRelate (Buffered Sound) (fun _ => Buffered Sound) (Medium.buffered (τ := τ))
    .direct fun tag frame session session' =>
      tag = frame.tag ∧ Buffered (Holds frame.bytes) session session' where
  talks :=
    { ssl := fun ⟨_, _, same⟩ => by rw [same]
      timeout := fun ⟨_, _, same⟩ => by rw [same]
      say := fun _ => (Refines.blind (Blind.say _ _) fun _ sound => sound).lockstep
      speak := fun speech => .speak (fun ⟨_, _, same⟩ => by rw [same]) fun still _ =>
        (send_refines _).lockstep.run still
      answer := fun _ timeout => (answer_refines timeout).lockstep
      upgrade := fun _ => (Refines.blind (Blind.onChannel _) fun _ sound => sound).lockstep
      close := fun _ => (Refines.blind (Blind.onChannel _) fun _ sound => sound).lockstep }
  messages :=
    { tag := fun held => held.1.symm
      decode := by
        rintro α reader _ frame session session' ⟨rfl, buffered⟩
        exact (decode_refines reader).abreast buffered
      note := by
        rintro fact _ session ⟨buffer, sound, rfl⟩
        exact ⟨buffer, sound, by cases fact <;> rfl⟩
      released := fun ⟨_, buffer, holds, same⟩ => ⟨buffer, holds.sound, same⟩ }
  hear := by
    rintro timeout _ session ⟨buffer, sound, rfl⟩
    have result := hear_refines timeout session buffer sound
    cases found : Medium.direct.hear timeout session with
    | ok frame? after =>
      rw [found] at result
      obtain ⟨tag?, buffer', left, ran⟩ := result
      rw [ran]
      match tag?, frame?, left with
      | none, none, sound => exact .general ⟨buffer', sound, rfl⟩
      | some _, some frame, ⟨same, holds⟩ => exact .held ⟨same, buffer', holds, rfl⟩
    | error halt after =>
      rw [found] at result
      obtain ⟨buffer', sound, ran⟩ := result
      rw [ran]
      cases halt with
      | failed error => exact .failed ⟨buffer', sound, rfl⟩
      | crashed crash => exact .crashed ⟨buffer', sound, rfl⟩

/-- Whatever a session does, its counterpart without a buffer does as well. -/
theorem routine_refines (routine : Routine α) :
    Refines Sound (routine.run .buffered : Action τ α) (routine.run .direct) Same :=
  (media_relate.routine routine).refines

theorem Means.refines {routine : Routine α} {action direct : Action τ α}
    (means : Means routine action direct) : Refines Sound action direct Same := by
  rw [← means.buffered, ← means.direct]
  exact routine_refines routine

end PgSession.Proofs

import PgSession.Session.Progress

/-!
Receiving whole messages, and setting aside those that may come at any time. Every message takes at
least a header from what the server has sent, which is why waiting for a particular one ends.
-/

namespace PgSession.Session

open Wire

variable {τ : Type} [Transport τ]

/-- Fills the live window of the buffer from the transport. -/
def fillWindow (timeout : Nat) : Action τ Unit := do
  let (start, size) ← onBuffer Buffer.expose
  let bytes ← onChannel (Channel.read size timeout)
  onBuffer (Buffer.store start bytes)

/-- Makes the whole beginning of the region, up to a limit, the window to be filled. -/
def fillAfresh (limit timeout : Nat) : Action τ Unit := do
  onBuffer Buffer.clear
  onBuffer (Buffer.setLimit limit)
  fillWindow timeout

/-- Reads a header, and yields the length in it. A length that cannot be right is refused before the
buffer grows for it. -/
def receiveHeader (timeout : Nat) : Action τ Nat := do
  fillAfresh headerSize timeout
  let length := (← onBuffer (Buffer.peekInt32 1)).toInt
  let config := (← get).config
  if length < 4 then fail (.ofViolation (.malformed "invalid message length"))
  else if config.maxMessageSize < 1 + length.toNat then
    fail (.ofViolation (.malformed "message too large"))
  else return length.toNat

/-- Reads one message into the buffer, and yields its tag. The length counts itself, but not the
tag. -/
def receive (timeout : Nat) : Action τ UInt8 := do
  let length ← receiveHeader timeout
  let tag ← onBuffer Buffer.tag
  say .trace s!"Read message header of type {Text.printable tag} with size {length}"
  onBuffer (Buffer.ensureCapacity (length - 4))
  onBuffer (Buffer.setLimit (1 + length))
  fillWindow timeout
  onBuffer Buffer.flip
  onBuffer Buffer.tag

/-- Deals with a buffered message that may come at any time, and says whether it was one. The error
the server reports becomes the error of the action. -/
def dispatch : Action τ Bool := do
  let tag ← onBuffer Buffer.tag
  if tag = Tag.notification then
    publish (.notification (← onBuffer (decode Tag.notification Reader.notification)))
    return true
  else if tag = Tag.errorResponse then
    fail ⟨.database (← onBuffer (decode Tag.errorResponse Reader.errorReport)), none⟩
  else if tag = Tag.notice then
    publish (.notice (← onBuffer (decode Tag.notice Reader.notice)))
    return true
  else if tag = Tag.parameterStatus then
    let status ← onBuffer (decode Tag.parameterStatus Reader.parameterStatus)
    modify fun session =>
      { session with parameters := session.parameters.set status.name status.value }
    publish (.parameterStatus status)
    return true
  else return false

theorem Lowers.fillWindow (timeout : Nat) :
    Lowers 0 (Session.fillWindow timeout : Action τ Unit) :=
  bind (onBuffer _) fun _ => bind ((read _ _).mono (Nat.zero_le _)) fun _ => onBuffer _

private theorem fillWindow_unread {session session' : Session τ} {timeout : Nat}
    (done : fillWindow timeout session = .ok () session') :
    session'.unread + (session.buffer.limit - session.buffer.position) ≤ session.unread := by
  by_cases bounds : session.buffer.position ≤ session.buffer.limit ∧
      session.buffer.limit ≤ session.buffer.capacity
  · have filled : fillWindow timeout session =
        (do
          let bytes ← Session.onChannel
            (Channel.read (session.buffer.limit - session.buffer.position) timeout)
          Session.onBuffer (Buffer.store session.buffer.position bytes) : Action τ Unit)
        { session with buffer := { session.buffer with position := session.buffer.limit } } := by
      simp [fillWindow, Session.onBuffer, Buffer.expose, bounds, Bind.bind, EStateM.bind]
    rw [filled] at done
    have progress := (Lowers.bind (Lowers.read _ _) fun _ => Lowers.onBuffer _) _ _ _ done
    exact progress
  · have crashed : fillWindow timeout session = .error (.crashed .outOfBounds) session := by
      simp [fillWindow, Session.onBuffer, Buffer.expose, bounds, Bind.bind, EStateM.bind]
    rw [crashed] at done
    cases done

theorem fillAfresh_lowers (limit timeout : Nat) :
    Lowers limit (fillAfresh limit timeout : Action τ Unit) := by
  intro session value session' done
  change fillWindow timeout { session with buffer := session.buffer.cleared.limited limit } = _
    at done
  have start : (session.buffer.cleared.limited limit).position = 0 := by
    simp [Buffer.limited, Buffer.cleared]
  have progress := fillWindow_unread done
  rw [start] at progress
  exact progress

theorem receiveHeader_lowers (timeout : Nat) :
    Lowers headerSize (receiveHeader timeout : Action τ Nat) :=
  Lowers.bind (fillAfresh_lowers _ _) fun _ => Lowers.bind (Lowers.onBuffer _) fun _ =>
    Lowers.bind Lowers.get fun _ => Lowers.ite (Lowers.fail _ _) <|
      Lowers.ite (Lowers.fail _ _) (Lowers.pure _)

theorem receive_lowers (timeout : Nat) :
    Lowers headerSize (receive timeout : Action τ UInt8) :=
  Lowers.bind (receiveHeader_lowers _) fun _ => Lowers.bind (Lowers.onBuffer _) fun _ =>
    Lowers.bind (Lowers.say _ _) fun _ => Lowers.bind (Lowers.onBuffer _) fun _ =>
      Lowers.bind (Lowers.onBuffer _) fun _ => Lowers.bind (Lowers.fillWindow _) fun _ =>
        Lowers.bind (Lowers.onBuffer _) fun _ => Lowers.onBuffer _

theorem dispatch_lowers : Lowers 0 (dispatch : Action τ Bool) :=
  Lowers.bind (Lowers.onBuffer _) fun _ =>
    Lowers.ite (Lowers.bind (Lowers.onBuffer _) fun _ => Lowers.bind (Lowers.publish _) fun _ =>
        Lowers.pure _) <|
      Lowers.ite (Lowers.bind (Lowers.onBuffer _) fun _ => Lowers.fail _ _) <|
        Lowers.ite (Lowers.bind (Lowers.onBuffer _) fun _ =>
            Lowers.bind (Lowers.publish _) fun _ => Lowers.pure _) <|
          Lowers.ite (Lowers.bind (Lowers.onBuffer _) fun _ =>
              Lowers.bind (Lowers.modify fun _ => rfl) fun _ =>
                Lowers.bind (Lowers.publish _) fun _ => Lowers.pure _) (Lowers.pure _)

/-- One message: nothing if it was one that may come at any time, otherwise its tag. -/
def receiveOnce : Action τ (Option UInt8) := do
  let tag ← receive (← get).config.timeout
  return if ← dispatch then none else some tag

theorem receiveOnce_lowers : Lowers headerSize (receiveOnce : Action τ (Option UInt8)) :=
  Lowers.andThen Lowers.get fun _ => Lowers.bind (receive_lowers _) fun _ =>
    Lowers.bind dispatch_lowers fun _ => Lowers.pure _

/-- Receives messages until one that does not come at just any time, and yields its tag. -/
def receiveOther : Action τ UInt8 := repeatUntil receiveOnce receiveOnce_lowers.progress

theorem receiveOther_lowers : Lowers headerSize (receiveOther : Action τ UInt8) :=
  Lowers.repeatUntil receiveOnce_lowers _

end PgSession.Session

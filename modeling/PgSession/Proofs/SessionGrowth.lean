import PgSession.Proofs.BufferDemands
import PgSession.Proofs.Replies
import PgSession.Proofs.Runs
import PgSession.Transport.Script

/-!
How large a session lets its buffer become. Every message that is sent or taken is made room for, and
nothing else is; so the size of the region is told by the calls alone, and a server can make it no
larger than the largest message that is allowed.
-/

namespace PgSession.Proofs
open Wire Session

variable {τ α β : Type} [Transport τ] {session : Session τ}

/-- The steps in which the buffer of a session grows. -/
def strideOf (config : Config) : Nat := max config.bufferStep headerSize

/-- The size of a message that has to be made room for. -/
def Dealing.size? : Dealing → Option Nat
  | .sent size | .taken size => some size
  | .refused => none

/-- The sizes of the messages that were sent or taken, in order. -/
def handled (config : Config) (link : τ) (calls : List Call) : List Nat :=
  (dealings config link calls).filterMap Dealing.size?

def sizes (messages : List FrontendMessage) : List Nat :=
  messages.map fun message => (encoded message).length

@[simp] theorem sizes_nil : sizes [] = [] := rfl

private theorem begun_bounded {config : Config} {link : τ} {call : Call} {deal : Dealing} {size : Nat}
    (begun : Dealing.begun config link call = some deal) (sized : deal.size? = some size) :
    size ≤ config.maxMessageSize ∨ ∃ bytes ∈ writesIn [call], bytes.length = size := by
  cases call with
  | write encrypted bytes timeout succeeded =>
    cases begun
    cases sized
    exact .inr ⟨bytes, List.mem_singleton_self _, rfl⟩
  | read count timeout succeeded =>
    rw [Dealing.begun] at begun
    split at begun
    · cases accepted : announced config (heardBy link (.read count timeout succeeded)) with
      | none =>
        rw [accepted] at begun
        cases begun
        cases sized
      | some room =>
        rw [accepted] at begun
        cases begun
        cases sized
        exact .inl (announced_le accepted)
    · cases begun
  | close | upgrade => cases begun

/-- What had to be made room for was allowed, or it was written. -/
private theorem dealing_bounded {config : Config} {due : Bool} {link : τ} {calls : List Call}
    {deal : Dealing} {size : Nat} (member : deal ∈ dealingsFrom config due link calls)
    (sized : deal.size? = some size) :
    size ≤ config.maxMessageSize ∨ ∃ bytes ∈ writesIn calls, bytes.length = size := by
  induction calls generalizing due link with
  | nil => cases member
  | cons call calls ih =>
    have split : writesIn (call :: calls) = writesIn [call] ++ writesIn calls :=
      writesIn_append [call] calls
    have first (begun : Dealing.begun config link call = some deal) :
        size ≤ config.maxMessageSize ∨ ∃ bytes ∈ writesIn (call :: calls), bytes.length = size := by
      rw [split]
      exact (begun_bounded begun sized).imp_right fun ⟨bytes, written, same⟩ =>
        ⟨bytes, List.mem_append_left _ written, same⟩
    have later {due : Bool} {link : τ} (member : deal ∈ dealingsFrom config due link calls) :
        size ≤ config.maxMessageSize ∨ ∃ bytes ∈ writesIn (call :: calls), bytes.length = size := by
      rw [split]
      exact (ih member).imp_right fun ⟨bytes, written, same⟩ =>
        ⟨bytes, List.mem_append_right _ written, same⟩
    unfold dealingsFrom at member
    split at member
    · exact later member
    · exact later member
    · next begun =>
      rcases List.mem_cons.mp member with rfl | behind
      · exact first begun
      · exact later behind
    · next begun =>
      rcases List.mem_cons.mp member with rfl | behind
      · exact first begun
      · exact later behind

private theorem handled_bounded {config : Config} {link : τ} {calls : List Call} {size : Nat}
    (member : size ∈ handled config link calls) :
    size ≤ config.maxMessageSize ∨ ∃ bytes ∈ writesIn calls, bytes.length = size := by
  obtain ⟨deal, dealt, sized⟩ := List.mem_filterMap.mp member
  exact dealing_bounded dealt sized

private theorem handled_append {config : Config} {link : τ} {calls : List Call}
    {deals : List Dealing} (amounts : Amounts config link calls deals) (more : List Call) :
    handled config link (calls ++ more) =
      deals.filterMap Dealing.size? ++ handled config (replay link calls) more := by
  rw [handled, amounts, List.filterMap_append]
  rfl

/-- A session whose calls, and messages that were never sent, explain the size of its region. -/
structure Measured (config : Config) (link : τ) (unsent : List FrontendMessage)
    (session : Session τ) : Prop where
  discreet : Discreet session.buses
  outlook : outlook session = (beginning config link).after session.channel.calls
  step : session.buffer.step = strideOf config
  grown : ∃ deals, Amounts config link session.channel.calls deals ∧
    session.buffer.capacity =
      growth (strideOf config) (strideOf config) (deals.filterMap Dealing.size? ++ sizes unsent)

/-- A message that these settings lead to, and that is too long to be sent. -/
structure Overlong (config : Config) (message : FrontendMessage) : Prop where
  long : ¬ Sendable message
  wanted : message = startupMessage config ∨ ∃ challenge answer,
    reply config challenge = .ok (some answer) ∧ message = .password answer

/-- The region is accounted for by the calls, unless it was a message too long to be sent that crashed
the session: then by the calls and the message. -/
inductive Overcome (config : Config) (link : τ) : Crash → Session τ → Prop
  | proper {crash : Crash} {session : Session τ} (proper : crash ≠ .lengthOutOfRange)
    (measured : Measured config link [] session) : Overcome config link crash session
  | overlong {message : FrontendMessage} {session : Session τ} (long : Overlong config message)
    (measured : Measured config link [message] session) :
    Overcome config link .lengthOutOfRange session

/-- The action accounts for what becomes of the region. -/
abbrev Accounts (config : Config) (link : τ) (action : Action τ α) : Prop :=
  Abides (Measured config link []) (Overcome config link) action

private theorem strideOf_pos (config : Config) : 0 < strideOf config := by
  simp only [strideOf, headerSize]
  omega

section

variable {config : Config} {link : τ} {unsent : List FrontendMessage}

namespace Measured

private theorem steps (measured : Measured config link unsent session) :
    session.buffer.step ∣ session.buffer.capacity := by
  obtain ⟨deals, -, capacity⟩ := measured.grown
  rw [measured.step, capacity]
  exact growth_dvd (strideOf_pos config) (Nat.dvd_refl _)

private theorem capacity_eq (measured : Measured config link unsent session) :
    session.buffer.capacity = growth (strideOf config) (strideOf config)
      (handled config link session.channel.calls ++ sizes unsent) := by
  obtain ⟨deals, amounts, capacity⟩ := measured.grown
  rw [capacity, handled, amounts.dealings_eq]

theorem sound (measured : Measured config link unsent session) : Sound session.buffer := by
  rw [Sound, measured.step]
  exact strideOf_pos config

theorem room (measured : Measured config link unsent session) :
    headerSize ≤ session.buffer.capacity := by
  obtain ⟨deals, -, capacity⟩ := measured.grown
  rw [capacity]
  exact Nat.le_trans (Nat.le_max_right ..) le_growth

private theorem config_eq (measured : Measured config link unsent session) :
    session.config = config :=
  congrArg Outlook.config measured.outlook

private theorem link_eq (measured : Measured config link unsent session) :
    session.channel.link = replay link session.channel.calls := congrArg Outlook.link measured.outlook

/-- Calls that explain by how much the region has grown. -/
theorem onward {other : Session τ} {made : List Call} {deals : List Dealing}
    (measured : Measured config link [] session) (advances : Advances session made other)
    (amounts : Amounts session.config session.channel.link made deals)
    (grown : region other = (session.buffer.step, growth session.buffer.step session.buffer.capacity
      (deals.filterMap Dealing.size? ++ sizes unsent))) :
    Measured config link unsent other := by
  obtain ⟨earlier, before, capacity⟩ := measured.grown
  rw [measured.config_eq, measured.link_eq] at amounts
  obtain ⟨step', capacity'⟩ : other.buffer.step = _ ∧ other.buffer.capacity = _ :=
    Prod.ext_iff.mp grown
  refine ⟨advances.discreet, ?_, step'.trans measured.step, earlier ++ deals, ?_, ?_⟩
  · rw [advances.outlook, advances.calls, measured.outlook, Outlook.after_append]
  · rw [advances.calls]
    exact before.append amounts
  · rw [capacity', measured.step, capacity]
    simp only [sizes_nil, List.append_nil, List.filterMap_append, growth_append]

private theorem accounted {result : EStateM.Result (Halt Error) (Session τ) α} {made : List Call}
    {deals : List Dealing} (measured : Measured config link [] session)
    (advances : Advances session made (final result))
    (amounts : Amounts session.config session.channel.link made deals)
    (grown : Proper (fun after => region after = (session.buffer.step,
      growth session.buffer.step session.buffer.capacity (deals.filterMap Dealing.size?))) result) :
    Leaves (Measured config link []) (Overcome config link) result := by
  have reaches : ∀ other, Advances session made other → region other = (session.buffer.step,
      growth session.buffer.step session.buffer.capacity (deals.filterMap Dealing.size?)) →
      Measured config link [] other := by
    intro other advances grown
    refine measured.onward advances amounts ?_
    rwa [sizes_nil, List.append_nil]
  match result, grown with
  | .ok value other, grown => exact reaches other advances grown
  | .error (.failed error) other, grown => exact reaches other advances grown.2
  | .error (.crashed crash) other, ⟨proper, grown⟩ =>
    exact .proper (fun same => proper (congrArg _ same)) (reaches other advances grown)

/-- What a session knows does not matter. -/
theorem learnt (measured : Measured config link unsent session) (parameters : Parameters)
    (status : Option TransactionStatus) (key : Option KeyData) :
    Measured config link unsent { session with parameters, status, key } :=
  ⟨measured.discreet, measured.outlook, measured.step, measured.grown⟩

/-- As large as a region can have become, if no message that was written, or was to be, is larger. -/
theorem capacity_le (measured : Measured config link unsent session) {largest : Nat}
    (wrote : ∀ bytes ∈ writesIn session.channel.calls, bytes.length ≤ largest)
    (tried : ∀ size ∈ sizes unsent, size ≤ largest) :
    session.buffer.capacity ≤ max (strideOf config)
      (max (roundUp (strideOf config) config.maxMessageSize) (roundUp (strideOf config) largest)) := by
  rw [measured.capacity_eq]
  refine growth_le (Nat.le_max_left ..) fun size member => Nat.le_trans ?_ (Nat.le_max_right ..)
  rcases List.mem_append.mp member with dealt | left
  · rcases handled_bounded dealt with allowed | ⟨bytes, written, rfl⟩
    · exact Nat.le_trans (roundUp_mono allowed) (Nat.le_max_left ..)
    · exact Nat.le_trans (roundUp_mono (wrote bytes written)) (Nat.le_max_right ..)
  · exact Nat.le_trans (roundUp_mono (tried size left)) (Nat.le_max_right ..)

/-- A message that is refused by its header is not made room for. -/
theorem refused (measured : Measured config link unsent session) {timeout : Nat}
    (refused : upcoming config session.channel.link timeout = none) :
    (final (Session.receive timeout session)).buffer.capacity = session.buffer.capacity := by
  have kept := receive_region measured.sound measured.steps measured.room timeout
  rw [measured.config_eq, refused] at kept
  generalize Session.receive timeout session = result at kept ⊢
  cases result with
  | ok tag after => exact congrArg Prod.snd kept
  | error halt after => exact congrArg Prod.snd kept.2

end Measured

namespace Accounts

variable {action : Action τ α}

/-- What leaves the region alone, and neither sends a message nor takes one. -/
theorem idle (fixes : Fixes region action) (asks : ∀ session : Session τ, Asks session action
    fun calls _ => Amounts session.config session.channel.link calls []) :
    Accounts config link action := by
  intro session measured
  obtain ⟨made, advances, amounts⟩ := asks session measured.discreet
  exact measured.accounted advances amounts (fixes session)

theorem onBuffer {use : Buffer.Action α} (fixes : Fixes extent use) :
    Accounts config link (Session.onBuffer use) := by
  refine idle (Fixes.onBuffer fixes) fun session discreet => ⟨[], ?_, .nil⟩
  have same := Advances.refl discreet
  unfold Session.onBuffer
  split <;> exact ⟨same.outlook, same.calls, discreet⟩

theorem say (level : Log.Level) (text : String) : Accounts config link (say level text) :=
  idle (Fixes.say level text) fun _ => Does.say .nil

theorem publish (event : Event) : Accounts config link (publish event : Action τ Unit) := by
  refine idle (Fixes.publish event) fun session => (publish_does event).mono ?_
  rintro calls report result ⟨rfl, -⟩
  exact .nil

theorem close : Accounts config link (onChannel Channel.close : Action τ Unit) := by
  refine idle Fixes.close fun session => Does.close.mono fun calls _ result made => ?_
  cases made <;> exact .idle rfl

theorem upgrade : Accounts config link (onChannel Channel.upgrade : Action τ Unit) := by
  refine idle Fixes.upgrade fun session => Does.upgrade.mono fun calls _ result made => ?_
  cases made <;> exact .idle rfl

end Accounts

/-- The calls of an action are those of its counterpart without a buffer. -/
theorem Refines.tracks {action : Action τ α} {direct : Action τ β} {before : Buffer → Prop}
    {after : α → β → Buffer → Prop} (refines : Refines before action direct after)
    (fit : before session.buffer) {described : List Call → Except (Halt Error) β → Prop}
    (asks : Asks session direct described) (discreet : Discreet session.buses) :
    ∃ calls, Advances session calls (final (action session)) ∧ ∃ result, described calls result := by
  have ran := refines session session.buffer fit
  obtain ⟨calls, advances, holds⟩ := asks discreet
  refine ⟨calls, ?_, _, holds⟩
  cases found : direct session with
  | ok value session' =>
    rw [found] at ran advances
    obtain ⟨value', buffer, -, ran⟩ := ran
    have same : action session = .ok value' { session' with buffer } := ran
    rw [same]
    exact ⟨advances.outlook, advances.calls, advances.discreet⟩
  | error halt session' =>
    rw [found] at ran advances
    obtain ⟨buffer, -, ran⟩ := ran
    have same : action session = .error halt { session' with buffer } := ran
    rw [same]
    exact ⟨advances.outlook, advances.calls, advances.discreet⟩

/-- A message that can be sent is, and one that cannot is one the settings lead to. -/
theorem send_accounts {message : FrontendMessage}
    (overlong : ¬ Sendable message → Overlong config message) :
    Accounts config link (send message : Action τ Unit) := by
  intro session measured
  by_cases sendable : Sendable message
  · obtain ⟨made, advances, -, sends⟩ := (send_refines message).does
      ⟨measured.sound, measured.discreet⟩ (send_asks message)
    have wrote : Amounts session.config session.channel.link made [.sent (encoded message).length] := by
      generalize outcome (send message session) = result at sends
      cases sends with
      | sent | failed => exact .sent _ _ _ _
      | long crash long => exact absurd sendable long
    exact measured.accounted advances wrote (send_region measured.sound measured.steps sendable)
  · obtain ⟨buffer, crashed, step, capacity⟩ := write_long measured.sound sendable
    have failed : (Session.onBuffer message.write : Action τ Unit) session =
        .error (.crashed .lengthOutOfRange) { session with buffer } := by
      simp only [Session.onBuffer, crashed]
    have same := Advances.refl measured.discreet
    have onward : Advances session [] { session with buffer } :=
      ⟨same.outlook, same.calls, measured.discreet⟩
    have nothing : Amounts session.config session.channel.link [] [] := .nil
    rw [send, bind_error failed]
    refine .overlong (overlong sendable) (measured.onward onward nothing ?_)
    rw [region, extent, step, capacity, grow_capacity measured.sound measured.steps]
    rfl

theorem receive_accounts (timeout : Nat) : Accounts config link (receive timeout : Action τ UInt8) := by
  intro session measured
  have asks : Asks session (Unbuffered.receive timeout) (Receives (outlook session) timeout) :=
    (receive_does timeout).mono fun _ _ _ received => received.2
  obtain ⟨made, advances, result, receives⟩ := Refines.tracks (receive_refines timeout)
    measured.sound asks measured.discreet
  have amounts : Amounts session.config session.channel.link made
      [.ofHeader (upcoming session.config session.channel.link timeout)] := receives.amounts
  refine measured.accounted advances amounts ?_
  have grown := receive_region measured.sound measured.steps measured.room timeout
  cases next : upcoming session.config session.channel.link timeout <;> rwa [next] at grown

/-- The answer is read where there is room for it, and is no message. -/
theorem answer_accounts (timeout : Nat) :
    Accounts config link (Medium.buffered.answer timeout : Action τ UInt8) := by
  have filled : Accounts config link (fillAfresh 1 timeout : Action τ Unit) := by
    intro session measured
    obtain ⟨made, advances, result, reads⟩ := Refines.tracks (fillAfresh_refines 1 timeout)
      measured.sound (Does.read 1 timeout) measured.discreet
    have nothing : Amounts session.config session.channel.link made [] := by
      cases reads <;> exact .idle rfl
    have room : 1 ≤ session.buffer.capacity := Nat.le_trans (by decide) measured.room
    exact measured.accounted advances nothing (fillAfresh_region room timeout)
  exact filled.bind fun _ => Accounts.onBuffer .tag

theorem hear_accounts (timeout : Nat) :
    Accounts config link (Medium.buffered.hear timeout : Action τ (Option UInt8)) := by
  refine (receive_accounts timeout).bind fun _ => Abides.bind ?_ fun _ => (Lockstep.pure _).abides
  refine .dispatch (Accounts.onBuffer .tag) (fun _ _ => Accounts.onBuffer (.decode _ _)) Accounts.publish ?_
  exact fun _ _ _ measured => measured.learnt ..

/-- A message that the settings lead to, and that cannot be sent. -/
theorem Overlong.speech {speech : Speech} {message : FrontendMessage}
    (asked : speech.message? config = .ok (some message)) (long : ¬ Sendable message) :
    Overlong config message := by
  refine ⟨long, ?_⟩
  cases speech with
  | greeting => exact .inl (Option.some.inj (Except.ok.inj asked)).symm
  | answer challenge =>
    obtain ⟨answer, replied, rfl⟩ := Speech.message?_answer asked
    exact .inr ⟨challenge, answer, replied, rfl⟩
  | encryption | farewell | cancellation =>
    cases asked
    exact absurd rfl long

theorem routine_accounts (routine : Routine α) :
    Accounts config link (routine.run .buffered : Action τ α) := by
  have talks : TalkKeeps (Measured config link []) (Overcome config link) (Medium.buffered (τ := τ)) :=
    { say := fun _ => Accounts.say _ _
      speak := fun _ => .speak fun session message measured asked =>
        send_accounts (.speech (measured.config_eq ▸ asked)) session measured
      answer := answer_accounts
      upgrade := Accounts.upgrade
      close := Accounts.close }
  have keeps := talks.routines hear_accounts (fun _ _ => Accounts.onBuffer (.decode _ _))
    fun fact _ measured => by cases fact <;> exact measured.learnt ..
  exact keeps.routine routine

/-- An operation that accounts for the region, and what it answers if a message was too long. -/
inductive Ended (config : Config) (link : τ) : Answer × Client τ → Prop
  | proper {answer : Answer} {client : Client τ} (proper : answer ≠ .crashed .lengthOutOfRange)
    (measured : Measured config link [] client.session) : Ended config link (answer, client)
  | overlong {message : FrontendMessage} {session : Session τ} (long : Overlong config message)
    (measured : Measured config link [message] session) :
    Ended config link (.crashed .lengthOutOfRange, ⟨.done, session⟩)

theorem Accounts.advance {action : Action τ Unit} (accounts : Accounts config link action)
    (measured : Measured config link [] session) (success failure : Phase) :
    Ended config link (Client.advance session action success failure) := by
  have leaves := accounts session measured
  rw [advance_eq]
  match action session, leaves with
  | .ok nothing _, measured => exact .proper nofun measured
  | .error (.failed error) _, measured => exact .proper nofun measured
  | .error (.crashed crash) _, .proper proper measured =>
    refine .proper (fun answer => ?_) measured
    cases answer
    exact proper rfl
  | .error (.crashed .lengthOutOfRange) _, .overlong long measured => exact .overlong long measured

theorem Measured.run {client : Client τ} (measured : Measured config link [] client.session)
    (operation : Operation) : Ended config link (client.run operation) := by
  cases operation using Deed.elim with
  | subscribe topic observer =>
    have sturdy := subscribe_sturdy ⟨measured.sound, measured.discreet⟩ topic observer
    exact .proper nofun { measured with discreet := sturdy.discreet }
  | unsubscribe topic id =>
    have sturdy := unsubscribe_sturdy ⟨measured.sound, measured.discreet⟩ topic id
    exact .proper nofun { measured with discreet := sturdy.discreet }
  | settings | parameter => exact .proper nofun measured
  | deed deed =>
    rw [deed.run]
    exact (routine_accounts _).advance measured _ _

theorem Measured.perform {client : Client τ} (measured : Measured config link [] client.session)
    (operation : Operation) : Ended config link (client.perform operation) := by
  cases allowed : client.phase.allows operation with
  | true =>
    rw [perform_allowed allowed]
    exact measured.run operation
  | false =>
    rw [perform_refused allowed]
    exact .proper nofun measured

/-- Whether one of the operations came upon a message too long to be sent. -/
def overran (client : Client τ) : List Operation → Bool
  | [] => false
  | operation :: operations =>
    match client.perform operation with
    | (.crashed .lengthOutOfRange, _) => true
    | (_, client) => overran client operations

/-- What was written to the buffer and never sent: nothing, or what ended the run. -/
inductive Unsent (config : Config) : Bool → List FrontendMessage → Prop
  | nothing : Unsent config false []
  | overlong {message : FrontendMessage} (long : Overlong config message) :
    Unsent config true [message]

private theorem overran_proper {client client' : Client τ} {operation : Operation} {answer : Answer}
    (performed : client.perform operation = (answer, client'))
    (proper : answer ≠ .crashed .lengthOutOfRange) (operations : List Operation) :
    overran client (operation :: operations) = overran client' operations := by
  rw [overran, performed]
  split
  · next same =>
    cases same
    exact absurd rfl proper
  · next same =>
    cases same
    rfl

/-- A run is over once it came upon a message too long to be sent. -/
theorem Measured.performAll {client : Client τ} (measured : Measured config link [] client.session)
    (operations : List Operation) : ∃ unsent, Unsent config (overran client operations) unsent ∧
      Measured config link unsent (performAll client operations).session ∧
      (overran client operations → (performAll client operations).phase = .done) := by
  induction operations generalizing client with
  | nil => exact ⟨[], .nothing, measured, nofun⟩
  | cons operation operations ih =>
    have ended := measured.perform operation
    change ∃ unsent, _ ∧ Measured config link unsent
      (Proofs.performAll (client.perform operation).2 operations).session ∧ (_ →
        (Proofs.performAll (client.perform operation).2 operations).phase = .done)
    cases performed : client.perform operation with
    | mk answer client' =>
      rw [performed] at ended
      cases ended with
      | proper proper measured =>
        rw [overran_proper performed proper]
        exact ih measured
      | @overlong message session long measured =>
        have ended : overran client (operation :: operations) = true := by rw [overran, performed]
        rw [ended, performAll_done]
        exact ⟨[message], .overlong long, measured, fun _ => rfl⟩

/-- What an operation adds to the region is explained by what it adds to the calls. -/
theorem Measured.onward_perform {client : Client τ}
    (measured : Measured config link [] client.session) (operation : Operation) :
    ∃ made unsent, let after := (client.perform operation).2.session
      after.channel.calls = client.session.channel.calls ++ made ∧
      Unsent config (overran client [operation]) unsent ∧
      after.buffer.capacity = growth (strideOf config) client.session.buffer.capacity
        (handled config client.session.channel.link made ++ sizes unsent) := by
  obtain ⟨unsent, known, after, -⟩ := measured.performAll [operation]
  change Measured config link unsent (client.perform operation).2.session at after
  obtain ⟨made, calls⟩ : ∃ made, (client.perform operation).2.session.channel.calls =
      client.session.channel.calls ++ made := by
    cases allowed : client.phase.allows operation with
    | true =>
      obtain ⟨made, advances, -⟩ := run_ran ⟨measured.sound, measured.discreet⟩ allowed
      exact ⟨made, by rw [perform_allowed allowed, advances.calls]⟩
    | false => exact ⟨[], by rw [perform_refused allowed, List.append_nil]⟩
  obtain ⟨deals, amounts, before⟩ := measured.grown
  refine ⟨made, unsent, calls, known, ?_⟩
  rw [after.capacity_eq, calls, handled_append amounts, measured.link_eq, before]
  simp only [sizes_nil, List.append_nil, growth_append]

theorem new_measured (config : Config) (link : τ) :
    Measured config link [] (Session.new config link) := by
  obtain ⟨same, nothing⟩ := new_outlook config link
  refine ⟨(new_sturdy config link).discreet, ?_, ?_, [], ?_, ?_⟩
  · rw [same, nothing, Outlook.after_nil]
  · obtain ⟨buses, fresh, -⟩ := new_eq config link
    rw [fresh]
    rfl
  · rw [nothing]
    exact .nil
  · obtain ⟨buses, fresh, -⟩ := new_eq config link
    rw [fresh]
    rfl

end

/-- What an operation adds to the region after any others. One that comes behind a message too long to
be sent does nothing. -/
theorem onward_performAll (config : Config) (link : τ) (operations : List Operation)
    (operation : Operation) :
    let client := performAll (Client.new config link) operations
    let after := (client.perform operation).2.session
    ∃ made unsent, after.channel.calls = client.session.channel.calls ++ made ∧
      Unsent config (overran client [operation]) unsent ∧
      after.buffer.capacity = growth (strideOf config) client.session.buffer.capacity
        (handled config client.session.channel.link made ++ sizes unsent) := by
  intro client after
  have start : Measured config link [] (Client.new config link).session := new_measured config link
  obtain ⟨unsent, known, measured, last⟩ := start.performAll operations
  cases ran : overran (Client.new config link) operations with
  | false =>
    rw [ran] at known
    cases known
    exact measured.onward_perform operation
  | true =>
    have refused : client.phase.allows operation = false := by
      rw [show client.phase = .done from last ran]
      cases operation <;> rfl
    have still : client.perform operation = (.wrongPhase, client) := perform_refused refused
    have idle : overran client [operation] = false := by
      rw [overran, still]
      rfl
    refine ⟨[], [], ?_, idle ▸ .nothing, ?_⟩
    · rw [List.append_nil, show after = client.session from congrArg (·.2.session) still]
    · rw [show after = client.session from congrArg (·.2.session) still]
      rfl

/-- Whatever a server sends, whichever calls fail and whatever the operations are, the region consists
of whole steps and is as large as the messages require that were sent or taken, and one more if it was
too long to be sent. So it never exceeds what the largest message requires that is allowed, or that
was to be sent; a header that is refused never changes it; and an operation leaves it as it was, or
makes it the least multiple of the step that is enough for one of its messages. -/
theorem buffer_growth_bounded (config : Config) (link : τ) (operations : List Operation) :
    let stride := max config.bufferStep 5
    let client := performAll (Client.new config link) operations
    let session := client.session
    let calls := session.channel.calls
    stride ∣ session.buffer.capacity ∧
    (∃ unsent, Unsent config (overran (Client.new config link) operations) unsent ∧
      session.buffer.capacity = growth stride stride (handled config link calls ++ sizes unsent) ∧
      ∀ largest, (∀ bytes ∈ writesIn calls, bytes.length ≤ largest) →
        (∀ size ∈ sizes unsent, size ≤ largest) → session.buffer.capacity ≤
          max stride (max (roundUp stride config.maxMessageSize) (roundUp stride largest))) ∧
    (∀ timeout, upcoming config session.channel.link timeout = none →
      (final (Session.receive timeout session)).buffer.capacity = session.buffer.capacity) ∧
    ∀ operation, ∃ made unsent,
      let after := (client.perform operation).2.session
      let demands := handled config session.channel.link made ++ sizes unsent
      after.channel.calls = calls ++ made ∧ Unsent config (overran client [operation]) unsent ∧
      after.buffer.capacity = growth stride session.buffer.capacity demands ∧
      session.buffer.capacity ≤ after.buffer.capacity ∧
      (after.buffer.capacity = session.buffer.capacity ∨ ∃ size ∈ demands,
        IsLeast {capacity | stride ∣ capacity ∧ size ≤ capacity} after.buffer.capacity) := by
  intro stride client session calls
  have start : Measured config link [] (Client.new config link).session := new_measured config link
  obtain ⟨unsent, known, measured, -⟩ := start.performAll operations
  have steps : stride ∣ session.buffer.capacity := by
    have whole := measured.steps
    rwa [measured.step] at whole
  refine ⟨steps, ⟨unsent, known, measured.capacity_eq, fun _ wrote tried => ?_⟩,
    fun _ refused => measured.refused refused, fun operation => ?_⟩
  · exact measured.capacity_le wrote tried
  obtain ⟨made, unsent, called, known, grown⟩ := onward_performAll config link operations operation
  refine ⟨made, unsent, called, known, grown, ?_, ?_⟩
  · rw [grown]
    exact le_growth
  · rw [grown]
    refine (growth_cases _ _ _).imp_right fun ⟨size, member, same⟩ => ⟨size, member, ?_⟩
    rw [same]
    exact roundUp_isLeast (strideOf_pos config) size

private def modestConfig : Config := { user := "ada", bufferStep := 7, maxMessageSize := 30 }

private def announcer : Script where
  served := (Frame.mk Tag.notice (List.replicate 20 0)).bytes ++
    [Tag.authentication, 0, 0, 0, 31] ++ [Tag.authentication, 0, 0, 0, 3]

/-- A server that sends one notice, then announces a message that is larger than allowed, and then
one that is shorter than its own length field. -/
theorem buffer_growth_bounded_announced :
    let client := performAll (Client.new modestConfig announcer) [.secure, .sendStartup, .authenticate]
    client.session.buffer.capacity = 28 ∧ roundUp 7 30 = 35 ∧ roundUp 7 18 = 21 ∧
      client.session.buffer.capacity ≤ max 7 (max (roundUp 7 30) (roundUp 7 18)) ∧
      (final (Session.receive 9 client.session)).buffer.capacity = client.session.buffer.capacity := by
  obtain ⟨-, ⟨unsent, known, -, bounded⟩, refused, -⟩ :=
    buffer_growth_bounded modestConfig announcer [.secure, .sendStartup, .authenticate]
  have ran :
      overran (Client.new modestConfig announcer) [.secure, .sendStartup, .authenticate] = false := by
    decide +kernel
  rw [ran] at known
  cases known
  refine ⟨by decide +kernel, by decide +kernel, by decide +kernel, bounded 18 ?_ nofun, refused 9 ?_⟩
  · decide +kernel
  · decide +kernel

end PgSession.Proofs

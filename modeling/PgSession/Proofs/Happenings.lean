import PgSession.Proofs.EventBus
import PgSession.Proofs.SessionKnowledge
import PgSession.Proofs.Twins

/-!
What the journal of a session is made of: the calls of the transport, what the session says of itself,
and the events it tells its subscribers. An event is told to the logger of notices first, if there is
one, and only then to observers; neither a new observer nor one that leaves or refuses changes that.
-/

namespace PgSession.Proofs
open Wire Session

variable {τ : Type}

/-- The level at which a severity is logged. -/
def severityLevel : String → Log.Level
  | "ERROR" | "FATAL" | "PANIC" => .error
  | "WARNING" => .warn
  | severity => if "DEBUG".toList.isPrefixOf severity.toList then .debug else .info

/-- The record of a notice: the severity that is never translated decides about the level, if there is
one. -/
def noticeRecord (target : String) (notice : Notice) : Log.Record :=
  ⟨severityLevel (((notice.field? 'V').or (notice.field? 'S')).getD ""),
    s!"{target} {notice.display}"⟩

private theorem level_eq (notice : Notice) :
    notice.level = severityLevel (((notice.field? 'V').or (notice.field? 'S')).getD "") := by
  have chosen : (notice.plainSeverity? <|> notice.severity?) =
      (notice.field? 'V').or (notice.field? 'S') := Option.orElse_eq_or ..
  unfold Notice.level
  dsimp only
  rw [chosen]
  generalize ((notice.field? 'V').or (notice.field? 'S')).getD "" = severity
  fun_cases severityLevel severity with
  | case1 | case2 | case3 | case4 => rfl
  | case5 _ error fatal panic warning debug =>
    rw [if_neg (not_or.mpr ⟨error, not_or.mpr ⟨fatal, panic⟩⟩), if_neg warning, if_pos debug]
  | case6 _ error fatal panic warning other =>
    rw [if_neg (not_or.mpr ⟨error, not_or.mpr ⟨fatal, panic⟩⟩), if_neg warning, if_neg other]

private theorem record_eq (target : String) (notice : Notice) :
    notice.record target = noticeRecord target notice := by
  rw [Notice.record, noticeRecord, level_eq]

/-- What logging on behalf of a target makes of an event. -/
def logged : Option String → Event → List Effect
  | some target, .notice notice => [.logged (noticeRecord target notice)]
  | _, _ => []

/-- Something that shows in the journal. What is said names the session by its transport. -/
inductive Happening (τ : Type) where
  | called (call : Call)
  | said (link : τ) (remark : Remark)
  | told (event : Event) (observers : List String)

def Event.notice? : Event → Option Notice
  | .notice notice => some notice
  | _ => none

namespace Happening

def event? : Happening τ → Option Event
  | .told event _ => some event
  | _ => none

def notice? (happening : Happening τ) : Option Notice := happening.event?.bind Event.notice?

/-- How it shows in the journal of a session that logs notices on behalf of a target, or does not. -/
def entries [Transport τ] (config : Config) (target? : Option String) : Happening τ → List Effect
  | .called call => [.call call]
  | .said link remark =>
    [.logged ⟨remark.level, s!"{(unheard config link).identity} {remark.text}"⟩]
  | .told event observers => logged target? event ++ observers.map (.delivered · event)

end Happening

/-- The subscribers of a topic with their identifiers, whatever they have seen. -/
def roster (bus : Bus Event Effect) : List (Nat × (List Event → Response Effect)) :=
  bus.active.map fun entry => (entry.1, entry.2.respond)

/-- The subscribers a topic has from the beginning. -/
def loggers : Option String → Topic → List (Nat × (List Event → Response Effect))
  | some target, .notices => [(0, noticeLogger target)]
  | _, _ => []

def answering (entry : Nat × Observer) : Nat × (List Event → Response Effect) :=
  (entry.1, entry.2.response)

/-- Nobody but observers listens behind the first subscribers, whose identifiers are not handed out
again. -/
structure Attended (target? : Option String) (topic : Topic) (bus : Bus Event Effect) : Prop where
  subscribers : ∃ observers : List (Nat × Observer),
    roster bus = loggers target? topic ++ observers.map answering
  beyond : (loggers target? topic).length ≤ bus.nextId

private theorem deliver_roster (event : Event) (active : List (Nat × Subscriber Event Effect)) :
    (Bus.deliver event active).2.map (fun entry => (entry.1, entry.2.respond)) =
      active.map fun entry => (entry.1, entry.2.respond) := by
  induction active with
  | nil => rfl
  | cons entry rest ih =>
    obtain ⟨id, subscriber⟩ := entry
    cases response : (subscriber.respond (event :: subscriber.seen)).failure with
    | some reason => rw [EventBus.deliver_refused response, List.map_cons, List.map_cons]
    | none => rw [EventBus.deliver_accepted response, List.map_cons, ih, List.map_cons]

/-- Observers leave nothing but traces of the event. -/
private theorem deliver_observers (event : Event) {active : List (Nat × Subscriber Event Effect)}
    {observers : List (Nat × Observer)}
    (same : (active.map fun entry => (entry.1, entry.2.respond)) = observers.map answering) :
    ∃ names : List String, (Bus.deliver event active).1.records = names.map (.delivered · event) := by
  induction active generalizing observers with
  | nil => exact ⟨[], rfl⟩
  | cons entry rest ih =>
    obtain ⟨id, subscriber⟩ := entry
    cases observers with
    | nil => cases same
    | cons observer others =>
      obtain ⟨first, same⟩ := List.cons.inj same
      have trace : (subscriber.respond (event :: subscriber.seen)).records =
          [.delivered observer.2.name event] := by
        rw [show subscriber.respond = observer.2.response from congrArg Prod.snd first]
        rfl
      cases response : (subscriber.respond (event :: subscriber.seen)).failure with
      | some reason =>
        rw [EventBus.deliver_refused response, trace]
        exact ⟨[observer.2.name], rfl⟩
      | none =>
        obtain ⟨names, records⟩ := ih same
        rw [EventBus.deliver_accepted response, trace]
        refine ⟨observer.2.name :: names, ?_⟩
        rw [records]
        rfl

namespace Attended

variable {target? : Option String} {topic : Topic} {bus : Bus Event Effect}

theorem subscribe (attended : Attended target? topic bus) (observer : Observer) :
    Attended target? topic (bus.subscribe observer.response).2 := by
  obtain ⟨⟨observers, same⟩, beyond⟩ := attended
  refine ⟨⟨observers ++ [(bus.nextId, observer)], ?_⟩, Nat.le_succ_of_le beyond⟩
  rw [List.map_append, ← List.append_assoc, ← same]
  exact List.map_append

theorem unsubscribe (attended : Attended target? topic bus) {id : Nat}
    (spared : (loggers target? topic).length ≤ id) :
    Attended target? topic (bus.unsubscribe id).2 := by
  obtain ⟨⟨observers, same⟩, beyond⟩ := attended
  have kept : (loggers target? topic).filter (·.1 != id) = loggers target? topic := by
    refine List.filter_eq_self.mpr fun entry member => ?_
    match target?, topic with
    | some target, .notices =>
      obtain rfl := List.mem_singleton.mp member
      exact bne_iff_ne.mpr (Nat.ne_of_lt spared)
    | none, _ | some _, .notifications | some _, .parameterStatuses => cases member
  refine ⟨⟨observers.filter (·.1 != id), ?_⟩, beyond⟩
  have left : roster (bus.unsubscribe id).2 = (roster bus).filter (·.1 != id) := by
    rw [roster, roster, List.filter_map]
    rfl
  rw [left, same, List.filter_append, kept, List.filter_map]
  rfl

/-- The loggers come first and accept everything. -/
theorem publish {event : Event} (attended : Attended target? event.topic bus) :
    Attended target? event.topic (bus.publish event).2 ∧ ∃ names : List String,
      (bus.publish event).1.records = logged target? event ++ names.map (.delivered · event) := by
  obtain ⟨⟨observers, same⟩, beyond⟩ := attended
  refine ⟨⟨⟨observers, (deliver_roster event bus.active).trans same⟩, beyond⟩, ?_⟩
  change ∃ names, (Bus.deliver event bus.active).1.records = _
  unfold roster at same
  match target?, event with
  | some target, .notice notice =>
    generalize bus.active = active at same ⊢
    cases active with
    | nil => cases same
    | cons entry rest =>
      obtain ⟨first, others⟩ := List.cons.inj same
      obtain ⟨id, respond, seen⟩ := entry
      obtain ⟨rfl, rfl⟩ := Prod.mk.inj first
      obtain ⟨names, records⟩ := deliver_observers (.notice notice) others
      refine ⟨names, ?_⟩
      rw [EventBus.deliver_accepted rfl, ← records, logged, ← record_eq]
      rfl
  | none, event => exact deliver_observers event same
  | some _, .notification _ | some _, .parameterStatus _ => exact deliver_observers _ same

end Attended

/-- Every topic has the subscribers it should have. -/
def Listened (target? : Option String) (buses : Buses) : Prop :=
  ∀ topic, Attended target? topic (buses.get topic)

namespace Listened

variable {target? : Option String} {buses : Buses}

theorem set (listened : Listened target? buses) {topic : Topic} {bus : Bus Event Effect}
    (attended : Attended target? topic bus) : Listened target? (buses.set topic bus) := by
  intro other
  rw [get_set]
  split
  · next same => exact same ▸ attended
  · exact listened other

theorem discreet (listened : Listened target? buses) : Discreet buses := by
  intro topic entry member seen
  obtain ⟨observers, same⟩ := (listened topic).subscribers
  have present : (entry.1, entry.2.respond) ∈ roster (buses.get topic) :=
    List.mem_map.mpr ⟨entry, member, rfl⟩
  rw [same, List.mem_append, List.mem_map] at present
  rcases present with logger | ⟨observer, -, responds⟩
  · match target?, topic with
    | some target, .notices =>
      rw [show entry.2.respond = noticeLogger target from
        congrArg Prod.snd (List.mem_singleton.mp logger)]
      match seen with
      | [] | .notice _ :: _ | .notification _ :: _ | .parameterStatus _ :: _ => rfl
    | none, _ | some _, .notifications | some _, .parameterStatuses => cases logger
  · rw [show entry.2.respond = observer.2.response from (congrArg Prod.snd responds).symm]
    cases seen <;> rfl

end Listened

/-- On whose behalf a session logs notices: the name it has at the beginning. -/
def loggingFor [Transport τ] (config : Config) (link : τ) : Option String :=
  if config.logNotices then some (Session.new config link).identity else none

theorem new_listened [Transport τ] (config : Config) (link : τ) :
    Listened (loggingFor config link) (Session.new config link).buses := by
  have nobody : ∀ topic, Attended none topic Bus.empty :=
    fun topic => ⟨⟨[], by cases topic <;> rfl⟩, by cases topic <;> exact Nat.le_refl 0⟩
  rw [loggingFor, new_unheard]
  split
  · intro topic
    cases topic with
    | notices => exact ⟨⟨[], rfl⟩, Nat.le_refl 1⟩
    | notifications | parameterStatuses => exact ⟨⟨[], rfl⟩, Nat.zero_le _⟩
  · intro topic
    cases topic <;> exact nobody _

end PgSession.Proofs

/-!
Delivery of events to subscribers, one after another in the order in which they subscribed. Each
remembers the events it was given, and its answer to the next may depend on them; an answer holds
what the subscriber leaves behind and, if it refuses the event, why. A refusal ends the delivery,
so later subscribers do not see the event.
-/

namespace PgSession

/-- What a subscriber makes of an event. -/
structure Response (ρ : Type) where
  records : List ρ
  failure : Option String

/-- `respond` is given all events so far, the newest first. -/
structure Subscriber (ε ρ : Type) where
  respond : List ε → Response ρ
  seen : List ε

structure Bus (ε ρ : Type) where
  /-- How many have ever subscribed. It is not bounded: a counter of 64 bits begins again only after
  `2 ^ 64` subscriptions, which no run can reach. -/
  nextId : Nat
  active : List (Nat × Subscriber ε ρ)

namespace Bus

variable {ε ρ : Type}

def empty : Bus ε ρ := ⟨0, []⟩

def size (bus : Bus ε ρ) : Nat := bus.active.length

def isEmpty (bus : Bus ε ρ) : Bool := bus.active.isEmpty

/-- Identifiers count up and are not used again. -/
def subscribe (bus : Bus ε ρ) (respond : List ε → Response ρ) : Nat × Bus ε ρ :=
  (bus.nextId, ⟨bus.nextId + 1, bus.active ++ [(bus.nextId, ⟨respond, []⟩)]⟩)

/-- Says whether there was a subscriber to remove. -/
def unsubscribe (bus : Bus ε ρ) (id : Nat) : Bool × Bus ε ρ :=
  (bus.active.any (·.1 == id), { bus with active := bus.active.filter (·.1 != id) })

def deliver (event : ε) :
    List (Nat × Subscriber ε ρ) → Response ρ × List (Nat × Subscriber ε ρ)
  | [] => (⟨[], none⟩, [])
  | (id, subscriber) :: rest =>
    let seen := event :: subscriber.seen
    let response := subscriber.respond seen
    let served := (id, { subscriber with seen })
    match response.failure with
    | some _ => (response, served :: rest)
    | none =>
      let (later, others) := deliver event rest
      (⟨response.records ++ later.records, later.failure⟩, served :: others)

def publish (bus : Bus ε ρ) (event : ε) : Response ρ × Bus ε ρ :=
  let (response, active) := deliver event bus.active
  (response, { bus with active })

end Bus

end PgSession

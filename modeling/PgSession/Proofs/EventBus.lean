import PgSession.Bus

/-!
Delivery over any use of a bus. What a bus returns and holds is told from its past alone: who
subscribed and did not unsubscribe since, and who was called with which event. An event is offered to
those handlers in the order of their subscription, up to and including the first that refuses it.
-/

namespace PgSession.Proofs.EventBus

variable {ε ρ σ : Type}

inductive Use (ε ρ : Type) where
  | subscribe (respond : List ε → Response ρ)
  | unsubscribe (id : Nat)
  | publish (event : ε)

/-- What a use returns. -/
inductive Told (ρ : Type) where
  | subscribed (id : Nat)
  | unsubscribed (found : Bool)
  | published (response : Response ρ)

def Told.id? : Told ρ → Option Nat
  | .subscribed id => some id
  | _ => none

def useBus (bus : Bus ε ρ) : Use ε ρ → Told ρ × Bus ε ρ
  | .subscribe respond => (bus.subscribe respond).map .subscribed id
  | .unsubscribe gone => (bus.unsubscribe gone).map .unsubscribed id
  | .publish event => (bus.publish event).map .published id

/-- All that is returned, in order, and the state at the end. -/
def runUses (step : σ → Use ε ρ → Told ρ × σ) (state : σ) : List (Use ε ρ) → List (Told ρ) × σ
  | [] => ([], state)
  | use :: later =>
    let (told, next) := step state use
    let (more, last) := runUses step next later
    (told :: more, last)

/-- A subscription, by the number of those before it. -/
structure Handler (ε ρ : Type) where
  id : Nat
  respond : List ε → Response ρ

def Use.ends (id : Nat) : Use ε ρ → Bool
  | .unsubscribe other => id == other
  | _ => false

def Use.handler? (id : Nat) : Use ε ρ → Option (Handler ε ρ)
  | .subscribe respond => some ⟨id, respond⟩
  | _ => none

def Use.subscribes : Use ε ρ → Bool
  | .subscribe _ => true
  | _ => false

def subscriptions (uses : List (Use ε ρ)) : Nat := uses.countP Use.subscribes

/-- Who subscribed and did not unsubscribe later, in the order of subscription. Numbers begin with
`first`. -/
def standing (first : Nat) : List (Use ε ρ) → List (Handler ε ρ)
  | [] => []
  | .subscribe respond :: later =>
    if later.any (Use.ends first) then standing (first + 1) later
    else ⟨first, respond⟩ :: standing (first + 1) later
  | _ :: later => standing first later

structure Call (ε : Type) where
  id : Nat
  event : ε

/-- What one handler was called with, the newest first. -/
def heard (id : Nat) (calls : List (Call ε)) : List ε :=
  (calls.filterMap fun call => if call.id = id then some call.event else none).reverse

/-- What a handler makes of an event after all these calls. -/
def reply (calls : List (Call ε)) (event : ε) (handler : Handler ε ρ) : Response ρ :=
  handler.respond (event :: heard handler.id calls)

def refuses (calls : List (Call ε)) (event : ε) (handler : Handler ε ρ) : Bool :=
  (reply calls event handler).failure.isSome

/-- The handlers before the first that refuses the event, and that one. -/
def called (calls : List (Call ε)) (event : ε) (handlers : List (Handler ε ρ)) :
    List (Handler ε ρ) :=
  handlers.takeWhile (!refuses calls event ·) ++ (handlers.find? (refuses calls event)).toList

/-- What all that were called leave behind, and why the last of them refused, if it did. -/
def outcome (calls : List (Call ε)) (event : ε) (handlers : List (Handler ε ρ)) : Response ρ :=
  ⟨(called calls event handlers).flatMap fun handler => (reply calls event handler).records,
    handlers.findSome? fun handler => (reply calls event handler).failure⟩

/-- The calls of these handlers with one event. -/
def callsWith (event : ε) (handlers : List (Handler ε ρ)) : List (Call ε) :=
  handlers.map fun handler => ⟨handler.id, event⟩

structure History (ε ρ : Type) where
  uses : List (Use ε ρ)
  calls : List (Call ε)

namespace History

def empty : History ε ρ := ⟨[], []⟩

def handlers (history : History ε ρ) : List (Handler ε ρ) := standing 0 history.uses

/-- The calls a use makes. -/
def newCalls (history : History ε ρ) : Use ε ρ → List (Call ε)
  | .publish event =>
    callsWith event (called history.calls event history.handlers)
  | _ => []

/-- What a use is to return. -/
def answer (history : History ε ρ) : Use ε ρ → Told ρ
  | .subscribe _ => .subscribed (subscriptions history.uses)
  | .unsubscribe id => .unsubscribed (history.handlers.any (·.id == id))
  | .publish event => .published (outcome history.calls event history.handlers)

def next (history : History ε ρ) (use : Use ε ρ) : Told ρ × History ε ρ :=
  (history.answer use, ⟨history.uses ++ [use], history.calls ++ history.newCalls use⟩)

end History

private theorem subscriptions_subscribe (respond : List ε → Response ρ) (uses : List (Use ε ρ)) :
    subscriptions (.subscribe respond :: uses) = subscriptions uses + 1 :=
  List.countP_cons_of_pos rfl

private theorem standing_concat (first : Nat) (uses : List (Use ε ρ)) (use : Use ε ρ) :
    standing first (uses ++ [use]) =
      (standing first uses).filter (fun handler => !use.ends handler.id) ++
        (use.handler? (first + subscriptions uses)).toList := by
  induction uses generalizing first with
  | nil => cases use <;> simp [standing, Use.handler?, subscriptions]
  | cons head uses ih =>
    cases head with
    | subscribe respond =>
      have shift : first + (subscriptions uses + 1) = first + 1 + subscriptions uses := by omega
      rw [List.cons_append, standing, standing, ih, subscriptions_subscribe, shift, List.any_append]
      cases uses.any (Use.ends first) <;> cases ended : use.ends first <;> simp [ended]
    | unsubscribe id => exact ih first
    | publish event => exact ih first

private theorem standing_bounds {first : Nat} {uses : List (Use ε ρ)} {handler : Handler ε ρ}
    (stands : handler ∈ standing first uses) :
    first ≤ handler.id ∧ handler.id < first + subscriptions uses := by
  induction uses generalizing first with
  | nil => cases stands
  | cons head uses ih =>
    cases head with
    | subscribe respond =>
      rw [subscriptions_subscribe]
      rw [standing] at stands
      split at stands
      · have bounds := ih stands
        omega
      · rcases List.mem_cons.mp stands with rfl | stands
        · exact ⟨Nat.le_refl first, Nat.lt_add_of_pos_right (Nat.succ_pos _)⟩
        · have bounds := ih stands
          omega
    | unsubscribe id => exact ih stands
    | publish event => exact ih stands

private theorem standing_increasing (first : Nat) (uses : List (Use ε ρ)) :
    (standing first uses).Pairwise (·.id < ·.id) := by
  induction uses generalizing first with
  | nil => exact .nil
  | cons head uses ih =>
    cases head with
    | subscribe respond =>
      rw [standing]
      split
      · exact ih (first + 1)
      · exact .cons (fun other stands => (standing_bounds stands).1) (ih (first + 1))
    | unsubscribe id => exact ih first
    | publish event => exact ih first

private theorem heard_append (id : Nat) (before after : List (Call ε)) :
    heard id (before ++ after) = heard id after ++ heard id before := by
  rw [heard, List.filterMap_append, List.reverse_append, heard, heard]

private theorem heard_own (id : Nat) (event : ε) (calls : List (Call ε)) :
    heard id (⟨id, event⟩ :: calls) = heard id calls ++ [event] := by
  simp [heard]

private theorem heard_other {id : Nat} {call : Call ε} (other : call.id ≠ id)
    (calls : List (Call ε)) : heard id (call :: calls) = heard id calls := by
  simp [heard, other]

private theorem heard_none {id : Nat} {calls : List (Call ε)}
    (others : ∀ call ∈ calls, call.id ≠ id) : heard id calls = [] := by
  rw [heard, List.reverse_eq_nil_iff, List.filterMap_eq_nil_iff]
  exact fun call member => if_neg (others call member)

private theorem callsWith_id {event : ε} {handlers : List (Handler ε ρ)} {call : Call ε}
    (member : call ∈ callsWith event handlers) : ∃ handler ∈ handlers, handler.id = call.id := by
  obtain ⟨handler, present, rfl⟩ := List.mem_map.mp member
  exact ⟨handler, present, rfl⟩

/-- The subscriber that a handler is after these calls. -/
def subscriberAfter (calls : List (Call ε)) (handler : Handler ε ρ) : Nat × Subscriber ε ρ :=
  (handler.id, ⟨handler.respond, heard handler.id calls⟩)

section

variable {calls : List (Call ε)} {event : ε} {handler : Handler ε ρ} {rest : List (Handler ε ρ)}

private theorem called_subset {handlers : List (Handler ε ρ)}
    (member : handler ∈ called calls event handlers) : handler ∈ handlers := by
  rcases List.mem_append.mp member with before | first
  · exact (List.takeWhile_subset _) before
  · exact List.mem_of_find?_eq_some (Option.mem_toList.mp first)

private theorem called_refused (refused : refuses calls event handler = true) :
    called calls event (handler :: rest) = [handler] := by
  simp [called, refused]

private theorem called_accepted (accepted : refuses calls event handler = false) :
    called calls event (handler :: rest) = handler :: called calls event rest := by
  simp [called, accepted]

private theorem outcome_refused {reason : String}
    (failure : (reply calls event handler).failure = some reason)
    (refused : refuses calls event handler = true) :
    outcome calls event (handler :: rest) = reply calls event handler := by
  have first : ((handler :: rest).findSome? fun handler => (reply calls event handler).failure) =
      (reply calls event handler).failure := by rw [List.findSome?_cons, failure]
  rw [outcome, called_refused refused, List.flatMap_singleton, first]

private theorem outcome_accepted (failure : (reply calls event handler).failure = none)
    (accepted : refuses calls event handler = false) :
    outcome calls event (handler :: rest) =
      ⟨(reply calls event handler).records ++ (outcome calls event rest).records,
        (outcome calls event rest).failure⟩ := by
  simp [outcome, called_accepted accepted, failure]

private theorem subscriberAfter_own {more : List (Call ε)}
    (others : ∀ call ∈ more, call.id ≠ handler.id) :
    subscriberAfter (calls ++ ⟨handler.id, event⟩ :: more) handler =
      (handler.id, ⟨handler.respond, event :: heard handler.id calls⟩) := by
  rw [subscriberAfter, heard_append, heard_own, heard_none others]
  rfl

/-- Whoever subscribed later does not hear of a call. -/
private theorem map_subscriberAfter_other (above : ∀ other ∈ rest, handler.id < other.id)
    (more : List (Call ε)) :
    rest.map (subscriberAfter (calls ++ ⟨handler.id, event⟩ :: more)) =
      rest.map (subscriberAfter (calls ++ more)) := by
  refine List.map_congr_left fun other member => ?_
  have different : handler.id ≠ other.id := Nat.ne_of_lt (above other member)
  rw [subscriberAfter, heard_append, heard_other different, ← heard_append, subscriberAfter]

end

theorem deliver_refused {event : ε} {id : Nat} {subscriber : Subscriber ε ρ} {reason : String}
    (refused : (subscriber.respond (event :: subscriber.seen)).failure = some reason)
    (rest : List (Nat × Subscriber ε ρ)) :
    Bus.deliver event ((id, subscriber) :: rest) =
      (subscriber.respond (event :: subscriber.seen),
        (id, ⟨subscriber.respond, event :: subscriber.seen⟩) :: rest) := by
  simp only [Bus.deliver, refused]

theorem deliver_accepted {event : ε} {id : Nat} {subscriber : Subscriber ε ρ}
    (accepted : (subscriber.respond (event :: subscriber.seen)).failure = none)
    (rest : List (Nat × Subscriber ε ρ)) :
    Bus.deliver event ((id, subscriber) :: rest) =
      (⟨(subscriber.respond (event :: subscriber.seen)).records ++
          (Bus.deliver event rest).1.records, (Bus.deliver event rest).1.failure⟩,
        (id, ⟨subscriber.respond, event :: subscriber.seen⟩) :: (Bus.deliver event rest).2) := by
  simp only [Bus.deliver, accepted]

/-- Delivery in turn calls the handlers up to the first that refuses, and each of them hears of its
own call alone, since no two have the same number. -/
theorem deliver_handlers (calls : List (Call ε)) (event : ε) (handlers : List (Handler ε ρ))
    (increasing : handlers.Pairwise (·.id < ·.id)) :
    Bus.deliver event (handlers.map (subscriberAfter calls)) =
      (outcome calls event handlers, handlers.map
        (subscriberAfter (calls ++ callsWith event (called calls event handlers)))) := by
  induction handlers with
  | nil => rfl
  | cons handler rest ih =>
    obtain ⟨above, increasing⟩ := List.pairwise_cons.mp increasing
    rw [List.map_cons, subscriberAfter]
    cases failure : (reply calls event handler).failure with
    | some reason =>
      have refused : refuses calls event handler = true := by rw [refuses, failure]; rfl
      have alone : ∀ call ∈ ([] : List (Call ε)), call.id ≠ handler.id := nofun
      rw [deliver_refused failure, called_refused refused, outcome_refused failure refused, callsWith,
        List.map_singleton, List.map_cons, subscriberAfter_own alone,
        map_subscriberAfter_other above, List.append_nil]
      rfl
    | none =>
      have accepted : refuses calls event handler = false := by rw [refuses, failure]; rfl
      have others : ∀ call ∈ callsWith event (called calls event rest), call.id ≠ handler.id := by
        intro call member
        obtain ⟨other, present, same⟩ := callsWith_id member
        exact same ▸ Nat.ne_of_gt (above other (called_subset present))
      rw [deliver_accepted failure, called_accepted accepted, outcome_accepted failure accepted,
        callsWith, List.map_cons, List.map_cons, ← callsWith, subscriberAfter_own others,
        map_subscriberAfter_other above, ih increasing]
      rfl

/-- A bus that is what its history makes of it. Only who had subscribed was called. -/
structure Follows (history : History ε ρ) (bus : Bus ε ρ) : Prop where
  active : bus.active = history.handlers.map (subscriberAfter history.calls)
  nextId : bus.nextId = subscriptions history.uses
  known : ∀ call ∈ history.calls, call.id < subscriptions history.uses

private theorem subscriptions_concat (uses : List (Use ε ρ)) (use : Use ε ρ) :
    subscriptions (uses ++ [use]) = subscriptions uses + if use.subscribes then 1 else 0 := by
  rw [subscriptions, List.countP_append, List.countP_singleton, subscriptions]

namespace History

variable (history : History ε ρ)

private theorem handlers_subscribe (respond : List ε → Response ρ) :
    (history.next (.subscribe respond)).2.handlers =
      history.handlers ++ [⟨subscriptions history.uses, respond⟩] := by
  have everyone : history.handlers.filter (fun _ => true) = history.handlers :=
    List.filter_eq_self.mpr fun _ _ => rfl
  have concat := standing_concat 0 history.uses (.subscribe respond)
  rw [Nat.zero_add] at concat
  exact concat.trans (congrArg (· ++ [_]) everyone)

private theorem handlers_unsubscribe (id : Nat) :
    (history.next (.unsubscribe id)).2.handlers = history.handlers.filter (·.id != id) :=
  (standing_concat 0 history.uses (.unsubscribe id)).trans (List.append_nil _)

private theorem handlers_publish (event : ε) :
    (history.next (.publish event)).2.handlers = history.handlers := by
  have everyone : history.handlers.filter (fun _ => true) = history.handlers :=
    List.filter_eq_self.mpr fun _ _ => rfl
  exact (standing_concat 0 history.uses (.publish event)).trans
    ((List.append_nil _).trans everyone)

end History

namespace Follows

variable {history : History ε ρ} {bus : Bus ε ρ}

private theorem empty : Follows .empty (.empty : Bus ε ρ) := ⟨rfl, rfl, nofun⟩

private theorem next_known (follows : Follows history bus) (use : Use ε ρ) :
    ∀ call ∈ (history.next use).2.calls, call.id < subscriptions (history.next use).2.uses := by
  intro call member
  have more : subscriptions history.uses ≤ subscriptions (history.uses ++ [use]) := by
    rw [subscriptions_concat]
    exact Nat.le_add_right _ _
  refine Nat.lt_of_lt_of_le ?_ more
  rcases List.mem_append.mp member with earlier | new
  · exact follows.known call earlier
  · cases use with
    | subscribe respond => cases new
    | unsubscribe id => cases new
    | publish event =>
      obtain ⟨handler, present, same⟩ := callsWith_id new
      have bounds := standing_bounds (called_subset present)
      omega

theorem subscribe (follows : Follows history bus) (respond : List ε → Response ρ) :
    Follows (history.next (.subscribe respond)).2 (bus.subscribe respond).2 := by
  have silent : (history.next (.subscribe respond)).2.calls = history.calls := List.append_nil _
  have unheard : heard (subscriptions history.uses) history.calls = [] :=
    heard_none fun call member => Nat.ne_of_lt (follows.known call member)
  refine ⟨?_, ?_, follows.next_known (.subscribe respond)⟩
  · rw [history.handlers_subscribe, silent, List.map_append, ← follows.active, List.map_singleton,
      subscriberAfter, unheard, ← follows.nextId]
    rfl
  · rw [Bus.subscribe, follows.nextId]
    exact (subscriptions_concat history.uses (.subscribe respond)).symm

theorem unsubscribe (follows : Follows history bus) (id : Nat) :
    (bus.unsubscribe id).1 = history.handlers.any (·.id == id) ∧
      Follows (history.next (.unsubscribe id)).2 (bus.unsubscribe id).2 := by
  have silent : (history.next (.unsubscribe id)).2.calls = history.calls := List.append_nil _
  refine ⟨?_, ?_, ?_, follows.next_known (.unsubscribe id)⟩
  · rw [Bus.unsubscribe, follows.active, List.any_map]
    rfl
  · rw [history.handlers_unsubscribe, silent, Bus.unsubscribe, follows.active, List.filter_map]
    rfl
  · rw [Bus.unsubscribe, follows.nextId]
    exact (subscriptions_concat history.uses (.unsubscribe id)).symm

theorem publish (follows : Follows history bus) (event : ε) :
    (bus.publish event).1 = outcome history.calls event history.handlers ∧
      Follows (history.next (.publish event)).2 (bus.publish event).2 := by
  have delivered := deliver_handlers history.calls event history.handlers
    (standing_increasing 0 history.uses)
  rw [Bus.publish, follows.active, delivered]
  refine ⟨rfl, ?_, ?_, follows.next_known (.publish event)⟩
  · rw [history.handlers_publish]
    rfl
  · rw [follows.nextId]
    exact (subscriptions_concat history.uses (.publish event)).symm

/-- Each use returns what the history says, and leaves a bus that the longer history describes. -/
theorem use (follows : Follows history bus) (use : Use ε ρ) :
    (useBus bus use).1 = (history.next use).1 ∧ Follows (history.next use).2 (useBus bus use).2 := by
  cases use with
  | subscribe respond => exact ⟨congrArg Told.subscribed follows.nextId, follows.subscribe respond⟩
  | unsubscribe id => exact (follows.unsubscribe id).imp_left (congrArg Told.unsubscribed)
  | publish event => exact (follows.publish event).imp_left (congrArg Told.published)

theorem run (follows : Follows history bus) (uses : List (Use ε ρ)) :
    (runUses useBus bus uses).1 = (runUses History.next history uses).1 ∧
      Follows (runUses History.next history uses).2 (runUses useBus bus uses).2 := by
  induction uses generalizing history bus with
  | nil => exact ⟨rfl, follows⟩
  | cons use later ih =>
    obtain ⟨same, follows⟩ := follows.use use
    obtain ⟨more, follows⟩ := ih follows
    exact ⟨List.cons_eq_cons.mpr ⟨same, more⟩, follows⟩

end Follows

namespace History

variable {history : History ε ρ}

private theorem run_uses (history : History ε ρ) (uses : List (Use ε ρ)) :
    (runUses next history uses).2.uses = history.uses ++ uses := by
  induction uses generalizing history with
  | nil => exact (List.append_nil _).symm
  | cons use later ih =>
    have step := ih (history.next use).2
    rw [next, List.append_assoc] at step
    exact step

private theorem run_append (history : History ε ρ) (uses later : List (Use ε ρ)) :
    (runUses next history (uses ++ later)).2 = (runUses next (runUses next history uses).2 later).2 := by
  induction uses generalizing history with
  | nil => rfl
  | cons use uses ih => exact ih (history.next use).2

private theorem next_subscriptions (history : History ε ρ) (use : Use ε ρ) :
    subscriptions (history.next use).2.uses =
      subscriptions history.uses + if use.subscribes then 1 else 0 :=
  subscriptions_concat history.uses use

/-- The numbers that are handed out count up. -/
theorem run_ids (history : History ε ρ) (uses : List (Use ε ρ)) :
    (runUses next history uses).1.filterMap Told.id? =
      List.range' (subscriptions history.uses) (subscriptions uses) := by
  induction uses generalizing history with
  | nil => rfl
  | cons use later ih =>
    have step := ih (history.next use).2
    rw [next_subscriptions] at step
    cases use with
    | subscribe respond =>
      rw [subscriptions_subscribe, List.range'_succ]
      exact congrArg (subscriptions history.uses :: ·) step
    | unsubscribe id => exact step
    | publish event => exact step

/-- A number that was handed out and has no handler any more. -/
structure Retired (id : Nat) (history : History ε ρ) : Prop where
  used : id < subscriptions history.uses
  absent : ∀ handler ∈ history.handlers, handler.id ≠ id

private theorem Retired.of_unsubscribe {id : Nat} (used : id < subscriptions history.uses) :
    Retired id (history.next (.unsubscribe id)).2 := by
  refine ⟨?_, fun handler member => ?_⟩
  · exact Nat.lt_of_lt_of_eq used (next_subscriptions history (.unsubscribe id)).symm
  · rw [history.handlers_unsubscribe] at member
    exact bne_iff_ne.mp (List.mem_filter.mp member).2

private theorem Retired.next {id : Nat} (retired : Retired id history) (use : Use ε ρ) :
    Retired id (history.next use).2 ∧
      heard id (history.next use).2.calls = heard id history.calls := by
  obtain ⟨used, absent⟩ := retired
  have still : id < subscriptions (history.next use).2.uses := by
    rw [next_subscriptions]
    omega
  cases use with
  | subscribe respond =>
    refine ⟨⟨still, fun handler member => ?_⟩, congrArg (heard id) (List.append_nil _)⟩
    rw [history.handlers_subscribe] at member
    rcases List.mem_append.mp member with old | new
    · exact absent handler old
    · rw [List.mem_singleton.mp new]
      exact Nat.ne_of_gt used
  | unsubscribe other =>
    refine ⟨⟨still, fun handler member => ?_⟩, congrArg (heard id) (List.append_nil _)⟩
    rw [history.handlers_unsubscribe] at member
    exact absent handler (List.mem_filter.mp member).1
  | publish event =>
    refine ⟨⟨still, fun handler member => ?_⟩, ?_⟩
    · rw [history.handlers_publish] at member
      exact absent handler member
    · have uncalled : ∀ call ∈ history.newCalls (.publish event), call.id ≠ id := by
        intro call member
        obtain ⟨handler, present, same⟩ := callsWith_id member
        exact same ▸ absent handler (called_subset present)
      rw [History.next, heard_append, heard_none uncalled, List.nil_append]

theorem Retired.run {id : Nat} (retired : Retired id history) (uses : List (Use ε ρ)) :
    heard id (runUses History.next history uses).2.calls = heard id history.calls := by
  induction uses generalizing history with
  | nil => rfl
  | cons use later ih =>
    obtain ⟨still, same⟩ := retired.next use
    exact (ih still).trans same

end History

/-- Since no two handlers have one number, leaving out all with a number is leaving out one. -/
private theorem filter_subscribers (calls : List (Call ε)) {handlers : List (Handler ε ρ)}
    (increasing : handlers.Pairwise (·.id < ·.id)) (id : Nat) :
    (handlers.map (subscriberAfter calls)).filter (·.1 != id) =
      (handlers.map (subscriberAfter calls)).eraseP (·.1 == id) := by
  induction handlers with
  | nil => rfl
  | cons handler rest ih =>
    obtain ⟨above, increasing⟩ := List.pairwise_cons.mp increasing
    by_cases same : handler.id = id
    · have found : ((subscriberAfter calls handler).1 == id) = true := beq_iff_eq.mpr same
      have kept : (rest.map (subscriberAfter calls)).filter (·.1 != id) =
          rest.map (subscriberAfter calls) := by
        refine List.filter_eq_self.mpr fun entry member => bne_iff_ne.mpr ?_
        obtain ⟨other, present, rfl⟩ := List.mem_map.mp member
        exact Nat.ne_of_gt (same ▸ above other present)
      simp only [List.map_cons, List.eraseP_cons, List.filter_cons, bne, found] at kept ⊢
      exact kept
    · have other : ((subscriberAfter calls handler).1 == id) = false := beq_eq_false_iff_ne.mpr same
      simp only [List.map_cons, List.eraseP_cons, List.filter_cons, bne, other] at ih ⊢
      exact congrArg (_ :: ·) (ih increasing)

/-- A bus returns, after whatever was done with it, what its past says; it holds the handlers that
subscribed and did not unsubscribe since, each with what it heard. Numbers count up, to remove one
handler leaves the others as they are, and a handler that was removed hears nothing more. -/
theorem bus_follows_history (uses : List (Use ε ρ)) :
    let ran := runUses useBus Bus.empty uses
    let told := runUses History.next .empty uses
    ran.1 = told.1 ∧ ran.1.filterMap Told.id? = List.range (subscriptions uses) ∧
    ran.2.active = (standing 0 uses).map (subscriberAfter told.2.calls) ∧
    ran.2.size = (standing 0 uses).length ∧ ran.2.isEmpty = (standing 0 uses).isEmpty ∧
    (∀ id, (ran.2.unsubscribe id).2.active = ran.2.active.eraseP (·.1 == id)) ∧
    ∀ id later, id < subscriptions uses →
      heard id (runUses History.next .empty (uses ++ .unsubscribe id :: later)).2.calls =
        heard id told.2.calls := by
  intro ran told
  obtain ⟨same, follows⟩ := Follows.run (Follows.empty : Follows History.empty (Bus.empty : Bus ε ρ)) uses
  have past : told.2.uses = uses := History.run_uses .empty uses
  have active : ran.2.active = (standing 0 uses).map (subscriberAfter told.2.calls) := by
    rw [← past]
    exact follows.active
  refine ⟨same, ?_, active, ?_, ?_, fun id => ?_, fun id later used => ?_⟩
  · rw [same, List.range_eq_range']
    exact History.run_ids .empty uses
  · rw [Bus.size, active, List.length_map]
  · rw [Bus.isEmpty, active, List.isEmpty_map]
  · rw [Bus.unsubscribe, active]
    exact filter_subscribers told.2.calls (standing_increasing 0 uses) id
  · have retired := History.Retired.of_unsubscribe (past.symm ▸ used : id < subscriptions told.2.uses)
    rw [History.run_append]
    exact (retired.run later).trans (congrArg (heard id) (List.append_nil _))

private def willing (events : List Nat) : Response Nat := ⟨events.take 1, none⟩

private def fussy (events : List Nat) : Response Nat :=
  ⟨[], if events.length = 2 then some "no more" else none⟩

private def busy : List (Use Nat Nat) :=
  [.subscribe willing, .subscribe fussy, .subscribe willing, .publish 7, .publish 8]

/-- Between two handlers that take everything stands one that refuses its second event: this event does
not reach the third handler, and the third event does not reach the first. -/
theorem bus_follows_history_refused : 0 < subscriptions busy ∧
    (runUses useBus Bus.empty busy).2.active.map (fun entry => (entry.1, entry.2.seen)) =
      [(0, [8, 7]), (1, [8, 7]), (2, [7])] ∧
    heard 0 (runUses History.next .empty (busy ++ .unsubscribe 0 :: [.publish 9])).2.calls = [8, 7] := by
  obtain ⟨-, -, active, -, -, -, silent⟩ := bus_follows_history busy
  have used : 0 < subscriptions busy := by decide
  refine ⟨used, ?_, (silent 0 [.publish 9] used).trans (by decide)⟩
  rw [active, List.map_map]
  decide

end PgSession.Proofs.EventBus

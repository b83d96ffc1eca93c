import PgSession.Proofs.Steps
import PgSession.Transport.Script

/-!
A session nobody disturbs: its transport has the server's bytes laid down and fails no write and no
upgrade, its messages can be written, and its subscribers refuse no event. Such a session receives a
frame exactly when one is next, and what happens then depends on the frame alone.
-/

namespace PgSession.Proofs
open Wire Session

variable {τ : Type}

/-- In its live states the transport delivers the bytes that are served to it, in their order and
until they run out, and does everything else that it is asked for. -/
structure Reliable [Transport τ] (served : τ → List UInt8) (live : τ → Prop) : Prop where
  enough : ∀ {link : τ} {count : Nat} (timeout : Nat), live link → count ≤ (served link).length →
    ∃ link', Transport.read link count timeout = (.ok ((served link).take count), link') ∧
      live link' ∧ served link' = (served link).drop count
  tooFew : ∀ {link : τ} {count : Nat} (timeout : Nat), live link → (served link).length < count →
    ∃ error link', Transport.read link count timeout = (.error error, link')
  writes : ∀ {link : τ} (bytes : List UInt8) (timeout : Nat), live link →
    ∃ link', Transport.write link bytes timeout = (.ok (), link') ∧
      live link' ∧ served link' = served link
  upgrades : ∀ {link : τ}, live link → ∃ link', Transport.upgrade link = (.ok (), link') ∧
    live link' ∧ served link' = served link

/-- A script in which no write and no upgrade fails. -/
def Smooth (script : Script) : Prop := script.failingWrites = [] ∧ script.upgradeFails = false

theorem script_reliable : Reliable Script.served Smooth where
  enough := by
    intro script count timeout smooth enough
    exact ⟨_, if_pos enough, smooth, rfl⟩
  tooFew := by
    intro script count timeout smooth tooFew
    exact ⟨_, _, if_neg (Nat.not_le_of_lt tooFew)⟩
  writes := by
    intro script bytes timeout smooth
    refine ⟨{ script with writes := script.writes + 1 }, ?_, smooth, rfl⟩
    change script.write = _
    rw [Script.write, if_neg (by simp [smooth.1])]
  upgrades := by
    intro script smooth
    refine ⟨script, ?_, smooth, rfl⟩
    change script.upgrade = _
    rw [Script.upgrade, smooth.2]
    rfl

namespace Reliable

variable [Transport τ] {served : τ → List UInt8} {live : τ → Prop} {link link' : τ} {count timeout : Nat}

/-- Whatever was read is what was served next. -/
theorem read (reliable : Reliable served live) (alive : live link) {bytes : List UInt8}
    (ran : Transport.read link count timeout = (.ok bytes, link')) :
    bytes.length = count ∧ served link = bytes ++ served link' ∧ live link' := by
  by_cases enough : count ≤ (served link).length
  · obtain ⟨after, read, still, rest⟩ := reliable.enough timeout alive enough
    rw [read] at ran
    cases ran
    exact ⟨List.length_take_of_le enough, by rw [rest, List.take_append_drop], still⟩
  · obtain ⟨error, after, failed⟩ := reliable.tooFew timeout alive (Nat.lt_of_not_le enough)
    rw [failed] at ran
    cases ran

/-- Whatever is served next can be read. -/
theorem reads (reliable : Reliable served live) (alive : live link) {bytes rest : List UInt8}
    (next : served link = bytes ++ rest) (timeout : Nat) :
    ∃ link', Transport.read link bytes.length timeout = (.ok bytes, link') ∧ live link' ∧
      served link' = rest := by
  obtain ⟨after, read, still, left⟩ := reliable.enough timeout alive
    (show bytes.length ≤ (served link).length by simp [next])
  rw [next, List.take_left] at read
  rw [next, List.drop_left] at left
  exact ⟨after, read, still, left⟩

end Reliable

def Willing (buses : Buses) : Prop :=
  ∀ topic, ∀ entry ∈ (buses.get topic).active, ∀ seen, (entry.2.respond seen).failure = none

private theorem deliver_willing {ε ρ : Type} (event : ε) (active : List (Nat × Subscriber ε ρ))
    (willing : ∀ entry ∈ active, ∀ seen, (entry.2.respond seen).failure = none) :
    (Bus.deliver event active).1.failure = none ∧
      ∀ entry ∈ (Bus.deliver event active).2, ∀ seen, (entry.2.respond seen).failure = none := by
  induction active with
  | nil => exact ⟨rfl, nofun⟩
  | cons entry rest ih =>
    obtain ⟨id, subscriber⟩ := entry
    have first := willing (id, subscriber) (by simp)
    have accepted : (subscriber.respond (event :: subscriber.seen)).failure = none := first _
    obtain ⟨later, others⟩ := ih fun entry member => willing entry (List.mem_cons_of_mem _ member)
    simp only [Bus.deliver, accepted]
    refine ⟨later, ?_⟩
    intro entry member
    rcases List.mem_cons.mp member with rfl | member
    · exact first
    · exact others entry member

/-- An event is published without a refusal, and only the journal and the buses know of it. -/
theorem publish_willing {session : Session τ} (willing : Willing session.buses) (event : Event) :
    ∃ buses effects, Willing buses ∧ publish event session =
      .ok () { session with buses, channel := session.channel.note effects } := by
  obtain ⟨none, others⟩ := deliver_willing event (session.buses.get event.topic).active
    (willing event.topic)
  refine ⟨session.buses.set event.topic ((session.buses.get event.topic).publish event).2,
    ((session.buses.get event.topic).publish event).1.records, ?_, ?_⟩
  · intro topic entry member
    rw [get_set] at member
    split at member
    · exact others entry member
    · exact willing topic entry member
  · simp only [publish, Bus.publish, none]

end PgSession.Proofs

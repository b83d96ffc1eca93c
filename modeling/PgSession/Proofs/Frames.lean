import PgSession.Config.Settings
import PgSession.Message.Backend
import PgSession.Session.Channel

/-!
Messages of the server as they stand in its byte stream: a tag, a length that counts itself and the
body but not the tag, and the body. Every stream begins with a determined list of whole frames.
-/

namespace PgSession.Proofs
open Wire

structure Frame where
  tag : UInt8
  body : List UInt8
deriving DecidableEq

namespace Frame

def bytes (frame : Frame) : List UInt8 :=
  frame.tag :: (word (4 + frame.body.length) ++ frame.body)

/-- The length field can hold the length. -/
def Fits (frame : Frame) : Prop := 4 + frame.body.length ≤ Buffer.maxLength

/-- No larger than a session accepts. -/
def Within (frame : Frame) (config : Config) : Prop :=
  frame.Fits ∧ 1 + (4 + frame.body.length) ≤ config.maxMessageSize

instance (frame : Frame) : Decidable frame.Fits := inferInstanceAs (Decidable (_ ≤ _))

instance (frame : Frame) (config : Config) : Decidable (frame.Within config) :=
  inferInstanceAs (Decidable (_ ∧ _))

def decode {α : Type} (frame : Frame) (reader : Reader α) : Except Error α :=
  match reader frame.body with
  | .ok value _ => .ok value
  | .error error _ => .error ⟨.ofDecode error, none⟩

/-- What the reader makes of the body, if the frame has this tag. -/
def reads? (tag : UInt8) (reader : Reader α) (frame : Frame) : Option α :=
  if frame.tag = tag then (frame.decode reader).toOption else none

/-- What a message that may come at any time amounts to: an event for the subscribers, or an error,
be it one that the server reports or one in the message. -/
def general (frame : Frame) : Option (Except Error Event) :=
  if frame.tag = Tag.notification then
    some ((frame.decode Reader.notification).map .notification)
  else if frame.tag = Tag.errorResponse then
    some ((frame.decode Reader.errorReport).bind fun report => .error ⟨.database report, none⟩)
  else if frame.tag = Tag.notice then some ((frame.decode Reader.notice).map .notice)
  else if frame.tag = Tag.parameterStatus then
    some ((frame.decode Reader.parameterStatus).map .parameterStatus)
  else none

/-- The event in a message that may come at any time. -/
def event? (frame : Frame) : Option Event := frame.general.bind Except.toOption

variable {α : Type} {frame : Frame}

theorem general_none (notification : frame.tag ≠ Tag.notification)
    (report : frame.tag ≠ Tag.errorResponse) (notice : frame.tag ≠ Tag.notice)
    (parameter : frame.tag ≠ Tag.parameterStatus) : frame.general = none := by
  rw [Frame.general, if_neg notification, if_neg report, if_neg notice, if_neg parameter]

theorem reads?_other {tag : UInt8} (other : frame.tag ≠ tag) (reader : Reader α) :
    frame.reads? tag reader = none := if_neg other

theorem reads?_some {tag : UInt8} {reader : Reader α} {value : α} (same : frame.tag = tag)
    (read : frame.decode reader = .ok value) : frame.reads? tag reader = some value := by
  rw [reads?, if_pos same, read]
  rfl

end Frame

private theorem wordValue_toInt (first second third fourth : UInt8) :
    (int32Value first second third fourth).toInt =
      (wordValue first second third fourth : Int).bmod 4294967296 := by
  simp [int32Value]

/-- A length that is not negative is the word it was read from. -/
theorem word_of_length {first second third fourth : UInt8} {length : Nat}
    (read : (int32Value first second third fourth).toInt = length) :
    [first, second, third, fourth] = word length ∧ length ≤ Buffer.maxLength := by
  have small := wordValue_lt first second third fourth
  rw [wordValue_toInt, Int.bmod_def] at read
  have same : wordValue first second third fourth = length ∧ length ≤ Buffer.maxLength := by
    simp only [Buffer.maxLength]
    split at read <;> omega
  rw [← same.1, word_wordValue]
  exact ⟨rfl, same.1 ▸ same.2⟩

theorem length_of_word {value : Nat} (fits : value ≤ Buffer.maxLength)
    {first second third fourth : UInt8} (same : word value = [first, second, third, fourth]) :
    (int32Value first second third fourth).toInt = value := by
  simp only [Buffer.maxLength] at fits
  simp only [word, List.cons.injEq, and_true] at same
  obtain ⟨rfl, rfl, rfl, rfl⟩ := same
  rw [wordValue_toInt, wordValue_word value (by omega), Int.bmod_def, if_pos (by omega)]
  omega

/-- The length field behind a tag. -/
def lengthField : List UInt8 → Int32
  | _ :: first :: second :: third :: fourth :: _ => int32Value first second third fourth
  | _ => 0

def lengthIn (header : List UInt8) : Int := (lengthField header).toInt

theorem lengthIn_bytes (frame : Frame) (fits : frame.Fits) (rest : List UInt8) :
    lengthIn (frame.bytes ++ rest) = (4 + frame.body.length : Nat) := by
  simp only [Frame.bytes, word, List.cons_append, lengthIn, lengthField]
  exact length_of_word fits rfl

/-- The whole frames at the beginning of a stream. -/
def frames (stream : List UInt8) : List Frame :=
  match stream with
  | tag :: first :: second :: third :: fourth :: rest =>
    let length := (int32Value first second third fourth).toInt
    if 4 ≤ length ∧ length.toNat - 4 ≤ rest.length then
      ⟨tag, rest.take (length.toNat - 4)⟩ :: frames (rest.drop (length.toNat - 4))
    else []
  | _ => []
termination_by stream.length
decreasing_by
  simp only [List.length_drop, List.length_cons]
  omega

theorem frames_nil : frames [] = [] := by
  rw [frames]
  nofun

theorem frames_bytes (frame : Frame) (fits : frame.Fits) (rest : List UInt8) :
    frames (frame.bytes ++ rest) = frame :: frames rest := by
  have length : (int32Value (UInt8.ofNat ((4 + frame.body.length) / 16777216))
      (UInt8.ofNat ((4 + frame.body.length) / 65536)) (UInt8.ofNat ((4 + frame.body.length) / 256))
      (UInt8.ofNat (4 + frame.body.length))).toInt = (4 + frame.body.length : Nat) :=
    length_of_word fits rfl
  simp only [Frame.bytes, word, List.cons_append, List.nil_append]
  rw [frames]
  simp only [length, Int.toNat_natCast, Nat.add_sub_cancel_left, List.length_append,
    List.take_left', List.drop_left']
  rw [if_pos (by omega)]

theorem frames_flatMap (whole : List Frame) (fits : ∀ frame ∈ whole, frame.Fits)
    (rest : List UInt8) : frames (whole.flatMap Frame.bytes ++ rest) = whole ++ frames rest := by
  induction whole with
  | nil => rfl
  | cons frame whole ih =>
    rw [List.flatMap_cons, List.append_assoc, frames_bytes frame (fits frame (by simp)),
      ih fun other member => fits other (List.mem_cons_of_mem _ member), List.cons_append]

end PgSession.Proofs

import PgSession.Proofs.BufferReading
import PgSession.Proofs.BufferReuse
import PgSession.Proofs.Frames

/-!
Writing in a buffer with any past. What is written is what the items stand for, however deeply they
are nested and whatever the buffer was used for; and every message of a client is one frame, whose
length field counts itself and all that follows it.
-/

namespace PgSession.Proofs
open Wire

/-- The live window is all that was written, and holds these bytes. -/
structure Shows (bytes : List UInt8) (buffer : Buffer) : Prop where
  position : buffer.position = 0
  limit : buffer.limit = bytes.length
  chunk : Buffer.chunk buffer = .ok bytes buffer

theorem Holds.shows {bytes : List UInt8} {buffer : Buffer} (holds : Holds bytes buffer) :
    Shows bytes buffer :=
  ⟨holds.position, holds.limit, holds.chunk⟩

/-- One frame: a head, then a length that counts its own field and the body, and nothing else. -/
def Framed (head bytes : List UInt8) : Prop :=
  ∃ first second third fourth body, bytes = head ++ [first, second, third, fourth] ++ body ∧
    (int32Value first second third fourth).toInt = (4 + body.length : Nat)

/-- The length field of a group is exact, since the group fits. -/
private theorem framed_group {items : List Item} (head : List UInt8)
    (fits : Item.fits (.group items)) : Framed head (head ++ (Item.group items).encode) := by
  simp only [Item.fits, Bool.and_eq_true, decide_eq_true_eq] at fits
  refine ⟨_, _, _, _, Item.encodeAll items, ?_, length_of_word fits.2 rfl⟩
  simp only [Item.encode, word, List.append_assoc]

/-- A message with a tag and any items, as every message is written that has a tag. -/
def tagged (tag : UInt8) (items : List Item) : List Item := [.byte tag, .group items]

private theorem tagged_framed {tag : UInt8} {items : List Item}
    (fits : fitsAll (tagged tag items)) : Framed [tag] (Item.encodeAll (tagged tag items)) := by
  simp only [tagged, fitsAll, Item.fits, Bool.true_and, Bool.and_true] at fits
  have whole : Item.encodeAll (tagged tag items) = [tag] ++ (Item.group items).encode := by
    simp only [tagged, Item.encodeAll, Item.encode, List.append_nil]
  rw [whole]
  exact framed_group [tag] fits

/-- What stands before the length of a message. -/
def FrontendMessage.head : FrontendMessage → List UInt8
  | .startup .. | .sslRequest | .cancelRequest .. => []
  | .password _ => [Tag.password]
  | .terminate => [Tag.terminate]

private theorem encoded_framed {message : FrontendMessage} (sendable : Sendable message) :
    Framed (FrontendMessage.head message) (encoded message) := by
  cases message with
  | startup version user database parameters =>
    simp only [Sendable, FrontendMessage.items, fitsAll, Bool.and_true] at sendable
    have whole := framed_group [] sendable
    simpa only [encoded, FrontendMessage.items, Item.encodeAll, List.append_nil] using! whole
  -- The requests bring their lengths as numbers, which count what follows them.
  | sslRequest =>
    have length : (int32Value 0 0 0 8).toInt = 8 := by decide
    exact ⟨0, 0, 0, 8, int32 FrontendMessage.sslRequestCode, rfl, length⟩
  | cancelRequest processId secretKey =>
    have length : (int32Value 0 0 0 16).toInt = 16 := by decide
    exact ⟨0, 0, 0, 16, int32 FrontendMessage.cancelRequestCode ++ int32 processId ++ int32 secretKey,
      rfl, length⟩
  | password credential => exact tagged_framed sendable
  | terminate => exact tagged_framed sendable

/-- Whatever a buffer was used for, it takes a message as the bytes that the items stand for, unless
a group is too long for its length field; and every message of a client is a single frame. -/
theorem writing_encodes {buffer : Buffer} (reachable : Reachable buffer) :
    (∀ items, if fitsAll items then
        ∃ after, writeWhole items buffer = .ok () after ∧ Shows (Item.encodeAll items) after
      else ∃ after, writeWhole items buffer = .error (.crashed .lengthOutOfRange) after) ∧
    (∀ tag items, fitsAll (tagged tag items) → ∃ after bytes,
      writeWhole (tagged tag items) buffer = .ok () after ∧ Shows bytes after ∧ Framed [tag] bytes) ∧
    ∀ message, Sendable message → ∃ after bytes,
      message.write buffer = .ok () after ∧ Shows bytes after ∧
      Framed (FrontendMessage.head message) bytes := by
  refine ⟨fun items => ?_, fun tag items fits => ?_, fun message sendable => ?_⟩
  · by_cases fits : fitsAll items
    · rw [if_pos fits]
      obtain ⟨after, wrote, holds⟩ := writeWhole_fits reachable.sound fits
      exact ⟨after, wrote, holds.shows⟩
    · rw [if_neg fits]
      obtain ⟨after, crashed, -⟩ := writeWhole_crash reachable.sound fits
      exact ⟨after, crashed⟩
  · obtain ⟨after, wrote, holds⟩ := writeWhole_fits reachable.sound fits
    exact ⟨after, _, wrote, holds.shows, tagged_framed fits⟩
  · obtain ⟨after, wrote, holds⟩ := write_sendable reachable.sound sendable
    exact ⟨after, _, wrote, holds.shows, encoded_framed sendable⟩

private def careless : List Buffer.Operation :=
  [.putText "leftover", .beginLength, .setLimit 6, .flip, .readByte]

private def abandoned : Buffer :=
  careless.foldl (fun buffer operation => bufferAfter (operation.perform buffer)) (.new 3)

private theorem abandoned_reachable : Reachable abandoned :=
  List.foldlRecOn careless _ (.fresh 3) fun _ reachable operation _ => .used operation reachable

private def nested : List Item :=
  [.int32 (-2), .group [.byte 7, .group [.text "a\x00b", .group []], .bytes [9]]]

private def nestedBytes : List UInt8 :=
  [255, 255, 255, 254] ++ [0, 0, 0, 18, 7] ++ [0, 0, 0, 12] ++ [97, 0, 98, 0] ++ [0, 0, 0, 4] ++ [9]

/-- Groups in groups, in a buffer that was left with a length field waiting and its cursor moved. -/
theorem writing_encodes_nested : abandoned.pending = [9] ∧ abandoned.position = 1 ∧
    ∃ after, writeWhole nested abandoned = .ok () after ∧ Shows nestedBytes after := by
  have fits : fitsAll nested := by decide +kernel
  have encoding : Item.encodeAll nested = nestedBytes := by decide +kernel
  have written := (writing_encodes abandoned_reachable).1 nested
  rw [if_pos fits, encoding] at written
  exact ⟨by decide +kernel, by decide +kernel, written⟩

end PgSession.Proofs

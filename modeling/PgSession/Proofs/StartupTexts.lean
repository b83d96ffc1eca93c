import PgSession.Proofs.BufferReuse
import PgSession.Proofs.StartupReading

/-!
Which texts a startup message can carry. A server reads back what a client wrote, with no byte left
over, exactly if no text holds the character of code zero and no parameter is without a name: such a
character ends a text early, and an empty name ends the whole list.
-/

namespace PgSession.Proofs
open Text Wire

/-- Texts that survive being written one after another, each with a zero byte behind it. -/
structure Representable (user : String) (database : Option String)
    (parameters : List (String × String)) : Prop where
  user : nul ∉ user.toList
  database : ∀ name ∈ database, nul ∉ name.toList
  parameters : ∀ parameter ∈ parameters,
    parameter.1 ≠ "" ∧ nul ∉ parameter.1.toList ∧ nul ∉ parameter.2.toList

section

variable {user : String} {database : Option String} {parameters : List (String × String)}

private theorem clear_pair_iff {name value : String} :
    ((pair name value).1 ≠ [] ∧ 0 ∉ (pair name value).1 ∧ 0 ∉ (pair name value).2) ↔
      name ≠ "" ∧ nul ∉ name.toList ∧ nul ∉ value.toList := by
  have empty : utf8 name = [] ↔ name = "" :=
    ⟨fun none => utf8_injective none, fun none => none ▸ rfl⟩
  rw [pair, Ne, empty, zero_mem_utf8, zero_mem_utf8]

/-- The names the client adds itself are always clear. -/
theorem clear_meant_iff :
    Clear (meant user database parameters) ↔ Representable user database parameters := by
  have named : "user" ≠ "" ∧ nul ∉ "user".toList := by decide
  have listed : "database" ≠ "" ∧ nul ∉ "database".toList := by decide
  constructor
  · intro clear
    refine ⟨?_, ?_, ?_⟩
    · exact (clear_pair_iff.mp (clear (pair "user" user) List.mem_cons_self)).2.2
    · intro name member
      have inside : pair "database" name ∈ meant user database parameters := by
        rw [Option.mem_def.mp member]
        exact List.mem_cons_of_mem _ List.mem_cons_self
      exact (clear_pair_iff.mp (clear _ inside)).2.2
    · intro parameter member
      have inside : pair parameter.1 parameter.2 ∈ meant user database parameters :=
        List.mem_cons_of_mem _ (List.mem_append_right _ (List.mem_map_of_mem member))
      exact clear_pair_iff.mp (clear _ inside)
  · intro representable other member
    rcases List.mem_cons.mp member with rfl | member
    · exact clear_pair_iff.mpr ⟨named.1, named.2, representable.user⟩
    rcases List.mem_append.mp member with stored | added
    · obtain ⟨name, present, rfl⟩ := Option.map_eq_some_iff.mp (Option.mem_toList.mp stored)
      exact clear_pair_iff.mpr ⟨listed.1, listed.2, representable.database name present⟩
    · obtain ⟨parameter, present, rfl⟩ := List.mem_map.mp added
      exact clear_pair_iff.mpr (representable.parameters parameter present)

end

/-- A server reads the version, the user, the database if there is one and the parameters in their
order, and comes to the end of the message with them, exactly if the texts are representable. -/
theorem startup_reads_back {buffer : Buffer} (reachable : Reachable buffer) {version : Int32}
    {user : String} {database : Option String} {parameters : List (String × String)}
    (sendable : Sendable (.startup version user database parameters)) (rest : List UInt8) :
    ∃ bytes, sent (.startup version user database parameters) buffer = some bytes ∧
      (readStartup (bytes ++ rest) = some ((version, meant user database parameters), rest) ↔
        Representable user database parameters) := by
  refine ⟨encoded (.startup version user database parameters), ?_, ?_⟩
  · rw [sent_eq reachable.sound, if_pos sendable]
  · rw [readStartup_encoded_iff sendable, clear_meant_iff]

private def oddParameters : List (String × String) :=
  [("search_path", ""), ("имя 名", "a=b&c"), ("search_path", "public")]

/-- A database and a value that are empty, and a name in two scripts. -/
theorem startup_reads_back_empty_texts :
    ∃ bytes, sent (.startup protocolVersion3 "bob" (some "") oddParameters) (.new 16) = some bytes ∧
      readStartup bytes =
        some ((protocolVersion3, meant "bob" (some "") oddParameters), []) := by
  have sendable : Sendable (.startup protocolVersion3 "bob" (some "") oddParameters) := by
    decide +kernel
  obtain ⟨bytes, wrote, read⟩ := startup_reads_back (.fresh 16) sendable []
  rw [List.append_nil] at read
  exact ⟨bytes, wrote, read.mpr ⟨by decide, by decide, by decide⟩⟩

end PgSession.Proofs

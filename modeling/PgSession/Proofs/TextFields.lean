import PgSession.Proofs.BodyReaders
import PgSession.Proofs.TextRoundTrip

/-!
The texts in a message, and the maps of texts that notices carry. A reader accepts exactly the bytes
that begin with what it looks for, and it takes exception to an encoding exactly at a text that is
ended by a zero byte and is not UTF-8.
-/

namespace PgSession.Proofs
open Wire

/-- The bytes of a text with the zero byte that ends it, which is the only one. -/
def Terminated (text : String) (bytes : List UInt8) : Prop :=
  nul ∉ text.toList ∧ bytes = Text.utf8 text ++ [0]

/-- What begins like a text, but is not UTF-8 up to its end. -/
def Unreadable (bytes : List UInt8) : Prop :=
  ∃ before after, bytes = before ++ 0 :: after ∧ 0 ∉ before ∧ ∀ text, Text.utf8 text ≠ before

theorem text_ok_iff {bytes rest : List UInt8} {text : String} :
    Reader.text bytes = .ok text rest ↔ ∃ front, Terminated text front ∧ bytes = front ++ rest := by
  constructor
  · intro read
    unfold Reader.text at read
    split at read
    · cases read
    · next before after found =>
      split at read
      · next decoded valid =>
        cases read
        have same : Text.utf8 text = before := utf8_decodeUtf8 valid
        refine ⟨before ++ [0], ⟨fun zero => ?_, by rw [same]⟩, ?_⟩
        · exact splitZero_free found (same ▸ zero_mem_utf8.mpr zero)
        · rw [Reader.splitZero_eq found, List.append_assoc]
          rfl
      · cases read
  · rintro ⟨_, ⟨free, rfl⟩, rfl⟩
    rw [List.append_assoc]
    exact text_utf8 free rest

/-- The reader comes to something that is not UTF-8. -/
def Faulty {α : Type} (reader : Reader α) (bytes : List UInt8) : Prop :=
  ∃ fault rest, reader bytes = .error (.utf8 fault) rest

variable {α β : Type}

private theorem faulty_text {bytes : List UInt8} : Faulty Reader.text bytes ↔ Unreadable bytes := by
  constructor
  · rintro ⟨fault, rest, read⟩
    unfold Reader.text at read
    split at read
    · cases read
    · next before after found =>
      refine ⟨before, after, Reader.splitZero_eq found, splitZero_free found, ?_⟩
      rintro text rfl
      rw [decodeUtf8_utf8] at read
      cases read
  · rintro ⟨before, after, rfl, free, invalid⟩
    cases decoded : Text.decodeUtf8 before with
    | ok text => exact absurd (utf8_decodeUtf8 decoded) (invalid text)
    | error fault =>
      refine ⟨fault, before ++ 0 :: after, ?_⟩
      simp only [Reader.text, splitZero_append free, decoded]

theorem faulty_bind {first : Reader α} {next : α → Reader β} {bytes : List UInt8} :
    Faulty (first >>= next) bytes ↔ Faulty first bytes ∨
      ∃ part rest, first bytes = .ok part rest ∧ Faulty (next part) rest := by
  unfold Faulty
  cases ran : first bytes with
  | ok part rest =>
    rw [bind_ok ran]
    constructor
    · exact fun faulty => .inr ⟨part, rest, rfl, faulty⟩
    · rintro (⟨_, _, impossible⟩ | ⟨_, _, ⟨⟩, faulty⟩)
      · cases impossible
      · exact faulty
  | error error rest =>
    rw [bind_error ran]
    constructor
    · rintro ⟨fault, _, ⟨⟩⟩
      exact .inl ⟨fault, rest, rfl⟩
    · rintro (⟨fault, _, ⟨⟩⟩ | ⟨_, _, impossible, _⟩)
      · exact ⟨fault, rest, rfl⟩
      · cases impossible

theorem not_faulty_pure {value : α} {bytes : List UInt8} : ¬ Faulty (pure value) bytes := by
  rintro ⟨fault, rest, impossible⟩
  cases impossible

theorem not_faulty_violation {violation : Violation} {bytes : List UInt8} :
    ¬ Faulty (throw (.violation violation) : Reader α) bytes := by
  rintro ⟨fault, rest, impossible⟩
  cases impossible

private theorem not_faulty_int32 {bytes : List UInt8} : ¬ Faulty Reader.int32 bytes := by
  rintro ⟨fault, rest, read⟩
  unfold Reader.int32 at read
  split at read <;> cases read

theorem not_faulty_take {count : Nat} {bytes : List UInt8} : ¬ Faulty (Reader.take count) bytes := by
  rintro ⟨fault, rest, read⟩
  unfold Reader.take at read
  split at read <;> cases read

theorem not_faulty_byte {bytes : List UInt8} : ¬ Faulty Reader.byte bytes := by
  rintro ⟨fault, rest, read⟩
  unfold Reader.byte at read
  split at read <;> cases read

/-- A text comes first, and others follow it. -/
theorem text_bind_ok_iff {next : String → Reader α} {bytes rest : List UInt8} {value : α} :
    (Reader.text >>= next) bytes = .ok value rest ↔
      ∃ text front more, Terminated text front ∧ bytes = front ++ more ∧
        next text more = .ok value rest := by
  constructor
  · intro read
    obtain ⟨text, more, first, others⟩ := bind_ok_inv read
    obtain ⟨front, terminated, same⟩ := text_ok_iff.mp first
    exact ⟨text, front, more, terminated, same, others⟩
  · rintro ⟨text, front, more, terminated, same, read⟩
    rw [bind_ok (text_ok_iff.mpr ⟨front, terminated, same⟩)]
    exact read

theorem faulty_int32_bind {next : Int32 → Reader α} {bytes : List UInt8} :
    Faulty (Reader.int32 >>= next) bytes ↔
      ∃ number more, bytes = int32 number ++ more ∧ Faulty (next number) more := by
  simp only [faulty_bind, not_faulty_int32, false_or, int32_ok_iff]

theorem faulty_text_bind {next : String → Reader α} {bytes : List UInt8} :
    Faulty (Reader.text >>= next) bytes ↔ Unreadable bytes ∨
      ∃ text front more, Terminated text front ∧ bytes = front ++ more ∧ Faulty (next text) more := by
  rw [faulty_bind, faulty_text]
  refine or_congr_right ⟨?_, ?_⟩
  · rintro ⟨text, more, first, faulty⟩
    obtain ⟨front, terminated, same⟩ := text_ok_iff.mp first
    exact ⟨text, front, more, terminated, same, faulty⟩
  · rintro ⟨text, front, more, terminated, same, faulty⟩
    exact ⟨text, more, text_ok_iff.mpr ⟨front, terminated, same⟩, faulty⟩

/-- Codes other than zero, each with a text behind it. -/
inductive Entries : List (UInt8 × String) → List UInt8 → Prop
  | nil : Entries [] []
  | cons {code : UInt8} {text : String} {front more : List UInt8} {pairs : List (UInt8 × String)}
    (nonzero : code ≠ 0) (terminated : Terminated text front) (others : Entries pairs more) :
    Entries ((code, text) :: pairs) (code :: (front ++ more))

/-- Entries and a zero code behind them. What a code means is what the last entry says that has it. -/
def Listing (fields : Fields) (bytes : List UInt8) : Prop :=
  ∃ pairs front, Entries pairs front ∧ bytes = front ++ [0] ∧
    ∀ code, fields.find? code = pairs.reverse.lookup code

def insertAll (fields : Fields) (pairs : List (UInt8 × String)) : Fields :=
  pairs.foldl (fun fields pair => fields.insert pair.1 pair.2) fields

private theorem find?_insertAll (fields : Fields) (pairs : List (UInt8 × String)) (code : UInt8) :
    (insertAll fields pairs).find? code = (pairs.reverse.lookup code).or (fields.find? code) := by
  induction pairs generalizing fields with
  | nil => rfl
  | cons pair pairs ih =>
    rw [insertAll, List.foldl_cons, ← insertAll, ih, Fields.find?_insert, List.reverse_cons,
      List.lookup_append, Option.or_assoc, List.lookup_cons, List.lookup_nil]
    by_cases same : code = pair.1
    · simp [same]
    · simp [same, beq_false_of_ne same]

/-- Below the first code there is none. -/
private theorem lookup_below {code : UInt8} {entries : List (UInt8 × String)}
    (above : ∀ entry ∈ entries, code < entry.1) : entries.lookup code = none := by
  refine List.lookup_eq_none_iff.mpr fun entry member => ?_
  exact bne_iff_ne.mpr (UInt8.ne_of_lt (above entry member))

private theorem not_below {entry : UInt8 × String} {entries others : List (UInt8 × String)}
    (same : ∀ code, (entry :: entries).lookup code = others.lookup code) :
    ¬ ∀ other ∈ others, entry.1 < other.1 := by
  intro above
  have found := same entry.1
  rw [List.lookup_cons_self, lookup_below above] at found
  cases found

/-- Since their codes increase, there is only one list of entries with these meanings. -/
private theorem sorted_ext {entries others : List (UInt8 × String)}
    (sorted : entries.Pairwise (·.1 < ·.1)) (sorted' : others.Pairwise (·.1 < ·.1))
    (same : ∀ code, entries.lookup code = others.lookup code) : entries = others := by
  induction entries generalizing others with
  | nil =>
    cases others with
    | nil => rfl
    | cons other others => exact absurd nofun (not_below fun code => (same code).symm)
  | cons entry entries ih =>
    cases others with
    | nil => exact absurd nofun (not_below same)
    | cons other others =>
      obtain ⟨least, tail⟩ := List.pairwise_cons.mp sorted
      obtain ⟨least', tail'⟩ := List.pairwise_cons.mp sorted'
      have code : entry.1 = other.1 := by
        refine UInt8.le_antisymm (UInt8.not_lt.mp fun more => ?_) (UInt8.not_lt.mp fun less => ?_)
        · exact not_below (fun code => (same code).symm) (List.forall_mem_cons.mpr
            ⟨more, fun later member => UInt8.lt_trans more (least later member)⟩)
        · exact not_below same (List.forall_mem_cons.mpr
            ⟨less, fun later member => UInt8.lt_trans less (least' later member)⟩)
      have text : entry.2 = other.2 := by
        have found := same entry.1
        rw [List.lookup_cons_self, code, List.lookup_cons_self] at found
        exact Option.some.inj found
      have rest : ∀ code, entries.lookup code = others.lookup code := by
        intro wanted
        by_cases first : wanted = entry.1
        · rw [first, lookup_below least, code, lookup_below least']
        · have found := same wanted
          rwa [List.lookup_cons, List.lookup_cons, ← code, beq_false_of_ne first] at found
      rw [Prod.ext code text, ih tail tail' rest]

private theorem Fields.ext_find? {fields others : Fields}
    (same : ∀ code, fields.find? code = others.find? code) : fields = others := by
  obtain ⟨entries, sorted⟩ := fields
  obtain ⟨entries', sorted'⟩ := others
  cases sorted_ext sorted sorted' same
  rfl

theorem listing_insertAll {pairs : List (UInt8 × String)} {front : List UInt8}
    (entries : Entries pairs front) : Listing (insertAll .empty pairs) (front ++ [0]) :=
  ⟨pairs, front, entries, rfl, fun code => (find?_insertAll .empty pairs code).trans Option.or_none⟩

theorem Listing.insertAll {fields : Fields} {bytes : List UInt8} (listing : Listing fields bytes) :
    ∃ pairs front, Entries pairs front ∧ bytes = front ++ [0] ∧
      fields = Proofs.insertAll .empty pairs := by
  obtain ⟨pairs, front, entries, same, found⟩ := listing
  refine ⟨pairs, front, entries, same, Fields.ext_find? fun code => ?_⟩
  rw [found, find?_insertAll]
  exact Option.or_none.symm

private theorem fieldsAfter_zero (fields : Fields) (bytes : List UInt8) :
    Reader.fieldsAfter fields (0 :: bytes) = .ok fields bytes := by
  rw [Reader.fieldsAfter, if_pos rfl]

private theorem fieldsAfter_cons (fields : Fields) {code : UInt8} (nonzero : code ≠ 0)
    (bytes : List UInt8) : Reader.fieldsAfter fields (code :: bytes) =
      (Reader.text >>= fun text => Reader.fieldsAfter (fields.insert code text)) bytes := by
  rw [Reader.fieldsAfter, if_neg nonzero]
  cases read : Reader.text bytes with
  | ok text rest => rw [bind_ok read]
  | error error rest => rw [bind_error read]

theorem fieldsAfter_ok_iff {fields result : Fields} {bytes rest : List UInt8} :
    Reader.fieldsAfter fields bytes = .ok result rest ↔
      ∃ pairs front, Entries pairs front ∧ bytes = front ++ 0 :: rest ∧
        result = insertAll fields pairs := by
  constructor
  · intro read
    fun_induction Reader.fieldsAfter fields bytes with
    | case1 => cases read
    | case2 fields rest =>
      cases read
      exact ⟨[], [], .nil, rfl, rfl⟩
    | case3 fields code rest nonzero text remaining first ih =>
      obtain ⟨front, terminated, rfl⟩ := text_ok_iff.mp first
      obtain ⟨pairs, more, entries, rfl, rfl⟩ := ih read
      refine ⟨(code, text) :: pairs, _, .cons nonzero terminated entries, ?_, rfl⟩
      rw [List.cons_append, List.append_assoc]
    | case4 => cases read
  · rintro ⟨pairs, front, entries, rfl, rfl⟩
    induction entries generalizing fields with
    | nil => exact fieldsAfter_zero fields rest
    | cons nonzero terminated others ih =>
      rw [List.cons_append, List.append_assoc, fieldsAfter_cons fields nonzero]
      exact text_bind_ok_iff.mpr ⟨_, _, _, terminated, rfl, ih⟩

theorem faulty_fieldsAfter {fields : Fields} {bytes : List UInt8} :
    Faulty (Reader.fieldsAfter fields) bytes ↔
      ∃ pairs front code more, Entries pairs front ∧ code ≠ 0 ∧ bytes = front ++ code :: more ∧
        Unreadable more := by
  constructor
  · rintro ⟨fault, left, read⟩
    fun_induction Reader.fieldsAfter fields bytes with
    | case1 => cases read
    | case2 => cases read
    | case3 fields code rest nonzero text remaining first ih =>
      obtain ⟨front, terminated, rfl⟩ := text_ok_iff.mp first
      obtain ⟨pairs, others, next, more, entries, nonzero', rfl, unreadable⟩ := ih read
      refine ⟨(code, text) :: pairs, _, next, more, .cons nonzero terminated entries, nonzero', ?_,
        unreadable⟩
      rw [List.cons_append, List.append_assoc]
    | case4 fields code rest nonzero error remaining first =>
      cases read
      exact ⟨[], [], code, rest, .nil, nonzero, rfl, faulty_text.mp ⟨fault, left, first⟩⟩
  · rintro ⟨pairs, front, code, more, entries, nonzero, rfl, unreadable⟩
    unfold Faulty
    induction entries generalizing fields with
    | nil =>
      rw [List.nil_append, fieldsAfter_cons fields nonzero]
      exact faulty_text_bind.mpr (.inl unreadable)
    | cons earlier terminated others ih =>
      rw [List.cons_append, List.append_assoc, fieldsAfter_cons fields earlier]
      exact faulty_text_bind.mpr (.inr ⟨_, _, _, terminated, rfl, ih⟩)

end PgSession.Proofs

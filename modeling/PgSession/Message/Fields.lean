/-!
The fields of a notice: texts identified by one-byte codes, in any order and at most one for each
code. They are kept in increasing order of their codes, so two equal maps are the same list.
-/

namespace PgSession

def Fields.place (code : UInt8) (text : String) : List (UInt8 × String) → List (UInt8 × String)
  | [] => [(code, text)]
  | entry :: rest =>
    if code < entry.1 then (code, text) :: entry :: rest
    else if code = entry.1 then (code, text) :: rest
    else entry :: Fields.place code text rest

theorem Fields.mem_place {code : UInt8} {text : String} {entries : List (UInt8 × String)}
    {entry : UInt8 × String} (member : entry ∈ Fields.place code text entries) :
    entry = (code, text) ∨ entry ∈ entries := by
  induction entries with
  | nil => simpa [Fields.place] using member
  | cons head rest ih =>
    simp only [Fields.place] at member
    split at member
    · simpa using member
    · split at member
      · rcases List.mem_cons.mp member with same | old
        · exact .inl same
        · exact .inr (List.mem_cons_of_mem _ old)
      · rcases List.mem_cons.mp member with same | old
        · exact .inr (by simp [same])
        · exact (ih old).imp id (List.mem_cons_of_mem _)

theorem Fields.place_sorted (code : UInt8) (text : String) {entries : List (UInt8 × String)}
    (sorted : entries.Pairwise (·.1 < ·.1)) :
    (Fields.place code text entries).Pairwise (·.1 < ·.1) := by
  induction entries with
  | nil => simp [Fields.place]
  | cons head rest ih =>
    obtain ⟨above, tail⟩ := List.pairwise_cons.mp sorted
    simp only [Fields.place]
    split
    · next lower =>
      refine List.pairwise_cons.mpr ⟨?_, sorted⟩
      intro entry member
      rcases List.mem_cons.mp member with same | old
      · simpa [same] using lower
      · exact UInt8.lt_trans lower (above entry old)
    · split
      · next equal =>
        exact List.pairwise_cons.mpr ⟨fun entry member => equal ▸ above entry member, tail⟩
      · next notLower different =>
        refine List.pairwise_cons.mpr ⟨?_, ih tail⟩
        intro entry member
        rcases Fields.mem_place member with same | old
        · rw [same]
          exact UInt8.lt_of_le_of_ne (UInt8.not_lt.mp notLower) (Ne.symm different)
        · exact above entry old

structure Fields where
  entries : List (UInt8 × String)
  sorted : entries.Pairwise (·.1 < ·.1) := by decide
deriving DecidableEq

namespace Fields

def empty : Fields := ⟨[], .nil⟩

/-- A later text takes the place of an earlier one with the same code. -/
def insert (fields : Fields) (code : UInt8) (text : String) : Fields :=
  ⟨place code text fields.entries, place_sorted code text fields.sorted⟩

def ofList (pairs : List (UInt8 × String)) : Fields :=
  pairs.foldl (fun fields pair => fields.insert pair.1 pair.2) empty

def find? (fields : Fields) (code : UInt8) : Option String := fields.entries.lookup code

private theorem lookup_place (code other : UInt8) (text : String)
    (entries : List (UInt8 × String)) :
    (place code text entries).lookup other =
      if other = code then some text else entries.lookup other := by
  induction entries with
  | nil => grind [place]
  | cons head rest ih => grind [place]

theorem find?_insert (fields : Fields) (code other : UInt8) (text : String) :
    (fields.insert code text).find? other =
      if other = code then some text else fields.find? other :=
  lookup_place code other text fields.entries

end Fields

end PgSession

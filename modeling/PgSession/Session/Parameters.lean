/-! The settings a server reports while a session lasts: the last value of each name counts. -/

namespace PgSession

structure Parameters where
  entries : List (String × String)
deriving DecidableEq

namespace Parameters

def empty : Parameters := ⟨[]⟩

def replace (name value : String) : List (String × String) → List (String × String)
  | [] => [(name, value)]
  | entry :: rest =>
    if entry.1 = name then (name, value) :: rest else entry :: replace name value rest

def set (parameters : Parameters) (name value : String) : Parameters :=
  ⟨replace name value parameters.entries⟩

def find? (parameters : Parameters) (name : String) : Option String :=
  parameters.entries.lookup name

private theorem lookup_replace (name other value : String) (entries : List (String × String)) :
    (replace name value entries).lookup other =
      if other = name then some value else entries.lookup other := by
  induction entries with
  | nil => grind [replace]
  | cons entry rest ih => grind [replace]

theorem find?_set (parameters : Parameters) (name other value : String) :
    (parameters.set name value).find? other =
      if other = name then some value else parameters.find? other :=
  lookup_replace name other value parameters.entries

end Parameters

end PgSession

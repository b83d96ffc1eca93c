/-! Splitting text at separators. Both halves leave the separator out, and no split means that it
does not occur. -/

namespace PgSession.Text

/-- At the first occurrence. -/
def splitFirst (separator : Char) : List Char → Option (List Char × List Char)
  | [] => none
  | char :: rest =>
    if char = separator then some ([], rest)
    else (splitFirst separator rest).map fun (before, after) => (char :: before, after)

/-- At the last occurrence. -/
def splitLast (separator : Char) : List Char → Option (List Char × List Char)
  | [] => none
  | char :: rest =>
    match splitLast separator rest with
    | some (before, after) => some (char :: before, after)
    | none => if char = separator then some ([], rest) else none

/-- At the first occurrence of a whole text. -/
def splitAtText (separator : List Char) : List Char → Option (List Char × List Char)
  | [] => if separator.isEmpty then some ([], []) else none
  | char :: rest =>
    if separator.isPrefixOf (char :: rest) then some ([], (char :: rest).drop separator.length)
    else (splitAtText separator rest).map fun (before, after) => (char :: before, after)

/-- The pieces between all occurrences; there is one more of them than separators. -/
def splitAll (separator : Char) : List Char → List (List Char)
  | [] => [[]]
  | char :: rest =>
    if char = separator then [] :: splitAll separator rest
    else match splitAll separator rest with
      | [] => [[char]]
      | piece :: pieces => (char :: piece) :: pieces

def occurs (part : List Char) : List Char → Bool
  | [] => part.isEmpty
  | char :: rest => part.isPrefixOf (char :: rest) || occurs part rest

end PgSession.Text

import PgSession.Config.Endpoint
import PgSession.Text.Utf8

/-!
Where the path of a unix socket leads. A place has one directory of interest, the directories it
lies in, and at most one file: the socket somebody listens on.
-/

namespace PgSession.Network

structure Place where
  /-- The names on the way from the root to the directory. -/
  directory : List (List Char)
  socket : Option (List Char)
deriving DecidableEq

def notFound : IoError := ⟨.notFound, "No such file or directory (os error 2)"⟩

def notADirectory : IoError := ⟨.notADirectory, "Not a directory (os error 20)"⟩

def refused : IoError := ⟨.connectionRefused, "Connection refused (os error 111)"⟩

def zeroInPath : IoError := ⟨.invalidInput, "paths must not contain interior null bytes"⟩

def pathTooLong : IoError := ⟨.invalidInput, "path must be shorter than SUN_LEN"⟩

namespace Place

/-- Goes on from a directory, name by name. A path that ends at a directory has nobody listening
there, and the socket is no directory to go through. -/
def walk (place : Place) (here : List (List Char)) : List (List Char) → Except IoError Unit
  | [] => .error refused
  | name :: rest =>
    if name = [] ∨ name = ['.'] then place.walk here rest
    else if name = ['.', '.'] then place.walk here.dropLast rest
    else if here = place.directory ∧ place.socket = some name then
      if rest.isEmpty then .ok () else .error notADirectory
    else if (here ++ [name]).isPrefixOf place.directory then place.walk (here ++ [name]) rest
    else .error notFound

/-- The bytes an address has room for, the zero byte at the end of the path included. -/
def addressSize : Nat := 108

/-- Succeeds exactly at the socket. A path that is no address fails before it is looked up. -/
def reach (place : Place) (path : String) : Except IoError Unit :=
  if '\x00' ∈ path.toList then .error zeroInPath
  else if addressSize ≤ (Text.utf8 path).length then .error pathTooLong
  else place.walk [] (Text.splitAll '/' path.toList)

end Place

end PgSession.Network

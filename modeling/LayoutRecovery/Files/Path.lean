import LayoutRecovery.Files.Error

/-!
# Paths

The text of a path, and the places that its names lead through: empty names and `.` stay where they
are, and `..` goes up, also beyond the working directory.
-/

namespace LayoutRecovery

/-- A place: the names that lead to it from the working directory, the last one first. -/
abbrev Location := List String

namespace Location

/-- The name under which the root of absolute paths is known. -/
def rootName : String := "/"

/-- Whether a name leads out of the working directory. -/
def leadsOut (name : String) : Bool :=
  name == ".." || name == rootName

/-- The place that holds a place. -/
def parent : Location → Location
  | [] => [".."]
  | name :: outer =>
      if name = rootName then name :: outer
      else if name = ".." then ".." :: name :: outer
      else outer

/-- Whether a place lies below the working directory. -/
def isInside (location : Location) : Bool :=
  location.all fun name => !leadsOut name

end Location

namespace FilePath

/-- How many bytes a path may have. -/
def maximumLength : Nat := 4095

/-- How many bytes a name in a path may have. -/
def maximumNameLength : Nat := 255

/-- Why a path cannot be followed at all, whatever the files are. -/
def fault? (path : String) : Option FileError :=
  if path.toList.contains '\x00' then some .zeroByte
  else if path.isEmpty then some .notFound
  else if maximumLength < path.utf8ByteSize then some .nameTooLong
  else none

/-- The place from which a path is followed. -/
def base (path : String) : Location :=
  if path.toList.head? = some '/' then [Location.rootName] else []

/-- The names of a path, with an empty one wherever two slashes meet or one ends the path. -/
def names (path : String) : List String :=
  (path.toList.splitOn '/').map String.ofList

/-- The names of a path without empty ones, and without `.` except at its start. -/
def components (path : String) : List String :=
  match names path with
  | [] => []
  | first :: rest =>
      (if first = "" then [] else [first])
        ++ rest.filter fun name => name != "" && name != "."

/--
Names, last to first, without those at the end of the path that stay where they are.  The name that
the path starts with is kept.
-/
def dropIdle : List String → List String
  | name :: next :: outer =>
      if name = "" ∨ name = "." then dropIdle (next :: outer) else name :: next :: outer
  | names => names

/--
The path of the directory that holds what a path leads to, if the path names one.  It is the text of
the path as it stands, up to the last name of the directory.
-/
def directory? (path : String) : Option String :=
  match (dropIdle (names path).reverse).drop 1 with
  | [] => none
  | above =>
      let text := "/".intercalate (dropIdle above).reverse
      some (if text.isEmpty then "/" else text)

end FilePath
end LayoutRecovery

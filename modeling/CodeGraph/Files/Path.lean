/-!
# Paths

A path is a sequence of names, from the root or from the current directory.
Empty names and the name of the current directory are dropped when a path is
read from text.  A path that starts with exactly two slashes keeps both of them,
although they lead to the same root.
-/

namespace CodeGraph.Files

/-- A way to a file or directory. -/
structure Path where
  absolute : Bool := false
  /-- The root is written with two slashes. -/
  doubled : Bool := false
  names : List String := []
  deriving DecidableEq, Repr, Inhabited

namespace Path

/-- Takes a text apart at slashes. -/
def splitNames : List Char → List (List Char)
  | [] => [[]]
  | character :: rest =>
      match splitNames rest with
      | [] => [[]]
      | name :: names =>
          if character = '/' then [] :: name :: names else (character :: name) :: names

/-- The path of a text with all its names but empty ones.  A slash at the end asks
for a directory, so it counts as the name of the current one. -/
def literal (text : String) : Path :=
  let characters := text.toList
  let slashes := (characters.takeWhile (· == '/')).length
  let names := ((splitNames characters).map String.ofList).filter (· != "")
  let final := if characters.getLast? = some '/' then ["."] else []
  { absolute := slashes ≠ 0, doubled := slashes = 2, names := names ++ final }

/-- Reads a path from text. -/
def ofString (text : String) : Path :=
  let path := literal text
  { path with names := path.names.filter (· != ".") }

/-- The text of a path; the current directory is a dot. -/
def toString (path : Path) : String :=
  let joined := "/".intercalate path.names
  if path.doubled then s!"//{joined}"
  else if path.absolute then s!"/{joined}"
  else if path.names.isEmpty then "."
  else joined

/-- The last name of a path. -/
def name (path : Path) : String := path.names.getLast?.getD ""

/-- The same place with another last name. -/
def withName (path : Path) (name : String) : Path :=
  { path with names := path.names.dropLast ++ [name] }

/-- A path below another one. -/
def append (directory path : Path) : Path :=
  if path.absolute then path else { directory with names := directory.names ++ path.names }

end Path

end CodeGraph.Files

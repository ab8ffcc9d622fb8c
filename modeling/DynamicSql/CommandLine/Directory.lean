import DynamicSql.CommandLine.Run

/-!
# A directory of files

Files by name, read by paths relative to the directory that holds them.
-/

namespace DynamicSql.CommandLine

/-- Whether a path segment leads from a directory to a directory. -/
def isDirectorySegment (segment : List Char) : Bool :=
  segment == [] || segment == ['.'] || segment == ['.', '.']

/-- Whether a path segment stays in its directory. -/
def staysInPlace (segment : List Char) : Bool := segment == [] || segment == ['.']

/-- What is said about a path that leads to no file. -/
def notFound : String := "No such file or directory (os error 2)"

/-- What is said about a path that goes on behind a file. -/
def notDirectory : String := "Not a directory (os error 20)"

/-- What is said about a path to a directory. -/
def isDirectory : String := "Is a directory (os error 21)"

/-- Read a file of a directory.  A path from the root leads outside of it. -/
def readIn (directory : List (String × String)) (path : String) : Except String String :=
  let segments := path.toList.splitOn '/'
  if segments.all isDirectorySegment then .error isDirectory
  else if path.toList.head? = some '/' then .error notFound
  else
    match segments.dropWhile staysInPlace with
    | [] => .error isDirectory
    | name :: rest =>
      match directory.lookup (String.ofList name), rest with
      | some content, [] => .ok content
      | some _, _ :: _ => .error notDirectory
      | none, _ => .error notFound

end DynamicSql.CommandLine

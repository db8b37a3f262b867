/-!
# Paths

A path names files and directories from the working directory on, with slashes between the names. A dot
is the directory itself and two dots are the one around it.
-/

namespace Waymark.Path

/-- Whether a path does not begin at the working directory. -/
def isAbsolute (path : String) : Bool :=
  path.toList.head? = some '/'

/-- Whether a path ends with a slash, and thus names a directory. -/
def endsWithSlash (path : String) : Bool :=
  path.toList.getLast? = some '/'

/-- The names in a path. -/
def names (path : String) : List String :=
  ((path.toList.splitOn '/').filter (!·.isEmpty)).map String.ofList

/-- The names in a path, less the dots that change nothing. -/
def components (path : String) : List String :=
  match names path with
  | [] => []
  | name :: more =>
    (if name = "." && isAbsolute path then [] else [name]) ++ more.filter (· ≠ ".")

/-- The path of a name in a directory. An absolute name is a path of its own. -/
def join (directory name : String) : String :=
  if isAbsolute name then name
  else if directory.isEmpty || endsWithSlash directory then directory ++ name
  else directory ++ "/" ++ name

end Waymark.Path

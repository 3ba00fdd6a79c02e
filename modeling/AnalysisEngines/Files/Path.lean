/-!
Paths with `/` between their parts.

`normalize` drops empty and `.` parts and keeps `..`, so that a path names the same file whatever
directories are in between.
-/

set_option autoImplicit false

namespace AnalysisEngines.Path

def isAbsolute (path : String) : Bool := path.startsWith "/"

def parts (path : String) : List String :=
  ((path.toList.splitOn '/').map String.ofList).filter fun part => part != "" && part != "."

/-- What stands before the parts of an absolute path: exactly two slashes are kept as two. -/
def root (path : String) : String :=
  if path.startsWith "//" && !path.startsWith "///" then "//"
  else if isAbsolute path then "/"
  else ""

def normalize (path : String) : String :=
  let body := root path ++ "/".intercalate (parts path)
  if body = "" then "." else body

end AnalysisEngines.Path

/-!
# Path names

A path is compared by its components: repeated slashes and slashes at the end do not count, and
neither does a dot that is not the first component. Names of parent directories are kept as they
stand.

* `PathName.components`: the components of a path.
* `PathName.fileName?`, `PathName.extension?`: the last component, if it is a name, and the part of
  it behind its last dot.
-/

namespace Georef

/-- A step of a path. -/
inductive PathStep where
  | root
  | current
  | parent
  | name (text : String)
  deriving DecidableEq, Repr

/-- The pieces of a text between separators. -/
def splitOn (separator : Char) : List Char → List (List Char)
  | [] => [[]]
  | c :: rest =>
    let pieces := splitOn separator rest
    if c = separator then [] :: pieces
    else
      match pieces with
      | [] => [[c]]
      | piece :: others => (c :: piece) :: others

namespace PathName

/-- The steps of the pieces of a path behind its first one. -/
def laterSteps (pieces : List (List Char)) : List PathStep :=
  pieces.filterMap fun piece =>
    if piece = [] ∨ piece = ['.'] then none
    else if piece = ['.', '.'] then some .parent
    else some (.name (String.ofList piece))

/-- The components of a path. -/
def components (path : String) : List PathStep :=
  match splitOn '/' path.toList with
  | [] => []
  | first :: rest =>
    -- an empty first piece means a slash in front, unless the whole path is empty
    if first = [] then (if rest.isEmpty then [] else .root :: laterSteps rest)
    else if first = ['.'] then .current :: laterSteps rest
    else laterSteps (first :: rest)

/-- The name of the file that a path leads to. -/
def fileName? (path : String) : Option String :=
  match (components path).getLast? with
  | some (.name text) => some text
  | _ => none

/-- The part of a file name behind its last dot; a dot at the start does not count. -/
def extension? (path : String) : Option String := do
  let name ← fileName? path
  -- seen from the end, the extension comes first and the dot behind it
  let reversed := name.toList.reverse
  let tail := reversed.takeWhile (· != '.')
  match reversed.dropWhile (· != '.') with
  | _ :: _ :: _ => some (String.ofList tail.reverse)
  | _ => none

/-- The name under which a file is reported. -/
def displayName (path : String) : String :=
  (fileName? path).getD path

end PathName

end Georef

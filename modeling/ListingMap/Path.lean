/-!
# Source paths

Source paths are compared the way a Unix file system reads them: as a list of components.
Separators are `/`; repeated separators, a trailing separator and `.` components inside the
path mean nothing. A leading `/` is the root component and a leading `./` the current-directory
component. `..` is the parent component. Every other piece is a name, and `\` is an ordinary
character of a name.

Components order as root, current directory, parent, then names, and names by their
characters; paths order lexicographically by their components. So `a/b` comes before `a.b`,
and `a/b`, `a//b`, `a/./b` and `a/b/` are all the same path.

Lookups by path use a different, plainer key: the text with every `\` turned into `/`, and no
other change (`separatorKey`).
-/

namespace ListingMap

/-- One component of a path. -/
inductive PathComponent where
  /-- The root, written as a leading `/`. -/
  | root
  /-- The current directory, kept only at the start of a path. -/
  | current
  /-- The parent directory, written `..`. -/
  | parent
  /-- A name. -/
  | name (text : String)
deriving Repr, DecidableEq, Inhabited

namespace PathComponent

/-- The rank of a component's kind: root, current, parent, name. -/
def rank : PathComponent → Nat
  | root => 0
  | current => 1
  | parent => 2
  | name _ => 3

/-- Components order by kind, and names by their characters. -/
def compare : PathComponent → PathComponent → Ordering
  | name first, name second => Ord.compare first second
  | first, second => Ord.compare first.rank second.rank

end PathComponent

namespace Path

/-- The components of a path. -/
def components (path : String) : List PathComponent :=
  let lead : List PathComponent :=
    if path.startsWith "/" then [.root]
    else if path == "." || path.startsWith "./" then [.current]
    else []
  lead ++ (path.splitOn "/").filterMap fun piece =>
    if piece.isEmpty || piece == "." then none
    else if piece == ".." then some .parent
    else some (.name piece)

/-- Lexicographic order of component lists. -/
def compareComponents : List PathComponent → List PathComponent → Ordering
  | [], [] => .eq
  | [], _ :: _ => .lt
  | _ :: _, [] => .gt
  | first :: firstRest, second :: secondRest =>
      (first.compare second).then (compareComponents firstRest secondRest)

/-- Paths order by their components. -/
def compare (first second : String) : Ordering :=
  compareComponents (components first) (components second)

/-- The last component when it is a name. -/
def fileName (path : String) : Option String :=
  match (components path).getLast? with
  | some (.name text) => some text
  | _ => none

/-- A file name without its extension: everything before the last `.`, unless that dot is the
first character or there is none, when the whole name is the stem. -/
def stemOf (fileName : String) : String :=
  match (fileName.toList.reverse.dropWhile (· != '.')).reverse with
  | [] => fileName
  | [_] => fileName
  | beforeLastDot => String.ofList beforeLastDot.dropLast

/-- The stem of a path's file name, if the path ends in a name. -/
def fileStem (path : String) : Option String := (fileName path).map stemOf

/-- The key lookups by path use: the text with every `\` written as `/`. -/
def separatorKey (path : String) : String :=
  path.map fun c => if c == '\\' then '/' else c

end Path

end ListingMap

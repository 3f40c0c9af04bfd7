import DatasetLint.Text.Pieces

/-!
# Paths

A path is a text whose parts slashes separate. A slash at the front makes it absolute. Repeated slashes,
a slash at the end and points between parts do not change what `Path.parts` gives.
-/

namespace DatasetLint.Files

/-- A part of a path. -/
inductive Part where
  | root
  | here
  | up
  | name (text : String)
deriving DecidableEq, Repr

namespace Part

def text : Part → String
  | root => "/"
  | here => "."
  | up => ".."
  | name t => t

/-- The part that a piece between slashes is. -/
def ofPiece (cs : List Char) : Part :=
  if cs = ['.'] then here else if cs = ['.', '.'] then up else name (String.ofList cs)

end Part

namespace Path

def isAbsolute (p : String) : Bool := p.toList.head? == some '/'

def endsWithSlash (p : String) : Bool := p.toList.getLast? == some '/'

/-- A path from another one on; an absolute path does not need the other one. -/
def join (base p : String) : String :=
  if isAbsolute p then p
  else if base.isEmpty || endsWithSlash base then base ++ p
  else base ++ "/" ++ p

/-- What one walks through from the start of a path, or from the root if it is absolute. A slash at
the end asks for a directory, as a point there does. -/
def steps (p : String) : List Part :=
  let cs := p.toList
  let named := ((Text.pieces (· == '/') cs).filter (!·.isEmpty)).map Part.ofPiece
  if !named.isEmpty && cs.getLast? == some '/' then named ++ [.here] else named

/-- The parts of a path: points count only at the front of a relative path. -/
def parts (p : String) : List Part :=
  let ss := steps p
  let front : List Part :=
    if isAbsolute p then [.root] else if ss.head? = some .here then [.here] else []
  front ++ ss.filter (· ≠ .here)

/-- A path with the given parts. -/
def ofParts (ps : List Part) : String := ps.foldl (fun p x => join p x.text) ""

/-- The path without its last part; a root and an empty path have none. -/
def parent? (p : String) : Option String :=
  match (parts p).getLast? with
  | none | some .root => none
  | some _ => some (ofParts (parts p).dropLast)

/-- What follows the last point of a file name, if the point is not its first character. -/
def extension? (name : String) : Option String :=
  let cs := name.toList.reverse
  let e := cs.takeWhile (· != '.')
  match cs.drop e.length with
  | [] | [_] => none
  | _ => some (String.ofList e.reverse)

/-- The absolute form of a path in a directory: no points and no repeated slashes, except that two
slashes at the front and one at the end stay. An empty path has none. -/
def absolute? (directory p : String) : Option String :=
  if p.isEmpty then none
  else
    let ps := parts p
    let front :=
      if !isAbsolute p then directory
      else if Text.startsWith "//" p && !Text.startsWith "///" p then "//"
      else "/"
    let path := (ps.filter fun x => x ≠ .root ∧ x ≠ .here).foldl (fun q x => join q x.text) front
    some (if endsWithSlash p then join path "" else path)

/-- What a resource is called: its path from a root on, or the whole path if it is not below
the root. -/
def nameBelow (root p : String) : String :=
  let rs := parts root
  let ps := parts p
  Text.intercalate "/" ((if rs.isPrefixOf ps then ps.drop rs.length else ps).map Part.text)

end Path

end DatasetLint.Files

/-!
# File trees

A file tree in memory. A path is looked up from a working folder one part at a time, and whatever
has a part after it has to be a folder.
-/

namespace MarketChart

/-- A file or a folder. -/
inductive FileEntry where
  /-- A file with its text, `none` if its bytes are not the encoding of one. -/
  | file (text : Option String)
  | folder
deriving DecidableEq, Inhabited

/-- A file tree, as a list of places with what stands there. The folders on the way to a place
are there as well. -/
structure FileTree where
  entries : List (List String × FileEntry) := []
deriving Inhabited

namespace FileTree

/-- What stands at a place. -/
def entryAt? (t : FileTree) (place : List String) : Option FileEntry :=
  match t.entries.lookup place with
  | some e => some e
  | none =>
    if place.isEmpty || t.entries.any fun e => place.isPrefixOf e.1 then some .folder else none

/-- The place that a part of a path leads to: a name goes down, two dots go up, and one dot or
nothing stays. -/
def step (place : List String) (part : String) : List String :=
  if part = "" ∨ part = "." then place
  else if part = ".." then place.dropLast
  else place ++ [part]

/-- Follows the parts of a path; every part starts from a folder. -/
def follow (t : FileTree) : List String → List String → Option (List String)
  | place, [] => some place
  | place, part :: rest =>
    if t.entryAt? place = some .folder then t.follow (step place part) rest else none

/-- The folder that a path starts from: an absolute path starts from the root. -/
def base (here : List String) (path : String) : List String :=
  if path.startsWith "/" then [] else here

/-- The place of a path by its parts alone. -/
def placeOf (here : List String) (path : String) : List String :=
  (path.splitOn "/").foldl step (base here path)

/-- What stands under a path, seen from a folder. -/
def find? (t : FileTree) (here : List String) (path : String) : Option FileEntry :=
  if path.isEmpty then none
  else (t.follow (base here path) (path.splitOn "/")).bind t.entryAt?

/-- The text of a file. -/
def read? (t : FileTree) (here : List String) (path : String) : Option String :=
  match t.find? here path with
  | some (.file text) => text
  | _ => none

/-- Something stands under a path. -/
def isThere (t : FileTree) (here : List String) (path : String) : Bool := (t.find? here path).isSome

/-- A folder can be made under a path: no file is in the way. -/
def canMakeFolder (t : FileTree) (here : List String) (path : String) : Bool :=
  t.entries.all fun e =>
    match e.2 with
    | .file _ => !e.1.isPrefixOf (placeOf here path)
    | .folder => true

/-- The tree with something put at a place, or taken away from it. -/
def put (t : FileTree) (place : List String) (e : Option FileEntry) : FileTree :=
  let others := t.entries.filter (·.1 ≠ place)
  match e with
  | none => ⟨others⟩
  | some e => ⟨(place, e) :: others⟩

end FileTree

end MarketChart

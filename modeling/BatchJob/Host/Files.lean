import BatchJob.Error.Input

set_option autoImplicit false

/-!
Directories and files held in memory, and the way in which a path leads to one of them.
-/

namespace BatchJob

inductive Node where
  | directory
  | file (bytes : List UInt8)
  deriving DecidableEq

/-- The nodes of a tree by the names that lead to them, and where relative paths start. -/
structure Files where
  nodes : List (List String × Node)
  start : List String

namespace Files

/--
A system that is empty but for a null device and a working directory, two levels below the root. No
path from the root can lead there, since the names between hold a slash.
-/
def empty : Files where
  nodes := [(["dev"], .directory), (["dev", "null"], .file []), (["/"], .directory),
    (["/", "/"], .directory), (["/", "/", "work"], .directory)]
  start := ["/", "/", "work"]

def node? (f : Files) (place : List String) : Option Node :=
  if place.isEmpty then some .directory else f.nodes.lookup place

/-- Adds a node and the directories above it, unless they are there. -/
def addAt (f : Files) (place : List String) (node : Node) : Files :=
  let above := ((List.range place.length).map place.take).filter fun p => (f.node? p).isNone
  { f with nodes := (place, node) :: above.map (·, Node.directory) ++ f.nodes }

/-- The segments of a path that lead somewhere. -/
def segments (path : String) : List String :=
  (path.toList.splitOn '/').map String.ofList

def add (f : Files) (path : String) (node : Node) : Files :=
  f.addAt (f.start ++ (segments path).filter fun s => s != "" && s != ".") node

/-- Follows one segment of a path; only a directory has anything in it. -/
def follow (f : Files) (place : List String) (segment : String) :
    Except InputFault (List String) :=
  if f.node? place ≠ some .directory then .error .notDirectory
  else if segment = "" ∨ segment = "." then .ok place
  else if segment = ".." then .ok place.dropLast
  else if 255 < segment.utf8ByteSize then .error .nameTooLong
  else if (f.node? (place ++ [segment])).isSome then .ok (place ++ [segment])
  else .error .notFound

def read (f : Files) (path : String) : Except InputFault (List UInt8) :=
  if path.toList.contains '\x00' then .error .nulInPath
  else if path.isEmpty then .error .notFound
  else if 4096 ≤ path.utf8ByteSize then .error .nameTooLong
  else do
    let start := if path.toList.head? = some '/' then [] else f.start
    let place ← (segments path).foldlM f.follow start
    match f.node? place with
    | some (.file bytes) => .ok bytes
    | some .directory => .error .isDirectory
    | none => .error .notFound

end Files

end BatchJob

import BatchJob.Storage.Path

set_option autoImplicit false

/-!
Specifiers name the inputs and outputs of a job. A specifier is a path, which may end in a pattern
for the contents of a directory, under the name of an environment variable.
-/

namespace BatchJob

/-- How much of a directory a path covers. -/
inductive Glob where
  /-- The path is a single object. -/
  | single
  /-- The path ends in `/*`: what lies directly in the directory. -/
  | flat
  /-- The path ends in `/**`: all that lies below the directory. -/
  | recursive
  deriving DecidableEq

namespace Glob

def ofPath (path : List Char) : Glob :=
  if ['/', '*', '*'].isSuffixOf path then recursive
  else if ['/', '*'].isSuffixOf path then flat
  else single

def isDirectory : Glob → Bool
  | single => false
  | flat | recursive => true

end Glob

/-- An input or output, and the variable that holds its staged path. -/
structure Specifier where
  name : String
  path : String
  deriving DecidableEq

namespace Specifier

/-- The specifier of an entry at a position; an entry without a name is named by its position. -/
def ofEntry? (standard : String) (position : Nat) (entry : String) : Option Specifier :=
  match Text.cut '=' entry.toList with
  | some (c :: name, path) => some ⟨String.ofList (c :: name), String.ofList path⟩
  | _ => if entry.isEmpty then none else some ⟨standard ++ toString position, entry⟩

/-- The specifiers of a list of entries. An empty entry is none, but counts as a position. -/
def parseList (standard : String) (entries : List String) : List Specifier :=
  entries.zipIdx.filterMap fun (entry, position) => ofEntry? standard position entry

def glob (s : Specifier) : Glob := .ofPath s.path.toList

/-- The path without its pattern; the slash before the pattern stays. -/
def base (s : Specifier) : List Char :=
  if s.glob.isDirectory then Text.dropEndWhile (· == '*') s.path.toList else s.path.toList

def bucket? (s : Specifier) : Option (List Char) := Path.bucket? s.path.toList

/-- The place below `root` that keeps the shape of the path. -/
def targetUnder (s : Specifier) (root : List Char) : List Char :=
  Path.join [root, Path.withoutScheme s.base]

end Specifier

end BatchJob

import BatchJob.Text.Words

set_option autoImplicit false

/-!
Paths with slashes between their segments, of files or of objects in a bucket. The path of an object
starts with a scheme and the name of the bucket, as in `gs://bucket/object`.
-/

namespace BatchJob.Path

/-- What stands between a scheme and a bucket. -/
def schemeMark : List Char := [':', '/', '/']

/-- The bucket of an object's path: what follows the scheme, up to the next slash. -/
def bucket? (path : List Char) : Option (List Char) :=
  match Text.cutAt schemeMark path with
  | none => none
  | some (scheme, rest) =>
    let bucket := rest.takeWhile (· != '/')
    if scheme.isEmpty || !scheme.all Char.isAlphanum || bucket.isEmpty then none else some bucket

def scheme? (path : List Char) : Option (List Char × List Char) :=
  if (bucket? path).isSome then Text.cutAt schemeMark path else none

/-- An object's path without its scheme, and any other path as it is. -/
def withoutScheme (path : List Char) : List Char :=
  match scheme? path with
  | some (_, rest) => rest
  | none => path

/--
Puts a segment on top of the segments before it, given in reverse. Two dots take the last segment
away; where there is none they count only in a path that does not start at the root.
-/
def pushSegment (rooted : Bool) (stack : List (List Char)) (segment : List Char) :
    List (List Char) :=
  if segment = [] ∨ segment = ['.'] then stack
  else if segment = ['.', '.'] then
    match stack with
    | [] => if rooted then [] else [segment]
    | top :: rest => if top = ['.', '.'] then (if rooted then stack else segment :: stack) else rest
  else segment :: stack

/-- The segments of a path after empty segments, dots and double dots have been worked off. -/
def cleanSegments (rooted : Bool) (path : List Char) : List (List Char) :=
  ((path.splitOn '/').foldl (pushSegment rooted) []).reverse

/-- The shortest way to write a path. -/
def clean (path : List Char) : List Char :=
  let rooted := path.head? == some '/'
  let body := ['/'].intercalate (cleanSegments rooted path)
  if rooted then '/' :: body else if body.isEmpty then ['.'] else body

/-- Joins paths into one and cleans it. The scheme of the first is kept, all others are dropped. -/
def join (parts : List (List Char)) : List Char :=
  let joined := ['/'].intercalate ((parts.map withoutScheme).filter (!·.isEmpty))
  match parts.head?.bind scheme? with
  | some (scheme, _) => scheme ++ schemeMark ++ (clean joined).dropWhile (· == '/')
  | none => clean joined

/-- The directory that a cleaned absolute path lies in. -/
def parent (path : List Char) : List Char :=
  let trimmed := Text.dropEndWhile (· == '/') path
  let kept := Text.dropEndWhile (· != '/') trimmed
  if kept.dropLast.isEmpty then ['/'] else kept.dropLast

end BatchJob.Path

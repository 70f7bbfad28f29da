import BatchJob.Action
import BatchJob.Storage.Specifier
import BatchJob.Text.Base64

set_option autoImplicit false

/-!
Steps that move data between the working disk and the object storage.
-/

namespace BatchJob.Transfer

/-- A step that runs the storage tool quietly with the given words. -/
def gsutil (image : String) (words : List (List Char)) : Action :=
  .shellAll image [String.ofList ("gsutil -q ".toList ++ Text.unwords words)]

/-- A step that copies an object, or the contents of a directory. -/
def copy (image : String) (glob : Glob) (source target : List Char) : Action :=
  let contents := Path.join [source, ['*']]
  match glob with
  | .single => gsutil image ["cp".toList, source, target]
  | .flat => gsutil image ["-m".toList, "cp".toList, contents, target]
  | .recursive => gsutil image ["-m".toList, "cp".toList, "-r".toList, contents, target]

/-- The command that makes the directory of `target`. -/
def makeParent (target : List Char) : List Char :=
  "mkdir -p ".toList ++ Text.quote (Path.parent target)

/-- The command that writes some bytes to `target`. -/
def writeBytes (bytes : List UInt8) (target : List Char) : List Char :=
  "echo ".toList ++ Text.quote (Base64.encode bytes) ++ " | base64 -d > ".toList ++
    Text.quote target

/-- A step that writes some bytes to `target`, in a directory that it makes if need be. -/
def upload (image : String) (bytes : List UInt8) (target : List Char) : Action :=
  .shellAll image [String.ofList (makeParent target), String.ofList (writeBytes bytes target)]

/-- The steps that mount a bucket at a path and wait until it is there. -/
def mountBucket (image : String) (bucket path : String) : List Action :=
  [{ imageUri := image, commands := ["--implicit-dirs", "--foreground", bucket, path],
     flags := [.enableFuse, .runInBackground], mounts := [.workingRoot] },
   { imageUri := image, commands := ["wait", path], mounts := [.workingRoot] }]

end BatchJob.Transfer

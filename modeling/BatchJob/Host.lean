import BatchJob.Error
import BatchJob.Trace

set_option autoImplicit false

/-!
The surroundings of a job while it is assembled: files, the standard input, and a listing of the
places in which machines may stand.
-/

namespace BatchJob

/-- What files, the standard input and the listing answer. -/
structure Host where
  file : String → Except InputFault (List UInt8)
  input : Except InputFault (List UInt8)
  /-- The listing of the places of a project, if there is one. -/
  lister : Option (String → LocationKind → Except JobError (List String))

def textOfBytes (bytes : List UInt8) : Except InputFault String :=
  match String.fromUTF8? ⟨bytes.toArray⟩ with
  | some text => .ok text
  | none => .error .invalidUtf8

namespace Host

def bytesOf (h : Host) (path : String) : Traced InputFault (List UInt8) :=
  ⟨h.file path, [.read path]⟩

def textOf (h : Host) (path : String) : Traced InputFault String :=
  ⟨(h.file path).bind textOfBytes, [.read path]⟩

def inputText (h : Host) : Traced InputFault String :=
  ⟨h.input.bind textOfBytes, [.readInput]⟩

/-- The names of all places of a kind. Without a listing nothing is asked. -/
def locations (h : Host) (project : String) (kind : LocationKind) :
    Traced JobError (List String) :=
  match h.lister with
  | none => ⟨.error (.config (.lookup kind.name "no location lister configured")), []⟩
  | some lister => ⟨lister project kind, [.list project kind]⟩

end Host

end BatchJob

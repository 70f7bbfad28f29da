import BatchJob.LogFilter.Directive

set_option autoImplicit false

/-!
Filters of the log: lists of directives with commas between them, the most specific first. Those
that apply without a span stand before those that depend on spans.
-/

namespace BatchJob

/-- The directives of a filter in order of rank. -/
structure LogFilter where
  static : List LogFilter.Directive
  dynamic : List LogFilter.Directive

namespace LogFilter

/-- Puts a directive before all less specific ones, in the place of one with the same rank. -/
def place (d : Directive) : List Directive → List Directive
  | [] => [d]
  | e :: rest =>
    match compare d.rank e.rank with
    | .gt => d :: e :: rest
    | .eq => d :: rest
    | .lt => e :: place d rest

def inOrder (directives : List Directive) : List Directive :=
  directives.foldl (fun placed d => place d placed) []

/-- The filter with so many directives; some count both with spans and without. -/
def ofDirectives (directives : List Directive) : LogFilter :=
  let dynamic := directives.filter (·.isDynamic)
  { static := inOrder (directives.filter (!·.isDynamic) ++ dynamic.filter (·.isStatic))
    dynamic := inOrder dynamic }

/-- Reads a filter; empty pieces do not count. -/
def ofText? (text : List Char) : Option LogFilter :=
  (((text.splitOn ',').filter (!·.isEmpty)).mapM Directive.ofText?).map ofDirectives

def text (f : LogFilter) : List Char :=
  [','].intercalate ((f.static ++ f.dynamic).map Directive.text)

/-- The filter of a setting, or else the usual one. -/
def choose (verbose : Bool) (setting : Option String) : String :=
  match setting.bind (ofText? ·.toList) with
  | some f => String.ofList f.text
  | none => if verbose then "info" else "warn"

end LogFilter

end BatchJob

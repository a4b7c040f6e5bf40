import CaptureForest.Declaration.Outline
import CaptureForest.Declaration.Validity
import CaptureForest.Log.Message
import CaptureForest.Report
/-!
# Checking forests

A whole forest is checked without stopping at the first error. One report is filled on the way. A
declaration that is invalid is reported once, and nothing below it is looked at. Valid leaves are searched
for attributes that compete with each other, since only one of them has an effect.
-/

namespace CaptureForest

namespace Declaration

/-- The location attributes that compete: beside a file, a function refines the file instead. -/
def competingLocations (node : Declaration) : List String :=
  let locations := Keyword.locations.filter node.sets
  if locations.contains "file" then locations.filter (· ≠ "function") else locations

/-- The template attributes that compete. -/
def competingTemplates (node : Declaration) : List String := Keyword.templates.filter node.sets

/-- The warning that only the first of several attributes is used. -/
def conflict (path code what : String) : List String → List Warning
  | used :: other :: rest =>
    [⟨.str path, .str code, .str ("Several " ++ what ++ " declared (" ++
      String.intercalate ", " (used :: other :: rest) ++ "); only '" ++ used ++ "' is used")⟩]
  | _ => []

/-- The warnings about one leaf. -/
def conflicts (path : String) (node : Declaration) : List Warning :=
  conflict path "MULTIPLE_LOCATIONS" "locations" node.competingLocations ++
    conflict path "MULTIPLE_TEMPLATES" "template sources" node.competingTemplates

end Declaration

/-- The entry of a report for an error. -/
def CaptureError.toProblem (e : CaptureError) (path : String) : Problem :=
  ⟨.str path, e.code, e.message, if e.fix.isAbsent then none else some e.fix⟩

namespace Outline

mutual

/-- Checks one tree below the given ancestors and adds what it finds to a report. -/
def check (ancestors : List Declaration) : Outline → Report → Except Fault Report
  | .node d cs, r =>
    let r := r.addChecked 1
    let path := d.path ancestors
    match d.validate ancestors with
    | .error (.capture e) => .ok (r.addError (e.toProblem path))
    | .error fault => .error fault
    | .ok () =>
      if d.hasChildren then checkAll (ancestors ++ [d]) cs r
      else .ok ((d.conflicts path).foldl Report.addWarning r)

/-- Checks trees side by side, one after another. -/
def checkAll (ancestors : List Declaration) : List Outline → Report → Except Fault Report
  | [], r => .ok r
  | o :: rest, r =>
    match check ancestors o r with
    | .error fault => .error fault
    | .ok r => checkAll ancestors rest r

end

end Outline

namespace Report

/-- Praises a report without errors. -/
def conclude (r : Report) : Report :=
  if r.hasErrors then r
  else r.addSuggestion (.str ("All " ++ toString r.checked ++ " declarations are valid"))

/-- The report on a forest. A value that is no forest is itself the only error. -/
def ofForest (forest : Value) : Except Fault Report :=
  match Declaration.ofForest forest with
  | .error e => .ok (addError {} (e.toProblem "forest"))
  | .ok roots =>
    match Outline.checkAll [] (roots.map Declaration.outline) {} with
    | .ok r => .ok r.conclude
    | .error fault => .error fault

/-- The report that a forest was checked, unless it was none. -/
def trace (forest : Value) : List LogMessage :=
  match Declaration.ofForest forest, ofForest forest with
  | .ok _, .ok r => [⟨.debug, "services.normalizer", "Checked " ++ toString r.checked ++ " declarations: " ++
      toString r.errors.length ++ " errors, " ++ toString r.warnings.length ++ " warnings"⟩]
  | _, _ => []

end Report

end CaptureForest

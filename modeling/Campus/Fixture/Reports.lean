import Campus.Contract.Coercion
import Campus.Fixture.People

/-!
# Making reports

Reports are stored by the site's rules: a source must exist, and it must offer the columns and
filters asked for. A report may also be asked for by a record, as scenarios write it.
-/

namespace Campus

namespace Site

def sourceOf (report : Int) (s : Site) : Except SiteError Datasource :=
  match s.report? report with
  | none => .error (.reportNotFound report)
  | some r =>
    match Datasource.find? r.source with
    | none => .error (.unknownSource r.source)
    | some d => .ok d

def nextOrder (orders : List Int) : Int := orders.max?.getD 0 + 1

def addColumn (reportid : Int) (identifier : String) : Change SiteError ReportColumn := do
  let s ← get
  let source ← liftExcept (s.sourceOf reportid)
  if !source.hasColumn identifier then throw (.invalidIdentifier "column" identifier reportid)
  let order := nextOrder
    ((s.columns.records.filter (·.reportid == reportid)).map (·.columnorder))
  let (c, columns) := s.columns.add fun id =>
    { id, reportid, uniqueidentifier := identifier, columnorder := order }
  set { s with columns }
  return c

def addFilter (iscondition : Bool) (reportid : Int) (identifier : String) :
    Change SiteError ReportFilter := do
  let s ← get
  let source ← liftExcept (s.sourceOf reportid)
  let kind := if iscondition then "condition" else "filter"
  if !source.hasFilter identifier then throw (.invalidIdentifier kind identifier reportid)
  let order := nextOrder
    ((s.filters.records.filter fun f => f.reportid == reportid && f.iscondition == iscondition).map
      (·.filterorder))
  let (f, filters) := s.filters.add fun id =>
    { id, reportid, uniqueidentifier := identifier, iscondition, filterorder := order }
  set { s with filters }
  return f

/-- Adds a report, with what its source starts reports with if `default`. -/
def addReport (now : Int) (name source : String) (default : Bool) (userid : Int) :
    Change SiteError Report := do
  let d ← Change.require (.unknownSource source) (Datasource.find? source)
  let s ← get
  let (r, reports) := s.reports.add fun id =>
    { id, name, source, usercreated := userid, timecreated := now }
  set { s with reports }
  if default then
    Change.each (fun c => discard (addColumn r.id c)) d.defaultColumns
    Change.each (fun f => discard (addFilter false r.id f)) d.defaultFilters
    Change.each (fun f => discard (addFilter true r.id f)) d.defaultConditions
  return r

end Site

/-! ## Records -/

namespace ReportRecord

def properties (record : Json) : Except FixtureError (List (String × Json)) :=
  match record with
  | .object properties => .ok properties
  | _ => .error (.invalidProperty "record" "expected an object")

def required (name : String) (properties : List (String × Json)) : Except FixtureError Json :=
  match Keyed.get? name properties with
  | some v => .ok v
  | none => .error (.missingProperty name)

def text (name : String) (properties : List (String × Json)) : Except FixtureError String := do
  match ← required name properties with
  | .string s => return s
  | _ => throw (.invalidProperty name "expected a string")

/-- An integer, or a string that writes one. -/
def integer (name : String) (properties : List (String × Json)) : Except FixtureError Int := do
  let v ← required name properties
  match v.int64? <|> v.string?.bind (readInt64? ·.toList) with
  | some n => return n
  | none => throw (.invalidProperty name "expected an integer")

/-- A truth value, which may be written as 0 or 1, too; none if it is absent. -/
def truth? (name : String) (properties : List (String × Json)) :
    Except FixtureError (Option Bool) :=
  match Keyed.get? name properties with
  | none | some .null => .ok none
  | some v =>
    match v.toTruth? with
    | some b => .ok (some b)
    | none => .error (.invalidProperty name "expected a boolean")

/-- The report and the identifier that a record of a column or a filter names. -/
def item (record : Json) : Except FixtureError (Int × String) := do
  let properties ← properties record
  return (← integer "reportid" properties, ← text "uniqueidentifier" properties)

end ReportRecord

namespace Fixture

/-- Makes a report from a record with `name` and `source`; `default` is true unless given. -/
def createReport (now userid : Int) (record : Json) : Fixture Report := do
  let properties ← liftExcept (ReportRecord.properties record)
  let name ← liftExcept (ReportRecord.text "name" properties)
  let source ← liftExcept (ReportRecord.text "source" properties)
  let default ← liftExcept (ReportRecord.truth? "default" properties)
  ofChange (Site.addReport now name source (default.getD true) userid)

/-- Makes a column from a record with `reportid` and `uniqueidentifier`. -/
def createColumn (record : Json) : Fixture ReportColumn := do
  let (reportid, identifier) ← liftExcept (ReportRecord.item record)
  ofChange (Site.addColumn reportid identifier)

/-- Makes a filter or a condition from a record with `reportid` and `uniqueidentifier`. -/
def createFilter (iscondition : Bool) (record : Json) : Fixture ReportFilter := do
  let (reportid, identifier) ← liftExcept (ReportRecord.item record)
  ofChange (Site.addFilter iscondition reportid identifier)

end Fixture

end Campus

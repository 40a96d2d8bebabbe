import Campus.Json.Reader

/-!
# Custom reports

A report draws on a source, which offers columns and filters by identifier. A condition is a filter
that the reader of the report cannot change.
-/

namespace Campus

structure Report where
  id : Int
  name : String
  source : String
  usercreated : Int
  timecreated : Int
deriving DecidableEq, Repr

def Report.toJson (r : Report) : Json :=
  .ofMembers [("id", .int r.id), ("name", .string r.name), ("source", .string r.source),
    ("usercreated", .int r.usercreated), ("timecreated", .int r.timecreated)]

structure ReportColumn where
  id : Int
  reportid : Int
  uniqueidentifier : String
  columnorder : Int
  sortenabled : Bool := false
deriving DecidableEq, Repr

def ReportColumn.toJson (c : ReportColumn) : Json :=
  .ofMembers [("id", .int c.id), ("reportid", .int c.reportid),
    ("uniqueidentifier", .string c.uniqueidentifier), ("columnorder", .int c.columnorder),
    ("sortenabled", .bool c.sortenabled)]

/-- A filter or, with `iscondition`, a condition. -/
structure ReportFilter where
  id : Int
  reportid : Int
  uniqueidentifier : String
  iscondition : Bool
  filterorder : Int
deriving DecidableEq, Repr

def ReportFilter.toJson (f : ReportFilter) : Json :=
  .ofMembers [("id", .int f.id), ("reportid", .int f.reportid),
    ("uniqueidentifier", .string f.uniqueidentifier), ("iscondition", .bool f.iscondition),
    ("filterorder", .int f.filterorder)]

/-- What a source offers, and what a report on it starts with. -/
structure Datasource where
  name : String
  columns : List String
  filters : List String
  defaultColumns : List String
  defaultFilters : List String
  defaultConditions : List String
deriving DecidableEq, Repr

namespace Datasource

def users : Datasource where
  name := "core_user\\reportbuilder\\datasource\\users"
  columns := ["user:fullname", "user:firstname", "user:lastname", "user:username", "user:email",
    "user:city", "user:lastaccess"]
  filters := ["user:fullname", "user:firstname", "user:lastname", "user:username", "user:email",
    "user:city", "user:suspended"]
  defaultColumns := ["user:fullname", "user:username", "user:email"]
  defaultFilters := ["user:fullname", "user:username", "user:email"]
  defaultConditions := ["user:fullname", "user:username", "user:email"]

def courses : Datasource where
  name := "core_course\\reportbuilder\\datasource\\courses"
  columns := ["course_category:name", "course:shortname", "course:fullname", "course:idnumber",
    "course:startdate"]
  filters := ["course_category:name", "course:shortname", "course:fullname", "course:idnumber",
    "course:courseselector"]
  defaultColumns := ["course_category:name", "course:shortname", "course:fullname",
    "course:idnumber"]
  defaultFilters := ["course:courseselector"]
  defaultConditions := ["course_category:name"]

def all : List Datasource := [users, courses]

def find? (name : String) : Option Datasource := all.find? (·.name == name)

def hasColumn (d : Datasource) (identifier : String) : Bool := d.columns.contains identifier

def hasFilter (d : Datasource) (identifier : String) : Bool := d.filters.contains identifier

end Datasource

end Campus

import Campus.Json.Reader

/-!
# Courses and their modules
-/

namespace Campus

structure Course where
  id : Int
  fullname : String
  shortname : String
deriving DecidableEq, Repr

def Course.toJson (c : Course) : Json :=
  .ofMembers [("id", .int c.id), ("fullname", .string c.fullname),
    ("shortname", .string c.shortname)]

/-- A module in a course. `instanceId` is the id of the record of its own type. -/
structure CourseModule where
  id : Int
  course : Int
  modname : String
  instanceId : Int
deriving DecidableEq, Repr

namespace CourseModule

def reader : Reader CourseModule :=
  .record "CourseModule" <| CourseModule.mk <$> .required "id" .int64 <*> .required "course" .int64
    <*> .required "modname" .string <*> .required "instance" .int64

def toJson (cm : CourseModule) : Json :=
  .ofMembers [("id", .int cm.id), ("course", .int cm.course), ("modname", .string cm.modname),
    ("instance", .int cm.instanceId)]

end CourseModule

end Campus

import Campus.Json.Reader

/-!
# Contexts

The site holds courses and a course holds modules. What a user may do is granted in a context and
holds in everything it contains; a path leads from the site down to the place in question.
-/

namespace Campus

inductive Context where
  | system
  | course (id : Int)
  | module (id : Int)
deriving DecidableEq, Repr

namespace Context

/-- The context `inner` is `outer` or lies in it, given the courses that modules stand in. -/
def contains (courseOf : Int → Option Int) (outer inner : Context) : Bool :=
  match outer, inner with
  | .system, _ => true
  | .course a, .course b => a == b
  | .course a, .module m => courseOf m == some a
  | .module a, .module b => a == b
  | _, _ => false

def toJson : Context → Json
  | .system => .ofMembers [("level", .string "system")]
  | .course id => .ofMembers [("level", .string "course"), ("instance", .int id)]
  | .module id => .ofMembers [("level", .string "module"), ("instance", .int id)]

inductive Level where
  | system | course | module

def Level.reader : Reader Level :=
  .oneOf [("system", .system), ("course", .course), ("module", .module)]

/-- The context of a level, with the value given as its instance. -/
def ofLevel (content : Option Json) : Level → Except ReadError Context
  | .system =>
    match content with
    | none | some .null => .ok .system
    | some v => .error (.wrongType v "unit")
  | .course => (instanceOf content).map .course
  | .module => (instanceOf content).map .module
where
  instanceOf : Option Json → Except ReadError Int
    | some v => Reader.int64.read v
    | none => .error (.missing "instance")

/-- A level and, below the site, an instance. -/
def reader : Reader Context where
  shape := .record false [("level", .whole), ("instance", .whole)]
  read
    | .object members =>
      match Keyed.get? "level" members with
      | some level => do ofLevel (Keyed.get? "instance" members) (← Level.reader.read level)
      | none => .error (.missing "level")
    | .array [level, content] => do ofLevel (some content) (← Level.reader.read level)
    | .array items => .error (.wrongLength items.length "a level and an instance")
    | v => .error (.wrongType v "a context")

end Context

/-- The contexts from the site down to a place. -/
abbrev ContextPath := List Context

namespace ContextPath

def system : ContextPath := [.system]

def course (id : Int) : ContextPath := [.system, .course id]

def module (course id : Int) : ContextPath := [.system, .course course, .module id]

def leaf (path : ContextPath) : Context := path.getLast?.getD .system

end ContextPath

end Campus

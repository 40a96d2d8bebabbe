import Campus.Clock
import Campus.Site.Course

/-!
# Chats and the event log
-/

namespace Campus

structure Chat where
  id : Int
  course : Int
  name : String
  intro : String := ""
deriving DecidableEq, Repr

def Chat.toJson (c : Chat) : Json :=
  .ofMembers [("id", .int c.id), ("course", .int c.course), ("name", .string c.name),
    ("intro", .string c.intro)]

/-- Something that happened, with the records it is about as they were then. -/
structure Event where
  eventname : String
  component : String
  action : String
  target : String
  contextinstanceid : Int
  objectid : Int
  userid : Int
  courseid : Int
  other : Json
  timecreated : String
  snapshots : List (String × Json)

namespace Event

/-- A user looked at the sessions of a chat, from one time to another. -/
def sessionsViewed (clock : Clock) (cm : CourseModule) (chat : Chat) (userid start finish : Int) :
    Event where
  eventname := "\\mod_chat\\event\\sessions_viewed"
  component := "mod_chat"
  action := "viewed"
  target := "sessions"
  contextinstanceid := cm.id
  objectid := chat.id
  userid := userid
  courseid := cm.course
  other := .ofMembers [("start", .int start), ("end", .int finish)]
  timecreated := clock.stamp
  snapshots := [("chat", chat.toJson)]

def toJson (e : Event) : Json :=
  .ofMembers [("eventname", .string e.eventname), ("component", .string e.component),
    ("action", .string e.action), ("target", .string e.target),
    ("contextinstanceid", .int e.contextinstanceid), ("objectid", .int e.objectid),
    ("userid", .int e.userid), ("courseid", .int e.courseid), ("other", e.other),
    ("timecreated", .string e.timecreated),
    ("snapshots", .array (e.snapshots.map fun (table, record) => .array [.string table, record]))]

end Event

end Campus

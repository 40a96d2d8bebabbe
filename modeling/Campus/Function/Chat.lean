import Campus.Contract.Registry
import Campus.Site.Change

/-!
# The function on chats

Looking at the sessions of a chat leaves an event in the log.
-/

namespace Campus

namespace ViewSessions

structure Arguments where
  cmid : Int
  start : Int
  finish : Int
deriving DecidableEq, Repr

def Arguments.reader : Reader Arguments :=
  .record "ViewParams" <| Arguments.mk <$> .required "cmid" .int64 <*> .required "start" .int64
    <*> .required "end" .int64

/-- The chat that a module places, if there is one. -/
def chatOf? (s : Site) (cmid : Int) : Option (CourseModule × Chat) := do
  let cm ← s.courseModuleOf? "chat" cmid
  return (cm, ← s.chat? cm.instanceId)

def noPermission (strings : Strings) (cmid : Int) : Warning :=
  { warningcode := "nopermissiontoseethechatlog"
    message := strings.get "nopermissiontoseethechatlog" "chat"
    item := some (toString cmid) }

def run (strings : Strings) (ctx : CallContext) (x : Arguments) : Run Site (Outcome Unit) := do
  match chatOf? (← get) x.cmid with
  | none => throw (.localized .notFound "invalidcoursemodule" "error" strings)
  | some (cm, chat) =>
    if ctx.has Capability.readChatLog (.module cm.course cm.id) then
      modify (Site.record (.sessionsViewed ctx.clock cm chat ctx.caller x.start x.finish))
      return .ok ()
    else return .failed [noPermission strings cm.id]

end ViewSessions

def viewSessionsFunction (strings : Strings) : ExternalFunction Site where
  name := "mod_chat_view_sessions"
  component := "mod_chat"
  description := "Trigger the chat session viewed event."
  input := .structureOf "params" [
    ("cmid", .plain .int "Course module id"),
    ("start", .withDefault (.int 0) (.plain .int "Session start time")),
    ("end", .withDefault (.int 0) (.plain .int "Session end time"))]
  output := .statusWithWarnings "status: true if success"
  execute ctx arguments := do
    let x ← liftExcept (readArguments ViewSessions.Arguments.reader arguments)
    return (← ViewSessions.run strings ctx x).toResult

end Campus

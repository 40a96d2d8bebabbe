import Campus.Proofs.Operations
import Campus.Proofs.Requests
import Campus.Proofs.Sessions

/-!
# The event log

Looking at the sessions of a chat is the only thing that is logged, and only if it succeeds.
Whatever else happens to a service, in whichever order, nothing is added to the log, and nothing is
ever taken out of it.
-/

namespace Campus

/-! ## What it leaves -/

/-- The event tells of a look at a chat's sessions by the holder of a token: who looked, at which
module, at the chat as it was, and what they asked for. -/
structure Event.TellsOf (e : Event) (s : Service) (clock : Clock) (p : Rpc.CallParams) : Prop where
  user : s.caller? p.token = some e.userid
  module : p.arguments.integerAt? "cmid" = some e.contextinstanceid
  chat : ∃ cm chat, s.site.courseModule? e.contextinstanceid = some cm ∧
    cm.Places "chat" e.courseid e.objectid ∧ s.site.chat? e.objectid = some chat ∧
    e.snapshots = [("chat", chat.toJson)]
  permitted : s.site.Permits e.userid Capability.readChatLog
    (.module e.courseid e.contextinstanceid)
  other : ∃ start finish, p.arguments.timeAt? "start" = some start ∧
    p.arguments.timeAt? "end" = some finish ∧
    e.other = .ofMembers [("start", .int start), ("end", .int finish)]
  time : e.timecreated = clock.stamp

/-- The call succeeded in looking at the sessions of a chat. -/
def IsView (function : String) (answer : Except ExternalError Json) : Prop :=
  function = "mod_chat_view_sessions" ∧ statusOf? answer = some true

namespace Service

variable {s : Service} {clock : Clock}

theorem sessionsViewed_tellsOf (hs : s.site.Consistent) {p : Rpc.CallParams} {caller : Int}
    (hcaller : s.caller? p.token = some caller) {cmid start finish : Int}
    (hasks : p.arguments.AsksForSessions cmid start finish) {cm : CourseModule} {chat : Chat}
    (hfound : ViewSessions.chatOf? s.site cmid = some (cm, chat))
    (hlog : (s.contextOf clock caller).has Capability.readChatLog (.module cm.course cm.id) =
      true) :
    (Event.sessionsViewed clock cm chat caller start finish).TellsOf s clock p := by
  obtain ⟨hcm, hname, hchat⟩ := ViewSessions.chatOf?_eq_some_iff.1 hfound
  -- Both records are stored under their own ids, which are what the event names.
  obtain rfl : cm.id = cmid := hs.modules.own cmid cm hcm
  have hchatid : chat.id = cm.instanceId := hs.chats.own cm.instanceId chat hchat
  rw [← hchatid] at hchat
  exact
    { user := hcaller
      module := hasks.module
      chat := ⟨cm, chat, hcm, ⟨hname, rfl, hchatid.symm⟩, hchat, rfl⟩
      permitted := Site.has_capabilitiesFor_iff.1 hlog
      other := ⟨start, finish, hasks.start, hasks.finish, rfl⟩
      time := rfl }

theorem call_events (hs : s.site.Consistent) (function : String) (p : Rpc.CallParams) :
    (IsView function (s.call clock function p.token p.arguments).1 ∧
      ∃ e : Event, (s.call clock function p.token p.arguments).2.site.events =
        s.site.events ++ [e] ∧ e.TellsOf s clock p) ∨
    (¬IsView function (s.call clock function p.token p.arguments).1 ∧
      (s.call clock function p.token p.arguments).2.site.events = s.site.events) := by
  rw [call_site, call_answer]
  by_cases hname : function = "mod_chat_view_sessions"
  · subst hname
    cases hcaller : s.caller? p.token with
    | none =>
      rw [run_of_unknownToken hcaller]
      exact .inr ⟨fun h => statusOf?_error_ne _ true h.2, rfl⟩
    | some caller =>
      have hmem : viewSessionsFunction s.strings ∈ bundledFunctions s.strings := by
        simp [bundledFunctions]
      have hrun : s.run clock "mod_chat_view_sessions" p.token p.arguments =
          ((viewSessionsFunction s.strings).call (s.contextOf clock caller) p.arguments) s.site :=
        run_of_caller hcaller hmem clock p.arguments
      rw [hrun]
      rcases viewSessions_call_cases s.strings (s.contextOf clock caller) p.arguments s.site with
        ⟨cmid, start, finish, cm, chat, hasks, hfound, hlog, hcall⟩ | ⟨hstatus, hsite⟩
      · rw [hcall]
        exact .inl ⟨⟨rfl, Outcome.statusOf?_toResult _⟩, _, rfl,
          sessionsViewed_tellsOf hs hcaller hasks hfound hlog⟩
      · rw [hsite]
        exact .inr ⟨fun h => hstatus h.2, rfl⟩
  · obtain ⟨submissions, events, -, hevents | hchat, hsite⟩ :=
      s.run_site_frame clock function p.token p.arguments
    · rw [hsite]
      exact .inr ⟨fun h => hname h.1, hevents⟩
    · exact absurd hchat.1 hname

end Service

/-! ## Messages -/

namespace Rpc

variable {s : Service} {clock : Clock} {text : String}

/-- The status that a reply tells. -/
def Reply.status? : Reply → Option Bool
  | .response r => statusOf? (.ok r.result)
  | .error _ => none

/-- The text is a request for a function, with parameters that can be read. -/
def Calls (text function : String) (p : CallParams) : Prop :=
  ∃ r, Request.reader.ofText? text = some r ∧ r.method = function ∧
    readParams CallParams.reader function r.params = .ok p

/-- The text asks for a look at the sessions of a chat, and the reply says that it succeeded. -/
def isView (s : Service) (clock : Clock) (text : String) : Bool :=
  (Request.reader.ofText? text).any fun r =>
    r.method == "mod_chat_view_sessions" && (dispatch s clock text).1.status? == some true

theorem isView_eq_true_iff {r : Request} (h : Request.reader.ofText? text = some r) :
    isView s clock text = true ↔
      r.method = "mod_chat_view_sessions" ∧ (dispatch s clock text).1.status? = some true := by
  simp [isView, h]

theorem answer_cases (s : Service) (clock : Clock) (r : Request) :
    (∃ p, readParams CallParams.reader r.method r.params = .ok p ∧
      (Reply.ofAnswer r.id (answer s clock r).1).status? =
        statusOf? (s.call clock r.method p.token p.arguments).1 ∧
      (answer s clock r).2 = (s.call clock r.method p.token p.arguments).2) ∨
    ((r.method = "mod_chat_view_sessions" →
      (Reply.ofAnswer r.id (answer s clock r).1).status? = none) ∧
      (answer s clock r).2 = s) := by
  have hanswered := answer_answered s clock r
  generalize answer s clock r = a at hanswered
  cases hanswered with
  | own result hmethod _ =>
    -- The service's own methods have other names.
    refine .inr ⟨fun hname => absurd (hname ▸ hmethod) (by decide), rfl⟩
  | unread | unknown => exact .inr ⟨fun _ => rfl, rfl⟩
  | call p _ hparams =>
    refine .inl ⟨p, readParams_eq_ok_iff.2 hparams, ?_, rfl⟩
    cases (s.call clock r.method p.token p.arguments).1 <;> rfl

theorem dispatch_cases (s : Service) (clock : Clock) (text : String) :
    (∃ function p, Calls text function p ∧
      (isView s clock text = true ↔
        IsView function (s.call clock function p.token p.arguments).1) ∧
      (dispatch s clock text).2 = (s.call clock function p.token p.arguments).2) ∨
    (isView s clock text = false ∧ (dispatch s clock text).2 = s) := by
  cases hread : Request.reader.ofText? text with
  | none =>
    refine .inr ⟨by simp [isView, hread], ?_⟩
    rw [dispatch_of_unread s clock hread]
  | some r =>
    have hdispatch := dispatch_of_read s clock hread
    rcases answer_cases s clock r with ⟨p, hp, hstatus, hafter⟩ | ⟨hnone, hsame⟩
    · refine .inl ⟨r.method, p, ⟨r, hread, rfl, hp⟩, ?_, ?_⟩
      · rw [isView_eq_true_iff hread, hdispatch, hstatus, IsView]
      · rw [hdispatch, hafter]
    · refine .inr ⟨?_, by rw [hdispatch, hsame]⟩
      rw [← Bool.not_eq_true, isView_eq_true_iff hread, hdispatch]
      rintro ⟨hname, hstatus⟩
      rw [hnone hname] at hstatus
      cases hstatus

end Rpc

/-! ## Histories -/

/-- What may happen to a service: a message comes in, or a fixture is made on its site. -/
inductive Happening where
  | message (clock : Clock) (text : String)
  | fixture (op : Operation) (h : op.IsFixture)

/-- A message at the moment it comes in. -/
structure Moment where
  service : Service
  clock : Clock
  text : String

/-- The event tells of a view that the message called for. -/
def Moment.Leaves (m : Moment) (e : Event) : Prop :=
  ∃ p, Rpc.Calls m.text "mod_chat_view_sessions" p ∧ e.TellsOf m.service m.clock p

namespace Happening

def run : Happening → Service → Service
  | message clock text, s => (Rpc.dispatch s clock text).2
  | fixture op _, s => { s with site := op.run s.site }

/-- One happening after the other. -/
def runAll (happenings : List Happening) (s : Service) : Service :=
  happenings.foldl (fun s h => h.run s) s

/-- The messages that are views, each at its moment. -/
def views : List Happening → Service → List Moment
  | [], _ => []
  | message clock text :: rest, s =>
    let after := (message clock text).run s
    if Rpc.isView s clock text then ⟨s, clock, text⟩ :: views rest after else views rest after
  | fixture op h :: rest, s => views rest ((fixture op h).run s)

theorem evolves_run (h : Happening) (s : Service) : s.site.Evolves (h.run s).site := by
  cases h with
  | message clock text =>
    rcases Rpc.dispatch_cases s clock text with ⟨function, p, -, -, hafter⟩ | ⟨-, hsame⟩
    · rw [run, hafter]
      exact s.evolves_call clock function p.token p.arguments
    · rw [run, hsame]
      exact .refl s.site
  | fixture op _ => exact op.evolves_run s.site

theorem evolves_runAll (happenings : List Happening) (s : Service) :
    s.site.Evolves (runAll happenings s).site := by
  induction happenings generalizing s with
  | nil => exact .refl s.site
  | cons h rest ih => exact (h.evolves_run s).trans (ih (h.run s))

theorem fixture_events {op : Operation} (h : op.IsFixture) (s : Service) :
    ((fixture op h).run s).site.events = s.site.events :=
  (Operation.writes_run h s.site).events

theorem message_events {s : Service} (hs : s.site.Consistent) (clock : Clock) (text : String) :
    (Rpc.isView s clock text = true ∧ ∃ e : Event,
      ((message clock text).run s).site.events = s.site.events ++ [e] ∧
        Moment.Leaves ⟨s, clock, text⟩ e) ∨
    (Rpc.isView s clock text = false ∧
      ((message clock text).run s).site.events = s.site.events) := by
  rcases Rpc.dispatch_cases s clock text with ⟨function, p, hcalls, hview, hafter⟩ | ⟨hno, hsame⟩
  · rw [run, hafter]
    rcases Service.call_events hs function p with ⟨hyes, e, hevents, htells⟩ | ⟨hno, hevents⟩
    · obtain rfl := hyes.1
      exact .inl ⟨hview.2 hyes, e, hevents, p, hcalls, htells⟩
    · refine .inr ⟨?_, hevents⟩
      rw [← Bool.not_eq_true, hview]
      exact hno
  · rw [run, hsame]
    exact .inr ⟨hno, rfl⟩

theorem runAll_views (happenings : List Happening) {s : Service} (hs : s.site.Consistent) :
    ∃ added, (runAll happenings s).site.events = s.site.events ++ added ∧
      List.Forall₂ Moment.Leaves (views happenings s) added := by
  induction happenings generalizing s with
  | nil => exact ⟨[], (List.append_nil _).symm, .nil⟩
  | cons h rest ih =>
    obtain ⟨added, hrest, hadded⟩ := ih ((h.evolves_run s).consistent hs)
    cases h with
    | message clock text =>
      rcases message_events hs clock text with ⟨hview, e, hevents, hleaves⟩ | ⟨hno, hevents⟩
      · refine ⟨e :: added, ?_, ?_⟩
        · rw [hevents, List.append_assoc] at hrest
          exact hrest
        · rw [views, if_pos hview]
          exact .cons hleaves hadded
      · refine ⟨added, ?_, ?_⟩
        · rw [hevents] at hrest
          exact hrest
        · rw [views, if_neg (by rw [hno]; decide)]
          exact hadded
    | fixture op hop =>
      rw [fixture_events hop] at hrest
      exact ⟨added, hrest, hadded⟩

/-- Whatever happened to a service before, what happens from then on adds to the log one event for
each view, which tells of it, and nothing else. -/
theorem runAll_events (s : Service) (wwwroot : String) (past more : List Happening) :
    let before := runAll past { s with site := { wwwroot } }
    ∃ added, (runAll more before).site.events = before.site.events ++ added ∧
      List.Forall₂ Moment.Leaves (views more before) added := by
  intro before
  exact runAll_views more ((evolves_runAll past _).consistent (Site.consistent_new wwwroot))

end Happening

end Campus

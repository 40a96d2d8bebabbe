import Campus.Proofs.Answers
import Campus.Proofs.Replies

/-!
# Messages one after the other

The connections of a service share one state, so what matters is the order in which their messages
are answered. What the service counts can be seen from outside: the functions that were answered
with a result, and the replies whose error has data.
-/

namespace Campus.Rpc

/-- A text and the reply it got. -/
structure Exchange where
  text : String
  reply : Reply

/-- Answers texts one after the other, each at its own time, from whichever connection it came. -/
def exchanges (s : Service) : List (Clock × String) → List Exchange × Service
  | [] => ([], s)
  | (clock, text) :: rest =>
    let (reply, after) := dispatch s clock text
    let (others, final) := exchanges after rest
    ({ text, reply } :: others, final)

theorem exchanges_cons (s : Service) (clock : Clock) (text : String)
    (rest : List (Clock × String)) :
    exchanges s ((clock, text) :: rest) =
      ({ text, reply := (dispatch s clock text).1 } ::
        (exchanges (dispatch s clock text).2 rest).1,
        (exchanges (dispatch s clock text).2 rest).2) := rfl

theorem exchanges_append (s : Service) (earlier later : List (Clock × String)) :
    exchanges s (earlier ++ later) =
      ((exchanges s earlier).1 ++ (exchanges (exchanges s earlier).2 later).1,
        (exchanges (exchanges s earlier).2 later).2) := by
  induction earlier generalizing s with
  | nil => rfl
  | cons message rest ih =>
    obtain ⟨clock, text⟩ := message
    rw [List.cons_append, exchanges_cons, exchanges_cons, ih]
    rfl

theorem length_exchanges (s : Service) (messages : List (Clock × String)) :
    (exchanges s messages).1.length = messages.length := by
  induction messages generalizing s with
  | nil => rfl
  | cons message rest ih =>
    obtain ⟨clock, text⟩ := message
    rw [exchanges_cons, List.length_cons, List.length_cons, ih]

/-! ## What can be seen -/

theorem Failure.get?_data (f : Failure) : f.toJson.get? "data" = f.data := by
  obtain ⟨code, message, data⟩ := f
  show Keyed.get? "data" (Keyed.ofList _) = data
  cases data <;> rw [Keyed.get?_ofList (by simp [Keyed.keys])] <;> simp [Keyed.get?]

namespace Reply

/-- The result that a reply shows. -/
def result? (reply : Reply) : Option Json := reply.toJson.get? "result"

/-- The data of the error that a reply shows. -/
def data? (reply : Reply) : Option Json := (reply.toJson.get? "error").bind (·.get? "data")

variable (id : RequestId)

theorem result?_ofAnswer_ok (result : Json) : (ofAnswer id (.ok result)).result? = some result := by
  obtain ⟨_, hreply, hjson⟩ | ⟨_, hreply, -⟩ := (ofAnswer id (.ok result)).toJson_cases
  · cases hreply
    simp [result?, hjson, Json.get?, Keyed.get?]
  · cases hreply

theorem result?_ofAnswer_error (f : Failure) : (ofAnswer id (.error f)).result? = none := by
  obtain ⟨_, hreply, -⟩ | ⟨_, hreply, hjson⟩ := (ofAnswer id (.error f)).toJson_cases
  · cases hreply
  · simp [result?, hjson, Json.get?, Keyed.get?]

theorem data?_ofAnswer_ok (result : Json) : (ofAnswer id (.ok result)).data? = none := by
  obtain ⟨_, hreply, hjson⟩ | ⟨_, hreply, -⟩ := (ofAnswer id (.ok result)).toJson_cases
  · simp [data?, hjson, Json.get?, Keyed.get?]
  · cases hreply

theorem data?_ofAnswer_error (f : Failure) : (ofAnswer id (.error f)).data? = f.data := by
  obtain ⟨_, hreply, -⟩ | ⟨_, hreply, hjson⟩ := (ofAnswer id (.error f)).toJson_cases
  · cases hreply
  · cases hreply
    rw [data?, hjson, ← Failure.get?_data]
    rfl

end Reply

namespace Exchange

/-- The text named a function, and the reply is a result. -/
def isServed (registry : Registry Site) (e : Exchange) : Bool :=
  (Request.reader.ofText? e.text).any (fun r => Keyed.contains r.method registry)
    && e.reply.result?.isSome

/-- The reply is an error that has data. -/
def isFailed (e : Exchange) : Bool := e.reply.data?.isSome

end Exchange

/-! ## What is counted -/

/-- A service that has answered once more: only the site and the counters may be others. -/
structure Counts (s : Service) (served failed : Bool) (after : Service) : Prop where
  strings : after.strings = s.strings
  served : after.served = s.served + if served then 1 else 0
  failed : after.failed = s.failed + if failed then 1 else 0

theorem counts_refl (s : Service) : Counts s false false s :=
  ⟨rfl, (UInt64.add_zero _).symm, (UInt64.add_zero _).symm⟩

theorem counts_call (s : Service) (clock : Clock) (function token : String) (arguments : Json) :
    Counts s (s.call clock function token arguments).1.isOk
      (!(s.call clock function token arguments).1.isOk)
      (s.call clock function token arguments).2 := by
  unfold Service.call
  split
  · exact ⟨rfl, rfl, (UInt64.add_zero _).symm⟩
  · exact ⟨rfl, (UInt64.add_zero _).symm, rfl⟩

section Answered

variable {s : Service} {clock : Clock} {r : Request} {a : Except Failure Json × Service}

theorem Answered.uncounted (h : Answered s clock r a)
    (hnot : r.method ∉ s.registry.names ∨ r.callParams? = none) :
    (Keyed.contains r.method s.registry && (Reply.ofAnswer r.id a.1).result?.isSome) = false ∧
      (Reply.ofAnswer r.id a.1).data?.isSome = false ∧ a.2 = s := by
  cases h with
  | own result hmethod _ =>
    have hname : Keyed.contains r.method s.registry = false := by
      rw [← Bool.not_eq_true, Keyed.contains_iff_mem_keys]
      exact fun hname => notMem_ownMethods hname hmethod
    simp [hname, Reply.data?_ofAnswer_ok]
  | unread => simp [Reply.result?_ofAnswer_error, Reply.data?_ofAnswer_error]
  | unknown =>
    simp [Reply.result?_ofAnswer_error, Reply.data?_ofAnswer_error, Failure.unknownMethod]
  | call p hname hparams =>
    rcases hnot with hnot | hnot
    · exact absurd hname hnot
    · rw [hparams] at hnot
      cases hnot

theorem Answered.counts (h : Answered s clock r a) :
    Counts s
      (Keyed.contains r.method s.registry && (Reply.ofAnswer r.id a.1).result?.isSome)
      (Reply.ofAnswer r.id a.1).data?.isSome a.2 := by
  by_cases hnot : r.method ∉ s.registry.names ∨ r.callParams? = none
  · obtain ⟨hserved, hfailed, hafter⟩ := h.uncounted hnot
    rw [hserved, hfailed, hafter]
    exact counts_refl s
  rw [not_or, not_not] at hnot
  obtain ⟨p, hparams⟩ := Option.ne_none_iff_exists'.1 hnot.2
  obtain rfl := h.eq_of_call hnot.1 hparams
  have hcall := counts_call s clock r.method p.token p.arguments
  rw [Keyed.contains_iff_mem_keys.2 hnot.1, Bool.true_and]
  cases hresult : (s.call clock r.method p.token p.arguments).1 with
  | ok result =>
    rw [hresult] at hcall
    rw [Except.mapError, Reply.result?_ofAnswer_ok, Reply.data?_ofAnswer_ok]
    exact hcall
  | error e =>
    rw [hresult] at hcall
    rw [Except.mapError, Reply.result?_ofAnswer_error, Reply.data?_ofAnswer_error]
    exact hcall

end Answered

section Dispatch

variable (s : Service) (clock : Clock) {text : String}

theorem shown_of_unread (h : Request.reader.ofText? text = none) :
    let e : Exchange := { text, reply := (dispatch s clock text).1 }
    e.isServed s.registry = false ∧ e.isFailed = false := by
  intro e
  have hreply : e.reply = Reply.ofAnswer (.integer 0) (.error .invalidRequest) :=
    congrArg Prod.fst (dispatch_of_unread s clock h)
  refine ⟨by simp [Exchange.isServed, e, h], ?_⟩
  rw [Exchange.isFailed, hreply, Reply.data?_ofAnswer_error]
  rfl

theorem shown_of_read {r : Request} (h : Request.reader.ofText? text = some r) :
    let e : Exchange := { text, reply := (dispatch s clock text).1 }
    let reply := Reply.ofAnswer r.id (answer s clock r).1
    e.isServed s.registry = (Keyed.contains r.method s.registry && reply.result?.isSome) ∧
      e.isFailed = reply.data?.isSome := by
  intro e reply
  have hreply : (dispatch s clock text).1 = reply := congrArg Prod.fst (dispatch_of_read s clock h)
  simp [Exchange.isServed, Exchange.isFailed, hreply, e, h]

theorem counts_dispatch (text : String) :
    let e : Exchange := { text, reply := (dispatch s clock text).1 }
    Counts s (e.isServed s.registry) e.isFailed (dispatch s clock text).2 := by
  intro e
  cases hread : Request.reader.ofText? text with
  | none =>
    obtain ⟨hserved, hfailed⟩ := shown_of_unread s clock hread
    rw [hserved, hfailed, dispatch_of_unread s clock hread]
    exact counts_refl s
  | some r =>
    obtain ⟨hserved, hfailed⟩ := shown_of_read s clock hread
    rw [hserved, hfailed, dispatch_of_read s clock hread]
    exact (answer_answered s clock r).counts

theorem dispatch_uncounted (h : ∀ r, Request.reader.ofText? text = some r →
      r.method ∉ s.registry.names ∨ r.callParams? = none) :
    let e : Exchange := { text, reply := (dispatch s clock text).1 }
    e.isServed s.registry = false ∧ e.isFailed = false := by
  cases hread : Request.reader.ofText? text with
  | none => exact shown_of_unread s clock hread
  | some r =>
    obtain ⟨hserved, hfailed⟩ := shown_of_read s clock hread
    obtain ⟨huncounted, hdata, -⟩ := (answer_answered s clock r).uncounted (h r hread)
    exact ⟨hserved.trans huncounted, hfailed.trans hdata⟩

end Dispatch

/-! ## Runs -/

theorem registry_dispatch (s : Service) (clock : Clock) (text : String) :
    (dispatch s clock text).2.registry = s.registry := by
  rw [Service.registry, (counts_dispatch s clock text).strings, Service.registry]

theorem exists_dispatch_of_mem {s : Service} {messages : List (Clock × String)} {e : Exchange}
    (h : e ∈ (exchanges s messages).1) :
    ∃ (before : Service) (clock : Clock), before.registry = s.registry ∧
      e = { text := e.text, reply := (dispatch before clock e.text).1 } := by
  induction messages generalizing s with
  | nil => cases h
  | cons message rest ih =>
    obtain ⟨clock, text⟩ := message
    rw [exchanges_cons] at h
    rcases List.mem_cons.1 h with rfl | h
    · exact ⟨s, clock, rfl, rfl⟩
    · obtain ⟨before, clock', hregistry, he⟩ := ih h
      exact ⟨before, clock', hregistry.trans (registry_dispatch s clock text), he⟩

theorem counters_exchanges (s : Service) (messages : List (Clock × String)) :
    (exchanges s messages).2.served =
        s.served + .ofNat ((exchanges s messages).1.countP (·.isServed s.registry)) ∧
      (exchanges s messages).2.failed =
        s.failed + .ofNat ((exchanges s messages).1.countP (·.isFailed)) := by
  induction messages generalizing s with
  | nil => exact ⟨(UInt64.add_zero _).symm, (UInt64.add_zero _).symm⟩
  | cons message rest ih =>
    obtain ⟨clock, text⟩ := message
    obtain ⟨-, hserved, hfailed⟩ := counts_dispatch s clock text
    obtain ⟨ihserved, ihfailed⟩ := ih (dispatch s clock text).2
    rw [exchanges_cons, List.countP_cons, List.countP_cons, ihserved, ihfailed, hserved, hfailed,
      registry_dispatch]
    constructor <;> split <;> simp [UInt64.ofNat_add, UInt64.add_assoc, UInt64.add_comm]

/-! ## The status -/

theorem get?_status (status : StatusResult) :
    status.toJson.get? "calls_served" = some (.int status.served) ∧
      status.toJson.get? "calls_failed" = some (.int status.failed) := by
  constructor <;>
  · show Keyed.get? _ (Keyed.ofList _) = _
    rw [Keyed.get?_ofList (by simp [Keyed.keys])]
    simp [Keyed.get?]

theorem dispatch_status {text : String} {r : Request} (s : Service) (clock : Clock)
    (hread : Request.reader.ofText? text = some r) (hmethod : r.method = "service.status") :
    (dispatch s clock text).1 = .response { id := r.id, result := (status s clock).toJson } := by
  rw [dispatch_of_read s clock hread, answer, if_neg (by simp [hmethod]),
    if_neg (by simp [hmethod]), if_pos hmethod]
  rfl

theorem toNat_zero_add_ofNat {n : Nat} (h : n < UInt64.size) : (0 + UInt64.ofNat n).toNat = n := by
  rw [UInt64.zero_add, UInt64.toNat_ofNat_of_lt' h]

/-- Of a service that starts, a status tells how many functions were answered with a result and how
many replies had an error with data. Whatever called no function is in neither number. -/
theorem status_counts {site : Site} {features : Features} {strings : Strings} {started : Int}
    {earlier : List (Clock × String)} {clock : Clock} {text : String} {r : Request}
    (hfew : earlier.length < UInt64.size) (hread : Request.reader.ofText? text = some r)
    (hmethod : r.method = "service.status") :
    let fresh : Service := { site, features, strings, started }
    let history := (exchanges fresh earlier).1
    (∃ result, (dispatch (exchanges fresh earlier).2 clock text).1 =
        .response { id := r.id, result } ∧
      result.get? "calls_served" =
        some (.int (history.countP (·.isServed fresh.registry) : Nat)) ∧
      result.get? "calls_failed" = some (.int (history.countP (·.isFailed) : Nat))) ∧
    ∀ e ∈ history, (∀ request, Request.reader.ofText? e.text = some request →
        request.method ∈ ownMethods ∨ request.method ∉ fresh.registry.names ∨
          request.callParams? = none) →
      e.isServed fresh.registry = false ∧ e.isFailed = false := by
  intro fresh history
  have hlength : history.length < UInt64.size := length_exchanges fresh earlier ▸ hfew
  constructor
  · obtain ⟨hserved, hfailed⟩ := counters_exchanges fresh earlier
    obtain ⟨hgetServed, hgetFailed⟩ := get?_status (status (exchanges fresh earlier).2 clock)
    refine ⟨_, dispatch_status _ clock hread hmethod, ?_, ?_⟩
    · rw [hgetServed, status, hserved]
      exact congrArg (fun n : Nat => some (Json.int n))
        (toNat_zero_add_ofNat (List.countP_le_length.trans_lt hlength))
    · rw [hgetFailed, status, hfailed]
      exact congrArg (fun n : Nat => some (Json.int n))
        (toNat_zero_add_ofNat (List.countP_le_length.trans_lt hlength))
  · intro e he hnot
    obtain ⟨before, clock', hregistry, heq⟩ := exists_dispatch_of_mem he
    rw [heq, ← hregistry]
    refine dispatch_uncounted before clock' fun request hrequest => ?_
    rw [hregistry]
    rcases hnot request hrequest with hown | hnot
    · exact .inl fun hname => notMem_ownMethods hname hown
    · exact hnot

/-- A badge is looked up, a token is not known, a method is unknown, and a text is no request. -/
theorem newcomerService_counts :
    let texts := [
      "[1, \"core_badges_get_user_badge_by_hash\", [\"token\", \x7b\"hash\": \"abc\"\x7d]]",
      "[2, \"mod_chat_view_sessions\", [\"nope\"]]", "[3, \"core_nope\"]", "hello"]
    let earlier := texts.map fun text => ((⟨0, ""⟩ : Clock), text)
    ∃ r result, Request.reader.ofText? "[\"s\", \"service.status\"]" = some r ∧
      (dispatch (exchanges newcomerService earlier).2 ⟨0, ""⟩ "[\"s\", \"service.status\"]").1 =
        .response { id := r.id, result } ∧
      result.get? "calls_served" = some (.int 1) ∧ result.get? "calls_failed" = some (.int 1) := by
  intro texts earlier
  have hsome : (Request.reader.ofText? "[\"s\", \"service.status\"]").isSome = true := by
    decide +kernel
  obtain ⟨r, hread⟩ := Option.isSome_iff_exists.1 hsome
  have hmethod : (Request.reader.ofText? "[\"s\", \"service.status\"]").map (·.method) =
      some "service.status" := by decide +kernel
  rw [hread] at hmethod
  obtain ⟨⟨result, hreply, hserved, hfailed⟩, -⟩ :=
    @status_counts newcomerService.site {} .english 0 earlier ⟨0, ""⟩ _ r (by decide) hread
      (Option.some.inj hmethod)
  have hcounts : (exchanges newcomerService earlier).1.countP
        (·.isServed newcomerService.registry) = 1 ∧
      (exchanges newcomerService earlier).1.countP (·.isFailed) = 1 := by decide +kernel
  refine ⟨r, result, hread, hreply, hserved.trans ?_, hfailed.trans ?_⟩
  · exact congrArg (fun n : Nat => some (Json.int n)) hcounts.1
  · exact congrArg (fun n : Nat => some (Json.int n)) hcounts.2

end Campus.Rpc

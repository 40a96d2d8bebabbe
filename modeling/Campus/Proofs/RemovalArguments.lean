import Campus.Function.Assign
import Campus.Proofs.Fitting

/-!
# What removals ask for

The arguments of both removal functions name one assignment, and one user or several. Arguments that
are accepted are read as just these numbers, all of 64 bits.
-/

namespace Campus

/-! ## What the arguments ask for -/

namespace Json

/-- The integer that a member writes. -/
def integerAt? (name : String) (arguments : Json) : Option Int :=
  (arguments.get? name).bind toInteger?

/-- The integers that a member lists. -/
def integersAt? (name : String) (arguments : Json) : Option (List Int) :=
  (arguments.get? name).bind fun v => v.array?.bind fun items => items.mapM toInteger?

theorem isInt64_of_integerAt? {name : String} {arguments : Json} {n : Int}
    (h : arguments.integerAt? name = some n) : IsInt64 n := by
  obtain ⟨v, -, hv⟩ := Option.bind_eq_some_iff.1 h
  exact isInt64_of_toInteger? hv

theorem isInt64_of_integersAt? {name : String} {arguments : Json} {ns : List Int}
    (h : arguments.integersAt? name = some ns) : ∀ n ∈ ns, IsInt64 n := by
  obtain ⟨v, -, hv⟩ := Option.bind_eq_some_iff.1 h
  obtain ⟨items, -, hitems⟩ := Option.bind_eq_some_iff.1 hv
  exact isInt64_of_mapM_toInteger? hitems

end Json

/-- The arguments of the one function name an assignment and a user, and nothing else. -/
structure Json.AsksForOne (arguments : Json) (assignid userid : Int) : Prop where
  only : arguments.HasOnly ["assignid", "userid"]
  assignment : arguments.integerAt? "assignid" = some assignid
  user : arguments.integerAt? "userid" = some userid

/-- The arguments of the other name an assignment and a list of users. -/
structure Json.AsksForSeveral (arguments : Json) (assignid : Int) (userids : List Int) : Prop where
  only : arguments.HasOnly ["assignid", "userids"]
  assignment : arguments.integerAt? "assignid" = some assignid
  users : arguments.integersAt? "userids" = some userids

/-- A call of one of the functions asks for the removal of users' submissions. -/
inductive RemovalRequest : String → Json → Int → List Int → Prop
  | one {arguments : Json} {assignid userid : Int} (h : arguments.AsksForOne assignid userid) :
      RemovalRequest "mod_assign_remove_submission" arguments assignid [userid]
  | several {arguments : Json} {assignid : Int} {userids : List Int}
      (h : arguments.AsksForSeveral assignid userids) :
      RemovalRequest "mod_assign_remove_submissions" arguments assignid userids

namespace Description

variable {desc : String} {given : List (String × Json)} {name : String} {out : Option Json}

theorem fit_member_int_eq_ok_iff :
    (plain .int desc).fit .input ((Keyed.get? name given).getD .null) = .ok out ↔
      ∃ n, (Json.object given).integerAt? name = some n ∧ out = some (.int n) := by
  rw [fit_plain_int_eq_ok_iff, Json.integerAt?, Json.get?]
  cases Keyed.get? name given <;> simp [Json.toInteger?]

theorem fit_member_ints_eq_ok_iff {content : String} :
    (listOf (plain .int content) desc).fit .input ((Keyed.get? name given).getD .null) = .ok out ↔
      ∃ ns, (Json.object given).integersAt? name = some ns ∧ out = some (.array (ns.map .int)) := by
  rw [fit_listOf_int_eq_ok_iff, Json.integersAt?, Json.get?]
  cases Keyed.get? name given with
  | none => simp
  | some v => cases v <;> simp [Json.array?]

end Description

section Validated

open Description

variable {arguments : Json} {members : List (String × Json)}

theorem validateArguments_removal_iff {α : Type} {value? : Json → Option α} {encode : α → Json}
    {name : String} {d : Description}
    (hfit : ∀ {given : List (String × Json)} {out : Option Json},
      d.fit .input ((Keyed.get? name given).getD .null) = .ok out ↔
        ∃ a, value? (.object given) = some a ∧ out = some (encode a)) :
    validateArguments (structureOf "params" [assignmentIdField, (name, d)]) arguments = .ok members
      ↔ ∃ assignid a, arguments.HasOnly ["assignid", name] ∧
        arguments.integerAt? "assignid" = some assignid ∧ value? arguments = some a ∧
        members = Keyed.insert name (encode a) [("assignid", .int assignid)] := by
  rw [validateArguments_eq_ok_iff (by rintro ⟨⟩)]
  constructor
  · rintro ⟨given, rfl, honly, hfields⟩
    obtain ⟨_, hfirst, hfields⟩ := fitFields_cons_eq_ok_iff.1 hfields
    obtain ⟨_, hsecond, hfields⟩ := fitFields_cons_eq_ok_iff.1 hfields
    obtain ⟨assignid, hassign, rfl⟩ := fit_member_int_eq_ok_iff.1 hfirst
    obtain ⟨a, ha, rfl⟩ := hfit.1 hsecond
    cases hfields
    exact ⟨assignid, a, honly, hassign, ha, rfl⟩
  · rintro ⟨assignid, a, honly, hassign, ha, rfl⟩
    cases arguments with
    | object given =>
      refine ⟨given, rfl, honly, ?_⟩
      refine fitFields_cons_eq_ok_iff.2 ⟨_, fit_member_int_eq_ok_iff.2 ⟨_, hassign, rfl⟩, ?_⟩
      exact fitFields_cons_eq_ok_iff.2 ⟨_, hfit.2 ⟨_, ha, rfl⟩, rfl⟩
    | _ => cases honly

theorem validateArguments_one_iff (strings : Strings) :
    validateArguments (removeSubmissionFunction strings).input arguments = .ok members ↔
      ∃ assignid userid, arguments.AsksForOne assignid userid ∧
        members = [("assignid", .int assignid), ("userid", .int userid)] := by
  refine (validateArguments_removal_iff fit_member_int_eq_ok_iff).trans ?_
  constructor
  · rintro ⟨assignid, userid, honly, hassign, huser, rfl⟩
    exact ⟨assignid, userid, ⟨honly, hassign, huser⟩, rfl⟩
  · rintro ⟨assignid, userid, ⟨honly, hassign, huser⟩, rfl⟩
    exact ⟨assignid, userid, honly, hassign, huser, rfl⟩

theorem validateArguments_several_iff :
    validateArguments removeSubmissionsFunction.input arguments = .ok members ↔
      ∃ assignid userids, arguments.AsksForSeveral assignid userids ∧
        members = [("assignid", .int assignid), ("userids", .array (userids.map .int))] := by
  refine (validateArguments_removal_iff fit_member_ints_eq_ok_iff).trans ?_
  constructor
  · rintro ⟨assignid, userids, honly, hassign, husers, rfl⟩
    exact ⟨assignid, userids, ⟨honly, hassign, husers⟩, rfl⟩
  · rintro ⟨assignid, userids, ⟨honly, hassign, husers⟩, rfl⟩
    exact ⟨assignid, userids, honly, hassign, husers, rfl⟩

end Validated

/-! ## Reading them -/

theorem Reader.read_int64 {n : Int} (h : IsInt64 n) : Reader.int64.read (.int n) = .ok n :=
  if_pos h

theorem Reader.read_list_int64 {ns : List Int} (h : ∀ n ∈ ns, IsInt64 n) :
    (Reader.list .int64).read (.array (ns.map .int)) = .ok ns := by
  show (ns.map Json.int).mapM Reader.int64.read = .ok ns
  induction ns with
  | nil => rfl
  | cons n rest ih =>
    rw [List.forall_mem_cons] at h
    rw [List.map_cons, List.mapM_cons, read_int64 h.1, ih h.2]
    rfl

theorem Reader.read_record_two {α β γ : Type} {f : α → β → γ} {name n₁ n₂ : String}
    {r₁ : Reader α} {r₂ : Reader β} {v₁ v₂ : Json} {a : α} {b : β} (hne : n₁ ≠ n₂)
    (h₁ : r₁.read v₁ = .ok a) (h₂ : r₂.read v₂ = .ok b) :
    (Reader.record name (f <$> .required n₁ r₁ <*> .required n₂ r₂)).read
      (.object [(n₁, v₁), (n₂, v₂)]) = .ok (f a b) := by
  simp [record, checkMembers, Members.required, Members.member, h₁, h₂, hne, Functor.map, Seq.seq,
    Keyed.get?, Except.map, bind, Except.bind, pure, Except.pure]

theorem readArguments_one {assignid userid : Int} (ha : IsInt64 assignid) (hu : IsInt64 userid) :
    readArguments RemoveSubmission.Arguments.reader
      [("assignid", .int assignid), ("userid", .int userid)] = .ok ⟨assignid, userid⟩ := by
  rw [readArguments, RemoveSubmission.Arguments.reader,
    Reader.read_record_two (by decide) (Reader.read_int64 ha) (Reader.read_int64 hu)]

theorem readArguments_several {assignid : Int} {userids : List Int} (ha : IsInt64 assignid)
    (hu : ∀ userid ∈ userids, IsInt64 userid) :
    readArguments RemoveSubmissions.Arguments.reader
      [("assignid", .int assignid), ("userids", .array (userids.map .int))] =
        .ok ⟨assignid, userids⟩ := by
  rw [readArguments, RemoveSubmissions.Arguments.reader,
    Reader.read_record_two (by decide) (Reader.read_int64 ha) (Reader.read_list_int64 hu)]

/-! ## Plain arguments -/

/-- The arguments of one removal. -/
def oneRemoval (assignid userid : Int) : Json :=
  .object [("assignid", .int assignid), ("userid", .int userid)]

/-- The arguments of removals for several users. -/
def severalRemovals (assignid : Int) (userids : List Int) : Json :=
  .object [("assignid", .int assignid), ("userids", .array (userids.map .int))]

theorem asksForOne_oneRemoval {assignid userid : Int} (ha : IsInt64 assignid)
    (hu : IsInt64 userid) : (oneRemoval assignid userid).AsksForOne assignid userid := by
  refine ⟨by simp [oneRemoval, Json.HasOnly], ?_, ?_⟩
  · exact Json.toInteger?_int ha
  · exact Json.toInteger?_int hu

theorem asksForSeveral_severalRemovals {assignid : Int} {userids : List Int}
    (ha : IsInt64 assignid) (hu : ∀ userid ∈ userids, IsInt64 userid) :
    (severalRemovals assignid userids).AsksForSeveral assignid userids := by
  refine ⟨by simp [severalRemovals, Json.HasOnly], ?_, ?_⟩
  · exact Json.toInteger?_int ha
  · exact Json.mapM_toInteger?_int hu

end Campus

import Campus.Contract.Envelope
import Campus.Proofs.Fitting

/-!
# Results of a status and warnings

Such a result is already in the form that it is declared to have, so cleaning leaves it alone.
-/

namespace Campus

/-- The code is of letters and digits, the id of 64 bits. -/
structure Warning.IsClean (w : Warning) : Prop where
  code : w.warningcode.toList.all isAlphanumeric = true
  itemid : ∀ id, w.itemid = some id → IsInt64 id

theorem Warning.toJson_eq_object (w : Warning) :
    w.toJson = .object ((w.item.toList.map fun item => ("item", .string item))
      ++ (w.itemid.toList.map fun id => ("itemid", .int id))
      ++ [("message", .string w.message), ("warningcode", .string w.warningcode)]) := by
  obtain ⟨item, itemid, code, message⟩ := w
  -- The keys are compared by evaluation: orders on texts have lemmas that lead away from it.
  cases item <;> cases itemid <;>
    simp only [toJson, Json.ofMembers, Keyed.ofList, Keyed.insert, Option.toList, List.map_nil,
      List.map_cons, List.nil_append, List.cons_append, List.append_nil, List.foldl_cons,
      List.foldl_nil, String.reduceLT, String.reduceEq, if_true, if_false]

namespace Description

theorem fit_warning {w : Warning} (h : w.IsClean) :
    warning.fit .output w.toJson = .ok (some w.toJson) := by
  rw [Warning.toJson_eq_object]
  obtain ⟨item, itemid, code, message⟩ := w
  have hcode := h.code
  have hid := h.itemid
  cases item <;> cases itemid <;>
    simp_all [warning, structureOf, optional, withPresence, plain, fit, fitFields, Keyed.get?,
      Json.isNull, Presence.absent, ParamType.coerce, Json.scalarText?, Except.map, bind,
      Except.bind, Json.int, Json.toInteger?]
  all_goals simp only [Keyed.insert, String.reduceLT, String.reduceEq, if_true, if_false]

theorem fit_warnings {ws : List Warning} (h : ∀ w ∈ ws, w.IsClean) :
    warnings.fit .output (.array (ws.map Warning.toJson)) =
      .ok (some (.array (ws.map Warning.toJson))) := by
  have hitems := fitItems_map (fun w hw => fit_warning (h w hw)) 0
  simp [warnings, optional, withPresence, listOf, fit, hitems, Except.map]

end Description

namespace Envelope

theorem toJson_eq_object (status : Bool) (ws : List Warning) :
    toJson { status, warnings := ws } =
      .object [("status", .bool status), ("warnings", .array (ws.map Warning.toJson))] := by
  simp only [toJson, Json.ofMembers, Keyed.ofList, Keyed.insert, List.nil_append, List.cons_append,
    List.append_nil, List.foldl_cons, List.foldl_nil, String.reduceLT, String.reduceEq, if_false]

theorem toJson_eq_object_of_member {name : String} (hname : name < "status") (v : Json)
    (status : Bool) (ws : List Warning) :
    toJson { status, payload := [(name, v)], warnings := ws } =
      .object [(name, v), ("status", .bool status),
        ("warnings", .array (ws.map Warning.toJson))] := by
  have hlt : name < "warnings" := Std.lt_trans hname (by decide)
  have hnot : ¬"warnings" < name := fun h => Std.lt_irrefl (Std.lt_trans h hlt)
  have hne : "warnings" ≠ name := fun h => Std.lt_irrefl (h ▸ hlt)
  simp only [toJson, Json.ofMembers, Keyed.ofList, Keyed.insert, List.nil_append, List.cons_append,
    List.foldl_cons, List.foldl_nil, String.reduceLT, String.reduceEq, if_false, if_pos hname,
    if_neg hnot, if_neg hne]

theorem cleanResult_toJson {desc : String} {status : Bool} {ws : List Warning}
    (h : ∀ w ∈ ws, w.IsClean) :
    cleanResult (.statusWithWarnings desc) (toJson { status, warnings := ws }) =
      .ok (toJson { status, warnings := ws }) := by
  have hstatus : (Description.plain .bool desc).fit .output (.bool status) = _ :=
    Description.fit_plain_of_coerce rfl rfl
  have hfields : Description.fitFields .output
      [("status", .plain .bool desc), ("warnings", .warnings)]
      [("status", .bool status), ("warnings", .array (ws.map Warning.toJson))] [] =
        .ok [("status", .bool status), ("warnings", .array (ws.map Warning.toJson))] := by
    refine Description.fitFields_cons_eq_ok_iff.2 ⟨_, hstatus, ?_⟩
    exact Description.fitFields_cons_eq_ok_iff.2 ⟨_, Description.fit_warnings h, rfl⟩
  rw [toJson_eq_object, cleanResult, Description.statusWithWarnings,
    Description.fit_structureOf_output, hfields]
  rfl

theorem cleanResult_of_list {desc statusDesc listDesc name : String} {content : Description}
    {status : Bool} {items kept : List Json} {ws : List Warning} (hname : name < "status")
    (h : ∀ w ∈ ws, w.IsClean) (hitems : fitItems (content.fit .output) 0 items = .ok kept) :
    cleanResult (.structureOf desc [("status", .plain .bool statusDesc),
        (name, .listOf content listDesc), ("warnings", .warnings)])
      (toJson { status, payload := [(name, .array items)], warnings := ws }) =
        .ok (.object [(name, .array kept), ("status", .bool status),
          ("warnings", .array (ws.map Warning.toJson))]) := by
  have hstatusNe : name ≠ "status" := fun heq => Std.lt_irrefl (heq ▸ hname)
  have hwarningsNe : name ≠ "warnings" := fun heq => absurd (heq ▸ hname) (by decide)
  have hnot : ¬"warnings" < name := fun hlt => absurd (Std.lt_trans hlt hname) (by decide)
  have hlist : (Description.listOf content listDesc).fit .output (.array items) =
      .ok (some (.array kept)) := by
    simp [Description.listOf, Description.fit, hitems, Except.map]
  have hstatus : (Description.plain .bool statusDesc).fit .output (.bool status) = _ :=
    Description.fit_plain_of_coerce rfl rfl
  have hfields : Description.fitFields .output
      [("status", .plain .bool statusDesc), (name, .listOf content listDesc),
        ("warnings", .warnings)]
      [(name, .array items), ("status", .bool status),
        ("warnings", .array (ws.map Warning.toJson))] [] =
        .ok [(name, .array kept), ("status", .bool status),
          ("warnings", .array (ws.map Warning.toJson))] := by
    refine Description.fitFields_cons_eq_ok_iff.2 ⟨some (.bool status), ?_, ?_⟩
    · rw [Keyed.get?_cons, if_neg hstatusNe]
      exact hstatus
    refine Description.fitFields_cons_eq_ok_iff.2 ⟨some (.array kept), ?_, ?_⟩
    · rw [Keyed.get?_cons, if_pos rfl]
      exact hlist
    refine Description.fitFields_cons_eq_ok_iff.2
      ⟨some (.array (ws.map Warning.toJson)), ?_, ?_⟩
    · rw [Keyed.get?_cons, if_neg hwarningsNe]
      exact Description.fit_warnings h
    · simp only [Description.fitFields, Option.elim_some, Keyed.insert, String.reduceLT,
        String.reduceEq, if_false, if_pos hname, if_neg hnot, if_neg hwarningsNe.symm]
  rw [toJson_eq_object_of_member hname, cleanResult, Description.fit_structureOf_output, hfields]
  rfl

end Envelope

/-! ## Reading an answer -/

/-- The status that a call answered with. -/
def statusOf? : Except ExternalError Json → Option Bool
  | .ok answer => (answer.get? "status").bind Json.bool?
  | .error _ => none

/-- The warnings that a call answered with. -/
def warningsOf? : Except ExternalError Json → Option (List Json)
  | .ok answer => (answer.get? "warnings").bind Json.array?
  | .error _ => none

/-- What a warning is about: its code, its item and the item's id. -/
def Json.subject (w : Json) : Option Json × Option Json × Option Json :=
  (w.get? "warningcode", w.get? "item", w.get? "itemid")

def Warning.subject (w : Warning) : Option Json × Option Json × Option Json :=
  (some (.string w.warningcode), w.item.map .string, w.itemid.map .int)

theorem Warning.subject_toJson (w : Warning) : w.toJson.subject = w.subject := by
  rw [toJson_eq_object]
  obtain ⟨item, itemid, code, message⟩ := w
  cases item <;> cases itemid <;> simp [Json.subject, subject, Json.get?, Keyed.get?]

namespace Outcome

theorem statusOf?_toResult (o : Outcome Unit) : statusOf? (.ok o.toResult) = some o.isOk := by
  cases o <;> simp [toResult, Envelope.toJson_eq_object, statusOf?, Json.get?, Keyed.get?,
    Json.bool?, isOk]

theorem warningsOf?_toResult (o : Outcome Unit) :
    warningsOf? (.ok o.toResult) = some (o.warnings.map Warning.toJson) := by
  cases o <;> simp [toResult, Envelope.toJson_eq_object, warningsOf?, Json.get?, Keyed.get?,
    Json.array?, warnings]

end Outcome

theorem Outcome.cleanResult_toResult {desc : String} {o : Outcome Unit}
    (h : ∀ w ∈ o.warnings, w.IsClean) :
    cleanResult (.statusWithWarnings desc) o.toResult = .ok o.toResult := by
  cases o with
  | ok _ => exact Envelope.cleanResult_toJson (by simp)
  | failed ws => exact Envelope.cleanResult_toJson h

/-! ## Batches -/

namespace Batch

theorem isOk_toOutcome (b : Batch) : b.toOutcome.isOk = b.warnings.isEmpty := by
  unfold toOutcome status
  cases b.warnings.isEmpty <;> rfl

theorem warnings_toOutcome (b : Batch) : b.toOutcome.warnings = b.warnings := by
  unfold toOutcome status
  split
  · next h => exact (List.isEmpty_iff.1 h).symm
  · rfl

end Batch

end Campus

import Campus.Proofs.ReportItems
import Campus.Proofs.Sowing.Description

/-!
# Sowing reports

A report is refused for what its record says, and never for the columns and filters that it starts
with: a source offers its own defaults.
-/

namespace Campus

open Change

/-! ## Defaults of sources -/

namespace Datasource

theorem defaults_offered : ∀ d ∈ all, (∀ c ∈ d.defaultColumns, d.hasColumn c = true) ∧
    (∀ f ∈ d.defaultFilters, d.hasFilter f = true) ∧
    ∀ f ∈ d.defaultConditions, d.hasFilter f = true := by
  decide

end Datasource

namespace Site

variable {s t : Site} {d : Datasource} {reportid : Int} {identifier : String}

/-- Only columns and filters of reports have changed. -/
def PartsChanged (s t : Site) : Prop := ∃ columns filters, t = { s with columns, filters }

theorem PartsChanged.sourceOf (h : s.PartsChanged t) :
    t.sourceOf reportid = s.sourceOf reportid := by
  obtain ⟨columns, filters, rfl⟩ := h
  rfl

theorem meets_addColumn (h : s.PartsChanged t) (hsource : s.sourceOf reportid = .ok d)
    (hcolumn : d.hasColumn identifier = true) :
    Meets (discard (addColumn reportid identifier) : Change SiteError Unit) t True
      fun _ u => s.PartsChanged u := by
  apply Meets.discard
  have hoffers : t.Offers reportid (·.hasColumn identifier) :=
    offers_iff.2 ⟨d, h.sourceOf.trans hsource, hcolumn⟩
  obtain ⟨columns, filters, rfl⟩ := h
  exact meets_of_ok (addColumn_of_offers hoffers) trivial ⟨_, _, rfl⟩

theorem meets_addFilter (iscondition : Bool) (h : s.PartsChanged t)
    (hsource : s.sourceOf reportid = .ok d) (hfilter : d.hasFilter identifier = true) :
    Meets (discard (addFilter iscondition reportid identifier) : Change SiteError Unit) t True
      fun _ u => s.PartsChanged u := by
  apply Meets.discard
  have hoffers : t.Offers reportid (·.hasFilter identifier) :=
    offers_iff.2 ⟨d, h.sourceOf.trans hsource, hfilter⟩
  obtain ⟨columns, filters, rfl⟩ := h
  exact meets_of_ok (addFilter_of_offers hoffers) trivial ⟨_, _, rfl⟩

theorem meets_addReport (now : Int) (name source : String) (default : Bool) (userid : Int) :
    (addReport now name source default userid).Meets s
      (source ∈ Datasource.all.map (·.name)) fun _ u =>
        PartsChanged { s with
          reports := (s.reports.add fun id => ⟨id, name, source, userid, now⟩).2 } u := by
  have hknown : (Datasource.find? source).isSome = true ↔ source ∈ Datasource.all.map (·.name) := by
    rw [Datasource.find?, List.find?_isSome, List.mem_map]
    simp only [beq_iff_eq]
  unfold addReport
  refine ((meets_require _ _).congr hknown).bind_true ?_
  rintro - d s ⟨rfl, hfound⟩
  apply Meets.get_bind
  dsimp only
  apply Meets.set_bind
  have hd : d ∈ Datasource.all := List.mem_of_find?_eq_some hfound
  obtain ⟨hcolumns, hfilters, hconditions⟩ := Datasource.defaults_offered d hd
  have hsource : sourceOf s.reports.nextId
      (s.withEmptyReport now name source userid) = .ok d := sourceOf_withEmptyReport hfound
  cases default with
  | false => exact meets_pure ⟨_, _, rfl⟩
  | true =>
    refine (meets_each_of_true _ _ ⟨_, _, rfl⟩ fun c hc u hu =>
      meets_addColumn hu hsource (hcolumns c hc)).bind_of_true fun _ u hu => ?_
    refine (meets_each_of_true _ _ hu fun f hf v hv =>
      meets_addFilter false hv hsource (hfilters f hf)).bind_of_true fun _ v hv => ?_
    refine (meets_each_of_true _ _ hv fun f hf w hw =>
      meets_addFilter true hw hsource (hconditions f hf)).bind_of_true fun _ w hw => ?_
    exact meets_pure hw

end Site

/-! ## Records of reports -/

namespace ReportRecord

variable {name text : String} {properties : List (String × Json)}

theorem text_eq_ok_iff :
    ReportRecord.text name properties = .ok text ↔
      Keyed.get? name properties = some (.string text) := by
  unfold ReportRecord.text required
  cases Keyed.get? name properties with
  | none => simp [bind, Except.bind]
  | some v =>
    cases v <;> simp [bind, Except.bind, throw, throwThe, MonadExceptOf.throw, pure, Except.pure]

theorem isSome_toTruth? {v : Json} : v.toTruth?.isSome = true ↔ IsTruth v := by
  constructor
  · unfold Json.toTruth?
    split <;> simp [IsTruth, Json.int]
  · rintro (⟨b, rfl⟩ | rfl | rfl | ⟨text, htext, rfl⟩)
    · rfl
    · rfl
    · rfl
    · revert text
      decide

theorem truth?_isOk_iff : (∃ b, truth? name properties = .ok b) ↔
    ∀ v, Keyed.get? name properties = some v → v = .null ∨ IsTruth v := by
  unfold truth?
  split
  · next hget => simp [hget]
  · next hget => simp [hget]
  · next v hnull hget =>
    have hv : v ≠ .null := hnull
    have htruth : (∀ w, Keyed.get? name properties = some w → w = .null ∨ IsTruth w) ↔
        v.toTruth?.isSome = true := by
      rw [hget, isSome_toTruth?]
      simp [hv]
    rw [htruth]
    cases v.toTruth? <;> simp

end ReportRecord

theorem knowsReport_object {properties : List (String × Json)} :
    KnowsReport (.object properties) ↔
      (∃ name, ReportRecord.text "name" properties = .ok name) ∧
        (∃ source, ReportRecord.text "source" properties = .ok source) ∧
        (∃ b, ReportRecord.truth? "default" properties = .ok b) ∧
        ∃ source ∈ Datasource.all.map (·.name),
          Keyed.get? "source" properties = some (.string source) := by
  simp only [ReportRecord.truth?_isOk_iff, ReportRecord.text_eq_ok_iff]
  constructor
  · rintro ⟨_, ⟨⟩, hname, ⟨source, hknown, hsource⟩, hdefault⟩
    exact ⟨hname, ⟨source, hsource⟩, hdefault, source, hknown, hsource⟩
  · rintro ⟨hname, -, hdefault, hsource⟩
    exact ⟨properties, rfl, hname, hsource, hdefault⟩

namespace Seed

variable {ambient : Ambient} {s : Seed} {t : Site} {before : List Json}

theorem meets_createReport (record : Json)
    (h : Describes ambient { s with reports := before } t) :
    Meets (discard (Fixture.createReport ambient.now s.authorNumber record) : Fixture Unit) t
      (KnowsReport record) fun _ u =>
        Describes ambient { s with reports := before ++ [record] } u := by
  refine Meets.discard ?_
  unfold Fixture.createReport
  cases record with
  | object properties =>
    rw [knowsReport_object]
    refine (meets_liftExcept_of_ok rfl).bind_of_true ?_
    rintro properties t ⟨rfl, rfl⟩
    refine (meets_liftExcept _).bind ?_
    rintro - name t ⟨rfl, hname⟩
    refine (meets_liftExcept _).bind ?_
    rintro - source t ⟨rfl, hsource⟩
    refine (meets_liftExcept _).bind ?_
    rintro - default t ⟨rfl, -⟩
    rw [ReportRecord.text_eq_ok_iff] at hname hsource
    have hknown : source ∈ Datasource.all.map (·.name) ↔
        ∃ source ∈ Datasource.all.map (·.name),
          Keyed.get? "source" properties = some (.string source) := by
      simp [hsource]
    refine (((Site.meets_addReport ambient.now name source (default.getD true)
      s.authorNumber).adapt _).congr hknown).imp ?_
    rintro _ _ ⟨columns, filters, rfl⟩
    have hadd := Table.add_numbered (s.reportRecord ambient.now) before
      (.object properties) (fun id => ⟨id, name, source, s.authorNumber, ambient.now⟩)
      (by simp [reportRecord, reportText, Json.get?, Json.string?, hname, hsource])
    have hreports : t.reports = .numbered (s.reportRecord ambient.now) before := h.reports
    rw [hreports, hadd]
    exact { h with reports := rfl }
  | _ =>
    refine meets_of_error rfl ?_
    rintro ⟨_, hobject, -⟩
    cases hobject

theorem author_eq (s : Seed) : s.author (numbersOf (·.username) s.users) = s.authorNumber := by
  rw [author, authorNumber]
  cases hfound : s.users.find? (·.siteadmin) with
  | none => rfl
  | some e =>
    have hmem : e.username ∈ s.users.map (·.username) :=
      List.mem_map_of_mem (List.mem_of_find?_eq_some hfound)
    rw [Option.bind_some, get?_numbersOf hmem]
    rfl

theorem meets_createReports (h : Describes ambient { s with reports := [] } t) :
    Meets (each (fun record => discard (Fixture.createReport ambient.now s.authorNumber record))
      s.reports : Fixture Unit) t (∀ record ∈ s.reports, KnowsReport record) fun _ u =>
        Describes ambient s u :=
  meets_each (I := fun before => Describes ambient { s with reports := before }) s.reports h
    fun _ record _ _ _ hbefore => meets_createReport record hbefore

end Seed

end Campus

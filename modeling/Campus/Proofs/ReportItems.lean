import Campus.Fixture.Reports
import Campus.Proofs.Run

/-!
# Columns and filters of reports

A report takes the columns and filters that its source offers, each with the next number of its
kind, and no others. It can be given them as soon as it is stored.
-/

namespace Campus

namespace Site

variable {s : Site} {report now userid : Int} {identifier name source : String}
  {iscondition : Bool} {d : Datasource}

/-! ## What a source offers -/

/-- The report is there, and its source offers something. -/
def Offers (s : Site) (report : Int) (has : Datasource → Bool) : Prop :=
  ∃ r d, s.report? report = some r ∧ Datasource.find? r.source = some d ∧ has d = true

theorem sourceOf_eq_ok_iff : s.sourceOf report = .ok d ↔
    ∃ r, s.report? report = some r ∧ Datasource.find? r.source = some d := by
  unfold sourceOf
  cases s.report? report with
  | none => simp
  | some r =>
    dsimp only
    cases hd : Datasource.find? r.source <;> simp [hd]

theorem offers_iff {has : Datasource → Bool} :
    s.Offers report has ↔ ∃ d, s.sourceOf report = .ok d ∧ has d = true := by
  simp only [sourceOf_eq_ok_iff, Offers]
  constructor
  · rintro ⟨r, d, hr, hd, hhas⟩
    exact ⟨d, ⟨r, hr, hd⟩, hhas⟩
  · rintro ⟨d, ⟨r, hr, hd⟩, hhas⟩
    exact ⟨r, d, hr, hd, hhas⟩

theorem eq_false_of_not_offers {has : Datasource → Bool} (h : ¬s.Offers report has)
    (hsource : s.sourceOf report = .ok d) : has d = false := by
  rw [← Bool.not_eq_true]
  intro hhas
  exact h (offers_iff.2 ⟨d, hsource, hhas⟩)

/-! ## The next column and the next filter -/

def isColumnOf (report : Int) (c : ReportColumn) : Bool := c.reportid == report

/-- The filter is one of a report's filters, or one of its conditions. -/
def isFilterOf (group : Int × Bool) (f : ReportFilter) : Bool :=
  f.reportid == group.1 && f.iscondition == group.2

def nextColumn (s : Site) (report : Int) (identifier : String) (id : Int) : ReportColumn where
  id := id
  reportid := report
  uniqueidentifier := identifier
  columnorder := nextOrder ((s.columns.records.filter (isColumnOf report)).map (·.columnorder))

def nextFilter (s : Site) (iscondition : Bool) (report : Int) (identifier : String) (id : Int) :
    ReportFilter where
  id := id
  reportid := report
  uniqueidentifier := identifier
  iscondition := iscondition
  filterorder :=
    nextOrder ((s.filters.records.filter (isFilterOf (report, iscondition))).map (·.filterorder))

theorem isColumnOf_iff {c : ReportColumn} : isColumnOf report c = true ↔ report = c.reportid := by
  unfold isColumnOf
  rw [beq_iff_eq, eq_comm]

theorem isFilterOf_iff {group : Int × Bool} {f : ReportFilter} :
    isFilterOf group f = true ↔ group = (f.reportid, f.iscondition) := by
  unfold isFilterOf
  rw [Bool.and_eq_true, beq_iff_eq, beq_iff_eq, Prod.ext_iff, eq_comm, @eq_comm _ f.iscondition]

/-! ## Adding them -/

theorem addColumn_of_offers (h : s.Offers report (·.hasColumn identifier)) :
    (addColumn report identifier) s = (.ok (s.nextColumn report identifier s.columns.nextId),
      { s with columns := (s.columns.add (s.nextColumn report identifier)).2 }) := by
  obtain ⟨d, hsource, hcolumn⟩ := offers_iff.1 h
  unfold addColumn
  rw [Run.bind_apply, Run.get_apply]
  dsimp only
  rw [Run.bind_apply, Run.liftExcept_apply, hsource]
  simp only [hcolumn]
  rfl

theorem addColumn_of_not_offers (h : ¬s.Offers report (·.hasColumn identifier)) :
    ∃ e, (addColumn report identifier) s = (.error e, s) := by
  unfold addColumn
  rw [Run.bind_apply, Run.get_apply]
  dsimp only
  rw [Run.bind_apply, Run.liftExcept_apply]
  cases hsource : s.sourceOf report with
  | error e => exact ⟨e, rfl⟩
  | ok d =>
    have hcolumn : d.hasColumn identifier = false := eq_false_of_not_offers h hsource
    simp only [hcolumn]
    exact ⟨_, rfl⟩

theorem addFilter_of_offers (h : s.Offers report (·.hasFilter identifier)) :
    (addFilter iscondition report identifier) s =
      (.ok (s.nextFilter iscondition report identifier s.filters.nextId),
        { s with filters := (s.filters.add (s.nextFilter iscondition report identifier)).2 }) := by
  obtain ⟨d, hsource, hfilter⟩ := offers_iff.1 h
  unfold addFilter
  rw [Run.bind_apply, Run.get_apply]
  dsimp only
  rw [Run.bind_apply, Run.liftExcept_apply, hsource]
  simp only [hfilter]
  rfl

theorem addFilter_of_not_offers (iscondition : Bool)
    (h : ¬s.Offers report (·.hasFilter identifier)) :
    ∃ e, (addFilter iscondition report identifier) s = (.error e, s) := by
  unfold addFilter
  rw [Run.bind_apply, Run.get_apply]
  dsimp only
  rw [Run.bind_apply, Run.liftExcept_apply]
  cases hsource : s.sourceOf report with
  | error e => exact ⟨e, rfl⟩
  | ok d =>
    have hfilter : d.hasFilter identifier = false := eq_false_of_not_offers h hsource
    simp only [hfilter]
    exact ⟨_, rfl⟩

/-! ## A new report -/

/-- The site with one more report, which has nothing yet. -/
def withEmptyReport (s : Site) (now : Int) (name source : String) (userid : Int) : Site :=
  { s with reports := (s.reports.add fun id => ⟨id, name, source, userid, now⟩).2 }

theorem report?_withEmptyReport : (s.withEmptyReport now name source userid).report?
    s.reports.nextId = some ⟨s.reports.nextId, name, source, userid, now⟩ :=
  Table.get?_add_self (fun id : Int => (⟨id, name, source, userid, now⟩ : Report)) s.reports

theorem sourceOf_withEmptyReport (hfound : Datasource.find? source = some d) :
    sourceOf s.reports.nextId (s.withEmptyReport now name source userid) = .ok d :=
  sourceOf_eq_ok_iff.2 ⟨_, report?_withEmptyReport, hfound⟩

theorem report?_withEmptyReport_of_ne {other : Int} (h : other ≠ s.reports.nextId) :
    (s.withEmptyReport now name source userid).report? other = s.report? other :=
  Table.get?_put_of_ne h.symm _ s.reports.skip

end Site

end Campus

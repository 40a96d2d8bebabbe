import Campus.Proofs.Operations
import Campus.Proofs.Sowing.Reports

/-!
# The parts of reports

However a site came about, the columns of a report are numbered from one in the order in which they
were added, and so are its filters and its conditions, each for themselves. Whoever asks for a
report, a column, a filter or a condition gets it after those that are there, or nothing is done.
-/

namespace Campus

/-! ## Numbers from one -/

def fromOne (n : Nat) : List Int := (List.range n).map fun i : Nat => (i : Int) + 1

theorem fromOne_succ (n : Nat) : fromOne (n + 1) = fromOne n ++ [(n : Int) + 1] := by
  unfold fromOne
  simp [List.range_succ]

theorem mem_fromOne {n : Nat} {order : Int} (h : order ∈ fromOne n) : order ≤ n := by
  unfold fromOne at h
  obtain ⟨i, hi, rfl⟩ := List.mem_map.1 h
  rw [List.mem_range] at hi
  omega

theorem pairwise_fromOne (n : Nat) : (fromOne n).Pairwise (· ≤ ·) := by
  induction n with
  | zero => exact List.Pairwise.nil
  | succ n ih =>
    rw [fromOne_succ, List.pairwise_append]
    refine ⟨ih, List.pairwise_singleton _ _, ?_⟩
    intro order horder last hlast
    have hle := mem_fromOne horder
    rw [List.mem_singleton] at hlast
    omega

theorem nextOrder_fromOne (n : Nat) : Site.nextOrder (fromOne n) = n + 1 := by
  unfold Site.nextOrder
  cases n with
  | zero => rfl
  | succ n =>
    have hmax : (fromOne (n + 1)).max? = some ((n : Int) + 1) := by
      rw [List.max?_eq_some_iff]
      constructor
      · rw [fromOne_succ]
        simp
      · intro order horder
        exact mem_fromOne horder
    rw [hmax]
    simp

namespace Table

variable {ι α : Type} {mine : ι → α → Bool} {order : α → Int} {t : Table α}

/-- The records of each group are numbered from one in the order of their ids. -/
def Counts (mine : ι → α → Bool) (order : α → Int) (t : Table α) : Prop :=
  ∀ i, (t.records.filter (mine i)).map order = fromOne (t.records.filter (mine i)).length

theorem counts_empty : ({} : Table α).Counts mine order := fun _ => rfl

theorem filter_add {idOf : α → Int} (h : t.Sound idOf) (make : Int → α) (p : α → Bool) :
    (t.add make).2.records.filter p =
      t.records.filter p ++ if p (make t.nextId) then [make t.nextId] else [] := by
  unfold records Keyed.values
  rw [h.rows_add, List.map_append, List.filter_append, List.map_singleton, List.filter_singleton]
  cases p (make t.nextId) <;> rfl

theorem Counts.add {idOf : α → Int} (h : t.Counts mine order) (hsound : t.Sound idOf)
    {make : Int → α} {i : ι} (hmine : ∀ j, mine j (make t.nextId) = true → j = i)
    (horder : order (make t.nextId) = Site.nextOrder ((t.records.filter (mine i)).map order)) :
    (t.add make).2.Counts mine order := by
  intro j
  rw [filter_add hsound]
  split
  · next hj =>
    obtain rfl := hmine j hj
    rw [h j, nextOrder_fromOne] at horder
    rw [List.map_append, List.length_append, List.map_singleton, List.length_singleton,
      fromOne_succ, h j, horder]
  · rw [List.append_nil]
    exact h j

theorem Counts.mergeSort_filter (h : t.Counts mine order) (i : ι) :
    (t.records.filter (mine i)).mergeSort (fun a b => order a ≤ order b) =
      t.records.filter (mine i) := by
  apply List.mergeSort_of_pairwise
  have hsorted := pairwise_fromOne (t.records.filter (mine i)).length
  rw [← h i, List.pairwise_map] at hsorted
  exact hsorted.imp fun hle => decide_eq_true hle

theorem Sound.mem_filter_iff {idOf : α → Int} (h : t.Sound idOf) {p : α → Bool} {record : α} :
    record ∈ t.records.filter p ↔ t.get? (idOf record) = some record ∧ p record = true := by
  unfold records Keyed.values
  rw [List.mem_filter, List.mem_map]
  constructor
  · rintro ⟨⟨row, hrow, rfl⟩, hp⟩
    have hget := get?_eq_some_iff.2 hrow
    rw [h.own row.1 row.2 hget]
    exact ⟨hget, hp⟩
  · rintro ⟨hget, hp⟩
    exact ⟨⟨_, get?_eq_some_iff.1 hget, rfl⟩, hp⟩

theorem Sound.pairwise_filter {idOf : α → Int} (h : t.Sound idOf) (p : α → Bool) :
    (t.records.filter p).Pairwise fun record next => idOf record < idOf next := by
  apply List.Pairwise.filter
  unfold records Keyed.values
  rw [List.pairwise_map]
  refine t.sorted.imp_of_mem ?_
  intro row next hrow hnext hlt
  rwa [h.own row.1 row.2 (get?_eq_some_iff.2 hrow), h.own next.1 next.2 (get?_eq_some_iff.2 hnext)]

end Table

namespace Site

variable {s t : Site} {report : Int} {identifier : String} {iscondition : Bool}

/-! ## Sites whose parts are counted -/

structure CountsParts (s : Site) : Prop where
  reports : s.reports.Sound Report.id
  columns : s.columns.Sound ReportColumn.id
  filters : s.filters.Sound ReportFilter.id
  columnOrders : s.columns.Counts isColumnOf ReportColumn.columnorder
  filterOrders : s.filters.Counts isFilterOf ReportFilter.filterorder
  columnOffered : s.columns.Every fun _ c => s.Offers c.reportid (·.hasColumn c.uniqueidentifier)
  filterOffered : s.filters.Every fun _ f => s.Offers f.reportid (·.hasFilter f.uniqueidentifier)

theorem countsParts_new (wwwroot : String) : ({ wwwroot } : Site).CountsParts where
  reports := Table.sound_empty
  columns := Table.sound_empty
  filters := Table.sound_empty
  columnOrders := Table.counts_empty
  filterOrders := Table.counts_empty
  columnOffered := Table.every_empty
  filterOffered := Table.every_empty

theorem CountsParts.of_eq (h : s.CountsParts) (hreports : t.reports = s.reports)
    (hcolumns : t.columns = s.columns) (hfilters : t.filters = s.filters) : t.CountsParts := by
  have hoffers (report : Int) (has : Datasource → Bool) (hs : s.Offers report has) :
      t.Offers report has := by
    unfold Offers report? at hs ⊢
    rwa [hreports]
  constructor
  · exact hreports ▸ h.reports
  · exact hcolumns ▸ h.columns
  · exact hfilters ▸ h.filters
  · exact hcolumns ▸ h.columnOrders
  · exact hfilters ▸ h.filterOrders
  · exact hcolumns ▸ h.columnOffered.imp fun _ c hc => hoffers c.reportid _ hc
  · exact hfilters ▸ h.filterOffered.imp fun _ f hf => hoffers f.reportid _ hf

theorem CountsParts.withReport (h : s.CountsParts) {make : Int → Report}
    (hmake : ∀ id, (make id).id = id) :
    { s with reports := (s.reports.add make).2 }.CountsParts := by
  have hoffers (report : Int) (has : Datasource → Bool) :
      s.Offers report has → Offers { s with reports := (s.reports.add make).2 } report has := by
    rintro ⟨r, d, hr, hd, hhas⟩
    exact ⟨r, d, h.reports.get?_add hr, hd, hhas⟩
  exact { h with
    reports := h.reports.add (hmake _)
    columnOffered := h.columnOffered.imp fun _ c hc => hoffers c.reportid _ hc
    filterOffered := h.filterOffered.imp fun _ f hf => hoffers f.reportid _ hf }

theorem CountsParts.withColumn (h : s.CountsParts)
    (hoffers : s.Offers report (·.hasColumn identifier)) :
    { s with columns := (s.columns.add (s.nextColumn report identifier)).2 }.CountsParts :=
  { h with
    columns := h.columns.add rfl
    columnOrders := h.columnOrders.add h.columns (fun _ hmine => isColumnOf_iff.1 hmine) rfl
    columnOffered := h.columnOffered.add hoffers }

theorem CountsParts.withFilter (h : s.CountsParts) (iscondition : Bool)
    (hoffers : s.Offers report (·.hasFilter identifier)) :
    { s with
      filters := (s.filters.add (s.nextFilter iscondition report identifier)).2 }.CountsParts :=
  { h with
    filters := h.filters.add rfl
    filterOrders := h.filterOrders.add h.filters (fun _ hmine => isFilterOf_iff.1 hmine) rfl
    filterOffered := h.filterOffered.add hoffers }

theorem Write.countsParts (hwrite : s.Write t) (h : s.CountsParts) : t.CountsParts := by
  cases hwrite with
  | addReport make own => exact h.withReport own
  | addColumn report identifier source stored offered =>
    exact h.withColumn (offers_iff.2 ⟨source, stored, offered⟩)
  | addFilter iscondition report identifier source stored offered =>
    exact h.withFilter iscondition (offers_iff.2 ⟨source, stored, offered⟩)
  | addModule type => cases type <;> exact h.of_eq rfl rfl rfl
  | deleteInstance cm =>
    obtain ⟨assignments, chats, hafter⟩ := exists_deleteModuleInstance cm s
    rw [hafter]
    exact h.of_eq rfl rfl rfl
  | renameInstance cm name =>
    obtain ⟨assignments, chats, hafter⟩ := exists_renameInstance cm name s
    rw [hafter]
    exact h.of_eq rfl rfl rfl
  | moveLatest now assignment userid status =>
    obtain ⟨submissions, hafter⟩ := exists_moveLatest now status assignment userid s
    rw [hafter]
    exact h.of_eq rfl rfl rfl
  | _ => exact h.of_eq rfl rfl rfl

/-! ## Lists of parts -/

theorem CountsParts.columnsOf (h : s.CountsParts) (report : Int) :
    s.columnsOf report = s.columns.records.filter (isColumnOf report) :=
  h.columnOrders.mergeSort_filter report

theorem CountsParts.filtersOf (h : s.CountsParts) (report : Int) (iscondition : Bool) :
    s.filtersOf report iscondition = s.filters.records.filter (isFilterOf (report, iscondition)) :=
  h.filterOrders.mergeSort_filter (report, iscondition)

/-- The parts of a report are all those that are stored, in the order of their ids, which is that in
which they were added. Each kind is numbered from one. -/
structure PartsInOrder (s : Site) (report : Int) : Prop where
  columns_mem : ∀ c, c ∈ s.columnsOf report ↔ s.columns.get? c.id = some c ∧ c.reportid = report
  columns_sorted : (s.columnsOf report).Pairwise fun c next => c.id < next.id
  columns_numbered : (s.columnsOf report).map (·.columnorder) =
    fromOne (s.columnsOf report).length
  filters_mem : ∀ iscondition f, f ∈ s.filtersOf report iscondition ↔
    s.filters.get? f.id = some f ∧ f.reportid = report ∧ f.iscondition = iscondition
  filters_sorted : ∀ iscondition,
    (s.filtersOf report iscondition).Pairwise fun f next => f.id < next.id
  filters_numbered : ∀ iscondition, (s.filtersOf report iscondition).map (·.filterorder) =
    fromOne (s.filtersOf report iscondition).length

theorem CountsParts.partsInOrder (h : s.CountsParts) (report : Int) : s.PartsInOrder report := by
  constructor
  · intro c
    rw [h.columnsOf, h.columns.mem_filter_iff, isColumnOf_iff, @eq_comm _ report]
  · rw [h.columnsOf]
    exact h.columns.pairwise_filter _
  · rw [h.columnsOf]
    exact h.columnOrders report
  · intro iscondition f
    rw [h.filtersOf, h.filters.mem_filter_iff, isFilterOf_iff, Prod.mk.injEq, @eq_comm _ report,
      @eq_comm _ iscondition]
  · intro iscondition
    rw [h.filtersOf]
    exact h.filters.pairwise_filter _
  · intro iscondition
    rw [h.filtersOf]
    exact h.filterOrders (report, iscondition)

/-! ## Adding a column or a filter -/

/-- A column that the report's source offers is added after the others. Nothing else changes, and
nothing at all if it is refused. -/
inductive AddsColumn {ε : Type} (s : Site) (report : Int) (identifier : String) :
    Except ε ReportColumn × Site → Prop
  | refused (e : ε) (not_offered : ¬s.Offers report (·.hasColumn identifier)) :
      AddsColumn s report identifier (.error e, s)
  | added (c : ReportColumn) (columns : Table ReportColumn)
      (offered : s.Offers report (·.hasColumn identifier)) (named : c.uniqueidentifier = identifier)
      (last : columnsOf { s with columns } report = s.columnsOf report ++ [c])
      (others : ∀ other, other ≠ report → columnsOf { s with columns } other = s.columnsOf other) :
      AddsColumn s report identifier (.ok c, { s with columns })

/-- The same of a filter or a condition. -/
inductive AddsFilter {ε : Type} (s : Site) (iscondition : Bool) (report : Int)
    (identifier : String) : Except ε ReportFilter × Site → Prop
  | refused (e : ε) (not_offered : ¬s.Offers report (·.hasFilter identifier)) :
      AddsFilter s iscondition report identifier (.error e, s)
  | added (f : ReportFilter) (filters : Table ReportFilter)
      (offered : s.Offers report (·.hasFilter identifier)) (named : f.uniqueidentifier = identifier)
      (last : filtersOf { s with filters } report iscondition =
        s.filtersOf report iscondition ++ [f])
      (others : ∀ other condition, (other, condition) ≠ (report, iscondition) →
        filtersOf { s with filters } other condition = s.filtersOf other condition) :
      AddsFilter s iscondition report identifier (.ok f, { s with filters })

theorem CountsParts.addsColumn (h : s.CountsParts) (report : Int) (identifier : String) :
    s.AddsColumn report identifier ((addColumn report identifier) s) := by
  by_cases hoffers : s.Offers report (·.hasColumn identifier)
  · have hafter := h.withColumn hoffers
    rw [addColumn_of_offers hoffers]
    refine .added _ _ hoffers rfl ?_ ?_
    · have hmine : isColumnOf report (s.nextColumn report identifier s.columns.nextId) = true :=
        isColumnOf_iff.2 rfl
      rw [hafter.columnsOf, h.columnsOf, Table.filter_add h.columns, if_pos hmine]
    · intro other hother
      rw [hafter.columnsOf, h.columnsOf, Table.filter_add h.columns,
        if_neg fun hmine => hother (isColumnOf_iff.1 hmine), List.append_nil]
  · obtain ⟨e, hrun⟩ := addColumn_of_not_offers hoffers
    rw [hrun]
    exact .refused e hoffers

theorem CountsParts.addsFilter (h : s.CountsParts) (iscondition : Bool) (report : Int)
    (identifier : String) :
    s.AddsFilter iscondition report identifier ((addFilter iscondition report identifier) s) := by
  by_cases hoffers : s.Offers report (·.hasFilter identifier)
  · have hafter := h.withFilter iscondition hoffers
    rw [addFilter_of_offers hoffers]
    refine .added _ _ hoffers rfl ?_ ?_
    · have hmine : isFilterOf (report, iscondition)
          (s.nextFilter iscondition report identifier s.filters.nextId) = true :=
        isFilterOf_iff.2 rfl
      rw [hafter.filtersOf, h.filtersOf, Table.filter_add h.filters, if_pos hmine]
    · intro other condition hother
      rw [hafter.filtersOf, h.filtersOf, Table.filter_add h.filters,
        if_neg fun hmine => hother (isFilterOf_iff.1 hmine), List.append_nil]
  · obtain ⟨e, hrun⟩ := addFilter_of_not_offers iscondition hoffers
    rw [hrun]
    exact .refused e hoffers

end Site

/-! ## Adding a report -/

/-- The identifiers of what a report has, in order. -/
structure Layout where
  columns : List String := []
  filters : List String := []
  conditions : List String := []
deriving DecidableEq, Repr

def Layout.withColumn (identifier : String) (l : Layout) : Layout :=
  { l with columns := l.columns ++ [identifier] }

def Layout.withFilter (iscondition : Bool) (identifier : String) (l : Layout) : Layout :=
  if iscondition then { l with conditions := l.conditions ++ [identifier] }
  else { l with filters := l.filters ++ [identifier] }

def Datasource.layout (d : Datasource) (default : Bool) : Layout :=
  if default then ⟨d.defaultColumns, d.defaultFilters, d.defaultConditions⟩ else {}

namespace Site

open Change

variable {s t u : Site} {report : Int} {identifier : String} {iscondition default : Bool}
  {d : Datasource} {l : Layout} {now userid : Int} {name source : String}

def layout (s : Site) (report : Int) : Layout where
  columns := (s.columnsOf report).map (·.uniqueidentifier)
  filters := (s.filtersOf report false).map (·.uniqueidentifier)
  conditions := (s.filtersOf report true).map (·.uniqueidentifier)

/-- A report on a source that exists is added, with what the source starts reports with, or with
nothing. The other reports stay as they are. -/
inductive AddsReport {ε : Type} (s : Site) (now : Int) (name source : String) (default : Bool)
    (userid : Int) : Except ε Report × Site → Prop
  | refused (e : ε) (unknown : Datasource.find? source = none) :
      AddsReport s now name source default userid (.error e, s)
  | added (id : Int) (d : Datasource) (t : Site) (known : Datasource.find? source = some d)
      (new : s.report? id = none) (stored : t.report? id = some ⟨id, name, source, userid, now⟩)
      (layout : t.layout id = d.layout default)
      (others : ∀ other, other ≠ id → t.report? other = s.report? other ∧
        t.columnsOf other = s.columnsOf other ∧
        ∀ iscondition, t.filtersOf other iscondition = s.filtersOf other iscondition)
      (frame : t = { s with reports := t.reports, columns := t.columns, filters := t.filters }) :
      AddsReport s now name source default userid (.ok ⟨id, name, source, userid, now⟩, t)

/-- One report has been given parts. -/
structure GivenParts (s : Site) (report : Int) (l : Layout) (t : Site) : Prop where
  counts : t.CountsParts
  changed : s.PartsChanged t
  layout : t.layout report = l
  others : ∀ other, other ≠ report → t.columnsOf other = s.columnsOf other ∧
    ∀ iscondition, t.filtersOf other iscondition = s.filtersOf other iscondition

theorem GivenParts.offers (h : s.GivenParts report l t) (hsource : s.sourceOf report = .ok d)
    {has : Datasource → Bool} (hhas : has d = true) : t.Offers report has := by
  rw [offers_iff, h.changed.sourceOf]
  exact ⟨d, hsource, hhas⟩

theorem GivenParts.addColumn (h : s.GivenParts report l t)
    (hoffers : t.Offers report (·.hasColumn identifier)) :
    Meets (discard (Site.addColumn report identifier) : Change SiteError Unit) t True
      fun _ u => s.GivenParts report (l.withColumn identifier) u := by
  apply Meets.discard
  have hcounts := h.counts.withColumn hoffers
  have hadds := h.counts.addsColumn report identifier
  rw [addColumn_of_offers hoffers] at hadds
  refine meets_of_ok (addColumn_of_offers hoffers) trivial ?_
  cases hadds with
  | added _ _ _ named last others =>
    refine ⟨hcounts, ?_, ?_, fun other hother => ?_⟩
    · obtain ⟨columns, filters, rfl⟩ := h.changed
      exact ⟨_, _, rfl⟩
    · rw [← h.layout, Site.layout, last, List.map_append]
      rfl
    · obtain ⟨hcolumns, hfilters⟩ := h.others other hother
      exact ⟨(others other hother).trans hcolumns, hfilters⟩

theorem GivenParts.addFilter (h : s.GivenParts report l t) (iscondition : Bool)
    (hoffers : t.Offers report (·.hasFilter identifier)) :
    Meets (discard (Site.addFilter iscondition report identifier) : Change SiteError Unit) t True
      fun _ u => s.GivenParts report (l.withFilter iscondition identifier) u := by
  apply Meets.discard
  have hcounts := h.counts.withFilter iscondition hoffers
  have hadds := h.counts.addsFilter iscondition report identifier
  rw [addFilter_of_offers hoffers] at hadds
  refine meets_of_ok (addFilter_of_offers hoffers) trivial ?_
  cases hadds with
  | added _ _ _ named last others =>
    refine ⟨hcounts, ?_, ?_, fun other hother => ?_⟩
    · obtain ⟨columns, filters, rfl⟩ := h.changed
      exact ⟨_, _, rfl⟩
    · -- The filters and the conditions of one report do not get in each other's way.
      rw [← h.layout, Site.layout]
      cases iscondition with
      | false =>
        rw [last, others report true (by simp), List.map_append]
        rfl
      | true =>
        rw [last, others report false (by simp), List.map_append]
        rfl
    · obtain ⟨hcolumns, hfilters⟩ := h.others other hother
      refine ⟨hcolumns, fun condition => ?_⟩
      exact (others other condition (by simp [hother])).trans (hfilters condition)

theorem GivenParts.addDefaults (h : s.GivenParts report {} s) (hd : d ∈ Datasource.all)
    (hsource : s.sourceOf report = .ok d) (r : Report) :
    Meets (do
      each (fun c => discard (Site.addColumn report c)) d.defaultColumns
      each (fun f => discard (Site.addFilter false report f)) d.defaultFilters
      each (fun f => discard (Site.addFilter true report f)) d.defaultConditions
      return r : Change SiteError Report) s True fun a t =>
        a = r ∧ s.GivenParts report (d.layout true) t := by
  obtain ⟨hcolumns, hfilters, hconditions⟩ := Datasource.defaults_offered d hd
  have hmem {before after : List String} {x : String} : x ∈ before ++ x :: after := by simp
  have htrue {as : List String} : (∀ a ∈ as, True) ↔ True := by simp
  have hfirst := (meets_each (P := fun _ => True) (I := fun cs t =>
      s.GivenParts report { columns := cs } t) d.defaultColumns h
    fun before c after t hsplit ht =>
      ht.addColumn (ht.offers hsource (hcolumns c (hsplit ▸ hmem)))).congr htrue
  refine hfirst.bind_of_true fun _ t ht => ?_
  have hsecond := (meets_each (P := fun _ => True) (I := fun fs u =>
      s.GivenParts report { columns := d.defaultColumns, filters := fs } u) d.defaultFilters ht
    fun before f after u hsplit hu =>
      hu.addFilter false (hu.offers hsource (hfilters f (hsplit ▸ hmem)))).congr htrue
  refine hsecond.bind_of_true fun _ u hu => ?_
  have hthird := (meets_each (P := fun _ => True) (I := fun cs v => s.GivenParts report
      { columns := d.defaultColumns, filters := d.defaultFilters, conditions := cs } v)
    d.defaultConditions hu fun before f after v hsplit hv =>
      hv.addFilter true (hv.offers hsource (hconditions f (hsplit ▸ hmem)))).congr htrue
  exact hthird.bind_of_true fun _ v hv => meets_pure ⟨rfl, hv⟩

theorem CountsParts.layout_of_no_report (h : s.CountsParts) (hnone : s.report? report = none) :
    s.layout report = {} := by
  have hoffers (has : Datasource → Bool) : ¬s.Offers report has := by
    rintro ⟨r, d, hr, -⟩
    rw [hnone] at hr
    cases hr
  have hparts := h.partsInOrder report
  have hcolumns : s.columnsOf report = [] := by
    refine List.eq_nil_iff_forall_not_mem.2 fun c hc => ?_
    obtain ⟨hget, rfl⟩ := (hparts.columns_mem c).1 hc
    exact hoffers _ (h.columnOffered c.id c hget)
  have hfilters (iscondition : Bool) : s.filtersOf report iscondition = [] := by
    refine List.eq_nil_iff_forall_not_mem.2 fun f hf => ?_
    obtain ⟨hget, rfl, rfl⟩ := (hparts.filters_mem iscondition f).1 hf
    exact hoffers _ (h.filterOffered f.id f hget)
  simp [layout, hcolumns, hfilters]

theorem CountsParts.report?_nextId (h : s.CountsParts) : s.report? s.reports.nextId = none := by
  have hfresh := h.reports.fresh
  rwa [Table.contains, Option.isSome_eq_false_iff, Option.isNone_iff_eq_none] at hfresh

theorem CountsParts.meets_addReport (h : s.CountsParts) (now : Int) (name : String)
    (default : Bool) (userid : Int) (hfound : Datasource.find? source = some d) :
    (addReport now name source default userid).Meets s True fun r t =>
      r = ⟨s.reports.nextId, name, source, userid, now⟩ ∧
        (s.withEmptyReport now name source userid).GivenParts s.reports.nextId
          (d.layout default) t := by
  -- The report is stored before it is given anything.
  have hstart : (s.withEmptyReport now name source userid).GivenParts s.reports.nextId {}
      (s.withEmptyReport now name source userid) := by
    constructor
    · exact h.withReport fun _ => rfl
    · exact ⟨_, _, rfl⟩
    · exact h.layout_of_no_report h.report?_nextId
    · exact fun _ _ => ⟨rfl, fun _ => rfl⟩
  unfold addReport
  rw [hfound]
  refine (meets_require_of_isSome rfl).bind_of_true ?_
  rintro d t ⟨rfl, ⟨⟩⟩
  apply Meets.get_bind
  dsimp only
  apply Meets.set_bind
  cases default with
  | false => exact meets_pure ⟨rfl, hstart⟩
  | true =>
    exact hstart.addDefaults (List.mem_of_find?_eq_some hfound)
      (sourceOf_withEmptyReport hfound) _

theorem CountsParts.addsReport (h : s.CountsParts) (now : Int) (name source : String)
    (default : Bool) (userid : Int) :
    s.AddsReport now name source default userid
      ((addReport now name source default userid) s) := by
  cases hfound : Datasource.find? source with
  | none =>
    unfold addReport
    rw [hfound]
    exact .refused _ hfound
  | some d =>
    obtain ⟨-, r, t, hrun, rfl, hgiven⟩ | ⟨hfalse, -⟩ :=
      (h.meets_addReport now name default userid hfound).cases
    · rw [hrun]
      have hlayout := hgiven.layout
      have hothers := hgiven.others
      obtain ⟨columns, filters, rfl⟩ := hgiven.changed
      refine .added _ d _ hfound h.report?_nextId report?_withEmptyReport hlayout ?_ rfl
      intro other hother
      obtain ⟨hcolumns, hfilters⟩ := hothers other hother
      exact ⟨report?_withEmptyReport_of_ne hother, hcolumns, hfilters⟩
    · exact absurd trivial hfalse

end Site

/-! ## Records -/

/-- The name, the source and whether the report starts with the defaults. -/
def ReportRecord.report (record : Json) : Except FixtureError (String × String × Bool) := do
  let properties ← properties record
  let name ← text "name" properties
  let source ← text "source" properties
  let default ← truth? "default" properties
  return (name, source, default.getD true)

/-- What is asked for by a record is done as if it had been asked for directly. A record that cannot
be read is refused. -/
inductive Site.ByRecord {α β : Type} (s : Site) (read : Except FixtureError α)
    (does : α → Except FixtureError β × Site → Prop) : Except FixtureError β × Site → Prop
  | unread (e : FixtureError) (h : read = .error e) : ByRecord s read does (.error e, s)
  | done (a : α) (out : Except FixtureError β × Site) (h : read = .ok a) (hout : does a out) :
      ByRecord s read does out

namespace Fixture

variable {s : Site} {α β : Type}

theorem byRecord_bind {read : Except FixtureError α} {f : α → Fixture β}
    {does : α → Except FixtureError β × Site → Prop} (h : ∀ a, does a ((f a) s)) :
    s.ByRecord read does ((liftExcept read >>= f) s) := by
  rw [Run.bind_apply, Run.liftExcept_apply]
  cases read with
  | error e => exact .unread e rfl
  | ok a => exact .done a _ rfl (h a)

theorem liftExcept_bind {γ : Type} (x : Except FixtureError α) (f : α → Except FixtureError β)
    (g : β → Fixture γ) :
    liftExcept (x >>= f) >>= g = (liftExcept x >>= fun a => liftExcept (f a) >>= g) := by
  cases x <;> rfl

theorem createReport_eq (now userid : Int) (record : Json) :
    createReport now userid record =
      liftExcept (ReportRecord.report record) >>= fun (name, source, default) =>
        ofChange (Site.addReport now name source default userid) := by
  unfold createReport ReportRecord.report
  simp only [liftExcept_bind]
  rfl

end Fixture

namespace Site

variable {s : Site} {ε ε' : Type}

theorem AddsReport.mapError {now userid : Int} {name source : String} {default : Bool}
    {out : Except ε Report × Site} (h : s.AddsReport now name source default userid out)
    (g : ε → ε') : s.AddsReport now name source default userid (out.1.mapError g, out.2) := by
  cases h with
  | refused e unknown => exact .refused (g e) unknown
  | added id d t known new stored layout others frame =>
    exact .added id d t known new stored layout others frame

theorem AddsColumn.mapError {report : Int} {identifier : String}
    {out : Except ε ReportColumn × Site} (h : s.AddsColumn report identifier out) (g : ε → ε') :
    s.AddsColumn report identifier (out.1.mapError g, out.2) := by
  cases h with
  | refused e not_offered => exact .refused (g e) not_offered
  | added c columns offered named last others => exact .added c columns offered named last others

theorem AddsFilter.mapError {iscondition : Bool} {report : Int} {identifier : String}
    {out : Except ε ReportFilter × Site} (h : s.AddsFilter iscondition report identifier out)
    (g : ε → ε') : s.AddsFilter iscondition report identifier (out.1.mapError g, out.2) := by
  cases h with
  | refused e not_offered => exact .refused (g e) not_offered
  | added f filters offered named last others => exact .added f filters offered named last others

/-! ## All sites -/

/-- Reports are in order, and whatever is asked of them keeps them so. -/
structure ReportsInOrder (s : Site) : Prop where
  parts : ∀ report, s.PartsInOrder report
  columns_offered : s.columns.Every fun _ c =>
    s.Offers c.reportid (·.hasColumn c.uniqueidentifier)
  filters_offered : s.filters.Every fun _ f =>
    s.Offers f.reportid (·.hasFilter f.uniqueidentifier)
  addReport : ∀ now name source default userid,
    s.AddsReport now name source default userid ((addReport now name source default userid) s)
  addColumn : ∀ report identifier,
    s.AddsColumn report identifier ((addColumn report identifier) s)
  addFilter : ∀ iscondition report identifier,
    s.AddsFilter iscondition report identifier ((addFilter iscondition report identifier) s)
  createReport : ∀ now userid record,
    s.ByRecord (ReportRecord.report record)
      (fun (name, source, default) => s.AddsReport now name source default userid)
      ((Fixture.createReport now userid record) s)
  createColumn : ∀ record,
    s.ByRecord (ReportRecord.item record)
      (fun (report, identifier) => s.AddsColumn report identifier)
      ((Fixture.createColumn record) s)
  createFilter : ∀ iscondition record,
    s.ByRecord (ReportRecord.item record)
      (fun (report, identifier) => s.AddsFilter iscondition report identifier)
      ((Fixture.createFilter iscondition record) s)

theorem CountsParts.reportsInOrder (h : s.CountsParts) : s.ReportsInOrder where
  parts := h.partsInOrder
  columns_offered := h.columnOffered
  filters_offered := h.filterOffered
  addReport := h.addsReport
  addColumn := h.addsColumn
  addFilter := h.addsFilter
  createReport := by
    intro now userid record
    rw [Fixture.createReport_eq]
    apply Fixture.byRecord_bind
    intro asked
    exact (h.addsReport now _ _ _ userid).mapError FixtureError.site
  createColumn := by
    intro record
    apply Fixture.byRecord_bind
    intro asked
    exact (h.addsColumn _ _).mapError FixtureError.site
  createFilter := by
    intro iscondition record
    apply Fixture.byRecord_bind
    intro asked
    exact (h.addsFilter iscondition _ _).mapError FixtureError.site

end Site

namespace Operation

variable {s : Site}

theorem countsParts_runAll (ops : List Operation) (h : s.CountsParts) :
    (runAll ops s).CountsParts :=
  keeps_runAll ops (fun _ _ _ hwrite => hwrite.countsParts)
    (fun _ _ _ h => h.of_eq rfl rfl rfl) h

/-- Whatever has been done to a site, succeeding or failing, its reports are in order. -/
theorem reportsInOrder_runAll (wwwroot : String) (ops : List Operation) :
    (runAll ops { wwwroot }).ReportsInOrder :=
  (countsParts_runAll ops (Site.countsParts_new wwwroot)).reportsInOrder

end Operation

end Campus

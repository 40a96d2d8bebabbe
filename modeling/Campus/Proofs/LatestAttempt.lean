import Mathlib.Data.List.Induction
import Campus.Site.Change

/-!
# Latest attempts

A user's latest attempt at an assignment is the one that no other of theirs follows. Which one it
is depends on the numbers and the ids of the attempts only.
-/

namespace Campus.Site

/-- The attempt of a user at an assignment with the greatest number, of several the one with the
greatest id. -/
structure IsLatest (s : Site) (assignment userid id : Int) (attempt : Submission) : Prop where
  stored : s.submission? id = some attempt
  of_assignment : attempt.assignment = assignment
  of_user : attempt.userid = userid
  last : ∀ other sub, s.submission? other = some sub → sub.assignment = assignment →
    sub.userid = userid → sub.attemptnumber < attempt.attemptnumber ∨
      sub.attemptnumber = attempt.attemptnumber ∧ other ≤ id

/-! ## The last of some rows -/

theorem latestOf_append_singleton (rows : List (Int × Submission)) (row : Int × Submission) :
    latestOf (rows ++ [row]) =
      match latestOf rows with
      | some best => if row.2.attemptnumber < best.2.attemptnumber then some best else some row
      | none => some row := by
  rw [latestOf, List.foldl_append]
  rfl

theorem latestOf_eq_none_iff {rows : List (Int × Submission)} :
    latestOf rows = none ↔ rows = [] := by
  induction rows using List.reverseRecOn with
  | nil => simp [latestOf]
  | append_singleton rows row =>
    rw [latestOf_append_singleton]
    split
    · split <;> simp
    · simp

theorem latestOf_eq_some {rows : List (Int × Submission)} (hsorted : Keyed.Sorted rows)
    {best : Int × Submission} (h : latestOf rows = some best) :
    best ∈ rows ∧ ∀ row ∈ rows, row.2.attemptnumber < best.2.attemptnumber ∨
      row.2.attemptnumber = best.2.attemptnumber ∧ row.1 ≤ best.1 := by
  induction rows using List.reverseRecOn generalizing best with
  | nil => cases h
  | append_singleton rows row ih =>
    obtain ⟨hrows, -, hrow⟩ := List.pairwise_append.1 hsorted
    have hbefore : ∀ other ∈ rows, other.1 < row.1 :=
      fun other hmem => hrow other hmem row (by simp)
    rw [latestOf_append_singleton] at h
    split at h
    · next b hb =>
      obtain ⟨hmem, hlast⟩ := ih hrows hb
      split at h
      · next hlt =>
        cases h
        refine ⟨by simp [hmem], fun other hother => ?_⟩
        rcases List.mem_append.1 hother with hother | hother
        · exact hlast other hother
        · rw [List.mem_singleton.1 hother]; exact .inl hlt
      · next hge =>
        cases h
        refine ⟨by simp, fun other hother => ?_⟩
        rcases List.mem_append.1 hother with hother | hother
        · have := hlast other hother
          have := hbefore other hother
          omega
        · rw [List.mem_singleton.1 hother]; simp
    · next hnone =>
      cases h
      simp [latestOf_eq_none_iff.1 hnone]

theorem latestOf_mapValues {change : Int → Submission → Submission}
    (h : ∀ id sub, (change id sub).attemptnumber = sub.attemptnumber)
    (rows : List (Int × Submission)) :
    latestOf (Keyed.mapValues change rows) =
      (latestOf rows).map fun row => (row.1, change row.1 row.2) := by
  induction rows using List.reverseRecOn with
  | nil => rfl
  | append_singleton rows row ih =>
    have hmap : Keyed.mapValues change (rows ++ [row]) =
        Keyed.mapValues change rows ++ [(row.1, change row.1 row.2)] := by simp [Keyed.mapValues]
    rw [hmap, latestOf_append_singleton, latestOf_append_singleton, ih]
    cases latestOf rows with
    | none => rfl
    | some best =>
      simp only [Option.map_some, h]
      split <;> rfl

/-! ## The latest attempt of a user -/

theorem mem_attempts {s : Site} {assignment userid id : Int} {attempt : Submission} :
    (id, attempt) ∈ s.attempts assignment userid ↔
      s.submission? id = some attempt ∧ attempt.assignment = assignment ∧
        attempt.userid = userid := by
  simp [attempts, submission?, Table.get?_eq_some_iff]

theorem latestAttempt?_eq_some_iff {s : Site} {assignment userid id : Int} {attempt : Submission} :
    s.latestAttempt? assignment userid = some (id, attempt) ↔
      s.IsLatest assignment userid id attempt := by
  have hsorted : Keyed.Sorted (s.attempts assignment userid) :=
    List.Pairwise.filter _ s.submissions.sorted
  constructor
  · intro h
    obtain ⟨hmem, hlast⟩ := latestOf_eq_some hsorted h
    obtain ⟨hstored, ha, hu⟩ := mem_attempts.1 hmem
    exact ⟨hstored, ha, hu, fun other sub hsub hsa hsu =>
      hlast (other, sub) (mem_attempts.2 ⟨hsub, hsa, hsu⟩)⟩
  · rintro ⟨hstored, ha, hu, hlast⟩
    have hmem := mem_attempts.2 ⟨hstored, ha, hu⟩
    cases hbest : s.latestAttempt? assignment userid with
    | none =>
      rw [latestOf_eq_none_iff.1 hbest] at hmem
      cases hmem
    | some best =>
      obtain ⟨bestId, bestSub⟩ := best
      obtain ⟨hbestMem, hbestLast⟩ := latestOf_eq_some hsorted hbest
      obtain ⟨hb, hba, hbu⟩ := mem_attempts.1 hbestMem
      have hid : bestId = id := by
        have := hbestLast _ hmem
        have := hlast bestId bestSub hb hba hbu
        simp only at *
        omega
      subst hid
      rw [hstored] at hb
      cases hb
      rfl

theorem attempts_mapRows (change : Int → Submission → Submission) (s : Site)
    (hassignment : ∀ id sub, (change id sub).assignment = sub.assignment)
    (huser : ∀ id sub, (change id sub).userid = sub.userid) (assignment userid : Int) :
    { s with submissions := s.submissions.mapRows change }.attempts assignment userid =
      Keyed.mapValues change (s.attempts assignment userid) := by
  simp only [attempts, Table.mapRows, Keyed.mapValues, List.filter_map]
  congr 1
  refine List.filter_congr fun row _ => ?_
  simp [hassignment, huser]

theorem latestAttempt?_mapRows (change : Int → Submission → Submission) (s : Site)
    (hassignment : ∀ id sub, (change id sub).assignment = sub.assignment)
    (huser : ∀ id sub, (change id sub).userid = sub.userid)
    (hnumber : ∀ id sub, (change id sub).attemptnumber = sub.attemptnumber)
    (assignment userid : Int) :
    { s with submissions := s.submissions.mapRows change }.latestAttempt? assignment userid =
      (s.latestAttempt? assignment userid).map fun row => (row.1, change row.1 row.2) := by
  rw [latestAttempt?, latestAttempt?, attempts_mapRows change s hassignment huser,
    latestOf_mapValues hnumber]

/-! ## Changed attempts -/

/-- The change leaves which attempt it is, whose and at what. -/
structure KeepsAttempt (change : Submission → Submission) : Prop where
  id : ∀ sub, (change sub).id = sub.id
  assignment : ∀ sub, (change sub).assignment = sub.assignment
  userid : ∀ sub, (change sub).userid = sub.userid
  number : ∀ sub, (change sub).attemptnumber = sub.attemptnumber

/-- The site with the submissions of some ids changed. -/
def rework (change : Submission → Submission) (ids : List Int) (s : Site) : Site :=
  { s with submissions := s.submissions.mapRows fun id sub => if id ∈ ids then change sub else sub }

section Rework

variable {s : Site} {change : Submission → Submission} {assignment userid id : Int}

theorem put_eq_rework (change : Submission → Submission) {sub : Submission}
    (h : s.submission? id = some sub) :
    { s with submissions := s.submissions.put id (change sub) } = s.rework change [id] := by
  simp only [rework, List.mem_singleton, Table.put_eq_mapRows change h]

theorem attempts_rework (h : KeepsAttempt change) (ids : List Int) (s : Site)
    (assignment userid : Int) : (s.rework change ids).attempts assignment userid =
      Keyed.mapValues (fun id sub => if id ∈ ids then change sub else sub)
        (s.attempts assignment userid) :=
  attempts_mapRows _ s (fun id sub => by split <;> simp [h.assignment])
    (fun id sub => by split <;> simp [h.userid]) assignment userid

theorem latestAttempt?_rework (h : KeepsAttempt change) (ids : List Int) (s : Site)
    (assignment userid : Int) : (s.rework change ids).latestAttempt? assignment userid =
      (s.latestAttempt? assignment userid).map fun row =>
        (row.1, if row.1 ∈ ids then change row.2 else row.2) :=
  latestAttempt?_mapRows _ s (fun id sub => by split <;> simp [h.assignment])
    (fun id sub => by split <;> simp [h.userid]) (fun id sub => by split <;> simp [h.number])
    assignment userid

theorem attempts_rework_of_notMem (hkeeps : KeepsAttempt change) {ids : List Int}
    (h : ∀ row ∈ s.attempts assignment userid, row.1 ∉ ids) :
    (s.rework change ids).attempts assignment userid = s.attempts assignment userid := by
  rw [attempts_rework hkeeps]
  refine (List.map_congr_left fun row hrow => ?_).trans (List.map_id' _)
  exact congrArg (row.1, ·) (if_neg (h row hrow))

theorem eq_of_mem_attempts {assignment' userid' : Int} {sub attempt : Submission}
    (h : (id, attempt) ∈ s.attempts assignment userid)
    (h' : (id, sub) ∈ s.attempts assignment' userid') :
    assignment' = assignment ∧ userid' = userid := by
  obtain ⟨hstored, rfl, rfl⟩ := mem_attempts.1 h
  obtain ⟨hstored', rfl, rfl⟩ := mem_attempts.1 h'
  cases hstored.symm.trans hstored'
  exact ⟨rfl, rfl⟩

theorem mem_attempts_of_latestAttempt? {attempt : Submission}
    (h : s.latestAttempt? assignment userid = some (id, attempt)) :
    (id, attempt) ∈ s.attempts assignment userid := by
  have hlatest := latestAttempt?_eq_some_iff.1 h
  exact mem_attempts.2 ⟨hlatest.stored, hlatest.of_assignment, hlatest.of_user⟩

end Rework

end Campus.Site

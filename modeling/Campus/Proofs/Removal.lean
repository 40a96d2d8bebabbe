import Campus.Proofs.LatestAttempt
import Campus.Function.Assign

/-!
# Removing submissions

Removing the submissions of some users takes back, at once, the latest attempts that hold something
and that the caller may change. Doing it one by one makes no difference: an attempt taken back
holds nothing any more, and is still the latest.
-/

namespace Campus

theorem SubmissionStatus.isRemovable_iff {status : SubmissionStatus} :
    status.isRemovable = true ↔ status = .draft ∨ status = .submitted := by
  cases status <;> simp [isRemovable]

namespace Submission

theorem removed_eq (now : Int) (s : Submission) :
    s.removed now = { s with
      status := if s.attemptnumber = 0 then .new else .reopened
      timemodified := now } := by
  rw [removed]
  by_cases h : s.attemptnumber = 0
  · rw [if_neg (by omega), if_pos h]
  · rw [if_pos (by omega), if_neg h]

@[simp] theorem isRemovable_removed (now : Int) (s : Submission) :
    (s.removed now).status.isRemovable = false := by
  simp only [removed]
  split <;> rfl

@[simp] theorem removed_removed (now first : Int) (s : Submission) :
    (s.removed first).removed now = s.removed now := rfl

theorem removed_ne {s : Submission} (h : s.status.isRemovable = true) (now : Int) :
    s.removed now ≠ s := by
  intro heq
  rw [← heq, isRemovable_removed] at h
  cases h

end Submission

namespace Site

/-- The site with the attempts of some ids taken back. -/
def takeBack (now : Int) (ids : List Int) (s : Site) : Site :=
  { s with
    submissions := s.submissions.mapRows fun id sub => if id ∈ ids then sub.removed now else sub }

/-- The id of the attempt that a removal takes back, unless it is refused. -/
def removable? (s : Site) (a : Assignment) (ctx : CallContext) (userid : Int) : Option Int :=
  match s.removal a userid ctx with
  | .ok (id, _) => some id
  | .error _ => none

/-! ## What is taken back -/

section TakeBack

variable (now : Int) (ids : List Int) (s : Site)

theorem takeBack_submission? (id : Int) :
    (s.takeBack now ids).submission? id =
      (s.submission? id).map fun sub => if id ∈ ids then sub.removed now else sub :=
  Table.get?_mapRows _ id s.submissions

@[simp] theorem takeBack_nil : s.takeBack now [] = s := by
  simp [takeBack, Table.mapRows, Keyed.mapValues]

theorem takeBack_takeBack (more : List Int) :
    (s.takeBack now ids).takeBack now more = s.takeBack now (ids ++ more) := by
  simp only [takeBack, Table.mapRows_mapRows]
  congr 2
  funext id sub
  by_cases hid : id ∈ ids <;> by_cases hmore : id ∈ more <;> simp [hid, hmore]

theorem takeBack_congr {ids more : List Int} (h : ∀ id, id ∈ ids ↔ id ∈ more) :
    s.takeBack now ids = s.takeBack now more := by
  simp only [takeBack, h]

theorem keepsAttempt_removed : KeepsAttempt (Submission.removed now) :=
  ⟨fun _ => rfl, fun _ => rfl, fun _ => rfl, fun _ => rfl⟩

theorem takeBack_latestAttempt? (assignment userid : Int) :
    (s.takeBack now ids).latestAttempt? assignment userid =
      (s.latestAttempt? assignment userid).map fun row =>
        (row.1, if row.1 ∈ ids then row.2.removed now else row.2) :=
  latestAttempt?_rework (keepsAttempt_removed now) ids s assignment userid

end TakeBack

/-! ## One removal -/

section One

variable {s : Site} {a : Assignment} {ctx : CallContext} {userid id : Int}

theorem removable?_eq_some_iff :
    s.removable? a ctx userid = some id ↔
      a.canEdit userid ctx = true ∧ ∃ attempt, s.latestAttempt? a.id userid = some (id, attempt) ∧
        attempt.status.isRemovable = true := by
  unfold removable? removal
  by_cases hedit : a.canEdit userid ctx
  · rw [if_pos hedit]
    cases hlatest : s.latestAttempt? a.id userid with
    | none => simp
    | some row =>
      obtain ⟨rowId, attempt⟩ := row
      by_cases hfull : attempt.status.isRemovable <;> simp [hedit, hfull]
  · simp [hedit]

theorem removeSubmission_of_latestAttempt? {attempt : Submission}
    (hedit : a.canEdit userid ctx = true)
    (hlatest : s.latestAttempt? a.id userid = some (id, attempt))
    (hfull : attempt.status.isRemovable = true) :
    s.removeSubmission a userid ctx =
      (.ok (attempt.removed ctx.clock.seconds), s.takeBack ctx.clock.seconds [id]) := by
  have hremoval : s.removal a userid ctx = .ok (id, attempt.removed ctx.clock.seconds) := by
    simp [removal, hedit, hlatest, hfull]
  rw [removeSubmission, hremoval]
  have hstored := (latestAttempt?_eq_some_iff.1 hlatest).stored
  exact congrArg (Except.ok _, ·) (put_eq_rework (Submission.removed ctx.clock.seconds) hstored)

theorem removeSubmission_of_some (h : s.removable? a ctx userid = some id) :
    ∃ sub, s.removeSubmission a userid ctx = (.ok sub, s.takeBack ctx.clock.seconds [id]) := by
  obtain ⟨hedit, attempt, hlatest, hfull⟩ := removable?_eq_some_iff.1 h
  exact ⟨_, removeSubmission_of_latestAttempt? hedit hlatest hfull⟩

theorem removeSubmission_of_none (h : s.removable? a ctx userid = none) :
    ∃ refused, s.removeSubmission a userid ctx = (.error refused, s) := by
  cases hremoval : s.removal a userid ctx with
  | ok row => simp [removable?, hremoval] at h
  | error refused => exact ⟨refused, by simp only [removeSubmission, hremoval]⟩

theorem removable?_takeBack (now : Int) (ids : List Int) :
    (s.takeBack now ids).removable? a ctx userid =
      (s.removable? a ctx userid).filter (· ∉ ids) := by
  ext id
  simp only [removable?_eq_some_iff, takeBack_latestAttempt?, Option.filter_eq_some_iff,
    Option.map_eq_some_iff, Prod.mk.injEq, decide_eq_true_eq]
  constructor
  · rintro ⟨hedit, attempt, ⟨⟨rowId, sub⟩, hlatest, rfl, rfl⟩, hfull⟩
    simp only at hfull
    split at hfull
    · simp at hfull
    · next hid => exact ⟨⟨hedit, sub, hlatest, hfull⟩, hid⟩
  · rintro ⟨⟨hedit, attempt, hlatest, hfull⟩, hid⟩
    exact ⟨hedit, attempt, ⟨_, hlatest, rfl, by simp [hid]⟩, hfull⟩

end One

end Site

end Campus

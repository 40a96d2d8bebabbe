import Mathlib.Algebra.Order.BigOperators.Group.List
import Mathlib.Algebra.Order.Ring.Nat
import Campus.Proofs.BatchRemoval
import Campus.Proofs.Records
import Campus.Proofs.Visits

/-!
# Removals at the same time

Calls that remove submissions may visit the site in turns. What two calls have both seen is removed
by one of them only, since a removal looks at the attempt again: what was removed, and what there is
still to remove, are together always the same.
-/

namespace Campus

/-! ## What there is to remove -/

theorem SubmissionStatus.isRemovable_eq_false_iff {status : SubmissionStatus} :
    status.isRemovable = false ↔ status = .new ∨ status = .reopened := by
  cases status <;> simp [isRemovable]

namespace Site

/-- 1 if a user's latest attempt holds something, else 0. -/
def removals (s : Site) (assignment userid : Int) : Nat :=
  if (s.userSubmission? assignment userid).any (·.status.isRemovable) then 1 else 0

/-- A user's latest attempt held something on the one site, and holds nothing on the other. -/
def IsEmptied (s after : Site) (assignment userid : Int) : Prop :=
  ∃ id before now, s.latestAttempt? assignment userid = some (id, before) ∧
    after.latestAttempt? assignment userid = some (id, now) ∧
    (before.status = .draft ∨ before.status = .submitted) ∧
    (now.status = .new ∨ now.status = .reopened)

theorem removals_le_one (s : Site) (assignment userid : Int) :
    s.removals assignment userid ≤ 1 := by
  unfold removals
  split
  · exact Nat.le_refl 1
  · exact Nat.zero_le 1

theorem removals_of_latest {s : Site} {assignment userid id : Int} {attempt : Submission}
    (h : s.latestAttempt? assignment userid = some (id, attempt)) :
    s.removals assignment userid = if attempt.status.isRemovable then 1 else 0 := by
  rw [removals, userSubmission?, h]
  rfl

section Removals

variable {s : Site} {a : Assignment} {ctx : CallContext} {userid id : Int}

theorem takeBack_latestAttempt?_of_ne (h : s.removable? a ctx userid = some id) (now : Int)
    {assignment other : Int} (hne : ¬(a.id = assignment ∧ userid = other)) :
    (s.takeBack now [id]).latestAttempt? assignment other = s.latestAttempt? assignment other := by
  obtain ⟨-, attempt, hlatest, -⟩ := removable?_eq_some_iff.1 h
  have hown := latestAttempt?_eq_some_iff.1 hlatest
  rw [takeBack_latestAttempt?]
  cases hother : s.latestAttempt? assignment other with
  | none => rfl
  | some row =>
    obtain ⟨key, sub⟩ := row
    have hrow := latestAttempt?_eq_some_iff.1 hother
    have hkey : key ∉ [id] := by
      rw [List.mem_singleton]
      rintro rfl
      obtain rfl := Option.some.inj (hrow.stored.symm.trans hown.stored)
      exact hne ⟨hown.of_assignment.symm.trans hrow.of_assignment,
        hown.of_user.symm.trans hrow.of_user⟩
    rw [Option.map_some, if_neg hkey]

/-- An attempt taken back is one less that holds something. -/
theorem removals_takeBack (h : s.removable? a ctx userid = some id) (now assignment other : Int) :
    (s.takeBack now [id]).removals assignment other +
        (if a.id = assignment ∧ userid = other then 1 else 0) = s.removals assignment other := by
  by_cases hsame : a.id = assignment ∧ userid = other
  · obtain ⟨rfl, rfl⟩ := hsame
    obtain ⟨-, attempt, hlatest, hfull⟩ := removable?_eq_some_iff.1 h
    have hafter : (s.takeBack now [id]).latestAttempt? a.id userid =
        some (id, attempt.removed now) := by
      rw [takeBack_latestAttempt?, hlatest, Option.map_some, if_pos (List.mem_singleton_self id)]
    rw [removals_of_latest hlatest, removals_of_latest hafter, hfull,
      Submission.isRemovable_removed]
    simp
  · rw [if_neg hsame, removals, removals, userSubmission?, userSubmission?,
      takeBack_latestAttempt?_of_ne h now hsame, Nat.add_zero]

end Removals

end Site

/-! ## Turns -/

namespace Removal

/-- Calls that are going on at one site. -/
structure Pool where
  site : Site
  processes : List Process

namespace Pool

def start (s : Site) (calls : List (CallContext × Request)) : Pool where
  site := s
  processes := calls.map fun (ctx, request) => { ctx, request }

/-- The call of an index visits the site, at a time. An index of no call does nothing. -/
def step (pool : Pool) (turn : Nat × Clock) : Pool :=
  match pool.processes[turn.1]? with
  | none => pool
  | some p =>
    let (next, site) := p.visit turn.2 pool.site
    { site, processes := pool.processes.set turn.1 next }

def run (turns : List (Nat × Clock)) (pool : Pool) : Pool := turns.foldl step pool

/-- How often a user's submission to an assignment was removed by the calls that asked for it. -/
def successes (pool : Pool) (assignid userid : Int) : Nat :=
  (pool.processes.map fun p =>
    if p.request.assignid = assignid then p.successes userid else 0).sum

end Pool

/-! ## What stays the same -/

theorem sum_map_set {α : Type} (f : α → Nat) {l : List α} {i : Nat} {a : α} (h : l[i]? = some a)
    (b : α) : ((l.set i b).map f).sum + f a = (l.map f).sum + f b := by
  induction l generalizing i with
  | nil => simp at h
  | cons c rest ih =>
    cases i with
    | zero =>
      obtain rfl : c = a := by simpa using h
      simp only [List.set_cons_zero, List.map_cons, List.sum_cons]
      omega
    | succ i =>
      have hrest := ih (i := i) (by simpa using h)
      simp only [List.set_cons_succ, List.map_cons, List.sum_cons]
      omega

namespace Process

/-- How often the call removed a user's submission to an assignment. -/
def removed (s : Site) (assignment userid : Int) (p : Process) : Nat :=
  if (s.assignment? p.request.assignid).any (·.id = assignment) then p.successes userid else 0

/-- The call goes on with the assignment that it asked for, and without one it removes nothing. -/
structure Sound (s : Site) (p : Process) : Prop where
  found : ∀ a, p.stage.found? = some a → s.assignment? p.request.assignid = some a
  idle : s.assignment? p.request.assignid = none → ∀ userid, p.successes userid = 0

theorem successes_start (ctx : CallContext) (request : Request) (userid : Int) :
    successes { ctx, request } userid = 0 := by
  cases request with
  | one strings x =>
    rw [successes_of_one rfl]
    simp [Stage.isSuccess]
  | several x =>
    rw [successes_of_several rfl]
    rfl

theorem sound_start (s : Site) (ctx : CallContext) (request : Request) :
    Sound s { ctx, request } :=
  ⟨nofun, fun _ => successes_start ctx request⟩

variable {s : Site} {p next : Process}

theorem Sound.of_visit (h : p.Sound s) (hrequest : next.request = p.request)
    (hfound : ∀ a, next.stage.found? = some a → s.assignment? p.request.assignid = some a)
    (hidle : s.assignment? p.request.assignid = none →
      ∀ userid, next.successes userid = p.successes userid) : next.Sound s where
  found := hrequest ▸ hfound
  idle hnone userid := by
    rw [hrequest] at hnone
    rw [hidle hnone, h.idle hnone]

theorem removed_of_found {a : Assignment} (h : s.assignment? p.request.assignid = some a)
    (assignment userid : Int) : p.removed s assignment userid =
      if a.id = assignment then p.successes userid else 0 := by
  rw [removed, h]
  simp

end Process

namespace Pool

/-- A run from a site has come to this: what was removed, and what there still is to remove, are
together what there was at first. -/
structure Balanced (s : Site) (pool : Pool) : Prop where
  sound : ∀ p ∈ pool.processes, p.Sound s
  assignments : pool.site.assignments = s.assignments
  latest : ∀ assignment userid, (pool.site.latestAttempt? assignment userid).map Prod.fst =
    (s.latestAttempt? assignment userid).map Prod.fst
  balance : ∀ assignment userid, (pool.processes.map (·.removed s assignment userid)).sum +
    pool.site.removals assignment userid = s.removals assignment userid

theorem balanced_start (s : Site) (calls : List (CallContext × Request)) :
    (start s calls).Balanced s := by
  have hsound : ∀ p ∈ (start s calls).processes, p.Sound s := by
    intro p hp
    obtain ⟨⟨ctx, request⟩, -, rfl⟩ := List.mem_map.1 hp
    exact Process.sound_start s ctx request
  refine ⟨hsound, rfl, fun _ _ => rfl, fun assignment userid => ?_⟩
  have hnone : ∀ n ∈ (start s calls).processes.map (·.removed s assignment userid), n = 0 := by
    intro n hn
    obtain ⟨p, hp, rfl⟩ := List.mem_map.1 hn
    obtain ⟨⟨ctx, request⟩, -, rfl⟩ := List.mem_map.1 hp
    rw [Process.removed, Process.successes_start, ite_self]
  rw [List.sum_eq_zero hnone, Nat.zero_add]
  rfl

theorem sound_set {s : Site} {pool : Pool} (h : ∀ p ∈ pool.processes, p.Sound s) {next : Process}
    (hnext : next.Sound s) (i : Nat) : ∀ p ∈ pool.processes.set i next, p.Sound s := by
  intro p hp
  rcases List.mem_or_eq_of_mem_set hp with hp | rfl
  · exact h p hp
  · exact hnext

theorem Balanced.step {s : Site} {pool : Pool} (h : pool.Balanced s) (turn : Nat × Clock) :
    (pool.step turn).Balanced s := by
  unfold Pool.step
  cases hp : pool.processes[turn.1]? with
  | none => exact h
  | some p =>
    dsimp only
    have hsound := h.sound p (List.mem_of_getElem? hp)
    have hassignment (id : Int) : pool.site.assignment? id = s.assignment? id := by
      rw [Site.assignment?, Site.assignment?, h.assignments]
    have hvisited : Visited turn.2 pool.site p ((p.visit turn.2) pool.site) := by
      refine Process.visited fun a ha => ?_
      rw [hassignment]
      exact hsound.found a ha
    generalize (p.visit turn.2) pool.site = result at hvisited ⊢
    cases hvisited with
    | @looked next request found successes =>
      rw [hassignment] at found
      have hnext := hsound.of_visit request found fun _ => successes
      refine ⟨sound_set h.sound hnext turn.1, h.assignments, h.latest, fun assignment userid => ?_⟩
      have hsame : next.removed s assignment userid = p.removed s assignment userid := by
        rw [Process.removed, Process.removed, request, successes]
      have hsum := sum_map_set (·.removed s assignment userid) hp next
      have hbalance := h.balance assignment userid
      simp only [hsame] at hsum
      dsimp only
      omega
    | @removed next a user id request assignment found removable successes =>
      rw [hassignment] at assignment
      have hnext : next.Sound s := by
        refine hsound.of_visit request (fun b hb => ?_) fun hnone => ?_
        · rw [found b hb, assignment]
        · rw [assignment] at hnone
          cases hnone
      refine ⟨sound_set h.sound hnext turn.1, h.assignments, ?_, fun assignid userid => ?_⟩
      · intro assignid userid
        rw [← h.latest, Site.takeBack_latestAttempt?, Option.map_map]
        rfl
      · have hone : next.removed s assignid userid = p.removed s assignid userid +
            if a.id = assignid ∧ user = userid then 1 else 0 := by
          rw [Process.removed_of_found (request ▸ assignment), Process.removed_of_found assignment,
            successes]
          by_cases ha : a.id = assignid <;> simp [ha]
        have hsum := sum_map_set (·.removed s assignid userid) hp next
        have hless := Site.removals_takeBack removable turn.2.seconds assignid userid
        have hbalance := h.balance assignid userid
        simp only [hone] at hsum
        dsimp only
        omega

theorem balanced_run (s : Site) (calls : List (CallContext × Request))
    (turns : List (Nat × Clock)) : ((start s calls).run turns).Balanced s := by
  have hrun (pool : Pool) (h : pool.Balanced s) : (pool.run turns).Balanced s := by
    induction turns generalizing pool with
    | nil => exact h
    | cons turn rest ih => exact ih (pool.step turn) (h.step turn)
  exact hrun _ (balanced_start s calls)

/-! ## Removed once -/

section Counting

variable {s : Site} {pool : Pool} {assignid : Int}

theorem successes_of_noAssignment (h : pool.Balanced s) (ha : s.assignment? assignid = none)
    (userid : Int) : pool.successes assignid userid = 0 := by
  refine List.sum_eq_zero fun n hn => ?_
  obtain ⟨p, hp, rfl⟩ := List.mem_map.1 hn
  split
  · next hrequest =>
    rw [← hrequest] at ha
    exact (h.sound p hp).idle ha userid
  · rfl

theorem successes_le {a : Assignment} (ha : s.assignment? assignid = some a) (userid : Int) :
    pool.successes assignid userid ≤ (pool.processes.map (·.removed s a.id userid)).sum := by
  refine List.sum_le_sum fun p _ => ?_
  split
  · next hrequest =>
    rw [← hrequest] at ha
    rw [Process.removed_of_found ha, if_pos rfl]
  · exact Nat.zero_le _

theorem successes_eq (h : pool.Balanced s) (hown : s.assignments.Every fun id a => a.id = id)
    (assignid userid : Int) : pool.successes assignid userid =
      (pool.processes.map (·.removed s assignid userid)).sum := by
  refine congrArg List.sum (List.map_congr_left fun p hp => ?_)
  cases ha : s.assignment? p.request.assignid with
  | none =>
    rw [Process.removed, (h.sound p hp).idle ha, ite_self, ite_self]
  | some a =>
    rw [Process.removed_of_found ha, hown p.request.assignid a ha]

end Counting

theorem Balanced.isEmptied_iff {s : Site} {pool : Pool} (h : pool.Balanced s)
    (assignment userid : Int) : s.IsEmptied pool.site assignment userid ↔
      s.removals assignment userid = 1 ∧ pool.site.removals assignment userid = 0 := by
  have hlatest := h.latest assignment userid
  constructor
  · rintro ⟨id, before, now, hbefore, hnow, hfull, hempty⟩
    rw [Site.removals_of_latest hbefore, Site.removals_of_latest hnow,
      SubmissionStatus.isRemovable_iff.2 hfull,
      SubmissionStatus.isRemovable_eq_false_iff.2 hempty]
    exact ⟨rfl, rfl⟩
  · rintro ⟨hone, hzero⟩
    cases hbefore : s.latestAttempt? assignment userid with
    | none =>
      rw [Site.removals, Site.userSubmission?, hbefore] at hone
      cases hone
    | some row =>
      obtain ⟨id, before⟩ := row
      rw [hbefore, Option.map_some] at hlatest
      obtain ⟨⟨_, now⟩, hnow, rfl⟩ := Option.map_eq_some_iff.1 hlatest
      rw [Site.removals_of_latest hbefore] at hone
      rw [Site.removals_of_latest hnow] at hzero
      refine ⟨_, before, now, hbefore, hnow, SubmissionStatus.isRemovable_iff.1 ?_,
        SubmissionStatus.isRemovable_eq_false_iff.1 ?_⟩
      · by_contra hempty
        rw [if_neg hempty] at hone
        cases hone
      · rw [← Bool.not_eq_true]
        intro hfull
        rw [if_pos hfull] at hzero
        cases hzero

/-- However the visits of calls come in turn, each submission is removed by at most one of them, and
by one exactly if it held something at first and holds nothing in the end. The latter supposes that
the site stores assignments under their own ids, as a site that is built by operations does. -/
theorem run_removes_once (s : Site) (calls : List (CallContext × Request))
    (turns : List (Nat × Clock)) :
    let pool := (start s calls).run turns
    (∀ assignid userid, pool.successes assignid userid ≤ 1) ∧
      ((s.assignments.Every fun id a => a.id = id) → ∀ assignid userid,
        (pool.successes assignid userid = 1 ↔ s.IsEmptied pool.site assignid userid)) := by
  intro pool
  have h : pool.Balanced s := balanced_run s calls turns
  refine ⟨fun assignid userid => ?_, fun hown assignid userid => ?_⟩
  · cases ha : s.assignment? assignid with
    | none =>
      rw [successes_of_noAssignment h ha]
      exact Nat.zero_le 1
    | some a =>
      have hle : pool.successes assignid userid ≤ _ := successes_le ha userid
      have hbalance := h.balance a.id userid
      have hone := s.removals_le_one a.id userid
      omega
  · have hbalance := h.balance assignid userid
    have hone := s.removals_le_one assignid userid
    rw [h.isEmptied_iff, successes_eq h hown]
    omega

/-- Two calls have both seen the essay before either removes it. -/
theorem essay_removed_once :
    let calls : List (CallContext × Request) :=
      [(administratorContext, .one .english ⟨1, 5⟩), (administratorContext, .several ⟨1, [5, 9]⟩)]
    let turns : List (Nat × Clock) := [0, 1, 1, 0, 1, 0, 1, 1].map (·, ⟨300, ""⟩)
    let pool := (start essaySite calls).run turns
    (essaySite.assignments.Every fun id a => a.id = id) ∧ pool.successes 1 5 = 1 ∧
      essaySite.IsEmptied pool.site 1 5 := by
  intro calls turns pool
  have hown : essaySite.assignments.Every fun id a => a.id = id :=
    Table.every_empty.put rfl
  have hone : pool.successes 1 5 = 1 := by decide +kernel
  exact ⟨hown, hone, ((run_removes_once essaySite calls turns).2 hown 1 5).1 hone⟩

end Pool

end Removal

end Campus

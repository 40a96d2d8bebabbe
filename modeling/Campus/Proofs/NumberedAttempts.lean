import Campus.Proofs.Operations
import Campus.Proofs.Sowing.Submissions

/-!
# Numbered attempts

However a site came about, the attempts of a user at an assignment are numbered from zero in the
order of their ids. So the last one is the latest, whoever looks for it. Work on an assignment
changes this one or adds another. It leaves those before, and the attempts of others.
-/

namespace Campus

/-- The last of the attempts may have changed, but it is still the last. -/
structure Reworked (before after : List (Int × Submission)) : Prop where
  ids : after.map Prod.fst = before.map Prod.fst
  earlier : after.dropLast = before.dropLast

namespace Reworked

variable {before mid after : List (Int × Submission)}

theorem refl (before : List (Int × Submission)) : Reworked before before := ⟨rfl, rfl⟩

theorem trans (h : Reworked before mid) (h' : Reworked mid after) : Reworked before after :=
  ⟨h'.ids.trans h.ids, h'.earlier.trans h.earlier⟩

theorem length_eq (h : Reworked before after) : after.length = before.length := by
  simpa using congrArg List.length h.ids

end Reworked

/-- The last of the attempts may have changed, or there is one more. -/
inductive GoOn (before : List (Int × Submission)) : List (Int × Submission) → Prop
  | reworked {after : List (Int × Submission)} (h : Reworked before after) : GoOn before after
  | added (row : Int × Submission) : GoOn before (before ++ [row])

theorem GoOn.rework {before mid after : List (Int × Submission)} (h : GoOn before mid)
    (h' : Reworked mid after) : GoOn before after := by
  cases h with
  | reworked h => exact .reworked (h.trans h')
  | added row =>
    have hne : after ≠ [] := by
      rintro rfl
      simpa using h'.length_eq
    rw [← List.dropLast_append_getLast hne, h'.earlier, List.dropLast_concat]
    exact .added _

/-- What is added as another attempt. -/
def Submission.draft (now assignment userid : Int) (attemptnumber : Nat) (id : Int) : Submission :=
  { id, assignment, userid, status := .draft, attemptnumber, timemodified := now }

namespace Site

variable {s t : Site} {assignment userid id now : Int}

/-! ## Attempts in order -/

/-- Submissions have their own ids, and the attempts of each user at each assignment are numbered
from zero in the order of these. -/
structure CountsAttempts (s : Site) : Prop where
  sound : s.submissions.Sound Submission.id
  numbers : ∀ assignment userid, (s.attempts assignment userid).map (·.2.attemptnumber) =
    List.range (s.attempts assignment userid).length

theorem attempts_sorted (s : Site) (assignment userid : Int) :
    Keyed.Sorted (s.attempts assignment userid) :=
  List.Pairwise.filter _ s.submissions.sorted

theorem numbers_concat_iff {rows : List (Int × Submission)} {row : Int × Submission} :
    (rows ++ [row]).map (·.2.attemptnumber) = List.range (rows ++ [row]).length ↔
      rows.map (·.2.attemptnumber) = List.range rows.length ∧
        row.2.attemptnumber = rows.length := by
  rw [List.map_append, List.length_append, List.map_singleton, List.length_singleton,
    List.range_succ]
  constructor
  · intro h
    obtain ⟨hrows, hrow⟩ := List.append_inj h (by simp)
    exact ⟨hrows, List.singleton_inj.1 hrow⟩
  · rintro ⟨hrows, hrow⟩
    rw [hrows, hrow]

theorem latestOf_eq_getLast? {rows : List (Int × Submission)}
    (h : rows.map (·.2.attemptnumber) = List.range rows.length) :
    latestOf rows = rows.getLast? := by
  induction rows using List.reverseRecOn with
  | nil => rfl
  | append_singleton rows row ih =>
    obtain ⟨hrows, hrow⟩ := numbers_concat_iff.1 h
    rw [latestOf_append_singleton, ih hrows, List.getLast?_concat]
    cases hlast : rows.getLast? with
    | none => rfl
    | some best =>
      have hbest : best.2.attemptnumber ∈ rows.map (·.2.attemptnumber) :=
        List.mem_map_of_mem (List.mem_of_getLast? hlast)
      rw [hrows, List.mem_range] at hbest
      exact if_neg (by omega)

theorem CountsAttempts.latestAttempt? (h : s.CountsAttempts) (assignment userid : Int) :
    s.latestAttempt? assignment userid = (s.attempts assignment userid).getLast? :=
  latestOf_eq_getLast? (h.numbers assignment userid)

theorem countsAttempts_new (wwwroot : String) : ({ wwwroot } : Site).CountsAttempts where
  sound := Table.sound_empty
  numbers _ _ := rfl

theorem attempts_of_submissions (h : t.submissions = s.submissions) (assignment userid : Int) :
    t.attempts assignment userid = s.attempts assignment userid := by
  simp only [attempts, h]

theorem CountsAttempts.of_submissions (h : s.CountsAttempts)
    (hsubmissions : t.submissions = s.submissions) : t.CountsAttempts where
  sound := hsubmissions ▸ h.sound
  numbers assignment userid := by
    rw [attempts_of_submissions hsubmissions]
    exact h.numbers assignment userid

/-! ## Changed attempts -/

section Rework

variable {change : Submission → Submission} {ids : List Int}

theorem CountsAttempts.rework (h : s.CountsAttempts) (hkeeps : KeepsAttempt change)
    (ids : List Int) : (s.rework change ids).CountsAttempts where
  sound := sound_rework hkeeps h.sound ids
  numbers assignment userid := by
    rw [attempts_rework hkeeps, Keyed.mapValues, List.length_map, ← h.numbers, List.map_map]
    refine List.map_congr_left fun row _ => ?_
    simp only [Function.comp_apply]
    split <;> simp [hkeeps.number]

theorem reworked_of_notMem (hkeeps : KeepsAttempt change)
    (h : ∀ row ∈ (s.attempts assignment userid).dropLast, row.1 ∉ ids) :
    Reworked (s.attempts assignment userid)
      ((s.rework change ids).attempts assignment userid) := by
  rw [attempts_rework hkeeps, Keyed.mapValues]
  constructor
  · rw [List.map_map]
    rfl
  · rw [← List.map_dropLast]
    refine (List.map_congr_left fun row hrow => ?_).trans (List.map_id' _)
    exact congrArg (row.1, ·) (if_neg (h row hrow))

theorem CountsAttempts.ne_of_earlier (h : s.CountsAttempts) {attempt : Submission}
    (hlatest : s.latestAttempt? assignment userid = some (id, attempt)) {row : Int × Submission}
    (hrow : row ∈ (s.attempts assignment userid).dropLast) : row.1 ≠ id := by
  rw [h.latestAttempt?] at hlatest
  have hsorted := s.attempts_sorted assignment userid
  rw [← List.dropLast_append_getLast? _ hlatest] at hsorted
  have hlt : row.1 < id :=
    (List.pairwise_append.1 hsorted).2.2 row hrow _ (List.mem_singleton_self _)
  exact Int.ne_of_lt hlt

theorem CountsAttempts.attempts_reworkLatest (h : s.CountsAttempts) (hkeeps : KeepsAttempt change)
    {attempt : Submission} (hlatest : s.latestAttempt? assignment userid = some (id, attempt)) :
    (s.rework change [id]).attempts assignment userid =
      (s.attempts assignment userid).dropLast ++ [(id, change attempt)] := by
  have hafter : (s.rework change [id]).latestAttempt? assignment userid =
      some (id, change attempt) := by
    rw [latestAttempt?_rework hkeeps, hlatest, Option.map_some,
      if_pos (List.mem_singleton_self id)]
  rw [(h.rework hkeeps [id]).latestAttempt?] at hafter
  have hreworked : Reworked (s.attempts assignment userid) _ :=
    reworked_of_notMem hkeeps fun row hrow hid =>
      h.ne_of_earlier hlatest hrow (List.mem_singleton.1 hid)
  rw [← hreworked.earlier]
  exact (List.dropLast_append_getLast? _ hafter).symm

end Rework

/-! ## Work on attempts -/

/-- The attempts of each user at each assignment go on, and where there is no work to do they stay
as they are. -/
structure WorksOn (work : Int → Int → Prop) (s t : Site) : Prop where
  counts : t.CountsAttempts
  goOn : ∀ assignment userid,
    GoOn (s.attempts assignment userid) (t.attempts assignment userid)
  others : ∀ assignment userid, ¬work assignment userid →
    t.attempts assignment userid = s.attempts assignment userid

section Work

variable {work : Int → Int → Prop}

theorem WorksOn.refl (h : s.CountsAttempts) : s.WorksOn work s where
  counts := h
  goOn _ _ := .reworked (.refl _)
  others _ _ _ := rfl

theorem WorksOn.rework (h : s.WorksOn work t) {change : Submission → Submission} {ids : List Int}
    (hkeeps : KeepsAttempt change)
    (hids : ∀ id ∈ ids, ∃ assignment userid attempt, work assignment userid ∧
      t.latestAttempt? assignment userid = some (id, attempt)) :
    s.WorksOn work (t.rework change ids) where
  counts := h.counts.rework hkeeps ids
  goOn assignment userid := by
    refine (h.goOn assignment userid).rework (reworked_of_notMem hkeeps fun row hrow hid => ?_)
    obtain ⟨_, _, attempt, -, hlatest⟩ := hids row.1 hid
    obtain ⟨rfl, rfl⟩ := eq_of_mem_attempts (mem_attempts_of_latestAttempt? hlatest)
      (List.dropLast_subset _ hrow)
    exact h.counts.ne_of_earlier hlatest hrow rfl
  others assignment userid hnot := by
    refine (attempts_rework_of_notMem hkeeps fun row hrow hid => ?_).trans
      (h.others assignment userid hnot)
    obtain ⟨_, _, attempt, hwork, hlatest⟩ := hids row.1 hid
    obtain ⟨rfl, rfl⟩ := eq_of_mem_attempts (mem_attempts_of_latestAttempt? hlatest) hrow
    exact hnot hwork

/-! ## What is done to the attempts of one user -/

theorem addDraft_eq (now assignment userid : Int) (number : Nat) (s : Site) :
    (Fixture.addDraft now assignment userid number) s =
      (.draft now assignment userid number s.submissions.nextId,
        { s with submissions := (s.submissions.add (.draft now assignment userid number)).2 }) :=
  rfl

theorem attempts_addDraft (hcounts : s.CountsAttempts) (now assignment userid : Int) (number : Nat)
    (assignment' userid' : Int) :
    ((Fixture.addDraft now assignment userid number) s).2.attempts assignment' userid' =
      s.attempts assignment' userid' ++
        if assignment = assignment' ∧ userid = userid' then
          [(s.submissions.nextId, .draft now assignment userid number s.submissions.nextId)]
        else [] := by
  rw [addDraft_eq]
  exact attempts_add hcounts.sound rfl assignment' userid'

theorem worksOn_addDraft (hcounts : s.CountsAttempts) (hwork : work assignment userid) (now : Int)
    {number : Nat} (hnumber : number = (s.attempts assignment userid).length) :
    s.WorksOn work ((Fixture.addDraft now assignment userid number) s).2 where
  counts := by
    have hsound : (s.submissions.add (.draft now assignment userid number)).2.Sound Submission.id :=
      hcounts.sound.add rfl
    refine ⟨hsound, fun assignment' userid' => ?_⟩
    rw [attempts_addDraft hcounts]
    split
    · next hsame =>
      obtain ⟨rfl, rfl⟩ := hsame
      exact numbers_concat_iff.2 ⟨hcounts.numbers _ _, hnumber⟩
    · rw [List.append_nil]
      exact hcounts.numbers _ _
  goOn assignment' userid' := by
    rw [attempts_addDraft hcounts]
    split
    · exact .added _
    · rw [List.append_nil]
      exact .reworked (.refl _)
  others assignment' userid' hnot := by
    have hother : ¬(assignment = assignment' ∧ userid = userid') := by
      rintro ⟨rfl, rfl⟩
      exact hnot hwork
    rw [attempts_addDraft hcounts, if_neg hother, List.append_nil]

theorem CountsAttempts.next_number (h : s.CountsAttempts) (assignment userid : Int) :
    ((s.userSubmission? assignment userid).map (·.attemptnumber + 1)).getD 0 =
      (s.attempts assignment userid).length := by
  have hnumbers := h.numbers assignment userid
  rw [userSubmission?, h.latestAttempt?]
  cases hlast : (s.attempts assignment userid).getLast? with
  | none => rw [List.getLast?_eq_none_iff.1 hlast]; rfl
  | some row =>
    rw [← List.dropLast_append_getLast? row hlast] at hnumbers ⊢
    simp [(numbers_concat_iff.1 hnumbers).2]

theorem worksOn_addAttempt (hcounts : s.CountsAttempts) (hwork : work assignment userid)
    (now : Int) : s.WorksOn work ((Fixture.addAttempt now assignment userid) s).2 :=
  worksOn_addDraft hcounts hwork now (hcounts.next_number assignment userid)

theorem WorksOn.reworkLatest (h : s.WorksOn work t) (hwork : work assignment userid)
    {change : Submission → Submission} (hkeeps : KeepsAttempt change) {sub : Submission}
    (hlatest : t.latestAttempt? assignment userid = some (id, sub)) :
    s.WorksOn work (t.rework change [id]) := by
  refine h.rework hkeeps fun other hother => ?_
  rw [List.mem_singleton.1 hother]
  exact ⟨assignment, userid, sub, hwork, hlatest⟩

theorem WorksOn.moveLatest (h : s.WorksOn work t) (hwork : work assignment userid) (now : Int)
    (status : SubmissionStatus) :
    s.WorksOn work ((Fixture.moveLatest now status assignment userid) t).2 := by
  cases hlatest : t.latestAttempt? assignment userid with
  | none =>
    rw [moveLatest_of_none hlatest]
    exact h
  | some row =>
    rw [moveLatest_of_some hlatest]
    exact h.reworkLatest hwork (keepsAttempt_moved now status) hlatest

theorem length_attempts_of_none (h : s.latestAttempt? assignment userid = none) :
    0 = (s.attempts assignment userid).length := by
  rw [latestOf_eq_none_iff.1 h]
  rfl

theorem worksOn_addSubmission (hcounts : s.CountsAttempts) (hwork : work assignment userid)
    (now : Int) : s.WorksOn work ((Fixture.addSubmission now assignment userid) s).2 := by
  cases hlatest : s.latestAttempt? assignment userid with
  | some row =>
    rw [addSubmission_of_some hlatest]
    exact (WorksOn.refl hcounts).reworkLatest hwork (keepsAttempt_moved now .draft) hlatest
  | none =>
    rw [addSubmission_of_none hlatest]
    exact worksOn_addDraft hcounts hwork now (length_attempts_of_none hlatest)

end Work

/-! ## What is looked up after a write -/

theorem CountsAttempts.latestAttempt?_addDraft (h : s.CountsAttempts) (now : Int) {number : Nat}
    (hnumber : number = (s.attempts assignment userid).length) :
    ((Fixture.addDraft now assignment userid number) s).2.latestAttempt? assignment userid =
      some (((Fixture.addDraft now assignment userid number) s).1.id,
        ((Fixture.addDraft now assignment userid number) s).1) := by
  have hworks : s.WorksOn (fun _ _ => True) _ := worksOn_addDraft h trivial now hnumber
  rw [hworks.counts.latestAttempt?, attempts_addDraft h, if_pos ⟨rfl, rfl⟩, List.getLast?_concat]
  rfl

theorem CountsAttempts.latestAttempt?_addSubmission (h : s.CountsAttempts)
    (now assignment userid : Int) :
    ((Fixture.addSubmission now assignment userid) s).2.latestAttempt? assignment userid =
      some (((Fixture.addSubmission now assignment userid) s).1.id,
        ((Fixture.addSubmission now assignment userid) s).1) := by
  cases hlatest : s.latestAttempt? assignment userid with
  | some row =>
    have hid : row.2.id = row.1 :=
      h.sound.own row.1 row.2 (latestAttempt?_eq_some_iff.1 hlatest).stored
    rw [addSubmission_of_some hlatest, latestAttempt?_rework (keepsAttempt_moved now .draft),
      hlatest, Option.map_some, if_pos (List.mem_singleton_self _), hid]
  | none =>
    rw [addSubmission_of_none hlatest]
    exact h.latestAttempt?_addDraft now (length_attempts_of_none hlatest)

theorem userSubmission?_moveLatest (now : Int) (status : SubmissionStatus)
    (assignment userid : Int) (s : Site) :
    ((Fixture.moveLatest now status assignment userid) s).2.userSubmission? assignment userid =
      ((Fixture.moveLatest now status assignment userid) s).1 := by
  cases hlatest : s.latestAttempt? assignment userid with
  | none => rw [moveLatest_of_none hlatest, userSubmission?, hlatest, Option.map_none]
  | some row =>
    rw [moveLatest_of_some hlatest, userSubmission?,
      latestAttempt?_rework (keepsAttempt_moved now status), hlatest, Option.map_some,
      if_pos (List.mem_singleton_self _)]
    rfl

/-! ## What an entry of a seed, or a removal, does -/

section Work

variable {work : Int → Int → Prop}

theorem worksOn_makeSubmission (hcounts : s.CountsAttempts) (now : Int) {made : Seed.Made}
    {e : SeedSubmission}
    (hwork : ∀ cm a user, Keyed.get? e.module made.modules = some cm →
      s.assignment? cm.instanceId = some a → Keyed.get? e.user made.users = some user →
      work a.id user) :
    s.WorksOn work ((Seed.makeSubmission now made e) s).2 := by
  have hsame : s.WorksOn work s := .refl hcounts
  refine Change.require_bind_site hsame fun cm hcm => ?_
  refine Change.require_bind_site hsame fun a ha => ?_
  refine Change.require_bind_site hsame fun user huser => ?_
  have hthis := hwork cm a user hcm ha huser
  have hdraft := worksOn_addSubmission hcounts hthis now
  have hlatest := hcounts.latestAttempt?_addSubmission now a.id user
  have hstatus (status : SubmissionStatus) := hdraft.reworkLatest hthis
    (keepsAttempt_setStatus status) hlatest
  simp only [← setStatus_eq_rework] at hstatus
  cases e.status with
  | draft => exact hdraft
  | submitted => exact hdraft.moveLatest hthis now .submitted
  | new => exact hstatus .new
  | reopened => exact hstatus .reopened

theorem worksOn_takeBack (hcounts : s.CountsAttempts) (a : Assignment) (ctx : CallContext)
    {userids : List Int} (hwork : ∀ userid ∈ userids, work a.id userid) :
    s.WorksOn work
      (s.takeBack ctx.clock.seconds (userids.filterMap (s.removable? a ctx))) := by
  refine WorksOn.rework (.refl hcounts) (keepsAttempt_removed ctx.clock.seconds) fun id hid => ?_
  obtain ⟨userid, huser, hid⟩ := List.mem_filterMap.1 hid
  obtain ⟨-, attempt, hlatest, -⟩ := removable?_eq_some_iff.1 hid
  exact ⟨a.id, userid, attempt, hwork userid huser, hlatest⟩

theorem worksOn_removeSubmission (hcounts : s.CountsAttempts) {a : Assignment}
    (hwork : work a.id userid) (ctx : CallContext) :
    s.WorksOn work (s.removeSubmission a userid ctx).2 := by
  have htake : s.WorksOn work (s.takeBack ctx.clock.seconds ([userid].filterMap _)) :=
    worksOn_takeBack hcounts a ctx (by simpa using hwork)
  cases hid : s.removable? a ctx userid with
  | none =>
    obtain ⟨refused, hremove⟩ := removeSubmission_of_none hid
    rw [hremove]
    exact .refl hcounts
  | some id =>
    obtain ⟨sub, hremove⟩ := removeSubmission_of_some hid
    rw [List.filterMap_cons_some hid] at htake
    rw [hremove]
    exact htake

theorem worksOn_afterRemovals (hcounts : s.CountsAttempts) (ctx : CallContext) {assignid : Int}
    {userids : List Int}
    (hwork : ∀ a, s.assignment? assignid = some a → ∀ userid ∈ userids, work a.id userid) :
    s.WorksOn work (s.afterRemovals ctx assignid userids) := by
  unfold afterRemovals
  cases ha : s.assignment? assignid with
  | none => exact .refl hcounts
  | some a => exact worksOn_takeBack hcounts a ctx (hwork a ha)

theorem WorksOn.of_submissions (hcounts : s.CountsAttempts)
    (h : t.submissions = s.submissions) : s.WorksOn work t where
  counts := hcounts.of_submissions h
  goOn assignment userid := by
    rw [attempts_of_submissions h]
    exact .reworked (.refl _)
  others assignment userid _ := attempts_of_submissions h assignment userid

theorem worksOn_call (service : Service) (hcounts : service.site.CountsAttempts) (clock : Clock)
    (function token : String) (arguments : Json)
    (hwork : ∀ assignid userids, RemovalRequest function arguments assignid userids →
      ∀ a, service.site.assignment? assignid = some a → ∀ userid ∈ userids, work a.id userid) :
    service.site.WorksOn work (service.call clock function token arguments).2.site := by
  rw [Service.call_site]
  rcases Service.run_site_cases service clock function token arguments with
    hsame | ⟨caller, assignid, userids, -, hrequest, hafter⟩ | ⟨-, -, e, hafter⟩
  · rw [hsame]
    exact .refl hcounts
  · rw [hafter]
    exact worksOn_afterRemovals hcounts _ (hwork assignid userids hrequest)
  · rw [hafter]
    exact .of_submissions hcounts rfl

end Work

/-! ## How sites come about -/

theorem Write.countsAttempts (h : s.Write t) (hcounts : s.CountsAttempts) : t.CountsAttempts := by
  cases h with
  | addDraft now assignment userid number hnumber =>
    have hlength := hnumber.trans (hcounts.next_number assignment userid)
    have hworks : s.WorksOn (fun _ _ => True) _ := worksOn_addDraft hcounts trivial now hlength
    exact hworks.counts
  | moveLatest now assignment userid status =>
    have hsame : s.WorksOn (fun _ _ => True) s := .refl hcounts
    exact (hsame.moveLatest trivial now status).counts
  | setStatus id status =>
    rw [setStatus_eq_rework]
    exact hcounts.rework (keepsAttempt_setStatus status) [id]
  | addModule type => cases type <;> exact hcounts.of_submissions rfl
  | deleteInstance cm =>
    obtain ⟨assignments, chats, hafter⟩ := exists_deleteModuleInstance cm s
    rw [hafter]
    exact hcounts.of_submissions rfl
  | renameInstance cm name =>
    obtain ⟨assignments, chats, hafter⟩ := exists_renameInstance cm name s
    rw [hafter]
    exact hcounts.of_submissions rfl
  | _ => exact hcounts.of_submissions rfl

theorem Writes.countsAttempts (h : s.Writes t) (hcounts : s.CountsAttempts) :
    t.CountsAttempts :=
  h.keeps (fun _ _ _ hwrite => hwrite.countsAttempts) hcounts

end Site

theorem Operation.countsAttempts_run (op : Operation) {s : Site} (hcounts : s.CountsAttempts) :
    (op.run s).CountsAttempts := by
  cases op with
  | call features strings clock function token arguments =>
    have hworks : s.WorksOn (fun _ _ => True) _ :=
      Site.worksOn_call { site := s, features, strings } hcounts clock function token arguments
        fun _ _ _ _ _ _ _ => trivial
    exact hworks.counts
  | _ => exact (writes_run (by exact trivial) s).countsAttempts hcounts

/-! ## Coursework -/

/-- What is done to attempts: by fixtures, by the entries of a seed, and by calls. -/
inductive Coursework where
  | addSubmission (now assignment userid : Int)
  | submitForGrading (now assignment userid : Int)
  | addAttempt (now assignment userid : Int)
  | sow (now : Int) (made : Seed.Made) (e : SeedSubmission)
  | remove (a : Assignment) (userid : Int) (ctx : CallContext)
  | call (features : Features) (strings : Strings) (clock : Clock) (function token : String)
      (arguments : Json)

namespace Coursework

variable {s : Site}

/-- The site after the work, whether it fails or not. -/
def run : Coursework → Site → Site
  | addSubmission now assignment userid, s => (Fixture.addSubmission now assignment userid s).2
  | submitForGrading now assignment userid, s =>
    (Fixture.submitForGrading now assignment userid s).2
  | addAttempt now assignment userid, s => (Fixture.addAttempt now assignment userid s).2
  | sow now made e, s => (Seed.makeSubmission now made e s).2
  | remove a userid ctx, s => (s.removeSubmission a userid ctx).2
  | call features strings clock function token arguments, s =>
    (Service.call { site := s, features, strings } clock function token arguments).2.site

/-- The work names the attempts of a user at an assignment. -/
inductive Concerns (s : Site) : Coursework → Int → Int → Prop
  | addSubmission {now assignment userid : Int} :
      Concerns s (addSubmission now assignment userid) assignment userid
  | submitForGrading {now assignment userid : Int} :
      Concerns s (submitForGrading now assignment userid) assignment userid
  | addAttempt {now assignment userid : Int} :
      Concerns s (addAttempt now assignment userid) assignment userid
  | sow {now userid : Int} {made : Seed.Made} {e : SeedSubmission} {cm : CourseModule}
      {a : Assignment} (module : Keyed.get? e.module made.modules = some cm)
      (assignment : s.assignment? cm.instanceId = some a)
      (user : Keyed.get? e.user made.users = some userid) :
      Concerns s (sow now made e) a.id userid
  | remove {a : Assignment} {userid : Int} {ctx : CallContext} :
      Concerns s (remove a userid ctx) a.id userid
  | call {features : Features} {strings : Strings} {clock : Clock} {function token : String}
      {arguments : Json} {assignid userid : Int} {userids : List Int} {a : Assignment}
      (request : RemovalRequest function arguments assignid userids)
      (assignment : s.assignment? assignid = some a) (user : userid ∈ userids) :
      Concerns s (call features strings clock function token arguments) a.id userid

theorem worksOn_run (hcounts : s.CountsAttempts) (w : Coursework) :
    s.WorksOn (w.Concerns s) (w.run s) := by
  cases w with
  | addSubmission now assignment userid =>
    exact Site.worksOn_addSubmission hcounts .addSubmission now
  | submitForGrading now assignment userid =>
    exact (Site.WorksOn.refl hcounts).moveLatest .submitForGrading now .submitted
  | addAttempt now assignment userid =>
    exact Site.worksOn_addAttempt hcounts .addAttempt now
  | sow now made e =>
    exact Site.worksOn_makeSubmission hcounts now fun cm a user hcm ha huser => .sow hcm ha huser
  | remove a userid ctx => exact Site.worksOn_removeSubmission hcounts .remove ctx
  | call features strings clock function token arguments =>
    exact Site.worksOn_call { site := s, features, strings } hcounts clock function token arguments
      fun assignid userids hrequest a ha userid huser => .call hrequest ha huser

end Coursework

/-! ## The attempts of a user at an assignment -/

namespace Site

/-- What a removal does to the attempts that are asked about: the one that is looked up is the last,
and it is taken back, if it holds something and the caller may change it. -/
inductive RemovesLast (s : Site) (a : Assignment) (userid : Int) (ctx : CallContext) :
    Except RemovalRefused Submission × Site → Prop
  | refused (e : RemovalRefused)
      (why : ∀ attempt, s.userSubmission? a.id userid = some attempt →
        attempt.status.isRemovable = true → a.canEdit userid ctx = false) :
      RemovesLast s a userid ctx (.error e, s)
  | last {earlier : List (Int × Submission)} {id : Int} {attempt : Submission} {after : Site}
      (lookedUp : s.userSubmission? a.id userid = some attempt)
      (before : s.attempts a.id userid = earlier ++ [(id, attempt)])
      (removed : after.attempts a.id userid =
        earlier ++ [(id, attempt.removed ctx.clock.seconds)]) :
      RemovesLast s a userid ctx (.ok (attempt.removed ctx.clock.seconds), after)

/-- A user's attempts at an assignment, in the order of their ids, are numbered from zero. The last
one is the one that is looked up. -/
structure InOrder (s : Site) (assignment userid : Int) : Prop where
  own : ∀ row ∈ s.attempts assignment userid, row.2.id = row.1
  sorted : (s.attempts assignment userid).Pairwise fun row next => row.1 < next.1
  numbers : (s.attempts assignment userid).map (·.2.attemptnumber) =
    List.range (s.attempts assignment userid).length
  lookedUp : s.userSubmission? assignment userid =
    ((s.attempts assignment userid).getLast?).map (·.2)

/-- Whoever writes is handed what is looked up afterwards. Another attempt has the next number. -/
structure HandsBackLast (s : Site) (now assignment userid : Int) : Prop where
  addSubmission :
    ((Fixture.addSubmission now assignment userid) s).2.userSubmission? assignment userid =
      some ((Fixture.addSubmission now assignment userid) s).1
  submitForGrading :
    ((Fixture.submitForGrading now assignment userid) s).2.userSubmission? assignment userid =
      ((Fixture.submitForGrading now assignment userid) s).1
  addAttempt :
    ((Fixture.addAttempt now assignment userid) s).2.userSubmission? assignment userid =
      some ((Fixture.addAttempt now assignment userid) s).1
  next : ((Fixture.addAttempt now assignment userid) s).1.attemptnumber =
    (s.attempts assignment userid).length

variable {s : Site}

theorem CountsAttempts.inOrder (h : s.CountsAttempts) (assignment userid : Int) :
    s.InOrder assignment userid where
  own row hrow := h.sound.own row.1 row.2 (mem_attempts.1 hrow).1
  sorted := s.attempts_sorted assignment userid
  numbers := h.numbers assignment userid
  lookedUp := by rw [userSubmission?, h.latestAttempt?]

theorem CountsAttempts.handsBackLast (h : s.CountsAttempts) (now assignment userid : Int) :
    s.HandsBackLast now assignment userid where
  addSubmission := by
    rw [userSubmission?, h.latestAttempt?_addSubmission now assignment userid, Option.map_some]
  submitForGrading := userSubmission?_moveLatest now .submitted assignment userid s
  addAttempt :=
    congrArg (Option.map Prod.snd) (h.latestAttempt?_addDraft now (h.next_number assignment userid))
  next := h.next_number assignment userid

theorem CountsAttempts.removesLast (h : s.CountsAttempts) (a : Assignment) (userid : Int)
    (ctx : CallContext) : s.RemovesLast a userid ctx (s.removeSubmission a userid ctx) := by
  cases hid : s.removable? a ctx userid with
  | none =>
    obtain ⟨e, hremove⟩ := removeSubmission_of_none hid
    rw [hremove]
    refine .refused e fun attempt hlookedUp hfull => ?_
    obtain ⟨row, hlatest, rfl⟩ := Option.map_eq_some_iff.1 hlookedUp
    rw [← Bool.not_eq_true]
    intro hedit
    have hsome := removable?_eq_some_iff.2 ⟨hedit, row.2, hlatest, hfull⟩
    rw [hid] at hsome
    cases hsome
  | some id =>
    obtain ⟨hedit, attempt, hlatest, hfull⟩ := removable?_eq_some_iff.1 hid
    have hlast := (h.latestAttempt? a.id userid).symm.trans hlatest
    have hlookedUp : s.userSubmission? a.id userid = some attempt := by
      rw [userSubmission?, hlatest]
      rfl
    rw [removeSubmission_of_latestAttempt? hedit hlatest hfull]
    exact .last hlookedUp (List.dropLast_append_getLast? _ hlast).symm
      (h.attempts_reworkLatest (keepsAttempt_removed ctx.clock.seconds) hlatest)

/-! ## Sites that come about -/

/-- Operations and coursework, in any order, lead to the site. -/
inductive Reached : Site → Prop
  | new (wwwroot : String) : Reached { wwwroot }
  | operation {s : Site} (h : Reached s) (op : Operation) : Reached (op.run s)
  | coursework {s : Site} (h : Reached s) (w : Coursework) : Reached (w.run s)

theorem Reached.countsAttempts (h : Reached s) : s.CountsAttempts := by
  induction h with
  | new wwwroot => exact countsAttempts_new wwwroot
  | operation _ op ih => exact op.countsAttempts_run ih
  | coursework _ w ih => exact (w.worksOn_run ih).counts

/-- Wherever operations lead, the attempts of a user at an assignment are in order, and the last one
is the one that is looked up, written and removed. Coursework changes the last one or adds another,
and only where it is about them. -/
theorem Reached.attempts_inOrder (h : Reached s) (assignment userid : Int) :
    s.InOrder assignment userid ∧
      (∀ (a : Assignment) (ctx : CallContext),
        s.RemovesLast a userid ctx (s.removeSubmission a userid ctx)) ∧
      (∀ now, s.HandsBackLast now assignment userid) ∧
      ∀ w : Coursework,
        GoOn (s.attempts assignment userid) ((w.run s).attempts assignment userid) ∧
          (¬w.Concerns s assignment userid →
            (w.run s).attempts assignment userid = s.attempts assignment userid) := by
  have hcounts := h.countsAttempts
  refine ⟨hcounts.inOrder assignment userid, fun a ctx => hcounts.removesLast a userid ctx,
    fun now => hcounts.handsBackLast now assignment userid, fun w => ?_⟩
  have hworks := w.worksOn_run hcounts
  exact ⟨hworks.goOn assignment userid, hworks.others assignment userid⟩

/-- A user hands in an essay and begins another one. -/
theorem secondEssay_inOrder :
    let s := (Coursework.addAttempt 30 1 5).run
      ((Coursework.submitForGrading 20 1 5).run
        ((Coursework.addSubmission 10 1 5).run { wwwroot := "https://campus.test" }))
    s.Reached ∧ (s.attempts 1 5).map (·.2.attemptnumber) = [0, 1] ∧ s.InOrder 1 5 := by
  intro s
  have hdraft := (Reached.new "https://campus.test").coursework (.addSubmission 10 1 5)
  have hsubmitted := hdraft.coursework (.submitForGrading 20 1 5)
  have hagain : s.Reached := hsubmitted.coursework (.addAttempt 30 1 5)
  exact ⟨hagain, rfl, (hagain.attempts_inOrder 1 5).1⟩

end Site

end Campus

import Mathlib.Data.List.Nodup
import Campus.Proofs.Operations

/-!
# Related badges

Two badges are related both ways or not at all. So whatever was done to a site, a badge lists
another exactly if that one lists it, and all that it lists are there: the export of an award leaves
none of them out.
-/

namespace Campus

/-! ## What a badge lists -/

section Badge

variable {other x : Int} {b : Badge}

theorem Badge.mem_related_relate : x ∈ (b.relate other).related ↔ x ∈ b.related ∨ x = other := by
  unfold relate
  split
  · next hlisted =>
    rw [List.contains_iff_mem] at hlisted
    refine (or_iff_left_of_imp ?_).symm
    rintro rfl
    exact hlisted
  · exact List.mem_append.trans (or_congr_right List.mem_singleton)

theorem Badge.related_prefix_relate (other : Int) (b : Badge) :
    b.related <+: (b.relate other).related := by
  unfold relate
  split
  · exact List.prefix_rfl
  · exact List.prefix_append _ _

theorem Badge.nodup_related_relate (h : b.related.Nodup) : (b.relate other).related.Nodup := by
  unfold relate
  split
  · exact h
  · next hnew =>
    rw [List.contains_iff_mem] at hnew
    rw [← List.concat_eq_append]
    exact h.concat hnew

end Badge

namespace Table

variable {badges after : Table Badge} {badgeid related id x : Int} {change : Badge → Badge}

/-- The badges that a badge lists; none if there is no such badge. -/
def relatedTo (badges : Table Badge) (id : Int) : List Int :=
  ((badges.get? id).map (·.related)).getD []

theorem relatedTo_of_get? {b : Badge} (h : badges.get? id = some b) :
    badges.relatedTo id = b.related := by
  rw [relatedTo, h]
  rfl

theorem relatedTo_modify_self {b : Badge} (h : badges.get? badgeid = some b) :
    (badges.modify badgeid change).relatedTo badgeid = (change b).related := by
  refine relatedTo_of_get? ?_
  rw [get?_modify, h, Option.map_some, if_pos rfl]

theorem relatedTo_modify_of_ne (h : id ≠ badgeid) :
    (badges.modify badgeid change).relatedTo id = badges.relatedTo id := by
  unfold relatedTo
  rw [get?_modify]
  simp only [h, if_false, Option.map_id']

theorem relatedTo_modify_of_same (hsame : ∀ b, (change b).related = b.related) :
    (badges.modify badgeid change).relatedTo id = badges.relatedTo id := by
  unfold relatedTo
  rw [get?_modify, Option.map_map]
  congr 2
  funext b
  show (if id = badgeid then change b else b).related = b.related
  split
  · exact hsame b
  · rfl

theorem relatedTo_add (hsound : badges.Sound Badge.id) (r : NewBadge) (now : Int) :
    (badges.add (r.toBadge now)).2.relatedTo id = badges.relatedTo id := by
  unfold relatedTo add
  rw [get?_put]
  split
  · next hid =>
    have hfresh := hsound.fresh
    rw [hid, contains, Option.isSome_eq_false_iff, Option.isNone_iff_eq_none] at hfresh
    rw [hfresh]
    rfl
  · rfl

theorem mem_relatedTo_relate (hknown : badges.contains badgeid = true) :
    x ∈ (badges.modify badgeid (Badge.relate related)).relatedTo id ↔
      x ∈ badges.relatedTo id ∨ id = badgeid ∧ x = related := by
  by_cases hid : id = badgeid
  · subst hid
    obtain ⟨b, hb⟩ := contains_iff.1 hknown
    rw [relatedTo_modify_self hb, relatedTo_of_get? hb, Badge.mem_related_relate]
    simp
  · rw [relatedTo_modify_of_ne hid]
    simp [hid]

theorem mem_relatedTo_relate_both (hbadge : badges.contains badgeid = true)
    (hrelated : badges.contains related = true) :
    x ∈ ((badges.modify badgeid (Badge.relate related)).modify related
        (Badge.relate badgeid)).relatedTo id ↔
      x ∈ badges.relatedTo id ∨ id = badgeid ∧ x = related ∨ id = related ∧ x = badgeid := by
  have hfirst := within_modify badgeid (Badge.relate related) badges
  rw [mem_relatedTo_relate (hfirst _ hrelated), mem_relatedTo_relate hbadge, or_assoc]

theorem relatedTo_prefix_relate (badges : Table Badge) (badgeid related id : Int) :
    badges.relatedTo id <+: (badges.modify badgeid (Badge.relate related)).relatedTo id := by
  by_cases hid : id = badgeid
  · subst hid
    cases hb : badges.get? id with
    | none =>
      rw [relatedTo, hb]
      exact List.nil_prefix
    | some b =>
      rw [relatedTo_modify_self hb, relatedTo_of_get? hb]
      exact Badge.related_prefix_relate related b
  · exact (relatedTo_modify_of_ne hid).symm ▸ List.prefix_rfl

theorem nodup_relatedTo_relate (hknown : badges.contains badgeid = true)
    (h : (badges.relatedTo id).Nodup) :
    ((badges.modify badgeid (Badge.relate related)).relatedTo id).Nodup := by
  by_cases hid : id = badgeid
  · subst hid
    obtain ⟨b, hb⟩ := contains_iff.1 hknown
    rw [relatedTo_of_get? hb] at h
    rw [relatedTo_modify_self hb]
    exact Badge.nodup_related_relate h
  · rwa [relatedTo_modify_of_ne hid]

/-! ## Badges that are related both ways -/

/-- A badge lists those that list it, each once, and they are there. -/
structure RelatesBothWays (badges : Table Badge) : Prop where
  symmetric : ∀ id other, other ∈ badges.relatedTo id ↔ id ∈ badges.relatedTo other
  once : ∀ id, (badges.relatedTo id).Nodup
  known : ∀ id, ∀ other ∈ badges.relatedTo id, badges.contains other = true

theorem relatesBothWays_empty : ({} : Table Badge).RelatesBothWays where
  symmetric _ _ := ⟨nofun, nofun⟩
  once _ := List.nodup_nil
  known _ _ := nofun

theorem RelatesBothWays.of_relatedTo (h : badges.RelatesBothWays)
    (hrelated : ∀ id, after.relatedTo id = badges.relatedTo id) (hwithin : badges.Within after) :
    after.RelatesBothWays where
  symmetric id other := by
    rw [hrelated, hrelated]
    exact h.symmetric id other
  once id := by
    rw [hrelated]
    exact h.once id
  known id other hother := by
    rw [hrelated] at hother
    exact hwithin other (h.known id other hother)

/-- Between the two steps one badge lists the other but not the reverse: only both together keep the
badges related both ways. -/
theorem RelatesBothWays.relate (h : badges.RelatesBothWays)
    (hbadge : badges.contains badgeid = true) (hrelated : badges.contains related = true) :
    ((badges.modify badgeid (Badge.relate related)).modify related
      (Badge.relate badgeid)).RelatesBothWays := by
  have hfirst := within_modify badgeid (Badge.relate related) badges
  have hsecond := within_modify related (Badge.relate badgeid)
    (badges.modify badgeid (Badge.relate related))
  constructor
  · intro id other
    rw [mem_relatedTo_relate_both hbadge hrelated, mem_relatedTo_relate_both hbadge hrelated,
      h.symmetric id other, @and_comm (id = badgeid), @and_comm (id = related),
      @or_comm (other = related ∧ _)]
  · intro id
    exact nodup_relatedTo_relate (hfirst _ hrelated) (nodup_relatedTo_relate hbadge (h.once id))
  · intro id other hother
    have hthere : badges.contains other = true := by
      rcases (mem_relatedTo_relate_both hbadge hrelated).1 hother with hold | ⟨-, rfl⟩ | ⟨-, rfl⟩
      · exact h.known id other hold
      · exact hrelated
      · exact hbadge
    exact hsecond _ (hfirst _ hthere)

end Table

namespace Site

variable {s t : Site}

theorem Write.badges_cases (h : s.Write t) : t.badges = s.badges ∨
    (∃ (now : Int) (r : NewBadge), t.badges = (s.badges.add (r.toBadge now)).2) ∨
    (∃ badgeid change, t.badges = s.badges.modify badgeid change ∧
      ∀ b : Badge, (change b).related = b.related) ∨
    ∃ badgeid related, s.badges.contains badgeid = true ∧ s.badges.contains related = true ∧
      t.badges = (s.badges.modify badgeid (Badge.relate related)).modify related
        (Badge.relate badgeid) := by
  cases h with
  | addBadge now r => exact .inr (.inl ⟨now, r, rfl⟩)
  | endorse badgeid => exact .inr (.inr (.inl ⟨badgeid, _, rfl, fun _ => rfl⟩))
  | align badgeid => exact .inr (.inr (.inl ⟨badgeid, _, rfl, fun _ => rfl⟩))
  | lock badgeid => exact .inr (.inr (.inl ⟨badgeid, _, rfl, fun _ => rfl⟩))
  | relate badgeid related known relatedKnown =>
    exact .inr (.inr (.inr ⟨badgeid, related, known, relatedKnown, rfl⟩))
  | addModule type => cases type <;> exact .inl rfl
  | deleteInstance cm =>
    obtain ⟨assignments, chats, hafter⟩ := exists_deleteModuleInstance cm s
    rw [hafter]
    exact .inl rfl
  | renameInstance cm name =>
    obtain ⟨assignments, chats, hafter⟩ := exists_renameInstance cm name s
    rw [hafter]
    exact .inl rfl
  | moveLatest now assignment userid status =>
    obtain ⟨submissions, hafter⟩ := exists_moveLatest now status assignment userid s
    rw [hafter]
    exact .inl rfl
  | _ => exact .inl rfl

theorem Write.relatesBothWays (h : s.Write t) (hsound : s.badges.Sound Badge.id)
    (hs : s.badges.RelatesBothWays) : t.badges.RelatesBothWays := by
  rcases h.badges_cases with hsame | ⟨now, r, hadd⟩ | ⟨badgeid, change, hedit, hrelated⟩ |
    ⟨badgeid, related, hbadge, hother, hrelate⟩
  · rwa [hsame]
  · rw [hadd]
    exact hs.of_relatedTo (fun _ => Table.relatedTo_add hsound r now) (Table.within_add _ _)
  · rw [hedit]
    exact hs.of_relatedTo (fun _ => Table.relatedTo_modify_of_same hrelated)
      (Table.within_modify _ _ _)
  · rw [hrelate]
    exact hs.relate hbadge hother

theorem Write.relatedTo_prefix (h : s.Write t) (hsound : s.badges.Sound Badge.id) (id : Int) :
    s.badges.relatedTo id <+: t.badges.relatedTo id := by
  rcases h.badges_cases with hsame | ⟨now, r, hadd⟩ | ⟨badgeid, change, hedit, hrelated⟩ |
    ⟨badgeid, related, -, -, hrelate⟩
  · exact hsame ▸ List.prefix_rfl
  · rw [hadd]
    exact (Table.relatedTo_add hsound r now).symm ▸ List.prefix_rfl
  · rw [hedit]
    exact (Table.relatedTo_modify_of_same hrelated).symm ▸ List.prefix_rfl
  · rw [hrelate]
    exact (Table.relatedTo_prefix_relate _ _ _ id).trans (Table.relatedTo_prefix_relate _ _ _ id)

theorem mem_relatedTo_addRelatedBadges (s : Site) (badgeid related id other : Int) :
    other ∈ ((Fixture.addRelatedBadges badgeid related) s).2.badges.relatedTo id ↔
      other ∈ s.badges.relatedTo id ∨
        (s.badges.contains badgeid = true ∧ s.badges.contains related = true) ∧
          (id = badgeid ∧ other = related ∨ id = related ∧ other = badgeid) := by
  by_cases hknown : s.badges.contains badgeid = true ∧ s.badges.contains related = true
  · rw [Fixture.addRelatedBadges_of_contains hknown.1 hknown.2, and_iff_right hknown]
    exact Table.mem_relatedTo_relate_both hknown.1 hknown.2
  · rw [Fixture.addRelatedBadges_site_of_not_contains hknown]
    exact (or_iff_left fun h => hknown h.1).symm

/-! ## Exported awards -/

/-- The export shows the badges one by one, in order, each as its viewer may see it. -/
structure ShowsRelated (s : Site) (full : Bool) (related : List Int) (e : UserBadge) : Prop where
  ids : e.relatedbadges.map (·.id) = related
  shown : List.Forall₂ (fun id r => ∃ b, s.badge? id = some b ∧ r = b.asRelated full) related
    e.relatedbadges

theorem forall₂_filterMap_badge? {related : List Int}
    (h : ∀ id ∈ related, s.badges.contains id = true) :
    List.Forall₂ (fun id b => s.badge? id = some b) related (related.filterMap s.badge?) := by
  induction related with
  | nil => exact .nil
  | cons id rest ih =>
    obtain ⟨hid, hrest⟩ := List.forall_mem_cons.1 h
    obtain ⟨b, hb⟩ := Table.contains_iff.1 hid
    have hbadge : s.badge? id = some b := hb
    rw [List.filterMap_cons_some hbadge]
    exact .cons hbadge (ih hrest)

theorem map_id_of_forall₂_badge? (hsound : s.badges.Sound Badge.id) {related : List Int}
    {badges : List Badge} (h : List.Forall₂ (fun id b => s.badge? id = some b) related badges) :
    badges.map (·.id) = related := by
  induction h with
  | nil => rfl
  | cons hbadge _ ih => rw [List.map_cons, ih, hsound.own _ _ hbadge]

theorem exported_showsRelated (hsound : s.badges.Sound Badge.id)
    (hrelates : s.badges.RelatesBothWays) {a : Award} {b : Badge}
    (hb : s.badge? a.badgeid = some b) (owner : User) (ctx : CallContext) :
    ∃ e, s.awardSource.exported a owner ctx = .ok e ∧
      s.ShowsRelated (a.isFullFor b ctx) b.related e := by
  have hlisted : s.badges.relatedTo a.badgeid = b.related := Table.relatedTo_of_get? hb
  have hfound := forall₂_filterMap_badge? (hlisted ▸ hrelates.known a.badgeid)
  refine ⟨a.exportOf b (b.related.filterMap s.badge?) owner s.wwwroot (a.isFullFor b ctx), ?_, ?_⟩
  · show a.exported s.badge? owner s.wwwroot ctx = _
    rw [Award.exported, hb]
  · constructor
    · exact List.map_map.trans (map_id_of_forall₂_badge? hsound hfound)
    · exact List.forall₂_map_right_iff.2 (hfound.imp fun _ other hother => ⟨other, hother, rfl⟩)

end Site

/-! ## Any number of operations -/

namespace Operation

/-- Whatever was done to a site, its badges are related both ways, and the export of each award
shows every badge that the awarded one is related to, once, in order. Two badges that are there can
always be related, and no badge is ever taken off a list. -/
theorem relatesBothWays_runAll (wwwroot : String) (ops : List Operation) :
    let s := runAll ops { wwwroot }
    s.badges.RelatesBothWays ∧
      (s.awards.Every fun _ a => ∃ b, s.badge? a.badgeid = some b ∧
        ∀ owner ctx, ∃ e, s.awardSource.exported a owner ctx = .ok e ∧
          s.ShowsRelated (a.isFullFor b ctx) b.related e) ∧
      (∀ badgeid related id other,
        other ∈ ((addRelatedBadges badgeid related).run s).badges.relatedTo id ↔
          other ∈ s.badges.relatedTo id ∨
            (s.badges.contains badgeid = true ∧ s.badges.contains related = true) ∧
              (id = badgeid ∧ other = related ∨ id = related ∧ other = badgeid)) ∧
      ∀ (op : Operation) id, s.badges.relatedTo id <+: (op.run s).badges.relatedTo id := by
  intro s
  have hconsistent : s.Consistent := (evolves_runAll ops _).consistent (Site.consistent_new wwwroot)
  have hrelates : s.badges.RelatesBothWays :=
    keeps_runAll (P := fun t => t.badges.RelatesBothWays) ops
      (fun _ _ ht hwrite =>
        hwrite.relatesBothWays (ht.consistent (Site.consistent_new wwwroot)).badges)
      (fun _ _ _ h => h) Table.relatesBothWays_empty
  refine ⟨hrelates, hconsistent.award.imp fun _ a ha => ?_,
    Site.mem_relatedTo_addRelatedBadges s, fun op id => ?_⟩
  · obtain ⟨b, hb⟩ := Table.contains_iff.1 ha.1
    exact ⟨b, hb, Site.exported_showsRelated hconsistent.badges hrelates hb⟩
  · exact keeps_run (P := fun t => s.badges.relatedTo id <+: t.badges.relatedTo id) op
      (fun _ _ ht hwrite hp =>
        hp.trans (hwrite.relatedTo_prefix (ht.consistent hconsistent).badges id))
      (fun _ _ _ hp => hp) List.prefix_rfl

/-- Badges may be related twice, to themselves, and to none. -/
example : (runAll [.createBadge 100 {}, .createBadge 100 {}, .addRelatedBadges 1 2,
    .addRelatedBadges 2 1, .addRelatedBadges 1 1, .addRelatedBadges 2 3] {}).badges.rows.map
      (fun row => (row.1, row.2.related)) = [(1, [2, 1]), (2, [1])] := by
  rfl

end Operation

end Campus

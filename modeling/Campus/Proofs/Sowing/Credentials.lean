import Campus.Proofs.Sowing.Site

/-!
# Credentials that a seed declares

A token opens the site to the user it was last declared for, and a hash stands for the first award
that has it. A seed may declare one credential twice, and is built nevertheless. All that it
declares is found if and only if no credential is shadowed in this way.
-/

namespace Campus

namespace Seed

variable {ambient : Ambient} {s : Seed} {site : Site}

/-! ## Tokens -/

/-- Each user is found by the token of its entry. -/
def FindsUsers (s : Seed) (site : Site) : Prop :=
  ∀ (i : Nat) e token, s.users[i]? = some e → e.token = some token →
    site.userForToken? token = some (i + 1 : Int)

/-- No token is declared twice. -/
def TokensDiffer (users : List SeedUser) : Prop :=
  users.Pairwise fun e e' => ∀ token, e.token = some token → e'.token ≠ some token

theorem get?_credentials_concat (before : List SeedUser) (e : SeedUser) (token : String) :
    Keyed.get? token (Keyed.ofList (gather SeedUser.credential (before ++ [e]))) =
      if e.token = some token then some (before.length + 1 : Int)
      else Keyed.get? token (Keyed.ofList (gather SeedUser.credential before)) := by
  rw [ofList_gather_credential]
  cases e.token with
  | none => simp
  | some own =>
    by_cases h : own = token
    · simp [h, Keyed.get?_insert_self]
    · simp [h, Keyed.get?_insert_of_ne h]

theorem get?_credentials {users : List SeedUser} {e : SeedUser} {token : String} {i : Nat}
    (hdiffer : TokensDiffer users) (he : users[i]? = some e) (htoken : e.token = some token) :
    Keyed.get? token (Keyed.ofList (gather SeedUser.credential users)) = some (i + 1 : Int) := by
  induction users using List.reverseRecOn with
  | nil => cases he
  | append_singleton before last ih =>
    obtain ⟨hbefore, -, hlast⟩ := List.pairwise_append.1 hdiffer
    rw [get?_credentials_concat]
    rcases Nat.lt_or_ge i before.length with hi | hi
    · rw [List.getElem?_append_left hi] at he
      rw [if_neg (hlast e (List.mem_of_getElem? he) last (by simp) token htoken)]
      exact ih hbefore he
    · rw [List.getElem?_append_right hi, List.getElem?_singleton,
        Option.ite_none_right_eq_some] at he
      obtain ⟨hzero, heq⟩ := he
      have hi : i = before.length := by omega
      rw [Option.some.inj heq, if_pos htoken, hi]

theorem Describes.findsUsers_iff (h : s.Describes ambient site) :
    s.FindsUsers site ↔ TokensDiffer s.users := by
  unfold FindsUsers Site.userForToken?
  rw [h.tokens]
  constructor
  · intro hfinds
    refine List.pairwise_iff_getElem.2 fun i j hi hj hlt token htoken htoken' => ?_
    have hfirst := hfinds i _ token (List.getElem?_eq_getElem hi) htoken
    have hsecond := hfinds j _ token (List.getElem?_eq_getElem hj) htoken'
    -- The token would be for two users.
    have hsame := Option.some.inj (hfirst.symm.trans hsecond)
    omega
  · intro hdiffer i e token he htoken
    exact get?_credentials hdiffer he htoken

/-! ## Hashes -/

/-- Each award is found by the hash of its entry. -/
def FindsAwards (s : Seed) (site : Site) : Prop :=
  ∀ award ∈ awardEntries s.badges, ∀ hash, award.2.hash = some hash →
    ∃ a, site.awardByHash? hash = some a ∧ a.badgeid = award.1 ∧
      a.userid = s.userNumber award.2.user

/-- The hashes of the awards, declared or drawn, each with its badge and its user. -/
def hashes (ambient : Ambient) (s : Seed) : List (String × Int × String) :=
  inTurn
    (fun before award => ((s.awardRecord ambient before award).uniquehash, award.1, award.2.user))
    (awardEntries s.badges)

/-- Of the awards with a declared hash, the first is of the same badge for the same user. -/
def HashesDiffer (ambient : Ambient) (s : Seed) : Prop :=
  ∀ award ∈ awardEntries s.badges, ∀ hash, award.2.hash = some hash →
    Keyed.get? hash (s.hashes ambient) = some (award.1, award.2.user)

theorem Describes.awardByHash?_map (h : s.Describes ambient site) (hash : String) :
    (site.awardByHash? hash).map (fun a => (a.badgeid, a.userid)) =
      (Keyed.get? hash (s.hashes ambient)).map fun award => (award.1, s.userNumber award.2) := by
  have hrows : (inTurn (s.awardRecord ambient) (awardEntries s.badges)).map
      (fun a => (a.uniquehash, a.badgeid, a.userid)) =
        Keyed.mapValues (fun _ award => (award.1, s.userNumber award.2)) (s.hashes ambient) := by
    rw [hashes, Keyed.mapValues, map_inTurn, map_inTurn]
    rfl
  calc (site.awardByHash? hash).map (fun a => (a.badgeid, a.userid))
      = Keyed.get? hash ((inTurn (s.awardRecord ambient) (awardEntries s.badges)).map
          fun a => (a.uniquehash, a.badgeid, a.userid)) := by
        rw [Keyed.get?_map, Site.awardByHash?, h.awards, Table.find?, Table.records_numbered]
    _ = Keyed.get? hash (Keyed.mapValues (fun _ award => (award.1, s.userNumber award.2))
          (s.hashes ambient)) := by
        rw [hrows]
    _ = (Keyed.get? hash (s.hashes ambient)).map fun award => (award.1, s.userNumber award.2) :=
        Keyed.get?_mapValues ..

theorem Sowable.user_of_award (h : s.Sowable) {award : Int × SeedAward}
    (hmem : award ∈ awardEntries s.badges) : award.2.user ∈ s.users.map (·.username) := by
  obtain ⟨before, badge, after, hsplit, haward⟩ := mem_gather.1 hmem
  obtain ⟨own, hown, rfl⟩ := List.mem_map.1 haward
  exact (h.badges badge (by rw [hsplit]; simp)).2 own hown

theorem Describes.findsAwards_iff (hsowable : s.Sowable) (h : s.Describes ambient site) :
    s.FindsAwards site ↔ s.HashesDiffer ambient := by
  refine forall₂_congr fun award hmem => forall₂_congr fun hash _ => ?_
  have hmap := h.awardByHash?_map hash
  constructor
  · rintro ⟨a, hfound, hbadge, huser⟩
    rw [hfound, Option.map_some, hbadge, huser] at hmap
    obtain ⟨⟨badge, user⟩, hfirst, hpair⟩ := Option.map_eq_some_iff.1 hmap.symm
    obtain ⟨before, other, after, hsplit, hother⟩ := mem_inTurn.1 (Keyed.mem_of_get? hfirst)
    cases hother
    have hknown : other.2.user ∈ s.users.map (·.username) :=
      hsowable.user_of_award (by rw [hsplit]; simp)
    obtain ⟨hbadge, huser⟩ := Prod.mk.inj hpair
    rw [hfirst, hbadge, numberOf_inj hknown huser]
  · intro hfirst
    rw [hfirst, Option.map_some] at hmap
    obtain ⟨a, hfound, hpair⟩ := Option.map_eq_some_iff.1 hmap
    exact ⟨a, hfound, Prod.mk.inj hpair⟩

/-! ## Both -/

/-- A built site finds what credentials were declared for if and only if none is shadowed. -/
theorem build_findsCredentials_iff (hbuild : s.build ambient = .ok site) :
    (s.FindsUsers site ↔ TokensDiffer s.users) ∧ (s.FindsAwards site ↔ s.HashesDiffer ambient) := by
  obtain ⟨hsowable, hsite⟩ := describes_of_build hbuild
  exact ⟨hsite.findsUsers_iff, hsite.findsAwards_iff hsowable⟩

theorem essay_findsCredentials : ∃ site, essay.build counting = .ok site ∧
    essay.FindsUsers site ∧ essay.FindsAwards site := by
  obtain ⟨site, hbuild⟩ := (exists_build_iff counting essay).2 essay_sowable
  obtain ⟨htokens, hhashes⟩ := build_findsCredentials_iff hbuild
  refine ⟨site, hbuild, htokens.2 ?_, hhashes.2 ?_⟩
  · simp [TokensDiffer, essay]
  · unfold HashesDiffer
    decide

def shared : Seed where
  users := [{ username := "ada", token := some "key" }, { username := "ben", token := some "key" }]
  badges := [{ name := "Writer", awards := [⟨"ada", some "hash"⟩, ⟨"ben", some "hash"⟩] }]

theorem shared_sowable : shared.Sowable where
  usernames := by decide
  enrolments := by simp [shared]
  shortnames := by decide
  modules := by simp [shared]
  keys := by decide
  overrides := by simp [shared]
  submissions := by simp [shared]
  badges := by simp [shared, KnowsBadge]
  backpacks := by simp [shared]
  reports := by simp [shared]

/-- The token is for the later user, and the hash for the award of the earlier one. -/
theorem shared_shadows : ∃ site, shared.build counting = .ok site ∧
    site.userForToken? "key" = some 2 ∧
    (site.awardByHash? "hash").map (fun a => (a.badgeid, a.userid)) = some (1, 1) ∧
    ¬shared.FindsUsers site ∧ ¬shared.FindsAwards site := by
  obtain ⟨site, hbuild⟩ := (exists_build_iff counting shared).2 shared_sowable
  obtain ⟨-, hsite⟩ := describes_of_build hbuild
  have htoken : site.userForToken? "key" = some 2 := by
    rw [Site.userForToken?, hsite.tokens]
    exact get?_credentials_concat [⟨"ada", none, none, none, false, some "key"⟩]
      ⟨"ben", none, none, none, false, some "key"⟩ "key"
  have hhash : (site.awardByHash? "hash").map (fun a => (a.badgeid, a.userid)) = some (1, 1) := by
    rw [hsite.awardByHash?_map]
    decide
  refine ⟨site, hbuild, htoken, hhash, fun hfinds => ?_, fun hfinds => ?_⟩
  · have hown := hfinds 0 _ "key" rfl rfl
    rw [htoken] at hown
    exact absurd hown (by decide)
  · obtain ⟨a, hfound, -, huser⟩ := hfinds (1, ⟨"ben", some "hash"⟩) (by decide) "hash" rfl
    have hben : shared.userNumber "ben" = 2 := by decide
    rw [hfound, Option.map_some, huser, hben] at hhash
    simp at hhash

end Seed

end Campus

import Campus.Proofs.Numbering
import Campus.Proofs.Run
import Campus.Seed.Apply

/-!
# When changes succeed

A change is described by the exact condition of its success and by what holds after it. The
condition of a run of steps is that of each step, which is asked where the steps before it, having
succeeded, have led.
-/

namespace Campus

namespace Change

variable {ε ε' α β γ : Type}

/-- From this site the change succeeds if and only if the condition holds, and what it answers and
leads to then is as said. -/
def Meets (c : Change ε α) (s : Site) (cond : Prop) (post : α → Site → Prop) : Prop :=
  match c s with
  | (.ok a, t) => cond ∧ post a t
  | (.error _, _) => ¬cond

variable {c : Change ε α} {f : α → Change ε β} {s t : Site} {cond cond' : Prop}
  {post : α → Site → Prop} {post' : β → Site → Prop}

theorem meets_of_ok {a : α} (h : c s = (.ok a, t)) (hcond : cond) (hpost : post a t) :
    c.Meets s cond post := by
  rw [Meets, h]
  exact ⟨hcond, hpost⟩

theorem meets_of_error {e : ε} (h : c s = (.error e, t)) (hcond : ¬cond) :
    c.Meets s cond post := by
  rw [Meets, h]
  exact hcond

theorem Meets.cases (hc : c.Meets s cond post) :
    (cond ∧ ∃ a t, c s = (.ok a, t) ∧ post a t) ∨ ¬cond ∧ ∃ e t, c s = (.error e, t) := by
  rw [Meets] at hc
  split at hc
  · next a t hrun => exact .inl ⟨hc.1, a, t, hrun, hc.2⟩
  · next e t hrun => exact .inr ⟨hc, e, t, hrun⟩

theorem Meets.congr (hc : c.Meets s cond post) (h : cond ↔ cond') : c.Meets s cond' post := by
  rwa [← propext h]

theorem Meets.imp {post' : α → Site → Prop} (hc : c.Meets s cond post)
    (h : ∀ a t, post a t → post' a t) : c.Meets s cond post' := by
  rcases hc.cases with ⟨hcond, a, t, hrun, hpost⟩ | ⟨hcond, e, t, hrun⟩
  · exact meets_of_ok hrun hcond (h a t hpost)
  · exact meets_of_error hrun hcond

/-! ## Steps -/

theorem meets_pure {a : α} (h : post a s) : (pure a : Change ε α).Meets s True post :=
  meets_of_ok rfl trivial h

theorem meets_require (e : ε) (a : Option α) :
    (require e a).Meets s (a.isSome = true) fun found t => t = s ∧ a = some found := by
  cases a with
  | none => exact meets_of_error rfl (by simp)
  | some a => exact meets_of_ok rfl rfl ⟨rfl, rfl⟩

theorem meets_require_of_isSome {e : ε} {a : Option α} (h : a.isSome = true) :
    (require e a).Meets s True fun found t => t = s ∧ a = some found :=
  (meets_require e a).congr (iff_true_intro h)

theorem meets_lift {act : StateM Site α} {a : α} (h : act s = (a, t)) :
    (monadLift act : Change ε α).Meets s True fun b u => b = a ∧ u = t := by
  refine meets_of_ok (a := a) (t := t) ?_ trivial ⟨rfl, rfl⟩
  rw [Run.lift_apply, h]

theorem meets_liftExcept (x : Except ε α) :
    (liftExcept x : Change ε α).Meets s (∃ a, x = .ok a) fun a t => t = s ∧ x = .ok a := by
  cases x with
  | error e => exact meets_of_error rfl (by simp)
  | ok a => exact meets_of_ok rfl ⟨a, rfl⟩ ⟨rfl, rfl⟩

theorem meets_liftExcept_of_ok {x : Except ε α} {a : α} (h : x = .ok a) :
    (liftExcept x : Change ε α).Meets s True fun b t => b = a ∧ t = s := by
  subst h
  exact meets_of_ok rfl trivial ⟨rfl, rfl⟩

theorem Meets.adapt (hc : c.Meets s cond post) (g : ε → ε') :
    Meets (ExceptT.adapt g c : Change ε' α) s cond post := by
  rcases hc.cases with ⟨hcond, a, t, hrun, hpost⟩ | ⟨hcond, e, t, hrun⟩
  · refine meets_of_ok (a := a) (t := t) ?_ hcond hpost
    show ((fun r : Except ε α × Site => (r.1.mapError g, r.2)) (c s)) = _
    rw [hrun]
    rfl
  · refine meets_of_error (e := g e) (t := t) ?_ hcond
    show ((fun r : Except ε α × Site => (r.1.mapError g, r.2)) (c s)) = _
    rw [hrun]
    rfl

theorem Meets.bind (hc : c.Meets s cond post)
    (hf : cond → ∀ a t, post a t → (f a).Meets t cond' post') :
    (c >>= f).Meets s (cond ∧ cond') post' := by
  rcases hc.cases with ⟨hcond, a, t, hrun, hpost⟩ | ⟨hcond, e, t, hrun⟩
  · have hbind : (c >>= f) s = f a t := by rw [Run.bind_apply, hrun]
    rcases (hf hcond a t hpost).cases with ⟨hcond', b, u, hnext, hpost'⟩ | ⟨hcond', e, u, hnext⟩
    · exact meets_of_ok (hbind.trans hnext) ⟨hcond, hcond'⟩ hpost'
    · exact meets_of_error (hbind.trans hnext) fun h => hcond' h.2
  · refine meets_of_error (e := e) (t := t) ?_ fun h => hcond h.1
    rw [Run.bind_apply, hrun]

theorem Meets.bind_of_true (hc : c.Meets s True post)
    (hf : ∀ a t, post a t → (f a).Meets t cond' post') : (c >>= f).Meets s cond' post' :=
  (hc.bind fun _ => hf).congr (by rw [true_and])

theorem Meets.bind_true (hc : c.Meets s cond post)
    (hf : cond → ∀ a t, post a t → (f a).Meets t True post') : (c >>= f).Meets s cond post' :=
  (hc.bind hf).congr (by rw [and_true])

theorem Meets.get_bind {f : Site → Change ε α} (h : (f s).Meets s cond post) :
    (get >>= f).Meets s cond post := by
  rw [Meets, Run.bind_apply, Run.get_apply]
  exact h

theorem Meets.set_bind {f : PUnit → Change ε α} (h : (f ⟨⟩).Meets t cond post) :
    (set t >>= f).Meets s cond post := by
  rw [Meets, Run.bind_apply, Run.set_apply]
  exact h

theorem Meets.modify_bind {f : PUnit → Change ε α} {change : Site → Site}
    (h : (f ⟨⟩).Meets (change s) cond post) : (modify change >>= f).Meets s cond post := by
  rw [Meets, Run.bind_apply, Run.modify_apply]
  exact h

theorem Meets.map (hc : c.Meets s cond post) (g : α → β) :
    (g <$> c).Meets s cond fun b t => ∃ a, b = g a ∧ post a t := by
  rw [map_eq_pure_bind]
  exact hc.bind_true fun _ a t h => meets_pure ⟨a, rfl, h⟩

theorem Meets.discard {P : Site → Prop} (hc : c.Meets s cond fun _ t => P t) :
    (discard c : Change ε Unit).Meets s cond fun _ t => P t :=
  (hc.map fun _ => ()).imp fun _ _ ⟨_, _, h⟩ => h

/-- Steps for the items of a list: an invariant says where the items so far have led. -/
theorem meets_each {act : α → Change ε Unit} {P : α → Prop} {I : List α → Site → Prop}
    (as : List α) (hstart : I [] s)
    (hstep : ∀ before a after t, as = before ++ a :: after → I before t →
      (act a).Meets t (P a) fun _ u => I (before ++ [a]) u) :
    (each act as).Meets s (∀ a ∈ as, P a) fun _ t => I as t := by
  have hrest (before rest : List α) (hsplit : as = before ++ rest) (t : Site) (ht : I before t) :
      (each act rest).Meets t (∀ a ∈ rest, P a) fun _ u => I as u := by
    -- The list is split where the steps have come to; the induction is on what is left of it.
    induction rest generalizing before t with
    | nil =>
      rw [List.append_nil] at hsplit
      exact (meets_pure (hsplit ▸ ht)).congr (by simp)
    | cons a rest ih =>
      refine Meets.congr ((hstep before a rest t hsplit ht).bind fun _ _ u hu =>
        ih (before ++ [a]) (by simpa using hsplit) u hu) ?_
      exact List.forall_mem_cons.symm
  exact hrest [] as rfl s hstart

theorem meets_each_of_true {I : Site → Prop} (act : α → Change ε Unit) (as : List α) (hs : I s)
    (hstep : ∀ a ∈ as, ∀ t, I t → (act a).Meets t True fun _ u => I u) :
    (each act as).Meets s True fun _ t => I t := by
  refine (meets_each (P := fun _ => True) (I := fun _ => I) as hs
    fun before a after t hsplit ht => ?_).congr (by simp)
  exact hstep a (by rw [hsplit]; simp) t ht

end Change

/-! ## Names -/

namespace Seed

open Change

variable {ε α : Type} {s : Site} {kind : String} {key : ε → String} {value : List ε → ε → α}

theorem meets_lookUp (name : String) (es : List ε) :
    (lookUp kind name (namesOf key value es)).Meets s (name ∈ es.map key) fun a t =>
      t = s ∧ Keyed.get? name (namesOf key value es) = some a :=
  (meets_require _ _).congr contains_namesOf

theorem meets_lookUp_number (name : String) (es : List ε) :
    (lookUp kind name (numbersOf key es)).Meets s (name ∈ es.map key) fun id t =>
      t = s ∧ id = numberOf (es.map key) name := by
  refine (meets_lookUp name es).imp ?_
  rintro id t ⟨rfl, hget⟩
  have hname : name ∈ es.map key := by
    apply contains_namesOf.1
    rw [Keyed.contains, hget]
    rfl
  exact ⟨rfl, Option.some.inj (hget.symm.trans (get?_numbersOf hname))⟩

theorem meets_note {P : Site → Prop} (h : P s) (before : List ε) (e : ε) :
    (note kind (key e) (value before e) (namesOf key value before)).Meets s
      (key e ∉ before.map key) fun names t =>
        names = namesOf key value (before ++ [e]) ∧ P t := by
  rw [note]
  split
  · next hnoted => exact meets_of_error rfl fun hnew => hnew (contains_namesOf.1 hnoted)
  · next hnoted =>
    refine meets_of_ok rfl (fun hmem => hnoted (contains_namesOf.2 hmem)) ⟨?_, h⟩
    exact (namesOf_concat key value before e).symm

theorem meets_makeAll {make : ε → Names α → Fixture (Names α)} {P : ε → Prop}
    {I : List ε → Site → Prop} (es : List ε) (hstart : I [] s)
    (hstep : ∀ before e after t, es = before ++ e :: after → I before t →
      (make e (namesOf key value before)).Meets t (P e ∧ key e ∉ before.map key) fun names u =>
        names = namesOf key value (before ++ [e]) ∧ I (before ++ [e]) u) :
    (makeAll make es []).Meets s ((∀ e ∈ es, P e) ∧ (es.map key).Nodup) fun names t =>
      names = namesOf key value es ∧ I es t := by
  have hrest (before rest : List ε) (hsplit : es = before ++ rest) (t : Site)
      (hdistinct : (before.map key).Nodup) (ht : I before t) :
      (makeAll make rest (namesOf key value before)).Meets t
        ((∀ e ∈ rest, P e) ∧ (es.map key).Nodup) fun names u =>
          names = namesOf key value es ∧ I es u := by
    induction rest generalizing before t with
    | nil =>
      rw [List.append_nil] at hsplit
      subst hsplit
      exact (meets_pure ⟨rfl, ht⟩).congr (by simp [hdistinct])
    | cons e rest ih =>
      have hnext : ((before ++ [e]).map key).Nodup ↔ key e ∉ before.map key := by
        rw [List.map_append, List.map_singleton, List.nodup_append]
        simp [hdistinct]
      have hgo : P e ∧ key e ∉ before.map key → ∀ names u,
          names = namesOf key value (before ++ [e]) ∧ I (before ++ [e]) u →
          (makeAll make rest names).Meets u ((∀ e ∈ rest, P e) ∧ (es.map key).Nodup)
            fun names u => names = namesOf key value es ∧ I es u := by
        rintro ⟨-, hnew⟩ _ u ⟨rfl, hu⟩
        exact ih (before ++ [e]) (by simpa using hsplit) u (hnext.2 hnew) hu
      refine ((hstep before e rest t hsplit ht).bind hgo).congr ?_
      -- Distinct names say, too, that this one is new.
      have hnew : (es.map key).Nodup → key e ∉ before.map key := by
        rw [hsplit, List.map_append, List.map_cons, List.nodup_append]
        exact fun h hmem => h.2.2 _ hmem _ List.mem_cons_self rfl
      rw [List.forall_mem_cons]
      constructor
      · rintro ⟨⟨he, -⟩, hall, hnodup⟩
        exact ⟨⟨he, hall⟩, hnodup⟩
      · rintro ⟨⟨he, hall⟩, hnodup⟩
        exact ⟨⟨he, hnew hnodup⟩, hall, hnodup⟩
  exact hrest [] es rfl s List.nodup_nil hstart

end Seed

end Campus

import Mathlib.Logic.Relation
import Mathlib.Order.Defs.Unbundled
import Campus.Proofs.Run
import Campus.Site.Change

/-!
# What changes follow

A change follows a relation if the site before it and the site after it are related, also if the
change fails. Of a preorder this is shown step by step.
-/

namespace Campus

namespace Change

variable {ε ε' α β : Type} {R : Site → Site → Prop} {c : Change ε α} {f : α → Change ε β}

def Follows (R : Site → Site → Prop) (c : Change ε α) : Prop := ∀ s, R s (c s).2

theorem Follows.mono {R' : Site → Site → Prop} (hc : c.Follows R)
    (h : ∀ s t, R s t → R' s t) : c.Follows R' :=
  fun s => h s _ (hc s)

theorem Follows.adapt (hc : c.Follows R) (g : ε → ε') :
    Follows R (ExceptT.adapt g c : Change ε' α) :=
  hc

theorem follows_lift {act : StateM Site α} (h : ∀ s : Site, R s (act s).2) :
    (monadLift act : Change ε α).Follows R := h

theorem follows_get_bind {next : Site → Change ε β} (h : ∀ s : Site, R s ((next s) s).2) :
    ((get : Change ε Site) >>= next).Follows R := by
  intro s
  rw [Run.bind_apply, Run.get_apply]
  exact h s

theorem require_bind_site {P : Site → Prop} {e : ε} {a : Option α} {s : Site} (hs : P s)
    (hf : ∀ b, a = some b → P ((f b) s).2) : P ((require e a >>= f) s).2 := by
  cases a with
  | none => exact hs
  | some b => exact hf b rfl

variable [IsPreorder Site R]

theorem follows_pure (a : α) : (pure a : Change ε α).Follows R := fun s => refl_of R s

theorem follows_throw (e : ε) : (throw e : Change ε α).Follows R := fun s => refl_of R s

theorem follows_get : (get : Change ε Site).Follows R := fun s => refl_of R s

theorem follows_liftExcept (x : Except ε α) : (liftExcept x : Change ε α).Follows R := by
  intro s
  rw [Run.liftExcept_apply]
  exact refl_of R s

theorem follows_require (e : ε) (a : Option α) : (require e a).Follows R := by
  cases a with
  | none => exact follows_throw e
  | some a => exact follows_pure a

theorem Follows.bind_of_ok (hc : c.Follows R)
    (hf : ∀ s a after, c s = (.ok a, after) → R after ((f a) after).2) :
    (c >>= f).Follows R := by
  intro s
  have hfirst := hc s
  rw [Run.bind_apply]
  rcases hs : c s with ⟨e | a, after⟩
  · rwa [hs] at hfirst
  · rw [hs] at hfirst
    exact trans_of R hfirst (hf s a after hs)

theorem bind_site_of_follows (c : Change ε α) (hf : ∀ a, (f a).Follows R) (s : Site) :
    R (c s).2 ((c >>= f) s).2 := by
  rw [Run.bind_apply]
  rcases c s with ⟨e | a, after⟩
  · exact refl_of R after
  · exact hf a after

theorem Follows.bind (hc : c.Follows R) (hf : ∀ a, (f a).Follows R) : (c >>= f).Follows R :=
  hc.bind_of_ok fun _ a after _ => hf a after

theorem Follows.map (hc : c.Follows R) (g : α → β) : (g <$> c).Follows R := by
  rw [map_eq_pure_bind]
  exact hc.bind fun a => follows_pure (g a)

theorem follows_each {act : α → Change ε Unit} (h : ∀ a, (act a).Follows R) (as : List α) :
    (each act as).Follows R := by
  induction as with
  | nil => exact follows_pure ()
  | cons a rest ih => exact (h a).bind fun _ => ih

end Change

end Campus

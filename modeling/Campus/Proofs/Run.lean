import Campus.Contract.Registry

/-!
# Runs on a state

A run of several steps goes on where the one before ended, unless that was an error. Fitting the
arguments and the result of a function never touches the state: only the function itself does.
-/

namespace Campus

/-! ## Steps -/

namespace Run

variable {σ ε α β : Type} (s : σ)

@[simp] theorem pure_apply (a : α) : (pure a : ExceptT ε (StateM σ) α) s = (.ok a, s) := rfl

@[simp] theorem throw_apply (e : ε) :
    (throw e : ExceptT ε (StateM σ) α) s = (.error e, s) := rfl

@[simp] theorem get_apply : (get : ExceptT ε (StateM σ) σ) s = (.ok s, s) := rfl

@[simp] theorem set_apply (next : σ) :
    (set next : ExceptT ε (StateM σ) PUnit) s = (.ok ⟨⟩, next) := rfl

@[simp] theorem modify_apply (f : σ → σ) :
    (modify f : ExceptT ε (StateM σ) PUnit) s = (.ok ⟨⟩, f s) := rfl

@[simp] theorem modifyGet_apply (f : σ → α × σ) :
    (modifyGet f : ExceptT ε (StateM σ) α) s = (.ok (f s).1, (f s).2) := rfl

@[simp] theorem liftExcept_apply (x : Except ε α) :
    (liftExcept x : ExceptT ε (StateM σ) α) s = (x, s) := by
  cases x <;> rfl

@[simp] theorem lift_apply (x : StateM σ α) :
    (monadLift x : ExceptT ε (StateM σ) α) s = (.ok (x s).1, (x s).2) := rfl

theorem lift_eq_ok {s after : σ} {x : StateM σ α} {a : α}
    (h : (monadLift x : ExceptT ε (StateM σ) α) s = (.ok a, after)) :
    (x s).1 = a ∧ (x s).2 = after := by
  rw [lift_apply] at h
  cases h
  exact ⟨rfl, rfl⟩

theorem bind_apply_of_state (x : StateM σ α) (f : α → StateM σ β) :
    (x >>= f) s = f (x s).1 (x s).2 := rfl

theorem get_apply_of_state : (get : StateM σ σ) s = (s, s) := rfl

theorem modify_apply_of_state (f : σ → σ) : (modify f : StateM σ PUnit) s = (⟨⟩, f s) := rfl

theorem modifyGet_apply_of_state (f : σ → α × σ) : (modifyGet f : StateM σ α) s = f s := rfl

theorem bind_apply (x : ExceptT ε (StateM σ) α) (f : α → ExceptT ε (StateM σ) β) :
    (x >>= f) s =
      match x s with
      | (.ok a, after) => f a after
      | (.error e, after) => (.error e, after) := by
  show (match x s with | (a, after) => ExceptT.bindCont f a after) = _
  rcases x s with ⟨a | a, after⟩ <;> rfl

theorem bind_eq_ok_iff {s after : σ} {x : ExceptT ε (StateM σ) α}
    {f : α → ExceptT ε (StateM σ) β} {b : β} :
    (x >>= f) s = (.ok b, after) ↔ ∃ a mid, x s = (.ok a, mid) ∧ f a mid = (.ok b, after) := by
  rw [bind_apply]
  constructor
  · intro h
    split at h
    · next a mid hx => exact ⟨a, mid, hx, h⟩
    · cases h
  · rintro ⟨a, mid, hx, h⟩
    rw [hx]
    exact h

/-! ## Steps that only look -/

/-- The run leaves every state as it was. -/
def ReadOnly (x : Run σ α) : Prop := ∀ s, (x s).2 = s

theorem readOnly_pure (a : α) : ReadOnly (pure a : Run σ α) := fun _ => rfl

theorem readOnly_get : ReadOnly (get : Run σ σ) := fun _ => rfl

theorem readOnly_liftExcept (x : Except ExternalError α) : ReadOnly (liftExcept x : Run σ α) :=
  fun s => by rw [liftExcept_apply]

theorem bind_state_of_readOnly {x : Run σ α} {f : α → Run σ β} (hf : ∀ a, ReadOnly (f a)) (s : σ) :
    ((x >>= f) s).2 = (x s).2 := by
  rw [bind_apply]
  rcases x s with ⟨e | a, after⟩
  · rfl
  · exact hf a after

theorem ReadOnly.bind {x : Run σ α} {f : α → Run σ β} (hx : ReadOnly x)
    (hf : ∀ a, ReadOnly (f a)) : ReadOnly (x >>= f) := by
  intro s
  rw [bind_state_of_readOnly hf, hx]

end Run

/-! ## Calling a function -/

namespace ExternalFunction

variable {σ : Type} {f : ExternalFunction σ} {ctx : CallContext} {arguments : Json} {s : σ}

theorem call_readOnly (h : ∀ members, Run.ReadOnly (f.execute ctx members)) :
    Run.ReadOnly (f.call ctx arguments) :=
  (Run.readOnly_liftExcept _).bind fun members =>
    (h members).bind fun _ => Run.readOnly_liftExcept _

theorem call_of_error {e : ExternalError} (h : validateArguments f.input arguments = .error e) :
    (f.call ctx arguments) s = (.error e, s) := by
  simp only [call, Run.bind_apply, Run.liftExcept_apply, h]

theorem call_of_ok {members : List (String × Json)}
    (h : validateArguments f.input arguments = .ok members) :
    (f.call ctx arguments) s =
      match (f.execute ctx members) s with
      | (.ok result, after) => (cleanResult f.output result, after)
      | (.error e, after) => (.error e, after) := by
  simp only [call, Run.bind_apply, Run.liftExcept_apply, h]
  rcases (f.execute ctx members) s with ⟨_ | _, _⟩ <;> rfl

theorem call_state {members : List (String × Json)}
    (h : validateArguments f.input arguments = .ok members) :
    ((f.call ctx arguments) s).2 = ((f.execute ctx members) s).2 := by
  rw [call, h]
  exact Run.bind_state_of_readOnly (fun _ => Run.readOnly_liftExcept _) s

end ExternalFunction

end Campus

import Campus.Json.Basic

/-!
# Texts of numbers

Whatever number is written, and however it is laid out, its text is made of digits, signs, points
and the letter of an exponent.
-/

namespace Campus

/-- A character that texts of numbers are made of. -/
def isNumeral (c : Char) : Bool := c.isDigit || "+-.e".toList.contains c

theorem all_isNumeral_toDigits (n : Nat) : (Nat.toDigits 10 n).all isNumeral = true := by
  refine List.all_eq_true.2 fun c hc => ?_
  rw [isNumeral, Nat.isDigit_of_mem_toDigits (by decide) (by decide) hc, Bool.true_or]

theorem all_isNumeral_nat (n : Nat) : (toString n).toList.all isNumeral = true := by
  show (Nat.repr n).toList.all isNumeral = true
  rw [Nat.repr, String.toList_ofList]
  exact all_isNumeral_toDigits n

theorem all_isNumeral_int (n : Int) : (toString n).toList.all isNumeral = true := by
  cases n with
  | ofNat n => exact all_isNumeral_nat n
  | negSucc n =>
    show ("-" ++ toString (n + 1)).toList.all isNumeral = true
    rw [String.toList_append, List.all_append, all_isNumeral_nat]
    rfl

theorem all_isNumeral_significantDigits (n : Nat) :
    (significantDigits n).all isNumeral = true := by
  simp only [significantDigits]
  split
  · rfl
  · refine List.all_eq_true.2 fun c hc => ?_
    have hdigit := (List.dropWhile_sublist _).subset (List.mem_reverse.1 hc)
    exact List.all_eq_true.1 (all_isNumeral_toDigits n) c (List.mem_reverse.1 hdigit)

theorem all_isNumeral_write {digits : List Char} (h : digits.all isNumeral = true)
    (layout : DecimalLayout) (exponent : Int) :
    (layout.write digits exponent).toList.all isNumeral = true := by
  have hzeros (n : Nat) : (List.replicate n '0').all isNumeral = true := by
    rw [List.all_replicate]
    split <;> rfl
  have hpart {part : List Char} (hsub : part ⊆ digits) : part.all isNumeral = true :=
    List.all_eq_true.2 fun c hc => List.all_eq_true.1 h c (hsub hc)
  unfold DecimalLayout.write
  split
  · split
    · rw [String.toList_ofList, List.all_append, List.all_append, hzeros, h]
      rfl
    · have hfraction : (if (digits.drop (exponent.toNat + 1)).isEmpty then ['0']
          else digits.drop (exponent.toNat + 1)).all isNumeral = true := by
        split
        · rfl
        · exact hpart (List.drop_subset _ _)
      rw [String.toList_ofList, List.all_append, List.all_append, List.all_cons, hzeros,
        hpart (List.take_subset _ _), hfraction]
      rfl
  · dsimp only
    simp only [String.toList_ofList, List.all_append, List.all_cons, Bool.and_eq_true]
    refine ⟨?_, rfl, by split <;> rfl, all_isNumeral_nat _⟩
    match digits, h with
    | [], _ => rfl
    | [_], h => exact h
    | d :: e :: rest, h => simpa [show isNumeral '.' = true from rfl] using h

theorem all_isNumeral_double (x : Binary64) : x.text.toList.all isNumeral = true := by
  have hbody : (if x.units = 0 then "0.0" else
      DecimalLayout.json.write (significantDigits (Binary64.shortest x.units).1)
        ((Binary64.shortest x.units).2 +
          (Nat.toDigits 10 (Binary64.shortest x.units).1).length - 1)).toList.all isNumeral
        = true := by
    split
    · decide
    · exact all_isNumeral_write (all_isNumeral_significantDigits _) _ _
  unfold Binary64.text
  dsimp only
  split
  · rw [String.toList_append, List.all_append, hbody]
    rfl
  · exact hbody

theorem Number.isNumeral_of_mem_text {n : Number} {c : Char} (hc : c ∈ n.text.toList) :
    isNumeral c = true := by
  cases n with
  | int n => exact List.all_eq_true.1 (all_isNumeral_int n) c hc
  | double x => exact List.all_eq_true.1 (all_isNumeral_double x) c hc

theorem int_text_ne_empty (n : Int) : toString n ≠ "" := by
  cases n with
  | ofNat n => exact Nat.repr_ne_empty
  | negSucc n =>
    show "-" ++ toString (n + 1) ≠ ""
    simp

theorem write_ne_empty (layout : DecimalLayout) (digits : List Char) (exponent : Int) :
    layout.write digits exponent ≠ "" := by
  unfold DecimalLayout.write
  split
  · split <;> simp
  · simp

theorem Number.text_ne_empty (n : Number) : n.text ≠ "" := by
  cases n with
  | int n => exact int_text_ne_empty n
  | double x =>
    show x.text ≠ ""
    unfold Binary64.text
    dsimp only
    split
    · simp
    split
    · decide
    · exact write_ne_empty _ _ _

end Campus

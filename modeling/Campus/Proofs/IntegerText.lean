import Mathlib.Data.List.TakeWhile
import Mathlib.Data.Nat.Init
import Campus.Json.Reader
import Campus.Proofs.Trimming

/-!
# Texts of integers

An integer is written as digits, with a sign before them or without. In JSON there is no plus, and
no zero leads other digits.
-/

namespace Campus

/-- A natural number with a sign. -/
def signed (negative : Bool) (n : Nat) : Int := if negative then -n else n

/-! ## Digits -/

section Digits

variable {n : Nat} {c : Char}

theorem digitsValue_toDigits (n : Nat) : digitsValue (Nat.toDigits 10 n) = n :=
  Nat.ofDigitChars_ten_toDigits

theorem isDigit_of_mem_toDigits (h : c ∈ Nat.toDigits 10 n) : isDigit c = true :=
  Nat.isDigit_of_mem_toDigits (by decide) (by decide) h

theorem head?_toDigits_ne_zero (h : n ≠ 0) : (Nat.toDigits 10 n).head? ≠ some '0' := by
  induction n using Nat.strong_induction_on with
  | _ n ih =>
    by_cases hn : n < 10
    · rw [Nat.toDigits_of_lt_base hn]
      simpa using h
    · rw [Nat.toDigits_of_base_le (by decide) (Nat.not_lt.1 hn),
        List.head?_append, Option.or_of_isSome (List.isSome_head?.2 Nat.toDigits_ne_nil)]
      exact ih (n / 10) (by omega) (by omega)

theorem exists_cons_toDigits (n : Nat) :
    ∃ c rest, Nat.toDigits 10 n = c :: rest ∧ c.isDigit = true := by
  cases hcs : Nat.toDigits 10 n with
  | nil => exact absurd hcs Nat.toDigits_ne_nil
  | cons c rest =>
    refine ⟨c, rest, rfl, isDigit_of_mem_toDigits (n := n) ?_⟩
    rw [hcs]
    exact List.mem_cons_self

theorem spanDigits_toDigits (n : Nat) :
    spanDigits (Nat.toDigits 10 n) = (Nat.toDigits 10 n, []) := by
  have hall : ∀ c ∈ Nat.toDigits 10 n, isDigit c = true := fun _ hc => isDigit_of_mem_toDigits hc
  rw [spanDigits, List.takeWhile_eq_self_iff.2 hall, List.dropWhile_eq_nil_iff.2 hall]

end Digits

/-! ## Integers in JSON -/

/-- The text of an integer in JSON. A minus may stand before zero, too. -/
def integerText (negative : Bool) (n : Nat) : List Char :=
  if negative then '-' :: Nat.toDigits 10 n else Nat.toDigits 10 n

namespace DecimalLiteral

/-- The literal of an integer. -/
def ofInteger (negative : Bool) (n : Nat) : DecimalLiteral where
  negative
  whole := Nat.toDigits 10 n
  fraction := []

theorem spanJson?_integerText (negative : Bool) (n : Nat) :
    spanJson? (integerText negative n) = some (ofInteger negative n, []) := by
  have hlead :
      ((Nat.toDigits 10 n).head? != some '0' || (Nat.toDigits 10 n).length == 1) = true := by
    by_cases hn : n = 0
    · subst hn
      rfl
    · rw [bne_iff_ne.2 (head?_toDigits_ne_zero hn), Bool.true_or]
  have hsome : (Nat.toDigits 10 n).isEmpty = false :=
    List.isEmpty_eq_false_iff.2 Nat.toDigits_ne_nil
  cases negative with
  | true =>
    show spanJson? ('-' :: Nat.toDigits 10 n) = _
    unfold spanJson? guard
    simp only [spanDigits_toDigits, hlead, hsome]
    rfl
  | false =>
    show spanJson? (Nat.toDigits 10 n) = _
    obtain ⟨c, rest, hcs, hc⟩ := exists_cons_toDigits n
    have hspan := spanDigits_toDigits n
    rw [hcs] at hspan hlead hsome ⊢
    unfold spanJson? guard
    dsimp only
    split
    · next hminus =>
      obtain ⟨rfl, -⟩ := List.cons.inj hminus
      exact absurd hc (by decide)
    · simp only [hspan, hlead, hsome]
      rw [ofInteger, hcs]
      rfl

end DecimalLiteral

namespace Json

theorem token?_of_digit {c : Char} (rest : List Char) (h : c = '-' ∨ c.isDigit = true) :
    token? (c :: rest) = (do
      let (x, after) ← DecimalLiteral.spanJson? (c :: rest)
      return (.number x, after)) := by
  unfold token?
  split <;> first
    | rfl
    | next heq =>
      obtain ⟨rfl, -⟩ := List.cons.inj heq
      exact absurd h (by decide)

theorem exists_cons_integerText (negative : Bool) (n : Nat) :
    ∃ c rest, integerText negative n = c :: rest ∧ (c = '-' ∨ c.isDigit = true) := by
  cases negative with
  | true => exact ⟨'-', Nat.toDigits 10 n, rfl, .inl rfl⟩
  | false =>
    obtain ⟨c, rest, hcs, hc⟩ := exists_cons_toDigits n
    exact ⟨c, rest, hcs, .inr hc⟩

theorem tokens?_integerText (negative : Bool) (n : Nat) :
    tokens? (integerText negative n) = some [.number (.ofInteger negative n)] := by
  have hread := DecimalLiteral.spanJson?_integerText negative n
  obtain ⟨c, rest, hcs, hc⟩ := exists_cons_integerText negative n
  have hspace : ¬isSpace c = true := by
    intro hspace
    simp only [isSpace, Bool.or_eq_true, beq_iff_eq] at hspace
    rcases hspace with ((rfl | rfl) | rfl) | rfl <;> exact absurd hc (by decide)
  have hend (bound : Nat) : tokens?.go bound [] = some [] := by
    unfold tokens?.go
    rfl
  rw [hcs] at hread ⊢
  rw [tokens?, List.length_cons, tokens?.go, List.dropWhile_cons_of_neg hspace]
  dsimp only
  rw [token?_of_digit rest hc, hread]
  simp only [Option.bind_eq_bind, Option.bind_some, Option.pure_def, hend]

theorem ofText?_integerText (negative : Bool) (n : Nat) :
    ofText? (String.ofList (integerText negative n)) =
      (DecimalLiteral.ofInteger negative n).toNumber?.map .number := by
  have htree : Tree.ofText? (String.ofList (integerText negative n)) =
      some (.number (.ofInteger negative n)) := by
    rw [Tree.ofText?, String.toList_ofList, tokens?_integerText]
    rfl
  rw [ofText?, htree]
  rfl

end Json

/-! ## Texts -/

/-- The text writes an integer: a sign, if any, and one or more digits. -/
def WritesInteger (text : List Char) (n : Int) : Prop :=
  ∃ sign digits, text = sign ++ digits ∧ sign ∈ [[], ['+'], ['-']] ∧ digits ≠ [] ∧
    (∀ c ∈ digits, c.isDigit = true) ∧ n = signed (sign = ['-']) (Nat.ofDigitChars 10 digits 0)

section Texts

variable {cs text digits sign : List Char} {n m : Int}

theorem spanSign_append (hsign : sign ∈ [[], ['+'], ['-']])
    (hdigits : ∀ c ∈ digits, c.isDigit = true) :
    spanSign (sign ++ digits) = (decide (sign = ['-']), digits) := by
  simp only [List.mem_cons, List.not_mem_nil, or_false] at hsign
  rcases hsign with rfl | rfl | rfl
  · rw [List.nil_append]
    unfold spanSign
    split
    · exact absurd (hdigits '-' List.mem_cons_self) (by decide)
    · exact absurd (hdigits '+' List.mem_cons_self) (by decide)
    · rfl
  · rfl
  · rfl

theorem exists_sign (cs : List Char) : ∃ sign ∈ [[], ['+'], ['-']],
    cs = sign ++ (spanSign cs).2 ∧ (spanSign cs).1 = decide (sign = ['-']) := by
  unfold spanSign
  split
  · exact ⟨['-'], by decide, rfl, rfl⟩
  · exact ⟨['+'], by decide, rfl, rfl⟩
  · exact ⟨[], by decide, rfl, rfl⟩

theorem writesInteger_iff : WritesInteger cs n ↔ (spanSign cs).2 ≠ [] ∧
    (∀ c ∈ (spanSign cs).2, c.isDigit = true) ∧
      n = signed (spanSign cs).1 (digitsValue (spanSign cs).2) := by
  constructor
  · rintro ⟨sign, digits, rfl, hsign, hne, hdigits, hn⟩
    rw [spanSign_append hsign hdigits]
    exact ⟨hne, hdigits, hn⟩
  · rintro ⟨hne, hdigits, hn⟩
    obtain ⟨sign, hsign, hcs, hminus⟩ := exists_sign cs
    rw [hminus] at hn
    exact ⟨sign, (spanSign cs).2, hcs, hsign, hne, hdigits, hn⟩

theorem WritesInteger.unique (h : WritesInteger text n) (h' : WritesInteger text m) : n = m :=
  (writesInteger_iff.1 h).2.2.trans (writesInteger_iff.1 h').2.2.symm

theorem readInt64?_eq_some_iff : readInt64? cs = some n ↔ WritesInteger cs n ∧ IsInt64 n := by
  rw [writesInteger_iff]
  unfold readInt64?
  rcases spanSign cs with ⟨negative, digits⟩
  have hsigned : (if negative = true then -(digitsValue digits : Int) else digitsValue digits) =
      signed negative (digitsValue digits) := rfl
  simp only [hsigned, Option.ite_none_right_eq_some, Option.some_inj, Bool.and_eq_true,
    Bool.not_eq_true', List.isEmpty_eq_false_iff, List.all_eq_true, decide_eq_true_eq]
  constructor
  · rintro ⟨⟨⟨hne, hdigits⟩, hfits⟩, rfl⟩
    exact ⟨⟨hne, hdigits, rfl⟩, hfits⟩
  · rintro ⟨⟨hne, hdigits, rfl⟩, hfits⟩
    exact ⟨⟨⟨hne, hdigits⟩, hfits⟩, rfl⟩

theorem writesInteger_integerText (negative : Bool) (n : Nat) :
    WritesInteger (integerText negative n) (signed negative n) := by
  have hdigits : ∀ c ∈ Nat.toDigits 10 n, c.isDigit = true := fun _ hc => isDigit_of_mem_toDigits hc
  have hvalue : n = Nat.ofDigitChars 10 (Nat.toDigits 10 n) 0 := (digitsValue_toDigits n).symm
  cases negative with
  | true => exact ⟨['-'], _, rfl, by decide, Nat.toDigits_ne_nil, hdigits, congrArg _ hvalue⟩
  | false => exact ⟨[], _, rfl, by decide, Nat.toDigits_ne_nil, hdigits, congrArg _ hvalue⟩

theorem toList_toString (n : Int) :
    (toString n).toList = integerText (decide (n < 0)) n.natAbs := by
  cases n with
  | ofNat n => exact Nat.toList_repr
  | negSucc n =>
    rw [decide_eq_true (Int.negSucc_lt_zero n)]
    show ("-" ++ Nat.repr (n + 1)).toList = _
    rw [String.toList_append, Nat.toList_repr]
    rfl

theorem writesInteger_toString (n : Int) : WritesInteger (toString n).toList n := by
  have hsigned : signed (decide (n < 0)) n.natAbs = n := by
    rcases Int.lt_or_le n 0 with hn | hn
    · rw [signed, decide_eq_true hn, if_pos rfl]
      omega
    · rw [signed, decide_eq_false (Int.not_lt.2 hn), if_neg Bool.false_ne_true]
      omega
  have hwrites := writesInteger_integerText (decide (n < 0)) n.natAbs
  rwa [hsigned, ← toList_toString] at hwrites

theorem isBlank_of_isDigit {c : Char} (h : c.isDigit = true) : isBlank c = false := by
  have hrange : 48 ≤ c.toNat ∧ c.toNat ≤ 57 := by
    rw [Char.isDigit, Bool.and_eq_true, decide_eq_true_eq, decide_eq_true_eq] at h
    exact h
  unfold isBlank
  generalize c.toNat = n at hrange
  simp
  omega

theorem WritesInteger.isTrimmed (h : WritesInteger text n) : IsTrimmed text text := by
  have hblank : ∀ c ∈ text, isBlank c = false := by
    obtain ⟨sign, digits, rfl, hsign, -, hdigits, -⟩ := h
    intro c hc
    rcases List.mem_append.1 hc with hc | hc
    · simp only [List.mem_cons, List.not_mem_nil, or_false] at hsign
      rcases hsign with rfl | rfl | rfl
      · cases hc
      · rw [List.mem_singleton.1 hc]
        decide
      · rw [List.mem_singleton.1 hc]
        decide
    · exact isBlank_of_isDigit (hdigits c hc)
  exact ⟨⟨[], [], by simp, nofun, nofun⟩, fun c hc => hblank c (List.mem_of_mem_head? hc),
    fun c hc => hblank c (List.mem_of_mem_getLast? hc)⟩

end Texts

end Campus

import Campus.Text.Blank

/-!
# Trimming

A text is trimmed if nothing but blanks are cut off both its ends, and all of them.
-/

namespace Campus

/-- A text is another without the blanks around it. -/
structure IsTrimmed (cs text : List Char) : Prop where
  around : ∃ before after, cs = before ++ text ++ after ∧
    (∀ c ∈ before, isBlank c = true) ∧ ∀ c ∈ after, isBlank c = true
  first : ∀ c ∈ text.head?, isBlank c = false
  last : ∀ c ∈ text.getLast?, isBlank c = false

theorem dropWhile_append_of_blank {before cs : List Char} (h : ∀ c ∈ before, isBlank c = true)
    (hcs : ∀ c ∈ cs.head?, isBlank c = false) : (before ++ cs).dropWhile isBlank = cs := by
  rw [List.dropWhile_append_of_pos h]
  cases cs with
  | nil => rfl
  | cons c cs => exact List.dropWhile_cons_of_neg (by simp [hcs c rfl])

theorem exists_eq_append_dropWhile (cs : List Char) :
    ∃ before, cs = before ++ cs.dropWhile isBlank ∧ ∀ c ∈ before, isBlank c = true :=
  ⟨cs.takeWhile isBlank, List.takeWhile_append_dropWhile.symm, fun _ hc =>
    List.all_eq_true.1 List.all_takeWhile _ hc⟩

theorem isBlank_of_mem_head?_dropWhile (cs : List Char) :
    ∀ c ∈ (cs.dropWhile isBlank).head?, isBlank c = false := by
  intro c hc
  have hhead := List.head?_dropWhile_not isBlank cs
  rw [Option.mem_def.1 hc] at hhead
  exact hhead

theorem trimChars_eq_iff {cs text : List Char} :
    trimChars isBlank cs = text ↔ IsTrimmed cs text := by
  constructor
  · rintro rfl
    obtain ⟨before, hbefore, hblank⟩ := exists_eq_append_dropWhile cs
    obtain ⟨after, hafter, hblank'⟩ := exists_eq_append_dropWhile (cs.dropWhile isBlank).reverse
    have hdrop : cs.dropWhile isBlank = trimChars isBlank cs ++ after.reverse := by
      rw [trimChars, ← List.reverse_append, ← hafter, List.reverse_reverse]
    refine ⟨⟨before, after.reverse, ?_, hblank, fun c hc => hblank' c (List.mem_reverse.1 hc)⟩,
      fun c hc => ?_, fun c hc => ?_⟩
    · rw [List.append_assoc, ← hdrop]
      exact hbefore
    · refine isBlank_of_mem_head?_dropWhile cs c ?_
      rw [hdrop, List.head?_append, Option.mem_def.1 hc]
      rfl
    · rw [trimChars, List.getLast?_reverse] at hc
      exact isBlank_of_mem_head?_dropWhile _ c hc
  · rintro ⟨⟨before, after, rfl, hbefore, hafter⟩, hfirst, hlast⟩
    cases text with
    | nil =>
      have hall : ∀ c ∈ before ++ [] ++ after, isBlank c = true := by
        simpa [or_imp, forall_and] using And.intro hbefore hafter
      have hdrop : (before ++ [] ++ after ++ []).dropWhile isBlank = [] :=
        dropWhile_append_of_blank hall nofun
      rw [List.append_nil (before ++ [] ++ after)] at hdrop
      rw [trimChars, hdrop]
      rfl
    | cons c text =>
      have hcs : ∀ d ∈ (c :: text ++ after).head?, isBlank d = false := hfirst
      rw [trimChars, List.append_assoc, dropWhile_append_of_blank hbefore hcs, List.reverse_append,
        dropWhile_append_of_blank, List.reverse_reverse]
      · exact fun d hd => hafter d (List.mem_reverse.1 hd)
      · rwa [List.head?_reverse]

end Campus

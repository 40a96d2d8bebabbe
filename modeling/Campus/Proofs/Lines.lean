import Campus.Json.Printer
import Campus.Text.Utf8
import Campus.Rpc.Connection
import Campus.Proofs.Numerals

/-!
# Lines

A stream of bytes is cut at its line feeds. In UTF-8 a byte of that value stands for a line feed and
nothing else, so lines of a text are texts; and the compact form of a value has no line feed, so it
stands on one line.
-/

namespace Campus

/-! ## UTF-8 -/

theorem utf8Bytes_eq_flatMap (cs : List Char) :
    utf8Bytes cs = cs.flatMap String.utf8EncodeChar := by
  rw [utf8Bytes, String.toUTF8_eq_toByteArray, String.toByteArray_ofList, List.utf8Encode,
    List.toList_data_toByteArray]

theorem utf8Bytes_append (a b : List Char) : utf8Bytes (a ++ b) = utf8Bytes a ++ utf8Bytes b := by
  rw [utf8Bytes_eq_flatMap, utf8Bytes_eq_flatMap, utf8Bytes_eq_flatMap, List.flatMap_append]

theorem utf8Text?_eq_some_iff {bytes : List UInt8} {cs : List Char} :
    utf8Text? bytes = some cs ↔ bytes = utf8Bytes cs := by
  unfold utf8Text? String.fromUTF8?
  constructor
  · intro h
    split at h
    · next hvalid =>
      cases h
      rw [utf8Bytes, String.ofList_toList]
      rfl
    · cases h
  · rintro rfl
    have hbytes : (⟨(utf8Bytes cs).toArray⟩ : ByteArray) = (String.ofList cs).toByteArray := by
      rw [utf8Bytes, String.toUTF8_eq_toByteArray]
    rw [hbytes, dif_pos (String.ofList cs).isValidUTF8]
    exact congrArg some String.toList_ofList

theorem mem_utf8EncodeChar_iff {c : Char} : 10 ∈ String.utf8EncodeChar c ↔ c = '\n' := by
  have hbyte (n : Nat) : (10 : UInt8) = UInt8.ofNat n ↔ n % 256 = 10 := by
    rw [← UInt8.toNat_inj, UInt8.toNat_ofNat', eq_comm]
    rfl
  have hchar : c = '\n' ↔ c.val.toNat = 10 := by
    rw [← Char.val_inj, ← UInt32.toNat_inj]
    rfl
  -- The bytes of a longer encoding are all at least 128.
  simp only [String.utf8EncodeChar, hchar]
  split
  · simp only [List.mem_singleton, hbyte]
    omega
  split
  · simp only [List.mem_cons, List.not_mem_nil, or_false, hbyte]
    omega
  split
  · simp only [List.mem_cons, List.not_mem_nil, or_false, hbyte]
    omega
  · simp only [List.mem_cons, List.not_mem_nil, or_false, hbyte]
    omega

theorem mem_utf8Bytes_iff {cs : List Char} : 10 ∈ utf8Bytes cs ↔ '\n' ∈ cs := by
  simp [utf8Bytes_eq_flatMap, mem_utf8EncodeChar_iff]

theorem utf8Bytes_newline : utf8Bytes ['\n'] = [10] := by
  rw [utf8Bytes_eq_flatMap]
  rfl

theorem utf8Bytes_newline_cons (cs : List Char) : utf8Bytes ('\n' :: cs) = 10 :: utf8Bytes cs := by
  rw [← List.singleton_append, utf8Bytes_append, utf8Bytes_newline, List.singleton_append]

/-! ## Cutting -/

namespace Rpc

/-- The bytes are cut at every line feed. The last line may lack one. -/
inductive IsCut : List UInt8 → List (List UInt8) → Prop
  | nil : IsCut [] []
  | last {line} (hline : 10 ∉ line) (hne : line ≠ []) : IsCut line [line]
  | line {line rest cut} (hline : 10 ∉ line) (hrest : IsCut rest cut) :
      IsCut (line ++ 10 :: rest) (line :: cut)

variable {bytes line : List UInt8}

theorem lines_cons_of_nil {b : UInt8} {rest : List UInt8} (hb : b ≠ 10) (h : lines rest = []) :
    lines (b :: rest) = [[b]] := by
  rw [lines, if_neg hb, h]

theorem lines_cons_of_cons {b : UInt8} {rest : List UInt8} {others : List (List UInt8)}
    (hb : b ≠ 10) (h : lines rest = line :: others) :
    lines (b :: rest) = (b :: line) :: others := by
  rw [lines, if_neg hb, h]

theorem lines_append (h : 10 ∉ line) (rest : List UInt8) :
    lines (line ++ 10 :: rest) = line :: lines rest := by
  induction line with
  | nil => rw [List.nil_append, lines, if_pos rfl]
  | cons b line ih =>
    obtain ⟨hb, hline⟩ := not_or.1 (mt List.mem_cons.2 h)
    exact lines_cons_of_cons (Ne.symm hb) (ih hline)

theorem lines_of_notMem (h : 10 ∉ line) (hne : line ≠ []) : lines line = [line] := by
  induction line with
  | nil => exact absurd rfl hne
  | cons b line ih =>
    obtain ⟨hb, hline⟩ := not_or.1 (mt List.mem_cons.2 h)
    cases line with
    | nil => exact lines_cons_of_nil (Ne.symm hb) rfl
    | cons c line => exact lines_cons_of_cons (Ne.symm hb) (ih hline (List.cons_ne_nil _ _))

theorem lines_isCut (bytes : List UInt8) : IsCut bytes (lines bytes) := by
  induction bytes with
  | nil => exact .nil
  | cons b bytes ih =>
    by_cases hb : b = 10
    · subst hb
      exact .line List.not_mem_nil ih
    generalize hcut : lines bytes = cut at ih
    cases ih with
    | nil =>
      rw [lines_cons_of_nil hb hcut]
      exact .last (by simpa using Ne.symm hb) (List.cons_ne_nil _ _)
    | last hline hne =>
      rw [lines_cons_of_cons hb hcut]
      exact .last (by simp [Ne.symm hb, hline]) (List.cons_ne_nil _ _)
    | @line line rest cut hline hrest =>
      rw [lines_cons_of_cons hb hcut]
      show IsCut ((b :: line) ++ 10 :: rest) _
      exact .line (by simp [Ne.symm hb, hline]) hrest

theorem exists_utf8Bytes_of_newline {line rest : List UInt8} {cs : List Char} (hline : 10 ∉ line)
    (h : line ++ 10 :: rest = utf8Bytes cs) :
    ∃ a b, cs = a ++ '\n' :: b ∧ line = utf8Bytes a ∧ rest = utf8Bytes b := by
  have hmem : '\n' ∈ cs := mem_utf8Bytes_iff.1 (h ▸ by simp)
  obtain ⟨a, b, rfl, ha⟩ := List.eq_append_cons_of_mem hmem
  rw [utf8Bytes_append, utf8Bytes_newline_cons] at h
  have hcut := congrArg lines h
  -- Both sides are cut at their first line feed, so what stands before it is the same.
  rw [lines_append hline, lines_append (mt mem_utf8Bytes_iff.1 ha)] at hcut
  obtain ⟨rfl, -⟩ := List.cons.inj hcut
  exact ⟨a, b, rfl, rfl, (List.cons.inj (List.append_cancel_left h)).2⟩

theorem IsCut.eq_lines {cut : List (List UInt8)} (h : IsCut bytes cut) : cut = lines bytes := by
  induction h with
  | nil => rfl
  | last hline hne => rw [lines_of_notMem hline hne]
  | line hline _ ih => rw [lines_append hline, ih]

theorem lines_append_newline (a b : List UInt8) :
    lines (a ++ 10 :: b) = lines (a ++ [10]) ++ lines b := by
  have hcut := lines_isCut a
  generalize lines a = cut at hcut
  induction hcut with
  | nil => rfl
  | last hline _ => rw [lines_append hline, lines_append hline]; rfl
  | line hline _ ih =>
    rw [List.append_assoc, List.append_assoc, List.cons_append, List.cons_append,
      lines_append hline, lines_append hline, ih]
    rfl

end Rpc

/-! ## One line -/

namespace Json

theorem notMem_escapeChar (c : Char) : '\n' ∉ escapeChar c := by
  have hhex : ∀ n < 16, '\n' ≠ hexDigit n := by decide
  unfold escapeChar
  split
  · decide
  split
  · decide
  split
  · decide
  · next hnewline =>
    split
    · decide
    split
    · decide
    split
    · decide
    split
    · decide
    split
    · simp only [List.mem_cons, List.not_mem_nil, or_false, not_or]
      exact ⟨by decide, by decide, by decide, by decide, hhex _ (by omega), hhex _ (by omega)⟩
    · simpa using Ne.symm hnewline

theorem notMem_quote (s : String) : '\n' ∉ quote s := by
  simp [quote, notMem_escapeChar]

theorem notMem_scalarText (v : Json) : '\n' ∉ scalarText v := by
  cases v with
  | bool b => cases b <;> decide
  | number n => exact fun h => absurd (Number.isNumeral_of_mem_text h) (by decide)
  | string s => exact notMem_quote s
  | null | array _ | object _ => exact show '\n' ∉ "null".toList by decide

mutual

theorem notMem_compact : ∀ v : Json, '\n' ∉ compact v
  | .array items => by simp [compact, notMem_compactItems items]
  | .object members => by simp [compact, notMem_compactMembers members]
  | .null => notMem_scalarText .null
  | .bool b => notMem_scalarText (.bool b)
  | .number n => notMem_scalarText (.number n)
  | .string s => notMem_scalarText (.string s)

theorem notMem_compactItems : ∀ items : List Json, '\n' ∉ compactItems items
  | [] => by simp [compactItems]
  | [v] => by simp [compactItems, notMem_compact v]
  | v :: w :: rest => by simp [compactItems, notMem_compact v, notMem_compactItems (w :: rest)]

theorem notMem_compactMembers : ∀ members : List (String × Json), '\n' ∉ compactMembers members
  | [] => by simp [compactMembers]
  | [(name, v)] => by simp [compactMembers, notMem_quote, notMem_compact v]
  | (name, v) :: m :: rest => by
    simp [compactMembers, notMem_quote, notMem_compact v, notMem_compactMembers (m :: rest)]

end

end Json

end Campus

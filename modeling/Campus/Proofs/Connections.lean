import Campus.Proofs.Exchanges
import Campus.Proofs.Lines
import Campus.Proofs.Trimming

/-!
# Connections

What comes on a connection is a stream of bytes. Its lines are messages unless they are blank, up to
the first that is no text. Where a stream of text is broken off at a line feed and taken up on
another connection makes no difference.
-/

namespace Campus

namespace Rpc

/-! ## Messages -/

/-- The bytes write a text. -/
def IsUtf8 (bytes : List UInt8) : Prop := ∃ cs, bytes = utf8Bytes cs

theorem isSome_utf8Text?_iff {bytes : List UInt8} : (utf8Text? bytes).isSome ↔ IsUtf8 bytes := by
  simp only [Option.isSome_iff_exists, utf8Text?_eq_some_iff, IsUtf8]

instance (bytes : List UInt8) : Decidable (IsUtf8 bytes) :=
  decidable_of_iff _ isSome_utf8Text?_iff

/-- What a line says: its text without the blanks around it, if anything is left. -/
def message? (line : List UInt8) : Option String := do
  let text := trimChars isBlank (← utf8Text? line)
  if text = [] then none else some (String.ofList text)

theorem message?_eq_some_iff {line : List UInt8} {text : String} :
    message? line = some text ↔
      ∃ cs, line = utf8Bytes cs ∧ IsTrimmed cs text.toList ∧ text ≠ "" := by
  simp only [message?, Option.bind_eq_bind, Option.bind_eq_some_iff, utf8Text?_eq_some_iff]
  refine exists_congr fun cs => and_congr_right fun _ => ?_
  rw [← trimChars_eq_iff]
  constructor
  · intro h
    split at h
    · cases h
    · next hne =>
      cases h
      exact ⟨String.toList_ofList.symm, fun hempty => hne (String.ofList_eq_empty_iff.1 hempty)⟩
  · rintro ⟨htext, hne⟩
    rw [htext, if_neg fun hnil => hne (String.toList_eq_nil_iff.1 hnil), String.ofList_toList]

theorem message?_of_read {line : List UInt8} {cs : List Char} (h : utf8Text? line = some cs) :
    message? line = if trimChars isBlank cs = [] then none
      else some (String.ofList (trimChars isBlank cs)) := by
  rw [message?, h]
  rfl

/-- The messages among lines, up to the first line that is no text. -/
def messages (timed : List (Clock × List UInt8)) : List (Clock × String) :=
  (timed.takeWhile fun m => IsUtf8 m.2).filterMap fun m => (message? m.2).map (m.1, ·)

/-- The replies to texts and what they leave behind. -/
def answers (s : Service) (texts : List (Clock × String)) : List Reply × Service :=
  ((exchanges s texts).1.map (·.reply), (exchanges s texts).2)

theorem answers_cons (s : Service) (clock : Clock) (text : String)
    (rest : List (Clock × String)) :
    answers s ((clock, text) :: rest) =
      ((dispatch s clock text).1 :: (answers (dispatch s clock text).2 rest).1,
        (answers (dispatch s clock text).2 rest).2) := rfl

theorem answers_append (s : Service) (a b : List (Clock × String)) :
    answers s (a ++ b) = ((answers s a).1 ++ (answers (answers s a).2 b).1,
      (answers (answers s a).2 b).2) := by
  simp only [answers, exchanges_append, List.map_append]

section Messages

variable {clock : Clock} {line : List UInt8} {rest : List (Clock × List UInt8)}

theorem messages_of_broken (h : ¬IsUtf8 line) : messages ((clock, line) :: rest) = [] := by
  simp [messages, h]

theorem messages_of_none (h : IsUtf8 line) (hmessage : message? line = none) :
    messages ((clock, line) :: rest) = messages rest := by
  simp [messages, h, hmessage]

theorem messages_of_some {text : String} (h : IsUtf8 line) (hmessage : message? line = some text) :
    messages ((clock, line) :: rest) = (clock, text) :: messages rest := by
  simp [messages, h, hmessage]

theorem messages_append {a b : List (Clock × List UInt8)} (h : ∀ m ∈ a, IsUtf8 m.2) :
    messages (a ++ b) = messages a ++ messages b := by
  induction a with
  | nil => rfl
  | cons m a ih =>
    obtain ⟨hm, ha⟩ := List.forall_mem_cons.1 h
    rw [List.cons_append]
    cases hmessage : message? m.2 with
    | none => rw [messages_of_none hm hmessage, messages_of_none hm hmessage, ih ha]
    | some text =>
      rw [messages_of_some hm hmessage, messages_of_some hm hmessage, ih ha, List.cons_append]

end Messages

theorem converse_eq_answers (s : Service) (timed : List (Clock × List UInt8)) :
    converse s timed = answers s (messages timed) := by
  induction timed generalizing s with
  | nil => rfl
  | cons m rest ih =>
    obtain ⟨clock, line⟩ := m
    rw [converse]
    cases hread : utf8Text? line with
    | none =>
      have hbroken : ¬IsUtf8 line := by simp [← isSome_utf8Text?_iff, hread]
      rw [messages_of_broken hbroken]
      rfl
    | some cs =>
      have hutf8 : IsUtf8 line := ⟨cs, utf8Text?_eq_some_iff.1 hread⟩
      dsimp only
      have hmessage := message?_of_read hread
      cases htext : trimChars isBlank cs with
      | nil =>
        rw [htext, if_pos rfl] at hmessage
        rw [messages_of_none hutf8 hmessage]
        exact ih s
      | cons c text =>
        rw [htext, if_neg (List.cons_ne_nil _ _)] at hmessage
        rw [messages_of_some hutf8 hmessage, answers_cons, ← ih]

/-! ## Streams -/

/-- Lines with the times at which they are read. -/
def timed (clock : Nat → Clock) (cut : List (List UInt8)) : List (Clock × List UInt8) :=
  cut.mapIdx fun i line => (clock i, line)

theorem isUtf8_of_mem_lines {bytes : List UInt8} (h : IsUtf8 bytes) :
    ∀ line ∈ lines bytes, IsUtf8 line := by
  have hcut := lines_isCut bytes
  generalize lines bytes = cut at hcut
  induction hcut with
  | nil => exact List.forall_mem_nil _
  | last => exact List.forall_mem_singleton.2 h
  | @line line rest cut hline hrest ih =>
    obtain ⟨cs, hcs⟩ := h
    obtain ⟨a, b, rfl, ha, hb⟩ := exists_utf8Bytes_of_newline hline hcs
    exact List.forall_mem_cons.2 ⟨⟨a, ha⟩, ih ⟨b, hb⟩⟩

theorem serve_append {a : List UInt8} (h : IsUtf8 a) (s : Service) (clock : Nat → Clock)
    (b : List UInt8) :
    let first := serve s clock (a ++ [10])
    let second := serve first.2 (fun i => clock (i + (lines (a ++ [10])).length)) b
    serve s clock (a ++ 10 :: b) = (first.1 ++ second.1, second.2) := by
  intro first second
  have hutf8 : IsUtf8 (a ++ [10]) := by
    obtain ⟨cs, rfl⟩ := h
    exact ⟨cs ++ ['\n'], by rw [utf8Bytes_append, utf8Bytes_newline]⟩
  -- All lines before the second stream are texts, so none of them ends the service early.
  have htexts : ∀ m ∈ (lines (a ++ [10])).mapIdx fun i line => (clock i, line), IsUtf8 m.2 := by
    intro m hm
    obtain ⟨i, hi, rfl⟩ := List.mem_mapIdx.1 hm
    exact isUtf8_of_mem_lines hutf8 _ (List.getElem_mem _)
  rw [serve, lines_append_newline, List.mapIdx_append, converse_eq_answers, messages_append htexts,
    answers_append, ← converse_eq_answers, ← converse_eq_answers]
  rfl

/-! ## Replies on the wire -/

/-- A reply as it is written, without the line feed after it. -/
def Reply.body (r : Reply) : List UInt8 := utf8Bytes (Json.compact r.toJson)

theorem Reply.notMem_body (r : Reply) : 10 ∉ r.body :=
  mt mem_utf8Bytes_iff.1 (Json.notMem_compact _)

theorem Reply.utf8Bytes_line (r : Reply) : utf8Bytes r.line.toList = r.body ++ [10] := by
  rw [line, Json.render, String.toList_append, String.toList_ofList, utf8Bytes_append, body]
  exact congrArg _ utf8Bytes_newline

theorem lines_written (replies : List Reply) :
    lines (replies.flatMap fun r => utf8Bytes r.line.toList) = replies.map Reply.body := by
  induction replies with
  | nil => rfl
  | cons r rest ih =>
    rw [List.flatMap_cons, r.utf8Bytes_line, List.append_assoc, List.singleton_append,
      lines_append r.notMem_body, ih, List.map_cons]

end Rpc

end Campus

import ScriptSession.Assembler
import ScriptSession.Proofs.Script.Lines

/-!
# Texts assembled from lines

Lines are assembled into the texts of logical statements (`Assembler.texts`). Put one below the other,
these texts are the lines again (`joinLines_texts`), and each ends like the line that completes it, so
that it is complete for the lexer too (`complete_texts`).
-/
namespace ScriptSession

theorem mem_intercalate {c : Char} {separator : String} {parts : List String}
    (mem : c ∈ (separator.intercalate parts).toList) :
    c ∈ separator.toList ∨ ∃ part ∈ parts, c ∈ part.toList := by
  induction parts with
  | nil => simp [String.intercalate_nil] at mem
  | cons part rest ih =>
    cases rest with
    | nil =>
      rw [String.intercalate_singleton] at mem
      exact .inr ⟨part, List.mem_cons_self, mem⟩
    | cons next rest =>
      rw [String.intercalate_cons_cons, String.toList_append, String.toList_append,
        List.mem_append, List.mem_append] at mem
      rcases mem with (first | between) | later
      · exact .inr ⟨part, List.mem_cons_self, first⟩
      · exact .inl between
      · rcases ih later with between | ⟨other, there, inside⟩
        · exact .inl between
        · exact .inr ⟨other, List.mem_cons_of_mem part there, inside⟩

namespace Assembler

/-- The texts of the statements that lines complete, one after another. -/
def texts (a : Assembler) : List String → List String
  | [] => []
  | line :: rest =>
    match a.submit line with
    | (some statement, a) => statement.text :: texts a rest
    | (none, a) => texts a rest

/-- No statement stays open after the lines. -/
def Closed (lines : List String) : Prop := ∀ line, lines.getLast? = some line → isContinued line = false

theorem Closed.of_cons {line next : String} {rest : List String}
    (h : Closed (line :: next :: rest)) : Closed (next :: rest) := by
  intro last there
  exact h last (by rwa [List.getLast?_cons_cons])

theorem submit_continued (a : Assembler) {line : String} (h : isContinued line = true) :
    a.submit line = (none, ⟨a.pending ++ [line]⟩) := by
  unfold submit
  rw [if_pos h]

theorem submit_complete (a : Assembler) {line : String} (h : isContinued line = false) :
    a.submit line = (some ⟨joinLines (a.pending ++ [line]), (a.pending ++ [line]).length⟩, {}) := by
  unfold submit
  rw [if_neg (Bool.eq_false_iff.mp h)]

theorem texts_continued (a : Assembler) {line : String} (h : isContinued line = true)
    (rest : List String) : a.texts (line :: rest) = texts ⟨a.pending ++ [line]⟩ rest := by
  rw [texts, submit_continued a h]

theorem texts_complete (a : Assembler) {line : String} (h : isContinued line = false)
    (rest : List String) :
    a.texts (line :: rest) = joinLines (a.pending ++ [line]) :: texts {} rest := by
  rw [texts, submit_complete a h]

theorem texts_ne_nil (a : Assembler) {lines : List String} (some : lines ≠ [])
    (closed : Closed lines) : a.texts lines ≠ [] := by
  induction lines generalizing a with
  | nil => exact absurd rfl some
  | cons line rest ih =>
    cases continued : isContinued line with
    | false =>
      rw [texts_complete a continued]
      exact List.cons_ne_nil _ _
    | true =>
      cases rest with
      | nil =>
        have last := closed line rfl
        rw [continued] at last
        cases last
      | cons next rest =>
        rw [texts_continued a continued]
        exact ih _ (List.cons_ne_nil _ _) closed.of_cons

/-- Nothing is lost and nothing is added. -/
theorem joinLines_texts (a : Assembler) {lines : List String} (some : lines ≠ [])
    (closed : Closed lines) : joinLines (a.texts lines) = joinLines (a.pending ++ lines) := by
  induction lines generalizing a with
  | nil => exact absurd rfl some
  | cons line rest ih =>
    cases continued : isContinued line with
    | false =>
      rw [texts_complete a continued]
      cases rest with
      | nil => exact String.intercalate_singleton
      | cons next rest =>
        have later := ih {} (List.cons_ne_nil _ _) closed.of_cons
        have below := texts_ne_nil {} (List.cons_ne_nil _ _) closed.of_cons
        have split : a.pending ++ line :: next :: rest = (a.pending ++ [line]) ++ next :: rest := by
          simp
        unfold joinLines at later ⊢
        have joined : "\n".intercalate ((a.pending ++ [line]) ++ next :: rest) =
            "\n".intercalate (a.pending ++ [line]) ++ "\n" ++ "\n".intercalate (next :: rest) :=
          String.intercalate_append_of_ne_nil (by simp) (List.cons_ne_nil _ _)
        rw [String.intercalate_cons_of_ne_nil below, later, List.nil_append, split, joined]
    | true =>
      cases rest with
      | nil =>
        have last := closed line rfl
        rw [continued] at last
        cases last
      | cons next rest =>
        rw [texts_continued a continued, ih _ (List.cons_ne_nil _ _) closed.of_cons]
        simp

/-- A text breaks where its lines end. -/
theorem mem_joinLines {c : Char} {lines : List String} (mem : c ∈ (joinLines lines).toList) :
    c = '\n' ∨ ∃ line ∈ lines, c ∈ line.toList := by
  rcases mem_intercalate mem with between | inside
  · exact .inl (by simpa using between)
  · exact .inr inside

theorem ending_joinLines (before : List String) {line : String} (h : isContinued line = false) :
    (joinLines (before ++ [line])).toList.getLast? ≠ some '\\' := by
  have ending : line.toList.getLast? ≠ some '\\' := of_decide_eq_false h
  by_cases alone : before = []
  · rw [alone, List.nil_append, joinLines, String.intercalate_singleton]
    exact ending
  · rw [joinLines, String.intercalate_append_of_ne_nil alone (List.cons_ne_nil _ _),
      String.intercalate_singleton, String.toList_append, String.toList_append]
    cases last : line.toList.getLast? with
    | none =>
      rw [List.getLast?_eq_none_iff.mp last]
      simp
    | some c =>
      rw [List.getLast?_append, last]
      rw [last] at ending
      simpa using ending

theorem complete_texts (a : Assembler) {lines : List String}
    (plain : ∀ line ∈ a.pending ++ lines, '\r' ∉ line.toList)
    (parses : ∀ text ∈ a.texts lines, ∃ found, Script.statements text = .ok found) :
    ∀ text ∈ a.texts lines, Script.Complete text := by
  induction lines generalizing a with
  | nil => simp [texts]
  | cons line rest ih =>
    cases continued : isContinued line with
    | false =>
      rw [texts_complete a continued] at parses ⊢
      have later := ih {} (fun other mem => plain other (by simp at mem; simp [mem]))
        fun text mem => parses text (List.mem_cons_of_mem _ mem)
      intro text mem
      rcases List.mem_cons.mp mem with rfl | below
      · refine ⟨?_, ending_joinLines _ continued, parses _ List.mem_cons_self⟩
        intro carriage
        rcases mem_joinLines carriage with lineBreak | ⟨other, there, inside⟩
        · cases lineBreak
        · refine plain other ?_ inside
          rcases List.mem_append.mp there with pending | same
          · exact List.mem_append_left _ pending
          · exact List.mem_append_right _ (List.mem_singleton.mp same ▸ List.mem_cons_self)
      · exact later text below
    | true =>
      rw [texts_continued a continued] at parses ⊢
      refine ih _ ?_ parses
      intro other mem
      apply plain other
      simpa using mem

end Assembler

end ScriptSession

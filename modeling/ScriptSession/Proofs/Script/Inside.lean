import ScriptSession.Proofs.Script.Nodes
import ScriptSession.Proofs.Script.Places

/-!
# Ranges inside a text

A range lies inside a text if it starts and stops at characters of the text, in this order
(`Span.Inside`). Every error that is found before anything runs is at a character, at a number or at a
parenthesis of the text (`statements_error_inside`). If there is none, expressions stand where their
tokens do, so all of them lie inside the text as well (`textSpans_inside`).
-/
namespace ScriptSession

/-! ## Places of characters -/

namespace Position

/-- The place of a character of the text. -/
def IsIn (text : List Char) (p : Position) : Prop :=
  ∃ before c rest, text = before ++ c :: rest ∧ p.samePlace (.behind before) = true

/-- In the order of lines, and of columns in a line. -/
def UpTo (p q : Position) : Prop := p.line < q.line ∨ p.line = q.line ∧ p.column ≤ q.column

variable {p q r : Position}

theorem UpTo.refl (p : Position) : p.UpTo p := .inr ⟨rfl, Nat.le_refl _⟩

theorem UpTo.trans (first : p.UpTo q) (second : q.UpTo r) : p.UpTo r := by
  unfold UpTo at *
  omega

theorem upTo_after (p : Position) (c : Char) : p.UpTo (p.after c) := by
  unfold UpTo after
  split
  · exact .inl (Nat.lt_succ_self _)
  · exact .inr ⟨rfl, Nat.le_succ _⟩

theorem upTo_afterAll (p : Position) (text : List Char) : p.UpTo (p.afterAll text) := by
  induction text generalizing p with
  | nil => exact .refl p
  | cons c rest ih => exact (upTo_after p c).trans (ih _)

theorem upTo_behind {a b : List Char} (start : a <+: b) : (behind a).UpTo (behind b) := by
  obtain ⟨more, rfl⟩ := start
  rw [← afterAll_behind]
  exact upTo_afterAll _ more

theorem samePlace_iff : p.samePlace q = true ↔ p.line = q.line ∧ p.column = q.column := by
  simp [samePlace]

theorem samePlace_self (p : Position) : p.samePlace p = true := samePlace_iff.mpr ⟨rfl, rfl⟩

/-- A text has no column behind its length. -/
theorem IsIn.column_le {text : List Char} (h : p.IsIn text) : p.column ≤ text.length := by
  obtain ⟨before, c, rest, rfl, same⟩ := h
  have column : p.column = 1 + (before.reverse.takeWhile (· ≠ '\n')).length :=
    (samePlace_iff.mp same).2
  have line := (List.takeWhile_prefix (p := (· ≠ '\n')) (l := before.reverse)).length_le
  rw [List.length_reverse] at line
  rw [List.length_append, List.length_cons]
  omega

end Position

/-- Both ends are places of characters of the text, and the range does not stop before it starts. -/
structure Span.Inside (text : List Char) (range : Span) : Prop where
  start : range.start.IsIn text
  stop : range.stop.IsIn text
  ordered : range.start.UpTo range.stop

namespace Span

variable {text a b rest rest' : List Char} {c d : Char} {range : Span}

theorem inside_of_behind (start : range.start.samePlace (.behind a) = true)
    (stop : range.stop.samePlace (.behind b) = true) (first : text = a ++ c :: rest)
    (last : text = b ++ d :: rest') (order : a <+: b) : range.Inside text := by
  refine ⟨⟨a, c, rest, first, start⟩, ⟨b, d, rest', last, stop⟩, ?_⟩
  have ordered := Position.upTo_behind order
  rw [Position.samePlace_iff] at start stop
  unfold Position.UpTo at ordered ⊢
  rwa [start.1, start.2, stop.1, stop.2]

theorem point_inside (within : text = a ++ c :: rest) : (point (.behind a)).Inside text :=
  inside_of_behind (Position.samePlace_self _) (Position.samePlace_self _) within within
    List.prefix_rfl

theorem first_of_ne_nil (a rest : List Char) {own : List Char} (some : own ≠ []) :
    ∃ c more, a ++ own ++ rest = a ++ c :: more := by
  obtain ⟨c, more, rfl⟩ := List.exists_cons_of_ne_nil some
  exact ⟨c, more ++ rest, List.append_assoc ..⟩

theorem last_of_ne_nil (a rest : List Char) {own : List Char} (some : own ≠ []) :
    ∃ d, a ++ own ++ rest = (a ++ own.dropLast) ++ d :: rest := by
  obtain ⟨front, d, rfl⟩ := (List.eq_nil_or_concat' own).resolve_left some
  exact ⟨d, by simp⟩

/-- The stretch that some characters of a text take up. -/
theorem ofText_inside (a rest : List Char) {own : List Char} (some : own ≠ []) :
    (ofText (.behind a) own).Inside (a ++ own ++ rest) := by
  obtain ⟨c, more, first⟩ := first_of_ne_nil a rest some
  obtain ⟨d, last⟩ := last_of_ne_nil a rest some
  refine inside_of_behind ?_ ?_ first last (List.prefix_append ..)
  · unfold ofText
    split <;> exact Position.samePlace_self _
  · unfold ofText
    split
    · rename_i single
      rw [List.isEmpty_iff.mp single, List.append_nil]
      exact Position.samePlace_self _
    · rw [Position.samePlace_iff, ← Position.afterAll_behind]
      exact ⟨rfl, rfl⟩

end Span

namespace Script

/-! ## Lexical errors -/

/-- An escape without a meaning is reported at the character behind its backslash. -/
theorem escapeErrors_inside (before : List Char) {parts : List StringPart} {e : LexicalError}
    (mem : e ∈ escapeErrors (.behind before) parts) (rest : List Char) :
    e.span.Inside (before ++ parts.flatMap StringPart.text ++ rest) := by
  induction parts generalizing before with
  | nil => cases mem
  | cons part parts ih =>
    have later (own : List Char) (text : part.text = own)
        (mem : e ∈ escapeErrors (.behind (before ++ own)) parts) :
        e.span.Inside (before ++ (part :: parts).flatMap StringPart.text ++ rest) := by
      have inside := ih _ mem
      rwa [← text, List.append_assoc before, ← List.flatMap_cons] at inside
    cases part with
    | plain c =>
      rw [escapeErrors, Position.after_behind] at mem
      exact later [c] rfl mem
    | escaped c =>
      simp only [escapeErrors, Position.after_behind] at mem
      rw [List.append_assoc before] at mem
      split at mem
      · exact later ['\\', c] rfl mem
      · rcases List.mem_cons.mp mem with rfl | mem
        · have here : before ++ (StringPart.escaped c :: parts).flatMap StringPart.text ++ rest =
              (before ++ ['\\']) ++ c :: (parts.flatMap StringPart.text ++ rest) := by
            simp [StringPart.text]
          exact Span.point_inside here
        · exact later ['\\', c] rfl mem

theorem errors_inside (before : List Char) {l : Lexeme} (some : l.text ≠ []) {e : LexicalError}
    (mem : e ∈ l.errors (.behind before)) (rest : List Char) :
    e.span.Inside (before ++ l.text ++ rest) := by
  have first : (Span.point (.behind before)).Inside (before ++ l.text ++ rest) := by
    obtain ⟨c, more, text⟩ := Span.first_of_ne_nil before rest some
    exact Span.point_inside text
  cases l with
  | stray c =>
    obtain rfl := List.mem_singleton.mp mem
    exact first
  | number literal =>
    rw [Lexeme.errors] at mem
    split at mem
    · cases mem
    · obtain rfl := List.mem_singleton.mp mem
      exact Span.ofText_inside before rest some
  | string parts ending =>
    rw [Lexeme.errors, Position.after_behind] at mem
    rcases List.mem_append.mp mem with escape | unterminated
    · have inside := escapeErrors_inside _ escape (ending.text ++ rest)
      simpa [Lexeme.text] using inside
    · split at unterminated
      · cases unterminated
      · obtain rfl := List.mem_singleton.mp unterminated
        exact first
  | blank | comment | join | separator | openParen | closeParen | word => cases mem

theorem errorsFrom_inside (before cs : List Char) {e : LexicalError}
    (mem : e ∈ errorsFrom (.behind before) (lexemes cs)) : e.span.Inside (before ++ cs) := by
  fun_induction lexemes cs generalizing before with
  | case1 => cases mem
  | case2 c rest ih =>
    rw [errorsFrom_cons, Position.afterAll_behind] at mem
    rw [← Lexeme.split_append, ← List.append_assoc]
    rcases List.mem_append.mp mem with here | later
    · exact errors_inside before (Lexeme.text_split_ne_nil c rest) here _
    · exact ih _ later

/-! ## Tokens and expressions -/

/-- Of two beginnings of a text the one with fewer bytes is a beginning of the other. -/
theorem prefix_of_total {a b rest rest' : List Char} (same : a ++ rest = b ++ rest')
    (bytes : total Char.utf8Size a ≤ total Char.utf8Size b) : a <+: b := by
  rcases List.append_eq_append_iff.mp same with ⟨more, rfl, -⟩ | ⟨more, rfl, -⟩
  · exact List.prefix_append ..
  · rw [total_append] at bytes
    have equal : total Char.utf8Size (b ++ more) = total Char.utf8Size b := by
      rw [total_append]
      omega
    have whole : b ++ more = b := eq_of_total same equal
    exact ⟨[], (List.append_nil _).trans whole⟩

section

variable {text : List Char} {own : List Standing} {range : Span} {x y : Standing}

/-- From the start of the first token to the end of this or another one. -/
theorem InOrder.inside (h : InOrder text own) (first : x ∈ own.head?) (mem : y ∈ own)
    (start : range.start = x.1.span.start) (stop : range.stop = y.1.span.stop) :
    range.Inside text := by
  have stands := h.stands x (List.mem_of_mem_head? first)
  have stands' := h.stands y mem
  have within : x.2.before ++ x.2.own ++ x.2.rest = text := h.within x (List.mem_of_mem_head? first)
  have within' : y.2.before ++ y.2.own ++ y.2.rest = text := h.within y mem
  have order : x.2.firstByte ≤ y.2.firstByte := by
    obtain ⟨rest, rfl⟩ := List.head?_eq_some_iff.mp first
    rcases List.mem_cons.mp mem with rfl | later
    · exact Nat.le_refl _
    · have := (List.pairwise_cons.mp h.ordered).1 y later
      have := firstByte_lt stands
      omega
  have before : x.2.before <+: y.2.before := by
    have same := within.trans within'.symm
    rw [List.append_assoc, List.append_assoc] at same
    exact prefix_of_total same order
  obtain ⟨c, more, head⟩ :=
    Span.first_of_ne_nil x.2.before x.2.rest stands.spelled.ne_nil
  obtain ⟨d, tail⟩ :=
    Span.last_of_ne_nil y.2.before y.2.rest stands'.spelled.ne_nil
  refine Span.inside_of_behind ?_ ?_ (within.symm.trans head) (within'.symm.trans tail)
    (before.trans (List.prefix_append ..))
  · rw [start, stands.start]
    exact Position.samePlace_self _
  · rw [stop, stands'.stop]
    exact Position.samePlace_iff.mpr ⟨rfl, rfl⟩

theorem Covers.inside (h : InOrder text own) (covers : Covers range own) : range.Inside text := by
  obtain ⟨x, first, start⟩ := covers.start
  obtain ⟨y, last, stop⟩ := covers.stop
  exact h.inside first (List.mem_of_mem_getLast? last) start stop

theorem InOrder.token_inside (h : InOrder text own) (mem : x ∈ own) : x.1.span.Inside text := by
  have alone : InOrder text [x] := h.sublist (List.singleton_sublist.mpr mem)
  exact alone.inside rfl List.mem_cons_self rfl rfl

theorem Leaf.spans_eq {token : Token} {leaf : Expr} (stands : Leaf token leaf) :
    leaf.spans = [token.span] := by
  cases stands <;> rw [Expr.spans]

/-- Items and their parts stand where the tokens do that they are made of. -/
theorem Items.inside {inside : Bool} {items : List Expr} (h : InOrder text own)
    (derived : Items inside (own.map (·.1)) items) :
    ∀ e ∈ items, ∀ s ∈ e.spans, s.Inside text := by
  generalize run : own.map (·.1) = tokens at derived
  induction derived generalizing own with
  | none => exact nofun
  | leaf stands _ ih =>
    obtain ⟨x, rest, rfl, rfl, behind⟩ := List.map_eq_cons_iff.mp run
    intro e mem s place
    rcases List.mem_cons.mp mem with rfl | later
    · rw [stands.spans_eq] at place
      obtain rfl := List.mem_singleton.mp place
      exact h.token_inside List.mem_cons_self
    · exact ih (h.sublist (List.sublist_cons_self ..)) behind e later s place
  | separator _ _ ih =>
    obtain ⟨x, rest, rfl, -, behind⟩ := List.map_eq_cons_iff.mp run
    exact ih (h.sublist (List.sublist_cons_self ..)) behind
  | @group _ opening closing within inner tokens items opens nested closes _ ihWithin ih =>
    have split : own.map (·.1) = (opening :: (within ++ [closing])) ++ tokens := by simp [run]
    obtain ⟨group, rest, rfl, grouped, behind⟩ := List.map_eq_append_iff.mp split
    have h' := h.sublist (List.sublist_append_left group rest)
    intro e mem s place
    rcases List.mem_cons.mp mem with rfl | later
    · have single : Items false (group.map (·.1))
          [.group (opening.span.merge closing.span) inner] :=
        grouped ▸ .group opens nested closes .none
      have root := (single.covers h').1.inside h'
      obtain ⟨x, others, rfl, -, behind⟩ := List.map_eq_cons_iff.mp grouped
      obtain ⟨between, back, rfl, eq, -⟩ := List.map_eq_append_iff.mp behind
      have parts := ihWithin (h'.sublist
        ((List.sublist_append_left between back).trans (List.sublist_cons_self ..))) eq
      cases inner with
      | nil =>
        rw [Expr.group, Expr.spans] at place
        obtain rfl := List.mem_singleton.mp place
        exact root
      | cons head rest => exact Expr.forall_spans_list.mpr ⟨root, parts⟩ s place
    · exact ih (h.sublist (List.sublist_append_right group rest)) behind e later s place

theorem Derives.inside {s : Statement} (h : InOrder text own) (derives : Derives (own.map (·.1)) s) :
    ∀ place ∈ s.expr.spans, place.Inside text := by
  obtain ⟨first, hf, last, hl, start, seen, unseen⟩ := derives.covers h
  have root : s.expr.span.Inside text := by
    by_cases overlooked : Overlooked own
    · exact h.inside hf (List.mem_of_mem_head? hf) start (unseen overlooked)
    · exact h.inside hf (List.mem_of_mem_getLast? hl) start (seen overlooked)
  cases derives with
  | single items => exact items.inside h _ List.mem_cons_self
  | several items =>
    refine Expr.forall_spans_list.mpr ⟨root, ?_⟩
    intro item mem
    exact items.inside h item (by simpa using mem)

end

/-! ## Errors of parentheses -/

theorem behindGroups_subset (depth : Nat) (tokens : List Token) :
    behindGroups depth tokens ⊆ tokens := by
  fun_induction behindGroups depth tokens with
  | case1 => exact List.Subset.refl _
  | case2 => exact List.Subset.refl _
  | case3 _ _ _ _ ih => exact List.subset_cons_of_subset _ ih
  | case4 _ _ _ _ ih => exact List.subset_cons_of_subset _ ih
  | case5 _ _ _ _ _ ih => exact List.subset_cons_of_subset _ ih

/-- An error is reported at a parenthesis, here or in front. -/
theorem scan_spans {P : Span → Prop} {opened : List Span} {tokens : List Token}
    (before : ∀ s ∈ opened, P s) (there : ∀ token ∈ tokens, P token.span) :
    ∀ e ∈ scan opened tokens, P e.span := by
  fun_induction scan opened tokens with
  | case1 opened =>
    intro e mem
    obtain ⟨innermost, last, rfl⟩ := Option.map_eq_some_iff.mp (Option.mem_toList.mp mem)
    exact before innermost (List.mem_of_mem_head? last)
  | case2 opened token rest opening room ih =>
    obtain ⟨here, later⟩ := List.forall_mem_cons.mp there
    exact ih (List.forall_mem_cons.mpr ⟨here, before⟩) later
  | case3 opened token rest opening deep ih =>
    obtain ⟨here, later⟩ := List.forall_mem_cons.mp there
    refine List.forall_mem_cons.mpr ⟨here, ih (List.forall_mem_nil _) fun token mem => ?_⟩
    exact later token (behindGroups_subset _ _ mem)
  | case4 token rest closing ih =>
    obtain ⟨here, later⟩ := List.forall_mem_cons.mp there
    exact List.forall_mem_cons.mpr ⟨here, ih (List.forall_mem_nil _) later⟩
  | case5 token rest closing innermost outer ih =>
    exact ih (List.forall_mem_cons.mp before).2 (List.forall_mem_cons.mp there).2
  | case6 opened token rest opening closing ih =>
    exact ih before (List.forall_mem_cons.mp there).2

/-! ## Whole texts -/

theorem laid_inOrder {text : String} {tokens : List Token} (ok : tokenize text = .ok tokens) :
    ∃ laid, laid.map (·.1) = tokens ∧ InOrder text.toList laid := by
  obtain ⟨laid, same, covers⟩ := laid_of_tokenize ok
  exact ⟨laid, same, covers.standsOn, covers.text, covers.inOrder⟩

theorem tokenize_error_inside {text : String} {errors : List LexicalError}
    (wrong : tokenize text = .error errors) : ∀ e ∈ errors, e.span.Inside text.toList := by
  intro e mem
  have found : e ∈ errorsFrom .first (lexemes text.toList) := by
    rw [tokenize_eq, lexedFrom] at wrong
    split at wrong
    · cases wrong
    · cases wrong
      exact mem
  exact errorsFrom_inside [] text.toList found

theorem parse_error_inside {text : String} {tokens : List Token} {errors : List GroupingError}
    (ok : tokenize text = .ok tokens) (wrong : parse tokens = .error errors) :
    ∀ e ∈ errors, e.span.Inside text.toList := by
  obtain ⟨laid, rfl, inOrder⟩ := laid_inOrder ok
  have found : scan [] (laid.map (·.1)) = errors := by
    rw [parse_eq] at wrong
    split at wrong
    · cases wrong
    · cases wrong
      rfl
  rw [← found]
  exact scan_spans nofun (List.forall_mem_map.mpr fun x mem => inOrder.token_inside mem)

/-- Whatever is wrong with a text is wrong somewhere in it. -/
theorem statements_error_inside {text : String} {entries : List Diagnostic}
    (wrong : statements text = .error entries) :
    ∀ entry ∈ entries, ∃ place ∈ entry.range, place.Inside text.toList := by
  unfold statements at wrong
  split at wrong
  · rename_i errors lexical
    cases wrong
    exact List.forall_mem_map.mpr fun e mem => ⟨e.span, rfl, tokenize_error_inside lexical e mem⟩
  · rename_i tokens lexed
    split at wrong
    · rename_i errors grouping
      cases wrong
      exact List.forall_mem_map.mpr fun e mem => ⟨e.span, rfl, parse_error_inside lexed grouping e mem⟩
    · cases wrong

/-- The expressions of a text stand inside of it. -/
theorem textSpans_inside (text : String) : ∀ s ∈ textSpans text, s.Inside text.toList := by
  intro place mem
  obtain ⟨s, there, place⟩ := List.mem_flatMap.mp mem
  cases ok : statements text with
  | error => simp [parsed, ok, Except.toOption] at there
  | ok found =>
    obtain ⟨tokens, lexed, read⟩ := statements_eq_ok.mp ok
    have there : s ∈ found := by simpa [parsed, ok, Except.toOption] using there
    obtain ⟨laid, rfl, inOrder⟩ := laid_inOrder lexed
    obtain ⟨run, within, derives⟩ := derives_of_parse read there
    obtain ⟨own, inner, rfl⟩ := List.infix_map_iff.mp within
    exact derives.inside (inOrder.sublist inner.sublist) _ place

end Script

end ScriptSession

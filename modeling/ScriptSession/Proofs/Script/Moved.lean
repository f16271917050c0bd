import ScriptSession.Script.Statement
import ScriptSession.Total

/-!
# A text further down

A text that stands behind other lines has the same pieces, tokens and statements, only further down:
lines and offsets are larger by a constant and columns stay (`Shift`). Reading commutes with the
shift at every step, because the only thing that it computes from places is the smallest stretch over
two of them.
-/
namespace ScriptSession

/-- How far down a text stands. -/
structure Shift where
  lines : Nat
  bytes : Nat
  deriving DecidableEq, Repr

/-- One shift on top of another. -/
def Shift.add (a b : Shift) : Shift := ⟨a.lines + b.lines, a.bytes + b.bytes⟩

/-- The shift of a text that stands behind others, each of which ends with a line break. -/
def Shift.behind (before : List Char) : Shift where
  lines := before.count '\n'
  bytes := total Char.utf8Size before

def Position.moved (p : Position) (k : Shift) : Position :=
  ⟨p.line + k.lines, p.column, p.offset + k.bytes⟩

def Span.moved (s : Span) (k : Shift) : Span := ⟨s.start.moved k, s.stop.moved k⟩

namespace Position

theorem after_moved (p : Position) (k : Shift) (c : Char) :
    (p.moved k).after c = (p.after c).moved k := by
  unfold after moved
  by_cases lineBreak : c = '\n'
  · simp only [if_pos lineBreak, Nat.add_right_comm]
  · simp only [if_neg lineBreak, Nat.add_right_comm]

theorem afterAll_moved (p : Position) (k : Shift) (text : List Char) :
    (p.moved k).afterAll text = (p.afterAll text).moved k := by
  induction text generalizing p with
  | nil => rfl
  | cons c rest ih =>
    rw [afterAll, afterAll, List.foldl_cons, List.foldl_cons, after_moved]
    exact ih (p.after c)

/-- Behind a text only the column depends on its last line. -/
theorem afterAll_eq (p : Position) (text : List Char) :
    (p.afterAll text).line = p.line + text.count '\n' ∧
    (p.afterAll text).offset = p.offset + total Char.utf8Size text := by
  induction text generalizing p with
  | nil => exact ⟨rfl, rfl⟩
  | cons c rest ih =>
    obtain ⟨line, offset⟩ := ih (p.after c)
    have step : p.afterAll (c :: rest) = (p.after c).afterAll rest := rfl
    rw [step, line, offset, List.count_cons, total_cons]
    unfold after
    split <;> simp_all <;> omega

/-- A text behind a line break starts where the shift says. -/
theorem afterAll_line (before : List Char) :
    first.afterAll (before ++ ['\n']) = first.moved (.behind (before ++ ['\n'])) := by
  obtain ⟨line, offset⟩ := afterAll_eq first (before ++ ['\n'])
  have column : (first.afterAll (before ++ ['\n'])).column = 1 := by
    rw [afterAll_append]
    rfl
  cases place : first.afterAll (before ++ ['\n'])
  simp_all [moved, Shift.behind, first]

end Position

namespace Span

theorem ofText_moved (p : Position) (k : Shift) (text : List Char) :
    ofText (p.moved k) text = (ofText p text).moved k := by
  unfold ofText
  split
  · rfl
  · simp only [Position.afterAll_moved]
    rfl

theorem merge_moved (a b : Span) (k : Shift) :
    (a.moved k).merge (b.moved k) = (a.merge b).moved k := by
  simp only [merge, moved, Position.moved, Nat.add_lt_add_iff_right, gt_iff_lt, Span.mk.injEq]
  constructor
  · split <;> rfl
  · split <;> rfl

end Span

namespace Script

def Token.moved (t : Token) (k : Shift) : Token := { t with span := t.span.moved k }

def Expr.moved (k : Shift) : Expr → Expr
  | .int value span => .int value (span.moved k)
  | .str text span => .str text (span.moved k)
  | .bool value span => .bool value (span.moved k)
  | .nil span => .nil (span.moved k)
  | .word name span => .word name (span.moved k)
  | .list head rest span => .list (head.moved k) (rest.map (·.moved k)) (span.moved k)

def Statement.moved (k : Shift) (s : Statement) : Statement := ⟨s.expr.moved k⟩

/-- Induction over an expression and all of its items. -/
@[elab_as_elim]
theorem Expr.byItems {motive : Expr → Prop} (leaf : ∀ e, (∀ head rest span, e ≠ .list head rest span) →
    motive e) (list : ∀ head rest span, motive head → (∀ e ∈ rest, motive e) →
    motive (.list head rest span)) : ∀ e, motive e
  | .list head rest span =>
    list head rest span (byItems leaf list head) fun e _ => byItems leaf list e
  | .int value span => leaf (.int value span) nofun
  | .str text span => leaf (.str text span) nofun
  | .bool value span => leaf (.bool value span) nofun
  | .nil span => leaf (.nil span) nofun
  | .word name span => leaf (.word name span) nofun

theorem Expr.span_moved (e : Expr) (k : Shift) : (e.moved k).span = e.span.moved k := by
  cases e <;> simp [Expr.moved, Expr.span]

theorem Expr.moved_moved (e : Expr) (a b : Shift) :
    (e.moved b).moved a = e.moved (.add a b) := by
  have spans : ∀ span : Span, (span.moved b).moved a = span.moved (.add a b) := by
    intro span
    simp [Span.moved, Position.moved, Shift.add, Nat.add_comm a.lines, Nat.add_comm a.bytes,
      Nat.add_assoc]
  induction e using Expr.byItems with
  | leaf e plain =>
    cases e with
    | list head rest span => exact absurd rfl (plain head rest span)
    | _ => simp [Expr.moved, spans]
  | list head rest span ih ihs =>
    simp only [Expr.moved, spans, ih, List.map_map]
    congr 1
    exact List.map_congr_left ihs

theorem Expr.moved_zero (e : Expr) : e.moved ⟨0, 0⟩ = e := by
  have spans : ∀ span : Span, span.moved ⟨0, 0⟩ = span := fun _ => rfl
  induction e using Expr.byItems with
  | leaf e plain =>
    cases e with
    | list head rest span => exact absurd rfl (plain head rest span)
    | _ => simp [Expr.moved, spans]
  | list head rest span ih ihs =>
    simp only [Expr.moved, spans, ih]
    congr 1
    exact (List.map_congr_left ihs).trans (List.map_id rest)

theorem Expr.group_moved (span : Span) (items : List Expr) (k : Shift) :
    Expr.group (span.moved k) (items.map (·.moved k)) = (Expr.group span items).moved k := by
  cases items with
  | nil => simp [Expr.group, Expr.moved]
  | cons head rest => simp [Expr.group, Expr.moved]

/-! ## Reading -/

def OpenGroup.moved (g : OpenGroup) (k : Shift) : OpenGroup :=
  ⟨g.opening.moved k, g.items.map (·.moved k)⟩

def Nesting.moved (k : Shift) : Nesting → Nesting
  | .groups inner => .groups (inner.map (·.moved k))
  | .skipping depth => .skipping depth

def GroupingError.moved (e : GroupingError) (k : Shift) : GroupingError :=
  { e with span := e.span.moved k }

namespace Reading

def moved (r : Reading) (k : Shift) : Reading where
  statements := r.statements.map (·.moved k)
  items := r.items.map (·.moved k)
  nesting := r.nesting.moved k
  errors := r.errors.map (·.moved k)

/-- The same reading with statements that were complete before it started. -/
def behind (r : Reading) (earlier : List Statement) : Reading :=
  { r with statements := r.statements ++ earlier }

variable (r : Reading) (k : Shift)

theorem addItem_moved (groups : List OpenGroup) (item : Expr) :
    (r.moved k).addItem (groups.map (·.moved k)) (item.moved k) =
      (r.addItem groups item).moved k := by
  cases groups with
  | nil => rfl
  | cons group outer => simp [addItem, moved, Nesting.moved, OpenGroup.moved]

theorem statement?_moved (items : List Expr) :
    statement? (items.map (·.moved k)) = (statement? items).map (·.moved k) := by
  simp only [statement?, ← List.map_reverse]
  rcases items.reverse with _ | ⟨head, _ | ⟨next, rest⟩⟩
  · rfl
  · rfl
  · have last : ((next :: rest).map (·.moved k)).getLastD (head.moved k) =
        ((next :: rest).getLastD head).moved k := by
      rw [List.getLastD_eq_getLast?, List.getLastD_eq_getLast?, List.getLast?_map]
      cases (next :: rest).getLast? <;> rfl
    simp only [List.map_cons] at last ⊢
    simp only [last, Expr.span_moved, Span.merge_moved]
    simp [Statement.moved, Expr.moved]

theorem endStatement_moved : (r.moved k).endStatement = r.endStatement.moved k := by
  simp only [endStatement, moved, statement?_moved, List.map_append, List.map_nil]
  cases statement? r.items <;> rfl

theorem wordExpr_moved (name : String) (span : Span) :
    wordExpr name (span.moved k) = (wordExpr name span).moved k := by
  unfold wordExpr
  split
  · simp [Expr.moved]
  split
  · simp [Expr.moved]
  split
  · simp [Expr.moved]
  · simp [Expr.moved]

theorem openGroup_moved (groups : List OpenGroup) (span : Span) :
    (r.moved k).openGroup (groups.map (·.moved k)) (span.moved k) =
      (r.openGroup groups span).moved k := by
  simp only [openGroup, List.length_map]
  split <;> rfl

theorem closeGroup_moved (groups : List OpenGroup) (span : Span) :
    (r.moved k).closeGroup (groups.map (·.moved k)) (span.moved k) =
      (r.closeGroup groups span).moved k := by
  cases groups with
  | nil => rfl
  | cons group outer =>
    have item := addItem_moved r k outer
      (.group (group.opening.merge span) group.items.reverse)
    rwa [← Expr.group_moved, List.map_reverse, ← Span.merge_moved] at item

theorem skip_moved (depth : Nat) (kind : TokenKind) :
    (r.moved k).skip depth kind = (r.skip depth kind).moved k := by
  cases kind with
  | closeParen =>
    simp only [skip]
    split <;> rfl
  | _ => rfl

theorem read_moved (token : Token) :
    (r.moved k).read (token.moved k) = (r.read token).moved k := by
  cases nesting : r.nesting with
  | skipping depth =>
    have moved : (r.moved k).nesting = .skipping depth := by
      rw [Reading.moved, nesting]
      rfl
    simp only [read, nesting, moved, Token.moved, skip_moved]
  | groups groups =>
    have moved : (r.moved k).nesting = .groups (groups.map (·.moved k)) := by
      rw [Reading.moved, nesting]
      rfl
    simp only [read, nesting, moved, Token.moved]
    cases token.kind with
    | int value => simpa [Expr.moved] using addItem_moved r k groups (.int value token.span)
    | str text => simpa [Expr.moved] using addItem_moved r k groups (.str text token.span)
    | word name =>
      simp only [wordExpr_moved]
      exact addItem_moved r k groups (wordExpr name token.span)
    | openParen => exact openGroup_moved r k groups token.span
    | closeParen => exact closeGroup_moved r k groups token.span
    | separator =>
      simp only [List.isEmpty_map]
      split
      · exact endStatement_moved r k
      · rfl

theorem foldl_read_moved (tokens : List Token) :
    (tokens.map (·.moved k)).foldl read (r.moved k) = (tokens.foldl read r).moved k := by
  induction tokens generalizing r with
  | nil => rfl
  | cons token rest ih =>
    rw [List.map_cons, List.foldl_cons, List.foldl_cons, read_moved]
    exact ih (r.read token)

/-! ## Statements that are complete -/

theorem addItem_behind (earlier : List Statement) (groups : List OpenGroup) (item : Expr) :
    (r.behind earlier).addItem groups item = (r.addItem groups item).behind earlier := by
  cases groups <;> rfl

theorem closeGroup_behind (earlier : List Statement) (groups : List OpenGroup) (span : Span) :
    (r.behind earlier).closeGroup groups span = (r.closeGroup groups span).behind earlier := by
  cases groups with
  | nil => rfl
  | cons group outer => exact addItem_behind r earlier outer _

theorem openGroup_behind (earlier : List Statement) (groups : List OpenGroup) (span : Span) :
    (r.behind earlier).openGroup groups span = (r.openGroup groups span).behind earlier := by
  unfold openGroup
  split <;> rfl

theorem endStatement_behind (earlier : List Statement) :
    (r.behind earlier).endStatement = r.endStatement.behind earlier := by
  simp [endStatement, behind]

theorem read_behind (earlier : List Statement) (token : Token) :
    (r.behind earlier).read token = (r.read token).behind earlier := by
  have nesting : (r.behind earlier).nesting = r.nesting := rfl
  unfold read
  rw [nesting]
  cases r.nesting with
  | skipping depth => cases token.kind <;> rfl
  | groups groups =>
    cases token.kind with
    | int value => exact addItem_behind r earlier groups _
    | str text => exact addItem_behind r earlier groups _
    | word name => exact addItem_behind r earlier groups _
    | openParen => exact openGroup_behind r earlier groups token.span
    | closeParen => exact closeGroup_behind r earlier groups token.span
    | separator =>
      dsimp only
      split
      · exact endStatement_behind r earlier
      · rfl

theorem foldl_read_behind (earlier : List Statement) (tokens : List Token) :
    tokens.foldl read (r.behind earlier) = (tokens.foldl read r).behind earlier := by
  induction tokens generalizing r with
  | nil => rfl
  | cons token rest ih =>
    rw [List.foldl_cons, List.foldl_cons, read_behind]
    exact ih (r.read token)

end Reading

end Script

end ScriptSession

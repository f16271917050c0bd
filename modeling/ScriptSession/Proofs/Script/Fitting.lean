import ScriptSession.Proofs.Script.Lines
import ScriptSession.Proofs.Script.Parts

/-!
# How deep a statement goes

Groups stand inside each other up to a depth, so an expression that was read has a depth as well
(`Expr.Fits`). Reading keeps that at every token: an item of a group goes as deep as groups may still
be opened there (`Reading.fitting_read`), and a statement around its items one level further
(`fits_of_parse`).
-/
namespace ScriptSession.Script

/-- The expression with everything inside it takes no more than `n` levels. -/
def Expr.Fits : Nat → Expr → Prop
  | 0, _ => False
  | n + 1, e => ∀ item ∈ e.items, item.Fits n

namespace Expr.Fits

theorem succ {n : Nat} {e : Expr} (h : e.Fits n) : e.Fits (n + 1) := by
  induction n generalizing e with
  | zero => exact h.elim
  | succ n ih => exact fun item mem => ih (h item mem)

theorem mono {n m : Nat} (le : n ≤ m) {e : Expr} (h : e.Fits n) : e.Fits m := by
  induction le with
  | refl => exact h
  | step _ ih => exact ih.succ

theorem of_items_nil {n : Nat} {e : Expr} (h : e.items = []) : e.Fits (n + 1) := by
  intro item mem
  rw [h] at mem
  cases mem

theorem list {n : Nat} {head : Expr} {rest : List Expr} {span : Span}
    (h : ∀ item ∈ head :: rest, item.Fits n) : (Expr.list head rest span).Fits (n + 1) := h

theorem group {n : Nat} {items : List Expr} {span : Span} (h : ∀ item ∈ items, item.Fits n) :
    (Expr.group span items).Fits (n + 1) := by
  cases items with
  | nil => exact of_items_nil rfl
  | cons head rest => exact list h

end Expr.Fits

/-- Each item goes no deeper than groups may still be opened around it. -/
def GroupsFit : List OpenGroup → Prop
  | [] => True
  | group :: outer =>
    outer.length < maxNesting ∧ (∀ item ∈ group.items, item.Fits (maxNesting - outer.length)) ∧
      GroupsFit outer

theorem GroupsFit.length_le {groups : List OpenGroup} (fit : GroupsFit groups) :
    groups.length ≤ maxNesting := by
  cases groups with
  | nil => exact Nat.zero_le _
  | cons group outer => exact fit.1

namespace Reading

/-- What was read so far goes no deeper than the groups that may be opened. -/
structure Fitting (r : Reading) : Prop where
  statements : ∀ s ∈ r.statements, s.expr.Fits (maxNesting + 2)
  items : ∀ item ∈ r.items, item.Fits (maxNesting + 1)
  groups : ∀ groups, r.nesting = .groups groups → GroupsFit groups

variable {r : Reading} {groups : List OpenGroup}

/-- An item may go as deep as a group that is closed where it stands. -/
theorem Fitting.addItem (h : r.Fitting) (fit : GroupsFit groups) {item : Expr}
    (deep : item.Fits (maxNesting + 1 - groups.length)) : (r.addItem groups item).Fitting := by
  cases groups with
  | nil =>
    refine ⟨h.statements, List.forall_mem_cons.mpr ⟨deep, h.items⟩, ?_⟩
    rintro _ ⟨⟩
    exact trivial
  | cons group outer =>
    obtain ⟨room, items, rest⟩ := fit
    refine ⟨h.statements, h.items, ?_⟩
    rintro _ ⟨⟩
    rw [List.length_cons, Nat.add_sub_add_right] at deep
    exact ⟨room, List.forall_mem_cons.mpr ⟨deep, items⟩, rest⟩

theorem Fitting.addLeaf (h : r.Fitting) (fit : GroupsFit groups) {item : Expr}
    (leaf : item.items = []) : (r.addItem groups item).Fitting := by
  refine h.addItem fit ?_
  rw [Nat.sub_add_comm fit.length_le]
  exact .of_items_nil leaf

theorem Fitting.openGroup (h : r.Fitting) (fit : GroupsFit groups) (span : Span) :
    (r.openGroup groups span).Fitting := by
  unfold Reading.openGroup
  split
  · rename_i room
    refine ⟨h.statements, h.items, ?_⟩
    rintro _ ⟨⟩
    exact ⟨room, List.forall_mem_nil _, fit⟩
  · exact ⟨h.statements, h.items, nofun⟩

theorem Fitting.closeGroup (h : r.Fitting) (fit : GroupsFit groups) (span : Span) :
    (r.closeGroup groups span).Fitting := by
  cases groups with
  | nil => exact ⟨h.statements, h.items, h.groups⟩
  | cons group outer =>
    obtain ⟨room, items, rest⟩ := fit
    refine h.addItem rest ?_
    rw [Nat.sub_add_comm (Nat.le_of_lt room)]
    exact .group fun item mem => items item (List.mem_reverse.mp mem)

theorem statement?_fits {items : List Expr} {n : Nat} (h : ∀ item ∈ items, item.Fits n) :
    ∀ s ∈ statement? items, s.expr.Fits (n + 1) := by
  have inner : ∀ item ∈ items.reverse, item.Fits n := fun item mem =>
    h item (List.mem_reverse.mp mem)
  intro s found
  unfold statement? at found
  split at found
  · cases found
  · rename_i single only
    cases found
    exact (inner single (only ▸ List.mem_cons_self)).succ
  · rename_i head next rest several
    cases found
    exact .list (several ▸ inner)

theorem Fitting.endStatement (h : r.Fitting) : r.endStatement.Fitting := by
  refine ⟨fun s mem => ?_, List.forall_mem_nil _, h.groups⟩
  rcases List.mem_append.mp mem with new | old
  · exact statement?_fits h.items s (Option.mem_toList.mp new)
  · exact h.statements s old

theorem Fitting.skip (h : r.Fitting) (depth : Nat) (kind : TokenKind) :
    (r.skip depth kind).Fitting := by
  cases kind with
  | openParen => exact ⟨h.statements, h.items, nofun⟩
  | closeParen =>
    refine ⟨h.statements, h.items, fun groups last => ?_⟩
    simp only [Reading.skip] at last
    split at last
    · cases last
      exact trivial
    · cases last
  | _ => exact h

theorem items_wordExpr (name : String) (span : Span) : (wordExpr name span).items = [] := by
  unfold wordExpr
  repeat' split
  all_goals rfl

theorem fitting_read (h : r.Fitting) (token : Token) : (r.read token).Fitting := by
  unfold read
  split
  · exact h.skip _ _
  · rename_i groups open'
    have fit := h.groups groups open'
    cases token.kind with
    | int | str => exact h.addLeaf fit rfl
    | word name => exact h.addLeaf fit (items_wordExpr name token.span)
    | openParen => exact h.openGroup fit token.span
    | closeParen => exact h.closeGroup fit token.span
    | separator =>
      dsimp only
      split
      · exact h.endStatement
      · exact h

theorem fitting_foldl (h : r.Fitting) (tokens : List Token) : (tokens.foldl read r).Fitting := by
  induction tokens generalizing r with
  | nil => exact h
  | cons token rest ih => exact ih (fitting_read h token)

end Reading

/-- Around the groups there is at most one more list, for the statement. -/
theorem fits_of_parse {tokens : List Token} {statements : List Statement}
    (ok : parse tokens = .ok statements) : ∀ s ∈ statements, s.expr.Fits (maxNesting + 2) := by
  obtain ⟨-, rfl⟩ := parse_eq_ok.mp ok
  have start : Reading.Fitting {} := by
    refine ⟨List.forall_mem_nil _, List.forall_mem_nil _, ?_⟩
    rintro _ ⟨⟩
    exact trivial
  intro s mem
  exact (Reading.fitting_foldl start tokens).endStatement.statements s (List.mem_reverse.mp mem)

end ScriptSession.Script

import ScriptSession.Proofs.Script.Grammar
import ScriptSession.Proofs.Script.Stretches

/-!
# Where expressions stand

Every node of a statement is derived from tokens of its own, which stand one behind the other
(`Derives.node`). Its span starts with the first of them. It ends with the last one as well
(`Covers`), unless offsets hide that: the end of a longer token has the offset of the first byte
behind it, and a token of one character there has the same one for its start and its end. So a
statement of two such tokens ends with the first (`Overlooked`), and this is the only exception
(`nodes_cover_tokens`).
-/
namespace ScriptSession.Script

/-- The nodes of an expression are itself and the nodes of its items. -/
inductive Expr.Node : Expr → Expr → Prop where
  | root {e} : Node e e
  | item {head rest span item e} : item ∈ head :: rest → Node item e → Node (.list head rest span) e

/-! ## The tokens of a node -/

theorem Leaf.node {token : Token} {leaf e : Expr} (stands : Leaf token leaf) (node : leaf.Node e) :
    e = leaf := by
  cases node with
  | root => rfl
  | item => cases stands

theorem Items.node {inside : Bool} {tokens : List Token} {items : List Expr}
    (h : Items inside tokens items) {item e : Expr} (mem : item ∈ items) (node : item.Node e) :
    ∃ own, own <:+: tokens ∧ Items false own [e] := by
  induction h generalizing item with
  | none => cases mem
  | @leaf _ token leaf tokens items stands _ ih =>
    rcases List.mem_cons.mp mem with rfl | later
    · obtain rfl := stands.node node
      exact ⟨[token], ⟨[], tokens, rfl⟩, .leaf stands .none⟩
    · obtain ⟨own, inner, derived⟩ := ih later node
      exact ⟨own, inner.trans (List.infix_cons_iff.mpr (.inr List.infix_rfl)), derived⟩
  | separator _ _ ih =>
    obtain ⟨own, inner, derived⟩ := ih mem node
    exact ⟨own, inner.trans (List.infix_cons_iff.mpr (.inr List.infix_rfl)), derived⟩
  | @group _ opening closing within inner tokens items opens inside closes _ ihWithin ih =>
    rcases List.mem_cons.mp mem with rfl | later
    · generalize whole : Expr.group (opening.span.merge closing.span) inner = root at node
      cases node with
      | root =>
        subst whole
        exact ⟨opening :: (within ++ [closing]), ⟨[], tokens, by simp⟩,
          .group opens inside closes .none⟩
      | item there node =>
        cases inner with
        | nil => cases whole
        | cons head rest =>
          cases whole
          obtain ⟨own, ⟨before, after, rfl⟩, derived⟩ := ihWithin there node
          exact ⟨own, ⟨opening :: before, after ++ closing :: tokens, by simp⟩, derived⟩
    · obtain ⟨own, ⟨before, after, rfl⟩, derived⟩ := ih later node
      exact ⟨own, ⟨opening :: (within ++ closing :: before), after, by simp⟩, derived⟩

/-- A node is the statement itself, or an item somewhere in it. -/
theorem Derives.node {run : List Token} {s : Statement} (h : Derives run s) {e : Expr}
    (node : s.expr.Node e) :
    ∃ own, own <:+: run ∧ (Items false own [e] ∨ Derives own s ∧ e = s.expr) := by
  cases h with
  | single items =>
    obtain ⟨own, inner, derived⟩ := items.node List.mem_cons_self node
    exact ⟨own, inner, .inl derived⟩
  | several items =>
    cases node with
    | root => exact ⟨run, List.infix_rfl, .inr ⟨.several items, rfl⟩⟩
    | item mem node =>
      obtain ⟨own, inner, derived⟩ := items.node (by simpa using mem) node
      exact ⟨own, inner, .inl derived⟩

theorem segments_infix (level : Nat) (tokens : List Token) :
    ∃ first others, segments level tokens = first :: others ∧ first <+: tokens ∧
      ∀ run ∈ others, run <:+: tokens := by
  induction tokens generalizing level with
  | nil => exact ⟨[], [], by simp [segments, withLevels], List.prefix_rfl, nofun⟩
  | cons token rest ih =>
    obtain ⟨first, others, eq, start, inner⟩ := ih (levelBehind level token)
    have within {run : List Token} (h : run <:+: rest) : run <:+: token :: rest :=
      List.infix_cons_iff.mpr (.inr h)
    rw [segments_cons, eq]
    split
    · refine ⟨[], first :: others, rfl, List.nil_prefix, fun run mem => within ?_⟩
      rcases List.mem_cons.mp mem with rfl | later
      · exact start.isInfix
      · exact inner run later
    · exact ⟨token :: first, others, rfl, List.cons_prefix_cons.mpr ⟨rfl, start⟩,
        fun run mem => within (inner run mem)⟩

theorem infix_of_mem_runs {tokens run : List Token} (mem : run ∈ runs tokens) : run <:+: tokens := by
  obtain ⟨first, others, eq, start, inner⟩ := segments_infix 0 tokens
  have mem := (List.mem_filter.mp mem).1
  rw [eq] at mem
  rcases List.mem_cons.mp mem with rfl | later
  · exact start.isInfix
  · exact inner run later

/-- Every statement is derived from tokens that stand one behind the other. -/
theorem derives_of_parse {tokens : List Token} {statements : List Statement}
    (ok : parse tokens = .ok statements) {s : Statement} (mem : s ∈ statements) :
    ∃ run, run <:+: tokens ∧ Derives run s := by
  rw [parse_eq] at ok
  split at ok
  · rename_i matched
    cases ok
    obtain ⟨found, same, derived⟩ :=
      Reading.Underway.foldl (r := {}) (.outside .none) rfl tokens matched
    rw [same, List.append_nil, List.reverse_reverse] at mem
    rw [List.length_nil, ← runs_eq] at derived
    obtain ⟨i, bound, rfl⟩ := List.mem_iff_getElem.mp mem
    have there : i < (runs tokens).length := derived.length_eq ▸ bound
    exact ⟨_, infix_of_mem_runs (List.getElem_mem there), derived.get there bound⟩
  · cases ok

theorem Items.split {inside : Bool} {tokens : List Token} {first second : List Expr}
    (h : Items inside tokens (first ++ second)) :
    ∃ a b, tokens = a ++ b ∧ Items inside a first ∧ Items inside b second := by
  generalize whole : first ++ second = items at h
  induction h generalizing first with
  | none =>
    obtain ⟨rfl, rfl⟩ := List.append_eq_nil_iff.mp whole
    exact ⟨[], [], rfl, .none, .none⟩
  | @leaf _ token e tokens items stands later ih =>
    cases first with
    | nil =>
      subst whole
      exact ⟨[], token :: tokens, rfl, .none, .leaf stands later⟩
    | cons head rest =>
      obtain ⟨rfl, tail⟩ := List.cons.inj whole
      obtain ⟨a, b, rfl, derived, derived'⟩ := ih tail
      exact ⟨token :: a, b, rfl, .leaf stands derived, derived'⟩
  | @separator token tokens items kind _ ih =>
    obtain ⟨a, b, rfl, derived, derived'⟩ := ih whole
    exact ⟨token :: a, b, rfl, .separator kind derived, derived'⟩
  | @group _ opening closing within inner tokens items opens inside closes later _ ih =>
    cases first with
    | nil =>
      subst whole
      exact ⟨[], _, rfl, .none, .group opens inside closes later⟩
    | cons head rest =>
      obtain ⟨rfl, tail⟩ := List.cons.inj whole
      obtain ⟨a, b, rfl, derived, derived'⟩ := ih tail
      exact ⟨opening :: (within ++ closing :: a), b, by simp, .group opens inside closes derived,
        derived'⟩

/-- A single item is a token, or a group with its parentheses. -/
theorem Items.single {tokens : List Token} {e : Expr} (h : Items false tokens [e]) :
    (∃ token, tokens = [token] ∧ e.span = token.span) ∨
    ∃ opening within closing, tokens = opening :: (within ++ [closing]) ∧
      opening.kind = .openParen ∧ closing.kind = .closeParen ∧
      e.span = opening.span.merge closing.span := by
  cases h with
  | leaf stands later =>
    cases later
    refine .inl ⟨_, rfl, ?_⟩
    cases stands <;> rfl
  | @group _ opening closing within inner _ _ opens _ closes later =>
    cases later
    refine .inr ⟨opening, within, closing, rfl, opens, closes, ?_⟩
    cases inner <;> rfl

/-! ## The span of a node -/

/-- A token with the stretch of the text that it stands on. -/
abbrev Standing := Token × Stretch

/-- Tokens of a text one behind the other. -/
structure InOrder (text : List Char) (own : List Standing) : Prop where
  stands : ∀ x ∈ own, x.1.StandsOn x.2
  within : ∀ x ∈ own, x.2.text = text
  ordered : own.Pairwise fun x y => x.2.byteBehind ≤ y.2.firstByte

/-- The span goes from the start of the first token to the end of the last one. -/
structure Covers (span : Span) (own : List Standing) : Prop where
  start : ∃ first ∈ own.head?, span.start = first.1.span.start
  stop : ∃ last ∈ own.getLast?, span.stop = last.1.span.stop

/-- Two tokens of which the first is longer than one character and the second, right behind it, is
not. -/
def Overlooked : List Standing → Prop
  | [x, y] => x.2.own.length ≠ 1 ∧ y.2.own.length = 1 ∧ x.2.byteBehind = y.2.firstByte
  | _ => False

section

variable {text : List Char} {own : List Standing} {x y : Standing}

theorem InOrder.sublist {all : List Standing} (h : InOrder text all) (sub : own.Sublist all) :
    InOrder text own where
  stands x mem := h.stands x (sub.subset mem)
  within x mem := h.within x (sub.subset mem)
  ordered := h.ordered.sublist sub

theorem firstByte_lt (stands : x.1.StandsOn x.2) : x.2.firstByte < x.2.byteBehind :=
  Nat.lt_add_of_pos_right (total_utf8Size_pos stands.spelled.ne_nil)

theorem offset_start (stands : x.1.StandsOn x.2) : x.1.span.start.offset = x.2.firstByte := by
  rw [stands.start]
  rfl

theorem offset_stop (stands : x.1.StandsOn x.2) : x.1.span.stop.offset =
    if x.2.own.length = 1 then x.2.firstByte else x.2.byteBehind := by
  rw [stands.stop]

/-- Of two tokens the second one has the larger end, unless it is overlooked. -/
theorem offset_stop_cases (stands : x.1.StandsOn x.2) (stands' : y.1.StandsOn y.2)
    (ordered : x.2.byteBehind ≤ y.2.firstByte) :
    x.1.span.stop.offset < y.1.span.stop.offset ∧ ¬ Overlooked [x, y] ∨
    x.1.span.stop.offset = y.1.span.stop.offset ∧ Overlooked [x, y] := by
  have := firstByte_lt stands
  have := firstByte_lt stands'
  rw [offset_stop stands, offset_stop stands']
  unfold Overlooked
  split <;> split <;> omega

section

variable {a b : Span} {front between back : List Standing}

/-- A span over two others that cover the first and the last of some tokens starts with the first. -/
theorem Covers.start_merge (first : Covers a front) (last : Covers b back)
    (h : InOrder text (front ++ (between ++ back))) :
    ∃ x ∈ (front ++ (between ++ back)).head?, (a.merge b).start = x.1.span.start := by
  obtain ⟨x, hx, start⟩ := first.start
  obtain ⟨y, hy, start'⟩ := last.start
  have x_mem := List.mem_of_mem_head? hx
  have y_mem := List.mem_append_right between (List.mem_of_mem_head? hy)
  have ordered := (List.pairwise_append.mp h.ordered).2.2 x x_mem y y_mem
  have stands := h.stands x (List.mem_append_left _ x_mem)
  have stands' := h.stands y (List.mem_append_right _ y_mem)
  refine ⟨x, ?_, ?_⟩
  · rw [List.head?_append, Option.mem_def.mp hx]
    rfl
  · have := firstByte_lt stands
    have := offset_start stands
    have := offset_start stands'
    rw [Span.merge, if_neg (by rw [start, start']; omega), start]

/-- And it ends with the last, if the last has the larger end. -/
theorem Covers.merge (first : Covers a front) (last : Covers b back)
    (h : InOrder text (front ++ (between ++ back))) (later : b.stop.offset > a.stop.offset) :
    Covers (a.merge b) (front ++ (between ++ back)) := by
  obtain ⟨y, hy, stop⟩ := last.stop
  refine ⟨first.start_merge last h, ⟨y, ?_, ?_⟩⟩
  · rw [List.getLast?_append, List.getLast?_append, Option.mem_def.mp hy]
    rfl
  · rw [Span.merge, if_pos later, stop]

theorem Overlooked.length_eq (overlooked : Overlooked own) : own.length = 2 := by
  match own, overlooked with
  | [_, _], _ => rfl

theorem Overlooked.ends (overlooked : Overlooked (front ++ back)) (hx : x ∈ front.getLast?)
    (hy : y ∈ back.getLast?) : Overlooked [x, y] := by
  have length := overlooked.length_eq
  obtain ⟨front, rfl⟩ := List.getLast?_eq_some_iff.mp hx
  obtain ⟨back, rfl⟩ := List.getLast?_eq_some_iff.mp hy
  simp only [List.length_append, List.length_singleton] at length
  obtain rfl := List.length_eq_zero_iff.mp (show front.length = 0 by omega)
  obtain rfl := List.length_eq_zero_iff.mp (show back.length = 0 by omega)
  exact overlooked

end

theorem Spelled.length_paren {own : List Char} {kind : TokenKind} (h : Spelled own kind)
    (paren : kind = .openParen ∨ kind = .closeParen) : own.length = 1 := by
  cases h with
  | openParen | closeParen => rfl
  | separator | number | negative | word | string => simp at paren

/-- A token or a group reaches from its first token to its last one. -/
theorem Items.covers {e : Expr} (h : InOrder text own) (items : Items false (own.map (·.1)) [e]) :
    Covers e.span own ∧ ¬ Overlooked own := by
  rcases items.single with ⟨token, eq, span⟩ | ⟨opening, within, closing, eq, opens, closes, span⟩
  · obtain ⟨x, rfl, rfl⟩ := List.map_eq_singleton_iff.mp eq
    exact ⟨⟨⟨x, rfl, by rw [span]⟩, ⟨x, rfl, by rw [span]⟩⟩, id⟩
  · obtain ⟨x, rest, rfl, rfl, behind⟩ := List.map_eq_cons_iff.mp eq
    obtain ⟨between, back, rfl, -, last⟩ := List.map_eq_append_iff.mp behind
    obtain ⟨y, rfl, rfl⟩ := List.map_eq_singleton_iff.mp last
    have stands := h.stands x (by simp)
    have stands' := h.stands y (by simp)
    have single := stands.spelled.length_paren (.inl opens)
    have ordered : x.2.byteBehind ≤ y.2.firstByte :=
      (List.pairwise_cons.mp h.ordered).1 y (by simp)
    have later : y.1.span.stop.offset > x.1.span.stop.offset := by
      rcases offset_stop_cases stands stands' ordered with ⟨later, -⟩ | ⟨-, overlooked⟩
      · exact later
      · exact absurd single overlooked.1
    have first : Covers x.1.span [x] := ⟨⟨x, rfl, rfl⟩, ⟨x, rfl, rfl⟩⟩
    have last : Covers y.1.span [y] := ⟨⟨y, rfl, rfl⟩, ⟨y, rfl, rfl⟩⟩
    have covers : Covers (x.1.span.merge y.1.span) ([x] ++ (between ++ [y])) :=
      first.merge last h later
    refine ⟨span ▸ covers, fun overlooked => ?_⟩
    cases between with
    | nil => exact overlooked.1 single
    | cons z between =>
      cases between <;> exact overlooked

/-- Two stretches of a text that are as far behind its start have the same characters in front. -/
theorem eq_of_total {a b rest rest' : List Char} (same : a ++ rest = b ++ rest')
    (bytes : total Char.utf8Size a = total Char.utf8Size b) : a = b := by
  have none (more : List Char) (h : total Char.utf8Size more = 0) : more = [] := by
    by_contra some
    have := total_utf8Size_pos some
    omega
  rcases List.append_eq_append_iff.mp same with ⟨more, rfl, -⟩ | ⟨more, rfl, -⟩
  · rw [none more (by rw [total_append] at bytes; omega), List.append_nil]
  · rw [none more (by rw [total_append] at bytes; omega), List.append_nil]

theorem samePlace_after (p : Position) (c : Char) : p.samePlace (p.after c) = false := by
  unfold Position.samePlace Position.after
  split <;> simp

/-- A token that is overlooked is one character further on. -/
theorem Overlooked.samePlace (h : InOrder text own) (overlooked : Overlooked own)
    (first : x ∈ own.head?) (last : y ∈ own.getLast?) :
    x.1.span.stop.samePlace y.2.last = false := by
  obtain rfl : own = [x, y] := by
    match own, overlooked with
    | [_, _], _ =>
      cases first
      cases last
      rfl
  obtain ⟨-, single, behind⟩ := overlooked
  have stands := h.stands x (by simp)
  have texts : x.2.before ++ x.2.own ++ x.2.rest = y.2.before ++ (y.2.own ++ y.2.rest) :=
    (h.within x (by simp)).trans ((h.within y (by simp)).symm.trans (List.append_assoc ..))
  have before : x.2.before ++ x.2.own = y.2.before :=
    eq_of_total texts ((total_append ..).trans behind)
  obtain ⟨c, one⟩ := List.length_eq_one_iff.mp single
  obtain ⟨front, last, eq⟩ := (List.eq_nil_or_concat' x.2.own).resolve_left stands.spelled.ne_nil
  have place : y.2.last = x.2.last.after last := by
    rw [Stretch.last, Stretch.last, Position.after_behind, ← before, one, eq]
    simp
  rw [place, stands.stop]
  exact samePlace_after x.2.last last

/-- An item that ends with a longer token is this token. -/
theorem Items.alone {e : Expr} (h : InOrder text own) (items : Items false (own.map (·.1)) [e])
    (last : x ∈ own.getLast?) (long : x.2.own.length ≠ 1) : own = [x] := by
  rcases items.single with ⟨token, eq, -⟩ | ⟨opening, within, closing, eq, -, closes, -⟩
  · obtain ⟨y, rfl, -⟩ := List.map_eq_singleton_iff.mp eq
    cases last
    rfl
  · have kind := congrArg List.getLast? eq
    rw [List.getLast?_map, Option.mem_def.mp last, ← List.cons_append, List.getLast?_concat] at kind
    cases kind
    have stands := h.stands x (List.mem_of_mem_getLast? last)
    exact absurd (stands.spelled.length_paren (.inr closes)) long

/-- Nothing stands between a token and the one right behind it. -/
theorem InOrder.adjacent {rest : List Standing} (h : InOrder text (x :: rest))
    (last : y ∈ rest.getLast?) (behind : x.2.byteBehind = y.2.firstByte) : rest = [y] := by
  obtain ⟨between, rfl⟩ := List.getLast?_eq_some_iff.mp last
  cases between with
  | nil => rfl
  | cons z between =>
    obtain ⟨before, ordered⟩ := List.pairwise_cons.mp h.ordered
    have := before z (by simp)
    have := firstByte_lt (h.stands z (by simp))
    have := (List.pairwise_cons.mp ordered).1 y (by simp)
    omega

/-- A statement starts with its first token. It ends with its last one, or with the first of two of
which the last is overlooked. -/
theorem Derives.covers {s : Statement} (h : InOrder text own) (derives : Derives (own.map (·.1)) s) :
    ∃ first ∈ own.head?, ∃ last ∈ own.getLast?, s.expr.span.start = first.1.span.start ∧
      (¬ Overlooked own → s.expr.span.stop = last.1.span.stop) ∧
      (Overlooked own → s.expr.span.stop = first.1.span.stop) := by
  generalize run : own.map (·.1) = tokens at derives
  cases derives with
  | single items =>
    subst run
    obtain ⟨⟨⟨first, hf, start⟩, ⟨last, hl, stop⟩⟩, seen⟩ := items.covers h
    exact ⟨first, hf, last, hl, start, fun _ => stop, fun overlooked => absurd overlooked seen⟩
  | @several head items last all =>
    have all : Items false tokens ([head] ++ (items ++ [last])) := all
    obtain ⟨a, bc, eq, ha, hbc⟩ := all.split
    obtain ⟨b, c, rfl, -, hc⟩ := hbc.split
    obtain ⟨front, rest, rfl, rfl, behind⟩ := List.map_eq_append_iff.mp (run.trans eq)
    obtain ⟨between, back, rfl, -, rfl⟩ := List.map_eq_append_iff.mp behind
    have h₁ := h.sublist (List.sublist_append_left front _)
    have h₂ := h.sublist
      ((List.sublist_append_right between back).trans (List.sublist_append_right front _))
    obtain ⟨first, -⟩ := ha.covers h₁
    obtain ⟨second, -⟩ := hc.covers h₂
    obtain ⟨x, hx, stop⟩ := first.stop
    obtain ⟨y, hy, stop'⟩ := second.stop
    obtain ⟨w, hw, start⟩ := first.start_merge second h
    have hy' : y ∈ (between ++ back).getLast? := by
      rw [List.getLast?_append, Option.mem_def.mp hy]
      rfl
    have last : y ∈ (front ++ (between ++ back)).getLast? := by
      rw [List.getLast?_append, Option.mem_def.mp hy']
      rfl
    refine ⟨w, hw, y, last, start, ?_⟩
    have x_mem := List.mem_of_mem_getLast? hx
    have y_mem := List.mem_of_mem_getLast? hy
    rcases offset_stop_cases (h₁.stands x x_mem) (h₂.stands y y_mem)
        ((List.pairwise_append.mp h.ordered).2.2 x x_mem y (List.mem_append_right _ y_mem)) with
      ⟨later, seen⟩ | ⟨equal, overlooked⟩
    · refine ⟨fun _ => ?_, fun overlooked => absurd (overlooked.ends hx hy') seen⟩
      exact (if_pos (by rw [stop, stop']; exact later)).trans stop'
    · obtain rfl := ha.alone h₁ hx overlooked.1
      have alone : between ++ back = [y] := InOrder.adjacent h hy' overlooked.2.2
      rw [alone] at hw ⊢
      cases hw
      refine ⟨fun seen => absurd overlooked seen, fun _ => ?_⟩
      exact (if_neg (by rw [stop, stop', equal]; omega)).trans stop

end

/-- Wherever a text parses, each node of a statement is derived from tokens that stand one behind the
other. It starts with the first character of the first one, and it ends with the last character of
the last one unless that is overlooked; then the node is a statement, and it ends with the first. -/
theorem nodes_cover_tokens {text : String} {tokens : List Token} {statements : List Statement}
    (lexed : tokenize text = .ok tokens) (parsed : parse tokens = .ok statements) :
    ∃ laid, laid.map (·.1) = tokens ∧ Laid [] laid text.toList ∧
      ∀ s ∈ statements, ∀ e, s.expr.Node e → ∃ own, own <:+: laid ∧ Derives (own.map (·.1)) ⟨e⟩ ∧
        ∃ first ∈ own.head?, ∃ last ∈ own.getLast?, e.span.start = first.2.start ∧
          (e.span.stop.samePlace last.2.last = true ↔ ¬ Overlooked own) ∧
          (Overlooked own → e = s.expr ∧ e.span.stop = first.1.span.stop) := by
  obtain ⟨laid, rfl, covers⟩ := laid_of_tokenize lexed
  have all : InOrder text.toList laid := ⟨covers.standsOn, covers.text, covers.inOrder⟩
  refine ⟨laid, rfl, covers, fun s mem e node => ?_⟩
  obtain ⟨run, within, derives⟩ := derives_of_parse parsed mem
  obtain ⟨tokens, within', kind⟩ := derives.node node
  obtain ⟨before, after, eq⟩ := within'.trans within
  rw [List.append_assoc] at eq
  obtain ⟨front, rest, rfl, -, eq⟩ := List.map_eq_append_iff.mp eq.symm
  obtain ⟨own, back, rfl, rfl, -⟩ := List.map_eq_append_iff.mp eq
  have inOrder := all.sublist
    ((List.sublist_append_left own back).trans (List.sublist_append_right front _))
  have derives : Derives (own.map (·.1)) ⟨e⟩ := by
    rcases kind with item | ⟨derives, rfl⟩
    · exact .single item
    · exact derives
  obtain ⟨first, hf, last, hl, start, seen, unseen⟩ := derives.covers inOrder
  have stands := inOrder.stands first (List.mem_of_mem_head? hf)
  have stands' := inOrder.stands last (List.mem_of_mem_getLast? hl)
  refine ⟨own, ⟨front, back, List.append_assoc ..⟩, derives, first, hf, last, hl,
    start.trans stands.start, ⟨fun same overlooked => ?_, fun visible => ?_⟩, fun overlooked => ?_⟩
  · have other := overlooked.samePlace inOrder hf hl
    rw [← unseen overlooked, same] at other
    cases other
  · have stop : e.span.stop = _ := (seen visible).trans stands'.stop
    rw [stop]
    simp [Position.samePlace]
  · rcases kind with item | ⟨-, same⟩
    · exact absurd overlooked (item.covers inOrder).2
    · exact ⟨same, unseen overlooked⟩

/-- A group over two lines, and a number right behind it. -/
def groupOverLines : String := "f (g\n \"ä\")1"

def groupOverLinesTokens : List Token :=
  [⟨.word "f", .point ⟨1, 1, 0⟩⟩, ⟨.openParen, .point ⟨1, 3, 2⟩⟩, ⟨.word "g", .point ⟨1, 4, 3⟩⟩,
    ⟨.separator, .point ⟨1, 5, 4⟩⟩, ⟨.str "ä", ⟨⟨2, 2, 6⟩, ⟨2, 4, 10⟩⟩⟩,
    ⟨.closeParen, .point ⟨2, 5, 10⟩⟩, ⟨.int 1, .point ⟨2, 6, 11⟩⟩]

def groupOverLinesStatement : Statement where
  expr := .list (.word "f" (.point ⟨1, 1, 0⟩))
    [.list (.word "g" (.point ⟨1, 4, 3⟩)) [.str "ä" ⟨⟨2, 2, 6⟩, ⟨2, 4, 10⟩⟩] ⟨⟨1, 3, 2⟩, ⟨2, 5, 10⟩⟩,
      .int 1 (.point ⟨2, 6, 11⟩)]
    ⟨⟨1, 1, 0⟩, ⟨2, 6, 11⟩⟩

theorem group_over_lines_covered :
    tokenize groupOverLines = .ok groupOverLinesTokens ∧
    parse groupOverLinesTokens = .ok [groupOverLinesStatement] ∧
    ∃ laid, laid.map (·.1) = groupOverLinesTokens ∧ Laid [] laid groupOverLines.toList ∧
      ∀ s ∈ [groupOverLinesStatement], ∀ e, s.expr.Node e →
        ∃ own, own <:+: laid ∧ Derives (own.map (·.1)) ⟨e⟩ ∧
          ∃ first ∈ own.head?, ∃ last ∈ own.getLast?, e.span.start = first.2.start ∧
            (e.span.stop.samePlace last.2.last = true ↔ ¬ Overlooked own) ∧
            (Overlooked own → e = s.expr ∧ e.span.stop = first.1.span.stop) := by
  have lexed : tokenize groupOverLines = .ok groupOverLinesTokens :=
    tokenize_eq_ok.mpr (by decide +kernel)
  have parsed : parse groupOverLinesTokens = .ok [groupOverLinesStatement] := rfl
  exact ⟨lexed, parsed, nodes_cover_tokens lexed parsed⟩

/-- In `"a"x` the word is the last token of the statement and starts in column 4, but the statement
ends in column 3. -/
theorem last_token_overlooked :
    let word : Token := ⟨.word "x", .point ⟨1, 4, 3⟩⟩
    let tokens : List Token := [⟨.str "a", ⟨⟨1, 1, 0⟩, ⟨1, 3, 3⟩⟩⟩, word]
    let statement : Statement :=
      ⟨.list (.str "a" ⟨⟨1, 1, 0⟩, ⟨1, 3, 3⟩⟩) [.word "x" (.point ⟨1, 4, 3⟩)] ⟨⟨1, 1, 0⟩, ⟨1, 3, 3⟩⟩⟩
    tokenize "\"a\"x" = .ok tokens ∧ parse tokens = .ok [statement] ∧
    word.StandsOn ⟨"\"a\"".toList, ['x'], []⟩ ∧
    statement.expr.span.stop.samePlace (.behind "\"a\"".toList) = false := by
  refine ⟨tokenize_eq_ok.mpr (by decide +kernel), rfl, ⟨.word ?_ nofun, nofun, ?_, ?_⟩, ?_⟩
  · decide +kernel
  · decide +kernel
  · decide +kernel
  · decide +kernel

end ScriptSession.Script

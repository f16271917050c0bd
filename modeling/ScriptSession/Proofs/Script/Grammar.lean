import Mathlib.Data.List.Forall2
import ScriptSession.Proofs.Script.Parentheses

/-!
# The grammar of statements

What tokens stand for is said here without reading them in order: a run of tokens between separators
that are outside all parentheses (`runs`) stands for the statement that the grammar derives from it
(`Derives`), and for no other (`Derives.unique`). Reading finds exactly these statements
(`statements_derive_from_runs`).

The proof follows the tokens. In the middle of a run the items of every open group, and those
outside, are derived from their own tokens (`Underway`); a token adds to the innermost of them.
-/
namespace ScriptSession.Script

/-! ## Runs -/

/-- How many groups are open behind a token. -/
def levelBehind (level : Nat) (token : Token) : Nat :=
  match token.kind with
  | .openParen => level + 1
  | .closeParen => level - 1
  | _ => level

/-- Every token with the number of groups that are open in front of it. -/
def withLevels : Nat → List Token → List (Nat × Token)
  | _, [] => []
  | level, token :: rest => (level, token) :: withLevels (levelBehind level token) rest

/-- A separator outside all parentheses. -/
def endsRun (entry : Nat × Token) : Bool := entry.1 = 0 && entry.2.kind = .separator

/-- What stands between such separators. -/
def segments (level : Nat) (tokens : List Token) : List (List Token) :=
  ((withLevels level tokens).splitOnP endsRun).map (·.map (·.2))

def runs (tokens : List Token) : List (List Token) := (segments 0 tokens).filter (!·.isEmpty)

theorem segments_cons (level : Nat) (token : Token) (rest : List Token) :
    segments level (token :: rest) =
      if level = 0 ∧ token.kind = .separator then [] :: segments (levelBehind level token) rest
      else (segments (levelBehind level token) rest).modifyHead (token :: ·) := by
  unfold segments
  rw [withLevels, List.splitOnP_cons_eq_if_modifyHead]
  by_cases ends : level = 0 ∧ token.kind = .separator
  · have stops : endsRun (level, token) = true := by simpa [endsRun] using ends
    rw [if_pos ends, if_pos stops]
    rfl
  · have goesOn : ¬ endsRun (level, token) = true := by simpa [endsRun] using ends
    rw [if_neg ends, if_neg goesOn]
    cases (withLevels (levelBehind level token) rest).splitOnP endsRun <;> rfl

/-- The runs of tokens in front of which a run has begun. -/
def runsFrom (begun : List Token) (level : Nat) (tokens : List Token) : List (List Token) :=
  ((segments level tokens).modifyHead (begun ++ ·)).filter (!·.isEmpty)

theorem runs_eq (tokens : List Token) : runs tokens = runsFrom [] 0 tokens := by
  unfold runs runsFrom
  cases segments 0 tokens <;> rfl

theorem runsFrom_nil (begun : List Token) (level : Nat) :
    runsFrom begun level [] = [begun].filter (!·.isEmpty) := by
  have one : segments level [] = [[]] := by simp [segments, withLevels]
  simp [runsFrom, one]

theorem runsFrom_separator (begun : List Token) {token : Token} (kind : token.kind = .separator)
    (rest : List Token) :
    runsFrom begun 0 (token :: rest) = [begun].filter (!·.isEmpty) ++ runsFrom [] 0 rest := by
  have level : levelBehind 0 token = 0 := by simp [levelBehind, kind]
  rw [← runs_eq, runsFrom, segments_cons, if_pos ⟨rfl, kind⟩, level, List.modifyHead_cons,
    List.append_nil, runs, ← List.filter_append]
  rfl

theorem runsFrom_cons (begun : List Token) {level : Nat} {token : Token}
    (within : ¬ (level = 0 ∧ token.kind = .separator)) (rest : List Token) :
    runsFrom begun level (token :: rest) =
      runsFrom (begun ++ [token]) (levelBehind level token) rest := by
  rw [runsFrom, runsFrom, segments_cons, if_neg within, List.modifyHead_modifyHead]
  congr 2
  funext tokens
  simp

/-! ## Derivations -/

/-- A token that stands for an item by itself. -/
inductive Leaf (token : Token) : Expr → Prop where
  | int {value} : token.kind = .int value → Leaf token (.int value token.span)
  | str {text} : token.kind = .str text → Leaf token (.str text token.span)
  | yes : token.kind = .word "true" → Leaf token (.bool true token.span)
  | no : token.kind = .word "false" → Leaf token (.bool false token.span)
  | nil : token.kind = .word "nil" → Leaf token (.nil token.span)
  | word {name} : token.kind = .word name → name ≠ "true" → name ≠ "false" → name ≠ "nil" →
      Leaf token (.word name token.span)

/-- The items that tokens stand for, inside of a group or outside. A separator inside stands for
nothing; one outside is no part of a run. -/
inductive Items : Bool → List Token → List Expr → Prop where
  | none {inside} : Items inside [] []
  | leaf {inside token e tokens items} : Leaf token e → Items inside tokens items →
      Items inside (token :: tokens) (e :: items)
  | separator {token tokens items} : token.kind = .separator → Items true tokens items →
      Items true (token :: tokens) items
  | group {inside opening closing within inner tokens items} :
      opening.kind = .openParen → Items true within inner → closing.kind = .closeParen →
      Items inside tokens items →
      Items inside (opening :: (within ++ closing :: tokens))
        (.group (opening.span.merge closing.span) inner :: items)

/-- The statement that a run stands for: its only item, or the list of its items. -/
inductive Derives : List Token → Statement → Prop where
  | single {run e} : Items false run [e] → Derives run ⟨e⟩
  | several {run head items last} : Items false run (head :: items ++ [last]) →
      Derives run ⟨.list head (items ++ [last]) (head.span.merge last.span)⟩

theorem Leaf.kind_ne {token : Token} {e : Expr} (h : Leaf token e) :
    token.kind ≠ .openParen ∧ token.kind ≠ .closeParen ∧ token.kind ≠ .separator := by
  cases h <;> simp_all

theorem Leaf.unique {token : Token} {e e' : Expr} (h : Leaf token e) (h' : Leaf token e') :
    e = e' := by
  cases h <;> cases h' <;> simp_all

theorem Items.append {inside : Bool} {a b : List Token} {items more : List Expr}
    (h : Items inside a items) (next : Items inside b more) :
    Items inside (a ++ b) (items ++ more) := by
  induction h with
  | none => exact next
  | leaf stands _ ih => exact .leaf stands (ih next)
  | separator kind _ ih => exact .separator kind (ih next)
  | group opens within closes _ _ ih =>
    rw [List.cons_append, List.append_assoc, List.cons_append]
    exact .group opens within closes (ih next)

/-- What may follow the items of a group, or of a run. -/
def Stops (rest : List Token) : Prop := ∀ token ∈ rest.head?, token.kind = .closeParen

theorem stops_nil : Stops [] := by
  simp [Stops]

theorem stops_cons {token : Token} {rest : List Token} :
    Stops (token :: rest) ↔ token.kind = .closeParen := by
  simp [Stops]

/-- Items take the tokens up to where they stop, and only in one way. -/
theorem Items.unique {inside : Bool} {a a' r r' : List Token} {items items' : List Expr}
    (h : Items inside a items) (h' : Items inside a' items') (same : a ++ r = a' ++ r')
    (stops : Stops r) (stops' : Stops r') : a = a' ∧ items = items' := by
  -- Both start at the same token, whose kind leaves only one rule for either of them.
  induction h generalizing a' items' r r' with
  | none =>
    cases h' with
    | none => exact ⟨rfl, rfl⟩
    | leaf stands =>
      subst same
      exact absurd (stops_cons.mp stops) stands.kind_ne.2.1
    | separator kind =>
      subst same
      cases kind.symm.trans (stops_cons.mp stops)
    | group opens =>
      subst same
      cases opens.symm.trans (stops_cons.mp stops)
  | leaf stands _ ih =>
    cases h' with
    | none =>
      subst same
      exact absurd (stops_cons.mp stops') stands.kind_ne.2.1
    | leaf stands' rest' =>
      obtain ⟨rfl, later⟩ := List.cons.inj same
      obtain ⟨rfl, rfl⟩ := ih rest' later stops stops'
      exact ⟨rfl, by rw [stands.unique stands']⟩
    | separator kind =>
      obtain ⟨rfl, -⟩ := List.cons.inj same
      exact absurd kind stands.kind_ne.2.2
    | group opens =>
      obtain ⟨rfl, -⟩ := List.cons.inj same
      exact absurd opens stands.kind_ne.1
  | separator kind _ ih =>
    cases h' with
    | none =>
      subst same
      cases kind.symm.trans (stops_cons.mp stops')
    | leaf stands' =>
      obtain ⟨rfl, -⟩ := List.cons.inj same
      exact absurd kind stands'.kind_ne.2.2
    | separator _ rest' =>
      obtain ⟨rfl, later⟩ := List.cons.inj same
      obtain ⟨rfl, rfl⟩ := ih rest' later stops stops'
      exact ⟨rfl, rfl⟩
    | group opens =>
      obtain ⟨rfl, -⟩ := List.cons.inj same
      cases kind.symm.trans opens
  | group opens _ closes _ ihWithin ih =>
    cases h' with
    | none =>
      subst same
      cases opens.symm.trans (stops_cons.mp stops')
    | leaf stands' =>
      obtain ⟨rfl, -⟩ := List.cons.inj same
      exact absurd opens stands'.kind_ne.1
    | separator kind =>
      obtain ⟨rfl, -⟩ := List.cons.inj same
      cases opens.symm.trans kind
    | group _ within' closes' rest' =>
      simp only [List.cons_append, List.append_assoc, List.cons.injEq] at same
      obtain ⟨rfl, inner⟩ := same
      obtain ⟨rfl, rfl⟩ := ihWithin within' inner (stops_cons.mpr closes) (stops_cons.mpr closes')
      obtain ⟨rfl, later⟩ := List.cons.inj (List.append_cancel_left inner)
      obtain ⟨rfl, rfl⟩ := ih rest' later stops stops'
      exact ⟨rfl, rfl⟩

theorem Derives.unique {run : List Token} {s s' : Statement} (h : Derives run s)
    (h' : Derives run s') : s = s' := by
  have same {items items' : List Expr} (h : Items false run items) (h' : Items false run items') :
      items = items' := (h.unique h' (rfl : run ++ [] = run ++ []) stops_nil stops_nil).2
  cases h with
  | single items =>
    cases h' with
    | single items' =>
      cases same items items'
      rfl
    | several items' => simpa using congrArg List.length (same items items')
  | several items =>
    cases h' with
    | single items' => simpa using congrArg List.length (same items items')
    | several items' =>
      obtain ⟨rfl, tail⟩ := List.cons.inj (same items items')
      obtain ⟨rfl, rfl⟩ := List.append_singleton_inj.mp tail
      rfl

/-! ## Reading a run -/

namespace Reading

/-- At the end of a run there is the statement that it stands for, if there is any token. -/
theorem statement?_derives {run : List Token} {items : List Expr}
    (h : Items false run items.reverse) :
    List.Forall₂ Derives ([run].filter (!·.isEmpty)) (statement? items).toList := by
  unfold statement?
  generalize items.reverse = inOrder at h
  rcases inOrder with _ | ⟨head, _ | ⟨next, rest⟩⟩
  · cases h
    exact .nil
  · have some : run ≠ [] := by
      rintro rfl
      cases h
    rw [List.filter_cons_of_pos (by simpa using some)]
    exact .cons (.single h) .nil
  · have some : run ≠ [] := by
      rintro rfl
      cases h
    rw [List.filter_cons_of_pos (by simpa using some)]
    refine .cons ?_ .nil
    obtain ⟨items, last, tail⟩ := (List.eq_nil_or_concat' (next :: rest)).resolve_left (by simp)
    rw [tail] at h ⊢
    rw [List.getLastD_concat]
    exact .several h

/-- The tokens of a run so far: those outside all groups make up the items there, and those behind
the opening of a group the items of that group. -/
inductive Underway : List Token → List Expr → List OpenGroup → Prop where
  | outside {tokens items} : Items false tokens items.reverse → Underway tokens items []
  | inside {before opening within items inner outer} : Underway before items outer →
      opening.kind = .openParen → Items true within inner.reverse →
      Underway (before ++ opening :: within) items (⟨opening.span, inner⟩ :: outer)

/-- Tokens that stand for one item give it to the innermost group. -/
theorem Underway.addItem {r : Reading} {run more : List Token} {groups : List OpenGroup}
    {item : Expr} (h : Underway run r.items groups) (stands : ∀ inside, Items inside more [item]) :
    ∃ groups', (r.addItem groups item).nesting = .groups groups' ∧
      groups'.length = groups.length ∧
      groups'.map (·.opening) = groups.map (·.opening) ∧
      Underway (run ++ more) (r.addItem groups item).items groups' := by
  cases h with
  | outside items =>
    refine ⟨[], rfl, rfl, rfl, .outside ?_⟩
    have added : (r.addItem [] item).items.reverse = r.items.reverse ++ [item] := List.reverse_cons
    rw [added]
    exact items.append (stands false)
  | inside outer opens within =>
    refine ⟨_, rfl, rfl, rfl, ?_⟩
    rw [List.append_assoc, List.cons_append]
    refine .inside outer opens ?_
    simpa using within.append (stands true)

theorem read_leaf {r : Reading} {groups : List OpenGroup} (nesting : r.nesting = .groups groups)
    {token : Token} {e : Expr} (stands : Leaf token e) : r.read token = r.addItem groups e := by
  cases stands with
  | int kind => simp only [read, nesting, kind]
  | str kind => simp only [read, nesting, kind]
  | yes kind => simp [read, nesting, kind, wordExpr]
  | no kind => simp [read, nesting, kind, wordExpr]
  | nil kind => simp [read, nesting, kind, wordExpr]
  | word kind yes no nil => simp [read, nesting, kind, wordExpr, yes, no, nil]

theorem addItem_statements (r : Reading) (groups : List OpenGroup) (item : Expr) :
    (r.addItem groups item).statements = r.statements := by
  cases groups <;> rfl

end Reading

theorem token_cases (token : Token) : token.kind = .openParen ∨ token.kind = .closeParen ∨
    token.kind = .separator ∨ ∃ e, Leaf token e := by
  cases kind : token.kind with
  | openParen => exact .inl rfl
  | closeParen => exact .inr (.inl rfl)
  | separator => exact .inr (.inr (.inl rfl))
  | int value => exact .inr (.inr (.inr ⟨_, .int kind⟩))
  | str text => exact .inr (.inr (.inr ⟨_, .str kind⟩))
  | word name =>
    refine .inr (.inr (.inr ?_))
    by_cases yes : name = "true"
    · exact ⟨_, .yes (yes ▸ kind)⟩
    by_cases no : name = "false"
    · exact ⟨_, .no (no ▸ kind)⟩
    by_cases nil : name = "nil"
    · exact ⟨_, .nil (nil ▸ kind)⟩
    exact ⟨_, .word kind yes no nil⟩

namespace Reading

variable {r : Reading} {run : List Token} {groups : List OpenGroup}

/-- A token that does not end the run adds to it: reading is under way one token further on. -/
theorem Underway.read (h : Underway run r.items groups) (nesting : r.nesting = .groups groups)
    {token : Token} (within : ¬ (groups.length = 0 ∧ token.kind = .separator)) {rest : List Token}
    (matched : scan (groups.map (·.opening)) (token :: rest) = []) :
    ∃ groups', (r.read token).nesting = .groups groups' ∧
      Underway (run ++ [token]) (r.read token).items groups' ∧
      (r.read token).statements = r.statements ∧
      groups'.length = levelBehind groups.length token ∧
      scan (groups'.map (·.opening)) rest = [] := by
  obtain opens | closes | separates | ⟨e, stands⟩ := token_cases token
  · rw [scan_open _ _ opens] at matched
    split at matched
    · rename_i room
      rw [List.length_map] at room
      have level : levelBehind groups.length token = groups.length + 1 := by
        simp [levelBehind, opens]
      rw [read_opening nesting room opens, level]
      exact ⟨_, rfl, h.inside opens .none, rfl, rfl, matched⟩
    · cases matched
  · rw [scan_close _ _ closes] at matched
    cases h with
    | outside => cases matched
    | @inside before opening within' items inner outer around opens inside =>
      have level : levelBehind (outer.length + 1) token = outer.length := by
        simp [levelBehind, closes]
      obtain ⟨groups', nested, length, same, further⟩ :=
        around.addItem fun _ => .group opens inside closes .none
      rw [read_closing nesting closes, List.length_cons, level, List.append_assoc]
      exact ⟨groups', nested, further, addItem_statements _ _ _, length, same ▸ matched⟩
  · have kinds : token.kind ≠ .openParen ∧ token.kind ≠ .closeParen := by simp [separates]
    rw [scan_other _ _ kinds.1 kinds.2] at matched
    cases h with
    | outside items => exact absurd ⟨rfl, separates⟩ within
    | @inside before opening within' items inner outer around opens inside =>
      have step : r.read token = r := by
        simp [Reading.read, nesting, separates]
      have level : levelBehind (outer.length + 1) token = outer.length + 1 := by
        simp [levelBehind, separates]
      have further := inside.append (.separator separates .none)
      rw [List.append_nil] at further
      rw [step, List.length_cons, level, List.append_assoc]
      exact ⟨_, nesting, around.inside opens further, rfl, rfl, matched⟩
  · have kinds := stands.kind_ne
    have level : levelBehind groups.length token = groups.length := by
      cases stands <;> simp_all [levelBehind]
    rw [scan_other _ _ kinds.1 kinds.2.1] at matched
    obtain ⟨groups', nested, length, same, further⟩ := h.addItem fun _ => .leaf stands .none
    rw [read_leaf nesting stands, level]
    exact ⟨groups', nested, further, addItem_statements _ _ _, length, same ▸ matched⟩

/-- Reading tokens whose parentheses match finds the statements of the run that is under way and of
the runs behind it. -/
theorem Underway.foldl (h : Underway run r.items groups) (nesting : r.nesting = .groups groups)
    (tokens : List Token) (matched : scan (groups.map (·.opening)) tokens = []) :
    ∃ found, (tokens.foldl Reading.read r).endStatement.statements = found.reverse ++ r.statements ∧
      List.Forall₂ Derives (runsFrom run groups.length tokens) found := by
  induction tokens generalizing r run groups with
  | nil =>
    cases h with
    | outside items =>
      refine ⟨(statement? r.items).toList, ?_, ?_⟩
      · rw [List.foldl_nil, endStatement]
        cases statement? r.items <;> rfl
      · rw [runsFrom_nil]
        exact statement?_derives items
    | inside => simp [scan] at matched
  | cons token rest ih =>
    by_cases ends : groups.length = 0 ∧ token.kind = .separator
    · -- The run ends here: its statement is complete, and the next run begins empty.
      obtain ⟨none, separates⟩ := ends
      obtain rfl := List.length_eq_zero_iff.mp none
      have step : r.read token = r.endStatement := by simp [Reading.read, nesting, separates]
      rw [scan_other _ _ (by simp [separates]) (by simp [separates])] at matched
      cases h with
      | outside items =>
        obtain ⟨found, statements, derived⟩ :=
          ih (r := r.endStatement) (.outside .none) nesting matched
        refine ⟨(statement? r.items).toList ++ found, ?_, ?_⟩
        · rw [List.foldl_cons, step, statements, endStatement]
          cases statement? r.items <;> simp
        · rw [List.length_nil, runsFrom_separator run separates]
          exact List.rel_append (statement?_derives items) derived
    · obtain ⟨groups', nested, further, same, level, matched⟩ := h.read nesting ends matched
      obtain ⟨found, statements, derived⟩ := ih further nested matched
      refine ⟨found, ?_, ?_⟩
      · rw [List.foldl_cons, statements, same]
      · rw [runsFrom_cons run ends, ← level]
        exact derived

end Reading

/-- Nothing but separators is left out. -/
theorem tokens_of_segments (level : Nat) (tokens : List Token) :
    (segments level tokens).flatten.filter (·.kind ≠ .separator) =
      tokens.filter (·.kind ≠ .separator) := by
  induction tokens generalizing level with
  | nil => rfl
  | cons token rest ih =>
    have some : segments (levelBehind level token) rest ≠ [] := by simp [segments]
    obtain ⟨first, others, eq⟩ := List.exists_cons_of_ne_nil some
    have later := ih (levelBehind level token)
    rw [segments_cons]
    rw [eq] at later ⊢
    split
    · rename_i ends
      rw [List.flatten_cons, List.nil_append, later, List.filter_cons_of_neg (by simp [ends.2])]
    · rw [List.modifyHead_cons, List.flatten_cons, List.cons_append, List.filter_cons,
        List.filter_cons, ← List.flatten_cons, later]

/-- The statements of tokens are those that the grammar derives from the runs, one from each, and
every token but the separators belongs to one of the runs. -/
theorem statements_derive_from_runs {tokens : List Token} {statements : List Statement}
    (ok : parse tokens = .ok statements) :
    List.Forall₂ (fun run s => ∀ s', Derives run s' ↔ s' = s) (runs tokens) statements ∧
    (runs tokens).flatten.filter (·.kind ≠ .separator) = tokens.filter (·.kind ≠ .separator) := by
  constructor
  · rw [parse_eq] at ok
    split at ok
    · rename_i matched
      cases ok
      obtain ⟨found, same, derived⟩ :=
        Reading.Underway.foldl (r := {}) (.outside .none) rfl tokens matched
      rw [same, List.append_nil, List.reverse_reverse, runs_eq]
      refine derived.imp fun run s derives s' => ?_
      constructor
      · exact fun other => other.unique derives
      · rintro rfl
        exact derives
    · cases ok
  · rw [runs, List.flatten_filter_not_isEmpty]
    exact tokens_of_segments 0 tokens

def atOffset (n : Nat) : Span := .point ⟨1, n + 1, n⟩

/-- A call with a separator inside its parentheses, and a constant two separators further on. -/
def callAndConstant : List Token :=
  [⟨.separator, atOffset 0⟩, ⟨.openParen, atOffset 1⟩, ⟨.separator, atOffset 2⟩,
    ⟨.word "f", atOffset 3⟩, ⟨.closeParen, atOffset 4⟩, ⟨.int 1, atOffset 5⟩,
    ⟨.separator, atOffset 6⟩, ⟨.separator, atOffset 7⟩, ⟨.word "nil", atOffset 8⟩]

theorem call_and_constant_derive :
    let callee : Expr := .list (.word "f" (atOffset 3)) [] ((atOffset 1).merge (atOffset 4))
    let call : Statement :=
      ⟨.list callee [.int 1 (atOffset 5)] ((atOffset 1).merge (atOffset 5))⟩
    let constant : Statement := ⟨.nil (atOffset 8)⟩
    parse callAndConstant = .ok [call, constant] ∧
    runs callAndConstant = [(callAndConstant.drop 1).take 5, callAndConstant.drop 8] ∧
    List.Forall₂ (fun run s => ∀ s', Derives run s' ↔ s' = s) (runs callAndConstant)
      [call, constant] ∧
    (runs callAndConstant).flatten.filter (·.kind ≠ .separator) =
      callAndConstant.filter (·.kind ≠ .separator) :=
  ⟨rfl, by decide, statements_derive_from_runs rfl⟩

end ScriptSession.Script

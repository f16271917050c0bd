import ScriptSession.Proofs.Script.Likeness
import ScriptSession.Proofs.Script.Lines

/-!
# Places in texts that stand one below the other

A place in one of the texts corresponds to the place that is further down by the shift of that text,
and a place that was known before to itself (`SamePlace`). What is written there is alike.

Two texts may have the same place in them. Which of the two is meant shows when the texts are moved,
for a place moves with its own text (`Provenance`); and they can be moved so far apart that no two places
are the same any more (`exists_apart`).
-/
namespace ScriptSession.Script

/-- The places of an expression and of its parts. -/
def Expr.spans : Expr → List Span
  | .list head rest span => span :: (head.spans ++ rest.flatMap (·.spans))
  | .int _ span | .str _ span | .bool _ span | .nil span | .word _ span => [span]

def Value.spans : Value → List Span
  | .procedure closure => closure.body.spans
  | _ => []

/-- The places that an environment refers to, which are those of its procedures. -/
def Environment.spans (env : Environment) : List Span :=
  (env.globals ++ env.frames.flatten).flatMap (·.2.spans)

/-- The places of a text's statements, in the text by itself. -/
def textSpans (text : String) : List Span := (parsed text).flatMap (·.expr.spans)

inductive SamePlace (known : List Span) (texts : List (String × Shift)) : Span → Span → Prop where
  | known {s} : s ∈ known → SamePlace known texts s s
  | text {text k s} : (text, k) ∈ texts → s ∈ textSpans text → SamePlace known texts s (s.moved k)

variable {R : Span → Span → Prop}

/-- The places of a list are its own and those of its items. -/
theorem Expr.forall_spans_list {P : Span → Prop} {head : Expr} {rest : List Expr} {span : Span} :
    (∀ s ∈ (Expr.list head rest span).spans, P s) ↔
      P span ∧ ∀ e ∈ head :: rest, ∀ s ∈ e.spans, P s := by
  rw [spans, ← List.flatMap_cons, List.forall_mem_cons]
  refine and_congr_right fun _ => ⟨fun h e mem s place => ?_, fun h s place => ?_⟩
  · exact h s (List.mem_flatMap.mpr ⟨e, mem, place⟩)
  · obtain ⟨e, mem, place⟩ := List.mem_flatMap.mp place
    exact h e mem s place

theorem Expr.span_mem_spans (e : Expr) : e.span ∈ e.spans := by
  cases e <;> simp [spans, span]

theorem Expr.moved_like {k k' : Shift} (e : Expr)
    (h : ∀ s ∈ e.spans, R (s.moved k) (s.moved k')) : (e.moved k).Like R (e.moved k') := by
  induction e using Expr.byItems with
  | leaf e plain =>
    cases e with
    | list head rest span => exact absurd rfl (plain head rest span)
    | int | str | bool | nil | word =>
      have place := h _ (span_mem_spans _)
      rw [moved, moved]
      constructor
      exact place
  | list head rest span headLike restLike =>
    rw [spans] at h
    rw [moved, moved]
    refine .list (headLike ?_) ?_ (h span List.mem_cons_self)
    · intro s mem
      exact h s (List.mem_cons_of_mem _ (List.mem_append_left _ mem))
    · refine List.forall₂_map_left_iff.mpr (List.forall₂_map_right_iff.mpr ?_)
      refine List.forall₂_same.mpr fun e item => ?_
      apply restLike e item
      intro s mem
      have within : s ∈ rest.flatMap (·.spans) := List.mem_flatMap.mpr ⟨e, item, mem⟩
      exact h s (List.mem_cons_of_mem _ (List.mem_append_right _ within))

theorem Expr.like_self (e : Expr) (h : ∀ s ∈ e.spans, R s s) : e.Like R e := by
  have unmoved : (e.moved ⟨0, 0⟩).Like R (e.moved ⟨0, 0⟩) := e.moved_like h
  rwa [Expr.moved_zero] at unmoved

theorem Value.like_self (v : Value) (h : ∀ s ∈ v.spans, R s s) : v.Like R v := by
  cases v with
  | procedure closure => exact .procedure (closure.body.like_self h)
  | _ => constructor

theorem Bindings.like_self (b : Bindings) (h : ∀ entry ∈ b, ∀ s ∈ entry.2.spans, R s s) :
    b.Like R b :=
  List.forall₂_same.mpr fun entry mem => ⟨rfl, entry.2.like_self (h entry mem)⟩

theorem Environment.like_self (env : Environment) (h : ∀ s ∈ env.spans, R s s) : env.Like R env where
  globals := Bindings.like_self _ fun entry mem s place =>
    h s (List.mem_flatMap.mpr ⟨entry, List.mem_append_left _ mem, place⟩)
  frames := List.forall₂_same.mpr fun frame inner =>
    Bindings.like_self frame fun entry mem s place =>
      h s (List.mem_flatMap.mpr
        ⟨entry, List.mem_append_right _ (List.mem_flatten_of_mem inner mem), place⟩)
  nesting := rfl
  nextClosure := rfl

/-- The statements of a text are alike wherever it stands. -/
theorem parsed_like {text : String} {k k' : Shift}
    (h : ∀ s ∈ textSpans text, R (s.moved k) (s.moved k')) : List.Forall₂ (Statement.Like R)
      ((parsed text).map (·.moved k)) ((parsed text).map (·.moved k')) := by
  refine List.forall₂_map_left_iff.mpr (List.forall₂_map_right_iff.mpr ?_)
  refine List.forall₂_same.mpr fun statement there => ?_
  apply statement.expr.moved_like
  intro s place
  exact h s (List.mem_flatMap.mpr ⟨statement, there, place⟩)

/-! ## Origins -/

/-- Where a place comes from: it was known before, or it is in the text with this number. -/
inductive Provenance where
  | known (s : Span)
  | text (index : Nat) (s : Span)
  deriving DecidableEq

namespace Provenance

/-- The place in its own text. -/
def span : Provenance → Span
  | known s | text _ s => s

/-- Where the place is when the texts are moved. -/
def place (texts : List (String × Shift)) : Provenance → Span
  | known s => s
  | text index s => s.moved (((texts[index]?).map (·.2)).getD ⟨0, 0⟩)

inductive Within (known : List Span) (texts : List String) : Provenance → Prop where
  | known {s} : s ∈ known → Within known texts (.known s)
  | text {index text s} : texts[index]? = some text → s ∈ textSpans text →
      Within known texts (.text index s)

end Provenance

variable {known : List Span} {texts texts' : List (String × Shift)}

/-- The same place after the texts were moved in one way and in another one. -/
def Carried (known : List Span) (texts texts' : List (String × Shift)) (s s' : Span) : Prop :=
  ∃ origin : Provenance, origin.Within known (texts.map (·.1)) ∧ origin.place texts = s ∧
    origin.place texts' = s'

/-- The texts where each of them stands by itself. -/
def unmoved (texts : List String) : List (String × Shift) := texts.map (·, ⟨0, 0⟩)

theorem unmoved_texts (texts : List String) : (unmoved texts).map (·.1) = texts := by
  rw [unmoved, List.map_map]
  exact List.map_id texts

theorem Provenance.place_unmoved (texts : List String) (origin : Provenance) :
    origin.place (unmoved texts) = origin.span := by
  cases origin with
  | known s => rfl
  | text index s =>
    have still : (((unmoved texts)[index]?).map (·.2)).getD ⟨0, 0⟩ = ⟨0, 0⟩ := by
      rw [unmoved, List.getElem?_map]
      cases texts[index]? <;> rfl
    rw [place, still]
    rfl

/-- The statements of every text by themselves, where the text stands. -/
def groups (texts : List (String × Shift)) : List (List Statement) :=
  texts.map fun entry => (parsed entry.1).map (·.moved entry.2)

theorem stacked_eq : stacked texts = (groups texts).flatten := List.flatMap_def

theorem groups_unmoved (texts : List String) : groups (unmoved texts) = texts.map parsed := by
  rw [groups, unmoved, List.map_map]
  exact List.map_congr_left fun text _ => parsed_unmoved text

theorem groups_like (same : texts.map (·.1) = texts'.map (·.1))
    (h : ∀ index text, (texts.map (·.1))[index]? = some text → ∀ s ∈ textSpans text,
      R ((Provenance.text index s).place texts) ((Provenance.text index s).place texts')) :
    List.Forall₂ (List.Forall₂ (Statement.Like R)) (groups texts) (groups texts') := by
  induction texts generalizing texts' with
  | nil =>
    rw [List.map_nil, eq_comm, List.map_eq_nil_iff] at same
    rw [same]
    exact .nil
  | cons entry rest ih =>
    cases texts' with
    | nil => cases same
    | cons entry' rest' =>
      obtain ⟨text, k⟩ := entry
      obtain ⟨text', k'⟩ := entry'
      obtain ⟨rfl, later⟩ := List.cons_eq_cons.mp same
      have first : List.Forall₂ (Statement.Like R) ((parsed text).map (·.moved k))
          ((parsed text).map (·.moved k')) := parsed_like (h 0 text rfl)
      exact .cons first (ih later fun index => h (index + 1))

theorem groups_carried (known : List Span) (same : texts.map (·.1) = texts'.map (·.1)) :
    List.Forall₂ (List.Forall₂ (Statement.Like (Carried known texts texts'))) (groups texts)
      (groups texts') :=
  groups_like same fun index _ there s place => ⟨.text index s, .text there place, rfl, rfl⟩

theorem Carried.samePlace {names : List String} (same : texts.map (·.1) = names) {s s' : Span}
    (h : Carried known (unmoved names) texts s s') : SamePlace known texts s s' := by
  subst same
  obtain ⟨origin, within, rfl, rfl⟩ := h
  rw [unmoved_texts] at within
  rw [Provenance.place_unmoved]
  cases within with
  | known mem => exact .known mem
  | @text index text s there place =>
    rw [List.getElem?_map] at there
    obtain ⟨⟨text, k⟩, found, rfl⟩ := Option.map_eq_some_iff.mp there
    rw [Provenance.place, found]
    exact .text (List.mem_of_getElem? found) place

theorem groups_same (known : List Span) {names : List String} (same : texts.map (·.1) = names) :
    List.Forall₂ (List.Forall₂ (Statement.Like (SamePlace known texts))) (groups (unmoved names))
      (groups texts) :=
  groups_like ((unmoved_texts names).trans same.symm) fun index _ there s place =>
    Carried.samePlace same ⟨.text index s, .text there place, rfl, rfl⟩

/-! ## Texts far apart -/

/-- No two places that come from somewhere are the same. -/
def FarApart (known : List Span) (texts : List (String × Shift)) : Prop :=
  ∀ origin origin' : Provenance, origin.Within known (texts.map (·.1)) →
    origin'.Within known (texts.map (·.1)) → origin.place texts = origin'.place texts →
    origin = origin'

theorem Carried.flip (same : texts.map (·.1) = texts'.map (·.1)) {s s' : Span}
    (h : Carried known texts texts' s s') : Carried known texts' texts s' s := by
  obtain ⟨origin, within, here, there⟩ := h
  exact ⟨origin, same ▸ within, there, here⟩

/-- A place of texts far apart tells where it is when they stand elsewhere. -/
theorem FarApart.place_eq (far : FarApart known texts) {origin : Provenance}
    (within : origin.Within known (texts.map (·.1))) {s : Span}
    (h : Carried known texts texts' (origin.place texts) s) : s = origin.place texts' := by
  obtain ⟨origin', within', there, rfl⟩ := h
  rw [far origin' origin within' within there]

theorem Span.moved_inj {s s' : Span} {k : Shift} (h : s.moved k = s'.moved k) : s = s' := by
  obtain ⟨⟨l, c, o⟩, ⟨l₂, c₂, o₂⟩⟩ := s
  obtain ⟨⟨l', c', o'⟩, ⟨l₂', c₂', o₂'⟩⟩ := s'
  simp only [Span.moved, Position.moved, Span.mk.injEq, Position.mk.injEq] at h
  simp only [Span.mk.injEq, Position.mk.injEq]
  omega

/-- Each text is moved behind every line that is used so far. -/
theorem exists_apart (known : List Span) (texts : List String) :
    ∃ placed : List (String × Shift), placed.map (·.1) = texts ∧ FarApart known placed := by
  let last := ((known ++ texts.flatMap textSpans).map (·.start.line)).max?.getD 0
  let placed := texts.mapIdx fun index text => (text, (⟨(index + 1) * (last + 1), 0⟩ : Shift))
  have names : placed.map (·.1) = texts := by
    refine List.ext_getElem? fun index => ?_
    simp [placed, List.getElem?_mapIdx]
    cases texts[index]? <;> rfl
  have below : ∀ s ∈ known ++ texts.flatMap textSpans, s.start.line < last + 1 := by
    intro s mem
    exact Nat.lt_succ_of_le (List.le_max?_getD_of_mem (List.mem_map_of_mem mem))
  -- Which text a place is in shows in the quotient of its line by the bound.
  have block : ∀ origin : Provenance, origin.Within known texts →
      (origin.place placed).start.line / (last + 1) =
        match origin with
        | .known _ => 0
        | .text index _ => index + 1 := by
    intro origin within
    cases within with
    | known mem => exact Nat.div_eq_of_lt (below _ (List.mem_append_left _ mem))
    | @text index text s there mem =>
      have small := below s (List.mem_append_right _
        (List.mem_flatMap.mpr ⟨text, List.mem_of_getElem? there, mem⟩))
      have shift : (placed[index]?).map (·.2) =
          some ⟨(index + 1) * (last + 1), 0⟩ := by
        simp [placed, List.getElem?_mapIdx, there]
      simp only [Provenance.place, shift, Option.getD_some, Span.moved, Position.moved]
      rw [Nat.add_mul_div_right _ _ (Nat.succ_pos _), Nat.div_eq_of_lt small, Nat.zero_add]
  refine ⟨placed, names, ?_⟩
  rw [FarApart, names]
  intro origin origin' within within' same
  have first := block origin within
  rw [same, block origin' within'] at first
  cases origin with
  | known s =>
    cases origin' with
    | known s' => exact congrArg Provenance.known same
    | text index' s' => cases first
  | text index s =>
    cases origin' with
    | known s' => cases first
    | text index' s' =>
      obtain rfl : index' = index := Nat.succ.inj first
      exact congrArg (Provenance.text index') (Span.moved_inj same)

end ScriptSession.Script

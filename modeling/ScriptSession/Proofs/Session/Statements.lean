import Mathlib.Data.List.Basic
import Mathlib.Data.List.Induction
import ScriptSession.Proofs.Session.Assembly

/-!
# Statements of a history

An assembler gets lines and is reset now and then. Every such history is cut in exactly one way into
blocks, each of them lines that are continued and then what ends them, a line that is not or a reset,
and the lines that are still pending (`Partition`). The blocks that end with a line are the statements,
with the text and the number of their lines; the others are discarded (`exists_partition`).

The text and the number of the pending lines can be kept apart from each other and be brought up to
date with each line (`Draft`). That makes no difference (`feed_draft`).
-/
namespace ScriptSession.Assembler

/-- A line that keeps its statement open. -/
structure Continued where
  line : String
  marked : isContinued line = true

/-- A line that completes its statement. -/
structure Completing where
  line : String
  unmarked : isContinued line = false

inductive Event where
  | submit (line : String)
  | reset

/-- What is completed by each of the events, and what is there afterwards. -/
def feed {σ : Type} (react : σ → Event → Option LogicalStatement × σ) (s : σ) :
    List Event → List (Option LogicalStatement) × σ
  | [] => ([], s)
  | event :: rest =>
    let outcome := react s event
    let later := feed react outcome.2 rest
    (outcome.1 :: later.1, later.2)

def react (a : Assembler) : Event → Option LogicalStatement × Assembler
  | .submit line => a.submit line
  | .reset => (none, a.reset)

/-! ## Blocks -/

inductive Ending where
  | complete (last : Completing)
  | reset

def Ending.event : Ending → Event
  | .complete last => .submit last.line
  | .reset => .reset

/-- What an assembler lets go of at once. -/
structure Block where
  lines : List Continued
  ending : Ending

def submitted (lines : List Continued) : List Event := lines.map (.submit ·.line)

namespace Block

def events (b : Block) : List Event := submitted b.lines ++ [b.ending.event]

/-- The statement made of the lines of a block, unless they are discarded. -/
def statement? (b : Block) : Option LogicalStatement :=
  match b.ending with
  | .complete last => some ⟨joinLines (b.lines.map (·.line) ++ [last.line]), b.lines.length + 1⟩
  | .reset => none

/-- Nothing is completed before the end. -/
def outcomes (b : Block) : List (Option LogicalStatement) :=
  b.lines.map (fun _ => none) ++ [b.statement?]

end Block

/-- A history, cut where the assembler let go of its lines. -/
structure Partition where
  blocks : List Block
  pending : List Continued

namespace Partition

def events (p : Partition) : List Event := p.blocks.flatMap Block.events ++ submitted p.pending

def outcomes (p : Partition) : List (Option LogicalStatement) :=
  p.blocks.flatMap Block.outcomes ++ p.pending.map fun _ => none

end Partition

/-! ## Text and number apart -/

/-- The text and the number of the lines of a statement that is still open. -/
structure Draft where
  text : String := ""
  lines : Nat := 0

def Draft.react (d : Draft) : Event → Option LogicalStatement × Draft
  | .submit line =>
    let text := (if 0 < d.lines then d.text ++ "\n" else d.text) ++ line
    if isContinued line then (none, ⟨text, d.lines + 1⟩) else (some ⟨text, d.lines + 1⟩, {})
  | .reset => (none, {})

def draft (a : Assembler) : Draft := ⟨a.pendingText, a.pending.length⟩

theorem joinLines_concat (lines : List String) (line : String) : joinLines (lines ++ [line]) =
    (if 0 < lines.length then joinLines lines ++ "\n" else joinLines lines) ++ line := by
  unfold joinLines
  by_cases some : 0 < lines.length
  · have before : lines ≠ [] := List.length_pos_iff.mp some
    rw [if_pos some, String.intercalate_append_of_ne_nil before (List.cons_ne_nil _ _),
      String.intercalate_singleton]
  · have none : lines = [] := List.length_eq_zero_iff.mp (by omega)
    rw [if_neg some, none]
    simp

theorem react_draft (a : Assembler) (event : Event) :
    a.draft.react event = ((a.react event).1, (a.react event).2.draft) := by
  cases event with
  | reset => rfl
  | submit line =>
    have text := (joinLines_concat a.pending line).symm
    have number : a.pending.length + 1 = (a.pending ++ [line]).length := by simp
    unfold Draft.react react draft pendingText
    dsimp only
    rw [text, number]
    cases continued : isContinued line with
    | true =>
      rw [submit_continued a continued]
      rfl
    | false =>
      rw [submit_complete a continued]
      rfl

/-- Text and number stay in step. -/
theorem feed_draft (a : Assembler) (events : List Event) :
    feed Draft.react a.draft events = ((feed react a events).1, (feed react a events).2.draft) := by
  induction events generalizing a with
  | nil => rfl
  | cons event rest ih => simp only [feed, react_draft, ih]

/-! ## Histories -/

theorem feed_append {σ : Type} (react : σ → Event → Option LogicalStatement × σ) (s : σ)
    (xs ys : List Event) : feed react s (xs ++ ys) =
      ((feed react s xs).1 ++ (feed react (feed react s xs).2 ys).1,
        (feed react (feed react s xs).2 ys).2) := by
  induction xs generalizing s with
  | nil => rfl
  | cons event rest ih => simp only [List.cons_append, feed, ih]

theorem feed_submitted (a : Assembler) (lines : List Continued) :
    feed react a (submitted lines) = (lines.map fun _ => none, ⟨a.pending ++ lines.map (·.line)⟩) := by
  induction lines generalizing a with
  | nil => simp [submitted, feed]
  | cons line rest ih =>
    have first := submit_continued a line.marked
    unfold submitted at ih
    simp [submitted, feed, react, first, ih]

theorem feed_block (b : Block) : feed react {} b.events = (b.outcomes, {}) := by
  obtain ⟨lines, ending⟩ := b
  rw [Block.events, feed_append, feed_submitted]
  cases ending with
  | reset => rfl
  | complete last =>
    have completed := submit_complete ⟨lines.map (·.line)⟩ last.unmarked
    simp [feed, react, Ending.event, completed, Block.outcomes, Block.statement?]

theorem feed_blocks (blocks : List Block) :
    feed react {} (blocks.flatMap Block.events) = (blocks.flatMap Block.outcomes, {}) := by
  induction blocks with
  | nil => rfl
  | cons b rest ih => rw [List.flatMap_cons, feed_append, feed_block, ih, List.flatMap_cons]

theorem feed_partition (p : Partition) :
    feed react {} p.events = (p.outcomes, ⟨p.pending.map (·.line)⟩) := by
  rw [Partition.events, feed_append, feed_blocks, feed_submitted]
  rfl

theorem exists_events_eq (events : List Event) : ∃ p : Partition, p.events = events := by
  induction events using List.reverseRecOn with
  | nil => exact ⟨⟨[], []⟩, rfl⟩
  | append_singleton before event ih =>
    obtain ⟨⟨blocks, pending⟩, rfl⟩ := ih
    -- what ends a block ends the one that the pending lines began
    have ended (ending : Ending) :
        Partition.events ⟨blocks ++ [⟨pending, ending⟩], []⟩ =
          Partition.events ⟨blocks, pending⟩ ++ [ending.event] := by
      simp [Partition.events, Block.events, submitted]
    cases event with
    | reset => exact ⟨_, ended .reset⟩
    | submit line =>
      cases continued : isContinued line with
      | true => exact ⟨⟨blocks, pending ++ [⟨line, continued⟩]⟩, by simp [Partition.events, submitted]⟩
      | false => exact ⟨_, ended (.complete ⟨line, continued⟩)⟩

/-- The assembler keeps its lines through this event. -/
def Event.keeps : Event → Bool
  | .submit line => isContinued line
  | .reset => false

theorem keeps_of_mem_submitted {lines : List Continued} {event : Event}
    (mem : event ∈ submitted lines) : event.keeps = true := by
  obtain ⟨line, -, rfl⟩ := List.mem_map.mp mem
  exact line.marked

theorem Ending.keeps_event (ending : Ending) : ending.event.keeps = false := by
  cases ending with
  | complete last => exact last.unmarked
  | reset => rfl

theorem Ending.event_injective : Function.Injective Ending.event := by
  rintro (⟨line, _⟩ | _) (⟨other, _⟩ | _) same <;> cases same <;> rfl

theorem submitted_injective : Function.Injective submitted := by
  apply List.map_injective_iff.mpr
  rintro ⟨line, _⟩ ⟨other, _⟩ same
  cases same
  rfl

theorem takeWhile_keeps (lines : List Continued) (ending : Ending) (rest : List Event) :
    (submitted lines ++ ending.event :: rest).takeWhile Event.keeps = submitted lines := by
  rw [List.takeWhile_append_of_pos fun _ => keeps_of_mem_submitted,
    List.takeWhile_cons_of_neg (by simp [ending.keeps_event]), List.append_nil]

theorem dropWhile_keeps (lines : List Continued) (ending : Ending) (rest : List Event) :
    (submitted lines ++ ending.event :: rest).dropWhile Event.keeps = ending.event :: rest := by
  rw [List.dropWhile_append_of_pos fun _ => keeps_of_mem_submitted,
    List.dropWhile_cons_of_neg (by simp [ending.keeps_event])]

/-- Lines that are all kept do not end anything. -/
theorem submitted_ne (pending lines : List Continued) (ending : Ending) (rest : List Event) :
    submitted pending ≠ submitted lines ++ ending.event :: rest := by
  intro same
  have mem : ending.event ∈ submitted pending := by
    rw [same]
    exact List.mem_append_right _ List.mem_cons_self
  have keeps := keeps_of_mem_submitted mem
  rw [ending.keeps_event] at keeps
  cases keeps

theorem Partition.events_cons (b : Block) (rest : List Block) (pending : List Continued) :
    Partition.events ⟨b :: rest, pending⟩ =
      submitted b.lines ++ b.ending.event :: Partition.events ⟨rest, pending⟩ := by
  simp [Partition.events, Block.events]

/-- A history is cut in one way only: a block ends with the first event that ends one. -/
theorem Partition.events_injective : Function.Injective Partition.events := by
  rintro ⟨blocks, pending⟩ ⟨others, pending'⟩ same
  induction blocks generalizing others with
  | nil =>
    cases others with
    | nil => exact congrArg (Partition.mk []) (submitted_injective same)
    | cons b rest =>
      rw [events_cons] at same
      exact absurd same (submitted_ne _ _ _ _)
  | cons b rest ih =>
    cases others with
    | nil =>
      rw [events_cons] at same
      exact absurd same.symm (submitted_ne _ _ _ _)
    | cons b' rest' =>
      rw [events_cons, events_cons] at same
      have lines := congrArg (List.takeWhile Event.keeps) same
      have after := congrArg (List.dropWhile Event.keeps) same
      rw [takeWhile_keeps, takeWhile_keeps] at lines
      rw [dropWhile_keeps, dropWhile_keeps] at after
      obtain ⟨ending, later⟩ := List.cons.inj after
      have block : b = b' := by
        cases b
        cases b'
        exact congrArg₂ Block.mk (submitted_injective lines) (Ending.event_injective ending)
      cases ih rest' later
      rw [block]

/-- What the partition of a history says about the assembler. -/
structure Partition.Tells (p : Partition) (events : List Event) : Prop where
  covers : p.events = events
  only : ∀ q : Partition, q.events = events → q = p
  outcomes : (feed react {} events).1 = p.outcomes
  text : (feed react {} events).2.pendingText = joinLines (p.pending.map (·.line))
  buffering : (feed react {} events).2.isBuffering = true ↔ p.pending ≠ []
  /-- A text and a number that are brought up to date event by event say the same. -/
  inStep : feed Draft.react {} events =
    (p.outcomes, ⟨joinLines (p.pending.map (·.line)), p.pending.length⟩)

/-- Whatever lines are submitted, and whenever the assembler is reset, what is completed are the lines
in order, without those that are discarded or still pending. -/
theorem exists_partition (events : List Event) : ∃ p : Partition, p.Tells events := by
  obtain ⟨p, rfl⟩ := exists_events_eq events
  have fed := feed_partition p
  refine ⟨p, rfl, fun q same => Partition.events_injective same, ?_, ?_, ?_, ?_⟩
  · rw [fed]
  · rw [fed]
    rfl
  · rw [fed]
    simp [isBuffering]
  · have apart := feed_draft {} p.events
    rw [fed] at apart
    simpa [draft, pendingText, joinLines] using apart

example : (feed react {} [.submit "a\\", .submit "", .submit "b\\", .reset, .submit "c"]).1 =
    [none, some ⟨"a\\\n", 2⟩, none, none, some ⟨"c", 1⟩] := by
  decide +kernel

end ScriptSession.Assembler

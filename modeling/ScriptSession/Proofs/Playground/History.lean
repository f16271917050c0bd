import Mathlib.Data.List.Induction
import ScriptSession.Playground.App

/-!
# What the history of a playground says

The user's events come in any order with what the playground is told: that a run begins, what is asked,
that the run is finished. The history alone tells which dialog is open and what was typed into it
(`opening?`), whether a run is underway and which status stands there (`agrees_after`).

An answer closes the dialog but leaves the status; `status_tells_dialog` says in which histories the two
still go together.
-/
namespace ScriptSession.Playground

/-- What happens to the playground. -/
inductive Occurrence where
  | event (event : UserEvent)
  | began (text : String)
  | requested (request : Option ActiveRequest)
  | finished (result : Except SessionError Evaluation) (stats : Stats)

namespace Occurrence

/-- Enter is pressed; in a dialog this is the answer. -/
def submits : Occurrence → Bool
  | event (.key .enter _ .press) => true
  | _ => false

def begins : Occurrence → Bool
  | began _ => true
  | _ => false

/-- What a key adds to a line or takes off it. -/
def type (line : String) : Occurrence → String
  | event (.key (.char c) false .press) => line.push c
  | event (.key .backspace _ .press) => String.ofList line.toList.dropLast
  | _ => line

end Occurrence

def Dialog.typing (d : Dialog) (x : Occurrence) : Dialog := { d with input := x.type d.input }

def App.next (a : App) : Occurrence → App
  | .event e => (a.handle e).2
  | .began text => a.beginRun text
  | .requested request => a.setRequest request
  | .finished result stats => (a.finishRun result stats).2

def App.after (a : App) (past : List Occurrence) : App := past.foldl App.next a

/-! ## Histories -/

/-- A request that opened a dialog, and what has happened since. -/
structure Opening where
  request : ActiveRequest
  later : List Occurrence := []

namespace Opening

def isOpen (o : Opening) : Bool := !o.later.any (·.submits)

def typed (o : Opening) : String := o.later.foldl Occurrence.type ""

/-- The dialog, unless its answer was given. -/
def dialog? (o : Opening) : Option Dialog :=
  if o.isOpen then some ⟨o.request.id, o.request.prompt, o.typed⟩ else none

/-- What the status says about it while a run is underway. -/
def status (o : Opening) : Status := if o.later.any (·.begins) then .running else .waiting

def record (o : Opening) (x : Occurrence) : Opening := { o with later := o.later ++ [x] }

end Opening

/-- A request that is shown already opens no other dialog. With none open, it changes nothing that nobody
asks any more. -/
def Opening.next (o : Option Opening) : Occurrence → Option Opening
  | .requested (some r) =>
    if o.any fun o => o.isOpen && o.request.id == r.id then o.map (·.record (.requested r))
    else some { request := r }
  | .requested none => if o.any (·.isOpen) then none else o.map (·.record (.requested none))
  | .finished _ _ => none
  | x => o.map (·.record x)

/-- The last dialog that was opened, unless it was closed by what the playground was told. -/
def opening? (past : List Occurrence) : Option Opening := past.foldl Opening.next none

def underwayNext (on : Bool) : Occurrence → Bool
  | .began _ => true
  | .finished _ _ => false
  | .event _ | .requested _ => on

/-- A run has begun and is not finished. -/
def underway (past : List Occurrence) : Bool := past.foldl underwayNext false

namespace Opening

variable {o : Opening} {x : Occurrence}

theorem isOpen_record (o : Opening) (x : Occurrence) :
    (o.record x).isOpen = (o.isOpen && !x.submits) := by
  simp [isOpen, record, List.any_append]

theorem typed_record (o : Opening) (x : Occurrence) : (o.record x).typed = x.type o.typed := by
  rw [typed, record, List.foldl_append]
  rfl

theorem status_record (o : Opening) (x : Occurrence) :
    (o.record x).status = if x.begins then .running else o.status := by
  cases begun : x.begins <;> simp [status, record, List.any_append, begun]

/-- What becomes of its dialog. -/
theorem dialog_record (o : Opening) (x : Occurrence) : (o.record x).dialog? =
    if x.submits then none else o.dialog?.map (·.typing x) := by
  unfold dialog?
  rw [isOpen_record, typed_record]
  cases open_ : o.isOpen <;> cases x.submits <;> rfl

theorem isFor_eq (o : Option Opening) (id : Nat) :
    (o.any fun o => o.isOpen && o.request.id == id) =
      (o.bind Opening.dialog?).any (·.request == id) := by
  cases o with
  | none => rfl
  | some o =>
    simp only [Option.any_some, Option.bind_some, dialog?]
    cases o.isOpen <;> rfl

theorem isOpen_eq (o : Option Opening) : o.any (·.isOpen) = (o.bind Opening.dialog?).isSome := by
  cases o with
  | none => rfl
  | some o =>
    simp only [Option.any_some, Option.bind_some, dialog?]
    cases o.isOpen <;> rfl

end Opening

/-! ## Events -/

namespace App

variable {a : App}

/-- Keys with Control change nothing in a dialog. -/
theorem pressInDialog_control {d : Dialog} (there : a.dialog = some d) (c : Char) :
    ∃ action, (action = .nothing ∨ action = .quit ∨ action = .abort) ∧
      a.pressInDialog d (.char c) true = (action, a) := by
  have same : { a with dialog := some d } = a := by rw [← there]
  by_cases quits : c = 'q'
  · subst quits
    exact ⟨.quit, .inr (.inl rfl), rfl⟩
  by_cases aborts : c = 'r'
  · subst aborts
    exact ⟨.abort, .inr (.inr rfl), rfl⟩
  by_cases dismisses : c = 'c'
  · subst dismisses
    exact ⟨.abort, .inr (.inr rfl), rfl⟩
  · refine ⟨.nothing, .inl rfl, ?_⟩
    have stays : d.press (.char c) true = .editing d := if_neg dismisses
    unfold pressInDialog
    rw [stays]
    simp only [Bool.true_and, decide_eq_true_eq, Key.char.injEq]
    rw [if_neg quits, if_neg aborts, same]

/-- In a dialog Enter submits what was typed. Every other key stays in the dialog. -/
theorem pressInDialog_cases {d : Dialog} (there : a.dialog = some d) (key : Key) (control : Bool) :
    key = .enter ∧ a.pressInDialog d key control = (.answer d.input, { a with dialog := none }) ∨
    key ≠ .enter ∧ ∃ action, (action = .nothing ∨ action = .quit ∨ action = .abort) ∧
      a.pressInDialog d key control =
        (action, { a with dialog := some (d.typing (.event (.key key control .press))) }) := by
  have same : { a with dialog := some d } = a := by rw [← there]
  cases key with
  | enter => exact .inl ⟨rfl, by cases control <;> rfl⟩
  | char c =>
    refine .inr ⟨nofun, ?_⟩
    cases control with
    | false => exact ⟨.nothing, .inl rfl, rfl⟩
    | true =>
      obtain ⟨action, quiet, left⟩ := pressInDialog_control there c
      exact ⟨action, quiet, left.trans (congrArg (action, ·) same.symm)⟩
  | escape =>
    refine .inr ⟨nofun, .abort, .inr (.inr rfl), ?_⟩
    cases control <;> exact congrArg (Action.abort, ·) same.symm
  | _ => exact .inr ⟨nofun, .nothing, .inl rfl, by cases control <;> rfl⟩

/-- A key outside of dialogs changes the editor or the transcript at most. -/
theorem pressInEditor_shape (a : App) (key : Key) (control : Bool) : ∃ editor transcript,
    (a.pressInEditor key control).2 = { a with editor := editor, transcript := transcript } := by
  unfold pressInEditor
  split <;> first
    | exact ⟨_, _, rfl⟩
    | split <;> exact ⟨_, _, rfl⟩

/-- What neither submits nor types leaves a dialog as it is. -/
theorem dialog_quiet {x : Occurrence} (stays : x.submits = false) (same : ∀ line, x.type line = line)
    (d : Option Dialog) : (if x.submits then none else d.map (·.typing x)) = d := by
  rw [stays, if_neg Bool.false_ne_true]
  simp [Dialog.typing, same]

theorem press_shape (a : App) (key : Key) (control : Bool) : ∃ editor transcript,
    (a.press key control).2 = { a with
      editor := editor
      transcript := transcript
      dialog := if (Occurrence.event (.key key control .press)).submits then none
        else a.dialog.map (·.typing (.event (.key key control .press))) } := by
  unfold press
  cases there : a.dialog with
  | none =>
    obtain ⟨editor, transcript, left⟩ := pressInEditor_shape a key control
    refine ⟨editor, transcript, left.trans ?_⟩
    rw [there, Option.map_none, ite_self]
  | some d =>
    refine ⟨a.editor, a.transcript, ?_⟩
    dsimp only
    rcases pressInDialog_cases there key control with ⟨rfl, left⟩ | ⟨other, action, -, left⟩
    · rw [left]
      rfl
    · have stays : (Occurrence.event (.key key control .press)).submits = false := by
        cases key <;> first | rfl | exact absurd rfl other
      rw [left, stays]
      rfl

/-- What an event leaves of a dialog, and what it leaves alone. -/
theorem handle_shape (a : App) (e : UserEvent) : ∃ editor transcript,
    (a.handle e).2 = { a with
      editor := editor
      transcript := transcript
      dialog := if (Occurrence.event e).submits then none else a.dialog.map (·.typing (.event e)) } := by
  cases e with
  | key key control kind =>
    cases kind with
    | press => exact a.press_shape key control
    | release | repeated =>
      refine ⟨a.editor, a.transcript, ?_⟩
      rw [dialog_quiet (by cases key <;> rfl) fun line => by cases key <;> cases control <;> rfl]
      rfl
  | scrollUp =>
    refine ⟨a.editor, a.transcript.scrollUp 3, ?_⟩
    rw [dialog_quiet rfl fun _ => rfl]
    rfl
  | scrollDown =>
    refine ⟨a.editor, a.transcript.scrollDown 3, ?_⟩
    rw [dialog_quiet rfl fun _ => rfl]
    rfl
  | other =>
    refine ⟨a.editor, a.transcript, ?_⟩
    rw [dialog_quiet rfl fun _ => rfl]
    rfl

theorem finishRun_fields (a : App) (result : Except SessionError Evaluation) (stats : Stats) :
    (a.finishRun result stats).2.running = false ∧ (a.finishRun result stats).2.dialog = none := by
  cases result with
  | ok evaluation =>
    simp only [finishRun]
    split <;> split <;> exact ⟨rfl, rfl⟩
  | error error => cases error <;> exact ⟨rfl, rfl⟩

end App

/-! ## What the history says -/

/-- The playground is as its history says. -/
structure Agrees (a : App) (on : Bool) (o : Option Opening) : Prop where
  running : a.running = on
  dialog : a.dialog = o.bind Opening.dialog?
  status : on = true → a.status = o.elim .running Opening.status

namespace Agrees

variable {a b : App} {on on' : Bool} {o : Option Opening} {x : Occurrence}

/-- Something happens that neither opens a dialog nor takes one away. -/
theorem record (h : Agrees a on o) (running : b.running = on')
    (dialog : b.dialog = if x.submits then none else a.dialog.map (·.typing x))
    (status : x.begins = true ∧ b.status = .running ∨
      x.begins = false ∧ b.status = a.status ∧ on' = on) : Agrees b on' (o.map (·.record x)) where
  running := running
  dialog := by
    rw [dialog, h.dialog]
    cases o with
    | none => exact ite_self none
    | some o => exact (o.dialog_record x).symm
  status run := by
    rcases status with ⟨begins, now⟩ | ⟨quiet, same, still⟩
    · rw [now]
      cases o with
      | none => rfl
      | some o => simp [Opening.status_record, begins]
    · rw [same, h.status (still ▸ run)]
      cases o with
      | none => rfl
      | some o => simp [Opening.status_record, quiet]

theorem event (h : Agrees a on o) (e : UserEvent) :
    Agrees (a.handle e).2 on (o.map (·.record (.event e))) := by
  obtain ⟨editor, transcript, left⟩ := a.handle_shape e
  rw [left]
  exact h.record h.running rfl (.inr ⟨rfl, rfl, rfl⟩)

theorem began (h : Agrees a on o) (text : String) :
    Agrees (a.beginRun text) true (o.map (·.record (.began text))) := by
  have same : (a.beginRun text).dialog = a.dialog := by simp only [App.beginRun]
  refine h.record (b := a.beginRun text) rfl ?_ (.inl ⟨rfl, rfl⟩)
  exact same.trans (congrFun Option.map_id a.dialog).symm

theorem requested (h : Agrees a on o) (r : Option ActiveRequest) :
    Agrees (a.setRequest r) on (Opening.next o (.requested r)) := by
  have still : Agrees a on (o.map (·.record (.requested r))) :=
    h.record h.running (congrFun Option.map_id a.dialog).symm (.inr ⟨rfl, rfl, rfl⟩)
  cases r with
  | some r =>
    simp only [App.setRequest, Opening.next, Opening.isFor_eq, ← h.dialog]
    split
    · exact still
    · exact ⟨h.running, rfl, fun _ => rfl⟩
  | none =>
    simp only [App.setRequest, Opening.next, Opening.isOpen_eq, ← h.dialog]
    split
    · exact ⟨h.running, rfl, fun _ => rfl⟩
    · exact still

theorem next (h : Agrees a on o) (x : Occurrence) :
    Agrees (a.next x) (underwayNext on x) (Opening.next o x) := by
  cases x with
  | event e => exact h.event e
  | began text => exact h.began text
  | requested r => exact h.requested r
  | finished result stats =>
    obtain ⟨running, dialog⟩ := a.finishRun_fields result stats
    exact ⟨running, dialog, nofun⟩

end Agrees

theorem agrees_after (source : String) (past : List Occurrence) :
    Agrees ((App.ofSource source).after past) (underway past) (opening? past) := by
  induction past using List.reverseRecOn with
  | nil => exact ⟨rfl, rfl, nofun⟩
  | append_singleton past x ih =>
    unfold App.after underway opening?
    simp only [List.foldl_append, List.foldl_cons, List.foldl_nil]
    exact ih.next x

/-! ## The status -/

namespace Opening

variable (o : Opening)

theorem status_text : o.status.text = "Waiting for input" ∨ o.status.text = "Running" := by
  unfold status
  split
  · exact .inr rfl
  · exact .inl rfl

theorem waits_iff : o.status.text = "Waiting for input" ↔ o.later.any (·.begins) = false := by
  cases begun : o.later.any (·.begins) <;> simp [status, begun, Status.text]

theorem dialog_ne_none : o.dialog? ≠ none ↔ o.later.any (·.submits) = false := by
  cases submitted : o.later.any (·.submits) <;> simp [dialog?, isOpen, submitted]

end Opening

/-- While a run is underway the status says that it waits for input exactly if no run began behind the
last dialog that was opened. Whether that dialog is still there is another matter: an answer closes it, and
leaves the status. So the status and the dialog go together exactly if both an answer and the start of a
run came behind it, or neither. -/
theorem status_tells_dialog (source : String) (past : List Occurrence)
    (running : ((App.ofSource source).after past).running = true) :
    (((App.ofSource source).after past).status.text = "Waiting for input" ∨
      ((App.ofSource source).after past).status.text = "Running") ∧
    (((App.ofSource source).after past).status.text = "Waiting for input" ↔
      ∃ o, opening? past = some o ∧ o.later.any (·.begins) = false) ∧
    (((App.ofSource source).after past).dialog ≠ none ↔
      ∃ o, opening? past = some o ∧ o.later.any (·.submits) = false) ∧
    ((((App.ofSource source).after past).status.text = "Waiting for input" ↔
        ((App.ofSource source).after past).dialog ≠ none) ↔
      ∀ o, opening? past = some o → o.later.any (·.submits) = o.later.any (·.begins)) := by
  obtain ⟨run, dialog, status⟩ := agrees_after source past
  have status := status (run ▸ running)
  rw [dialog, status]
  cases opening? past with
  | none => simp [Status.text]
  | some o =>
    simp only [Option.elim_some, Option.bind_some, Option.some.injEq, exists_eq_left', forall_eq']
    refine ⟨o.status_text, o.waits_iff, o.dialog_ne_none, ?_⟩
    rw [o.waits_iff, o.dialog_ne_none]
    cases o.later.any (·.submits) <;> cases o.later.any (·.begins) <;> simp

/-- Requests come only while a run is underway. -/
def asksInRuns (on : Bool) : List Occurrence → Bool
  | [] => true
  | .requested _ :: rest => on && asksInRuns on rest
  | x :: rest => asksInRuns (underwayNext on x) rest

/-- The script asks, the user answers, and nobody asks any more. -/
def answeredRequest : List Occurrence :=
  [.began "readline", .requested (some ⟨0, "? "⟩), .event (.key .enter false .press),
    .requested none]

theorem status_of_answered_request :
    ((App.ofSource "").after answeredRequest).running = true ∧
    (∃ o, opening? answeredRequest = some o ∧ o.later.any (·.begins) = false) ∧
    ((App.ofSource "").after answeredRequest).dialog = none := by
  have running : ((App.ofSource "").after answeredRequest).running = true := by decide
  obtain ⟨-, waits, closed, -⟩ := status_tells_dialog "" answeredRequest running
  refine ⟨running, waits.mp (by decide), ?_⟩
  by_contra dialog
  obtain ⟨o, opened, unanswered⟩ := closed.mp dialog
  cases opened
  exact absurd unanswered (by decide)

/-- The run goes on, and its status says that it waits for input, in no dialog. -/
theorem waits_in_no_dialog : ¬ ∀ source past, asksInRuns false past = true →
    ((App.ofSource source).after past).running = true →
    (((App.ofSource source).after past).status.text = "Waiting for input" ↔
      ((App.ofSource source).after past).dialog ≠ none) := by
  intro together
  have dialog := (together "" answeredRequest (by decide) (by decide)).mp (by decide)
  exact dialog (by decide)

end ScriptSession.Playground

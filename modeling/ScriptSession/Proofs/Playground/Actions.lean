import ScriptSession.Proofs.Playground.History

/-!
# What the user's events give

A run is started from the editor and an answer comes from a dialog, never the other way round
(`App.run_iff`, `App.answer_iff`). With the history of the dialog this says which text is answered
(`actions_of_history`): what was typed since the dialog was opened, whatever came in between.
-/
namespace ScriptSession.Playground

namespace App

variable {a : App} {text : String}

theorem runAction_eq_run :
    a.runAction = .run text ↔
      a.running = false ∧ a.editor.isBlank = false ∧ text = a.editor.text := by
  unfold runAction
  cases a.running <;> cases a.editor.isBlank <;> simp [eq_comm]

/-- Outside of dialogs one key may start a run, and none answers. -/
theorem pressInEditor_cases (a : App) (key : Key) (control : Bool) :
    key = .char 'r' ∧ control = true ∧ (a.pressInEditor key control).1 = a.runAction ∨
    ¬ (key = .char 'r' ∧ control = true) ∧ ((a.pressInEditor key control).1 = .nothing ∨
      (a.pressInEditor key control).1 = .quit ∨ (a.pressInEditor key control).1 = .abort) := by
  by_cases starts : key = .char 'r' ∧ control = true
  · obtain ⟨rfl, rfl⟩ := starts
    exact .inl ⟨rfl, rfl, rfl⟩
  · refine .inr ⟨starts, ?_⟩
    unfold pressInEditor
    split
    · split <;> simp
    · rename_i r
      have plain : control = false := Bool.eq_false_iff.mpr fun held => starts ⟨rfl, held⟩
      simp [plain]
    · split <;> simp
    · split <;> simp
    · split <;> simp
    · exact .inl rfl
    · exact .inl rfl
    · exact .inl rfl

/-- A run is started where neither a run nor a dialog is in the way. -/
theorem run_iff (a : App) (e : UserEvent) (text : String) :
    (a.handle e).1 = .run text ↔ e = .key (.char 'r') true .press ∧ a.dialog = none ∧
      a.running = false ∧ a.editor.isBlank = false ∧ text = a.editor.text := by
  rcases e with ⟨key, control, kind⟩ | _ | _ | _
  · cases kind with
    | press =>
      unfold handle press
      cases there : a.dialog with
      | some d =>
        rcases pressInDialog_cases there key control with ⟨rfl, left⟩ | ⟨-, action, other, left⟩
        · simp [left]
        · rcases other with rfl | rfl | rfl <;> simp [left]
      | none =>
        rcases pressInEditor_cases a key control with ⟨rfl, rfl, left⟩ | ⟨other, left⟩
        · simp [left, runAction_eq_run]
        · have no : ¬ UserEvent.key key control .press = .key (.char 'r') true .press := by
            simpa using other
          rcases left with left | left | left <;> simp [left, no]
    | release | repeated => simp [handle]
  all_goals simp [handle]

/-- An answer comes from a dialog, which it closes. -/
theorem answer_iff (a : App) (e : UserEvent) (text : String) :
    (a.handle e).1 = .answer text ↔ (∃ control, e = .key .enter control .press) ∧
      ∃ d, a.dialog = some d ∧ text = d.input := by
  rcases e with ⟨key, control, kind⟩ | _ | _ | _
  · cases kind with
    | press =>
      unfold handle press
      cases there : a.dialog with
      | some d =>
        rcases pressInDialog_cases there key control with ⟨rfl, left⟩ | ⟨other, action, silent, left⟩
        · simp [left, eq_comm]
        · rcases silent with rfl | rfl | rfl <;> simp [left, other]
      | none =>
        rcases pressInEditor_cases a key control with ⟨rfl, rfl, left⟩ | ⟨-, left⟩
        · simp only [left, runAction]
          cases a.running <;> cases a.editor.isBlank <;> simp
        · rcases left with left | left | left <;> simp [left]
    | release | repeated => simp [handle]
  all_goals simp [handle]

/-- While a dialog is open the editor and the transcript get no key. -/
theorem key_in_dialog {d : Dialog} (there : a.dialog = some d) (key : Key) (control : Bool)
    (kind : KeyKind) : (a.handle (.key key control kind)).2.editor = a.editor ∧
      (a.handle (.key key control kind)).2.transcript = a.transcript := by
  cases kind with
  | press =>
    simp only [handle, press, there]
    rcases pressInDialog_cases there key control with ⟨-, left⟩ | ⟨-, action, -, left⟩
    · rw [left]
      exact ⟨rfl, rfl⟩
    · rw [left]
      exact ⟨rfl, rfl⟩
  | release | repeated => exact ⟨rfl, rfl⟩

/-- A request that is shown already leaves its dialog, and another one opens an empty one. -/
theorem request_in_dialog {d : Dialog} (there : a.dialog = some d) (r : ActiveRequest) :
    (a.setRequest (some r)).dialog =
      if d.request = r.id then some d else some { request := r.id, prompt := r.prompt } := by
  simp only [setRequest, there, Option.any_some, beq_iff_eq]
  split
  · exact there
  · rfl

end App

/-- Whatever has happened to a playground: a run is started only where none is underway and no dialog is
open, with the text in the editor, which is not blank. An answer is given only in an open dialog, which it
closes, and it is what was typed since the dialog was opened. While a dialog is open no key touches the
editor or the transcript. What was typed stays if the same request is told again, and another request
starts empty. -/
theorem actions_of_history (source : String) (past : List Occurrence) :
    (∀ e text, (((App.ofSource source).after past).handle e).1 = .run text ↔
      e = .key (.char 'r') true .press ∧ ((App.ofSource source).after past).dialog = none ∧
      underway past = false ∧ ((App.ofSource source).after past).editor.isBlank = false ∧
      text = ((App.ofSource source).after past).editor.text) ∧
    (((App.ofSource source).after past).dialog = (opening? past).bind Opening.dialog? ∧
      ((App.ofSource source).after past).running = underway past) ∧
    (∀ e text, (((App.ofSource source).after past).handle e).1 = .answer text ↔
      (∃ control, e = .key .enter control .press) ∧
      ∃ o, opening? past = some o ∧ o.isOpen = true ∧ text = o.typed) ∧
    (∀ e text, (((App.ofSource source).after past).handle e).1 = .answer text →
      (((App.ofSource source).after past).handle e).2.dialog = none) ∧
    (∀ key control kind, ((App.ofSource source).after past).dialog ≠ none →
      (((App.ofSource source).after past).handle (.key key control kind)).2.editor =
        ((App.ofSource source).after past).editor ∧
      (((App.ofSource source).after past).handle (.key key control kind)).2.transcript =
        ((App.ofSource source).after past).transcript) ∧
    (∀ d r, ((App.ofSource source).after past).dialog = some d →
      (((App.ofSource source).after past).setRequest (some r)).dialog =
        if d.request = r.id then some d else some { request := r.id, prompt := r.prompt }) := by
  obtain ⟨running, dialog, -⟩ := agrees_after source past
  refine ⟨fun e text => ?_, ⟨dialog, running⟩, fun e text => ?_, fun e text answers => ?_,
    fun key control kind open_ => ?_, fun d r there => App.request_in_dialog there r⟩
  · rw [App.run_iff, running]
  · rw [App.answer_iff, dialog]
    refine and_congr_right fun _ => ?_
    cases opening? past with
    | none => simp
    | some o => cases isOpen : o.isOpen <;> simp [Opening.dialog?, isOpen]
  · obtain ⟨⟨control, rfl⟩, -⟩ := (App.answer_iff ..).mp answers
    obtain ⟨editor, transcript, left⟩ := App.handle_shape ((App.ofSource source).after past)
      (.key .enter control .press)
    rw [left]
    rfl
  · obtain ⟨d, there⟩ := Option.ne_none_iff_exists'.mp open_
    exact App.key_in_dialog there key control kind

/-- An answer that is corrected while the request is told once more. -/
def correctedAnswer : List Occurrence :=
  [.began "readline", .requested (some ⟨0, "? "⟩), .event (.key (.char 'a') false .press),
    .event (.key (.char 'x') false .press), .requested (some ⟨0, "? "⟩),
    .event (.key .backspace false .press), .event (.key (.char 'd') false .press)]

theorem corrected_answer_given :
    (((App.ofSource "print 1").after correctedAnswer).handle (.key .enter false .press)).1 =
      .answer "ad" := by
  obtain ⟨-, -, answers, -⟩ := actions_of_history "print 1" correctedAnswer
  exact (answers (.key .enter false .press) "ad").mpr ⟨⟨false, rfl⟩, _, rfl, rfl, by decide⟩

end ScriptSession.Playground

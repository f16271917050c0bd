import ScriptSession.Proofs.Script.Parametric
import ScriptSession.Proofs.Script.Places
import ScriptSession.Proofs.Session.Assembly
import ScriptSession.Proofs.Session.Operations

/-!
# Line by line, or all at once

Lines can be submitted one by one, each logical statement being evaluated as soon as it is complete
(`Session.feed`), or put one below the other and evaluated as one text. With the same answers both
ways say the same, and leave the same bindings, apart from places: what is at a place in a logical
statement stands further down in the whole text (`lines_agree_with_text`).

Submitting lines is evaluating the statements of each text that they complete, one text after another
(`feed_fresh`). The session that does so keeps up with the one run of all statements
(`Session.Follows`): at every text the desk is the same for both, their environments are alike, and the
run has produced what the evaluations so far have produced.

Which statement a reported place comes from shows in how it moves when the texts are put elsewhere
(`Session.ReportsFrom`). They can be put so far apart that a place tells its text, and what holds of
the lines holds of the texts wherever they stand.
-/
namespace ScriptSession

variable {R : Span → Span → Prop}

/-! ## What evaluations tell -/

def firstError (logs : List Diagnostic) : Option Diagnostic := logs.find? (·.isError)

structure Diagnostic.Like (R : Span → Span → Prop) (d d' : Diagnostic) : Prop where
  severity : d.severity = d'.severity
  message : d.message = d'.message
  range : Option.Rel R d.range d'.range

/-- The error that an evaluation with this end reports. -/
def Finish.error? : Finish → Option Diagnostic
  | .failed message range => some (.error message range)
  | _ => none

theorem Finish.Like.error? {finish finish' : Finish} (h : finish.Like R finish') :
    Option.Rel (Diagnostic.Like R) finish.error? finish'.error? := by
  cases h with
  | failed ranges => exact .some ⟨rfl, rfl, ranges⟩
  | _ => exact .none

theorem Finish.Like.sound {finish finish' : Finish} (h : finish.Like R finish') :
    ∀ chain, finish' ≠ .crashed chain := by
  cases h <;> nofun

/-- Errors that are alike are at places that are alike, or both at none. -/
theorem range_like {error error' : Option Diagnostic}
    (h : Option.Rel (Diagnostic.Like R) error error') :
    Option.Rel R (error.bind (·.range)) (error'.bind (·.range)) := by
  cases h with
  | some like => exact like.range
  | none => exact .none

theorem firstError_eq_none {logs : List Diagnostic} (harmless : hasErrors logs = false) :
    firstError logs = none := by
  refine List.find?_eq_none.mpr ?_
  intro entry mem error
  have some : hasErrors logs = true := List.any_eq_true.mpr ⟨entry, mem, error⟩
  rw [harmless] at some
  cases some

/-- The evaluation of statements that produced these fragments and ended so. -/
structure Evaluation.Tells (e : Evaluation) (fragments : List Fragment) (finish : Finish) : Prop where
  fragments : e.fragments = fragments
  firstError : firstError e.logs = finish.error?
  shouldExit : e.shouldExit = decide (finish = .exited)
  goesOn : (e.isSuccess && !e.shouldExit) = decide (finish = .completed)

theorem conclude_tells {finish : Finish} (sound : ∀ chain, finish ≠ .crashed chain)
    (collected : Collected) {warnings : List Diagnostic} (harmless : hasErrors warnings = false) :
    ∃ e, (Session.conclude {} finish collected warnings).1 = .ok e ∧
      e.Tells collected.fragments finish := by
  have none := firstError_eq_none harmless
  cases finish with
  | completed =>
    refine ⟨_, rfl, rfl, none, rfl, ?_⟩
    simp [Evaluation.isSuccess, Evaluation.hasErrors, Journal.addAll, harmless]
  | exited => exact ⟨_, rfl, rfl, none, rfl, by simp⟩
  | failed => exact ⟨_, rfl, rfl, rfl, rfl, rfl⟩
  | cancelled => exact ⟨_, rfl, rfl, rfl, rfl, rfl⟩
  | crashed chain => exact absurd rfl (sound chain)

/-- Evaluations one after another that tell what one evaluation with this end would tell. -/
structure Told (R : Span → Span → Prop) (evaluations : List Evaluation) (finish : Finish) : Prop where
  firstError : Option.Rel (Diagnostic.Like R) (firstError (evaluations.flatMap (·.logs))) finish.error?
  exits : evaluations.any (·.shouldExit) = decide (finish = .exited)
  sound : ∀ chain, finish ≠ .crashed chain

theorem told_nil : Told R [] .completed := ⟨.none, rfl, nofun⟩

theorem Evaluation.Tells.told {e : Evaluation} {fragments : List Fragment} {finish finish' : Finish}
    (h : e.Tells fragments finish) (like : finish.Like R finish') : Told R [e] finish' := by
  have single : [e].flatMap (·.logs) = e.logs := by simp
  refine ⟨?_, ?_, like.sound⟩
  · rw [single, h.firstError]
    exact like.error?
  · rw [List.any_cons, List.any_nil, Bool.or_false, h.shouldExit]
    cases like <;> rfl

theorem Told.cons {e : Evaluation} {fragments : List Fragment} {evaluations : List Evaluation}
    {finish : Finish} (first : e.Tells fragments .completed) (rest : Told R evaluations finish) :
    Told R (e :: evaluations) finish := by
  have none : e.logs.find? (·.isError) = none := first.firstError
  refine ⟨?_, ?_, rest.sound⟩
  · rw [List.flatMap_cons, ScriptSession.firstError, List.find?_append, none]
    exact rest.firstError
  · rw [List.any_cons, first.shouldExit]
    exact rest.exits

/-- What the evaluations that gave a result have logged. -/
def entries (results : List (Option (Except SessionError Evaluation))) : List Diagnostic :=
  results.flatMap fun
    | some (.ok e) => e.logs
    | _ => []

/-- The place of the first error, if it is at one. -/
def errorPlace (results : List (Option (Except SessionError Evaluation))) : Option Span :=
  (firstError (entries results)).bind (·.range)

theorem entries_map (evaluations : List Evaluation) :
    entries (evaluations.map fun e => some (.ok e)) = evaluations.flatMap (·.logs) := by
  rw [entries, List.flatMap_map]

/-! ## Submitting lines -/

/-- Whether the next line is submitted after an evaluation. -/
def goesOn : Option (Except SessionError Evaluation) → Bool
  | some (.ok e) => e.isSuccess && !e.shouldExit
  | _ => false

structure Fed (B : Backend) (ω : Type) where
  results : List (Option (Except SessionError Evaluation))
  policyState : ω
  session : Session B

/-- Two ways to submit that gave the same and left the same environment. -/
structure SameFed {B : Backend} {ω : Type} (fed fed' : Fed B ω) : Prop where
  results : fed.results = fed'.results
  schedule : fed.policyState = fed'.policyState
  environment : fed.session.environment = fed'.session.environment

/-- Submits lines one by one, up to the first evaluation that does not succeed or ends the session. -/
def Session.feed {B : Backend} {ω : Type} (policy : Policy ω) (s : Session B) (w : ω) :
    List String → Fed B ω
  | [] => ⟨[], w, s⟩
  | line :: rest =>
    match s.submit policy w line with
    | (.continuation, w, s) => feed policy s w rest
    | (.evaluated result, w, s) =>
      if goesOn result then
        let fed := feed policy s w rest
        { fed with results := result :: fed.results }
      else ⟨[result], w, s⟩

/-- Evaluates statements, whatever text they are from. -/
def Session.evaluateStatements {B : Backend} {ω : Type} (policy : Policy ω) (s : Session B) (w : ω)
    (statements : List B.Statement) : Evaluated B ω :=
  let started := s.launch none statements
  let (ending, live, w) := started.process.play policy started.live w
  let (result, session) := settle started ending live
  { session := session, result := result, unread := live.unread, policyState := w }

/-- Evaluates the statements of some texts, one text after another, up to the first evaluation that
does not succeed or ends the session. -/
def Session.evaluateEach {B : Backend} {ω : Type} (policy : Policy ω) (s : Session B) (w : ω) :
    List (List B.Statement) → Fed B ω
  | [] => ⟨[], w, s⟩
  | statements :: rest =>
    let done := s.evaluateStatements policy w statements
    if goesOn done.result then
      let fed := evaluateEach policy done.session done.policyState rest
      { fed with results := done.result :: fed.results }
    else ⟨[done.result], done.policyState, done.session⟩

namespace Session

variable {B : Backend}

/-- The session is where a run is that has produced something before: the next evaluation finds the
same desk and works under the same token. -/
structure Follows (s : Session B) (live : Live) (before : List Fragment) : Prop where
  running : s.state ≠ .exited
  desk : s.desk = live.desk
  token : s.desk.currentToken 0 = live.token
  kept : live.Keeps s.console.installed before

/-- The statements of a text are about to run. -/
structure Starts (s : Session B) (statements : List B.Statement) (started : Started B) : Prop where
  process : started.process = B.run statements s.environment
  follows : s.Follows started.live []
  scope : started.scope = s.console.installed.length + 1
  journal : started.session.journal = {}

theorem launch_starts {s : Session B} (running : s.state ≠ .exited)
    (statements : List B.Statement) : s.Starts statements (s.launch none statements) where
  process := rfl
  follows := by
    refine ⟨running, rfl, rfl, rfl, ⟨{}, ?_, rfl⟩, rfl⟩
    simp [launch, Console.addCollector, Console.capture, Console.collector?]
  scope := rfl
  journal := rfl

/-- What the session is after an evaluation that ended so. -/
structure Leaves (s after : Session B) (ending : Ending B.Environment) (live : Live) : Prop where
  environment : after.environment = ending.state
  desk : after.desk = live.desk
  installed : after.console.installed = s.console.installed
  running : ∀ env, ending = .finished env .completed → after.state ≠ .exited

theorem settle_leaves {s : Session B} {statements : List B.Statement} {started : Started B}
    (starts : s.Starts statements started) {live : Live} {fragments : List Fragment}
    (kept : live.Keeps s.console.installed fragments) (ending : Ending B.Environment) :
    s.Leaves (settle started ending live).2 ending live := by
  have installed : ((live.console.release started.scope).finish live.collector).2.installed =
      s.console.installed := by
    simp [Console.finish, Console.release, Console.depth, kept.installed, starts.scope]
  cases ending with
  | finished env finish =>
    refine ⟨rfl, rfl, installed, ?_⟩
    rintro env completed
    cases completed
    rintro ⟨⟩
  | givenUp env =>
    refine ⟨rfl, rfl, installed, ?_⟩
    rintro _ ⟨⟩

theorem settle_tells {s : Session B} {statements : List B.Statement} {started : Started B}
    (starts : s.Starts statements started) {live : Live} {fragments : List Fragment}
    (kept : live.Keeps s.console.installed fragments) (env : B.Environment) {finish : Finish}
    (sound : ∀ chain, finish ≠ .crashed chain) :
    ∃ e, (settle started (.finished env finish) live).1 = some (.ok e) ∧
      e.Tells fragments finish := by
  obtain ⟨c, own, rfl⟩ := kept.own
  obtain ⟨e, concluded, tells⟩ := conclude_tells sound
    ((live.console.release started.scope).finish live.collector).1 kept.harmless
  have collected : ((live.console.release started.scope).finish live.collector).1.fragments =
      c.fragments.toList := by
    unfold Console.collector? at own
    simp [Console.finish, Console.release, Console.collector?, own]
  rw [collected] at tells
  refine ⟨e, ?_, tells⟩
  rw [← concluded, ← starts.journal]
  rfl

end Session

/-! ## A text at a time -/

section

variable {B : Backend} {S : B.Environment → B.Environment → Prop}

/-- An evaluation beside a run of statements that are alike. -/
inductive EvaluatedAlike (R : Span → Span → Prop) (S : B.Environment → B.Environment → Prop)
    (s : Session B) (before : List Fragment) (done : Evaluated B Schedule) :
    Ending B.Environment × Live × Schedule → Prop where
  | finished {e env finish finish' live left} : done.result = some (.ok e) →
      e.Tells e.fragments finish → finish.Like R finish' → S done.session.environment env →
      done.session.console.installed = s.console.installed →
      live.Keeps s.console.installed (before ++ e.fragments) →
      (finish = .completed → done.session.Follows live (before ++ e.fragments)) →
      done.policyState.upcoming = Schedule.answering left →
      EvaluatedAlike R S s before done (.finished env finish', live, done.policyState)
  | givenUp {env live} : done.result = none → S done.session.environment env →
      EvaluatedAlike R S s before done (.givenUp env, live, done.policyState)

theorem evaluateStatements_alike {s : Session B} {live : Live} {before : List Fragment}
    (follows : s.Follows live before) {statements statements' : List B.Statement} {env : B.Environment}
    (alike : (B.run statements s.environment).Like R S (Finish.Like R) (B.run statements' env))
    {w : Schedule} {answers : List String} (upcoming : w.upcoming = Schedule.answering answers) :
    EvaluatedAlike R S s before (s.evaluateStatements Schedule.policy w statements)
      ((B.run statements' env).play Schedule.policy live w) := by
  have starts := Session.launch_starts follows.running statements
  have abreast : (s.launch none statements).live.Abreast s.console.installed before live := by
    refine ⟨starts.follows.desk.symm.trans follows.desk, ?_, ?_, [], starts.follows.kept, ?_⟩
    · rw [← starts.follows.token, follows.token]
    · rw [← starts.follows.desk]
      exact starts.follows.token
    · rw [List.append_nil]
      exact follows.kept
  have played := play_alike alike abreast upcoming
  unfold Session.evaluateStatements
  dsimp only
  rw [starts.process]
  generalize (B.run statements s.environment).play _ _ _ = mine at played ⊢
  generalize (B.run statements' env).play _ _ _ = other at played ⊢
  obtain ⟨ending, after, w'⟩ := mine
  obtain ⟨ending', after', w''⟩ := other
  obtain ⟨endings, lives, schedules, left⟩ := played
  dsimp only at endings lives schedules left ⊢
  subst schedules
  obtain ⟨fragments, keeps, keeps'⟩ := lives.kept
  have leaves := Session.settle_leaves starts keeps ending
  cases endings with
  | @finished env₁ env₂ finish finish' states finishes =>
    obtain ⟨left, upcoming⟩ := left.resolve_left nofun
    have sound : ∀ chain, finish ≠ .crashed chain := by cases finishes <;> nofun
    obtain ⟨e, result, tells⟩ := Session.settle_tells starts keeps env₁ sound
    obtain rfl := tells.fragments
    refine .finished result tells finishes ?_ leaves.installed keeps' ?_ upcoming
    · exact leaves.environment ▸ states
    · rintro rfl
      refine ⟨leaves.running _ rfl, leaves.desk.trans lives.desk, ?_, ?_⟩
      · rw [leaves.desk, lives.current, lives.token]
      · rw [leaves.installed]
        exact keeps'
  | givenUp states => exact .givenUp rfl (leaves.environment ▸ states)

/-- Evaluations one after another beside one run of all their statements. -/
inductive FedAlike (R : Span → Span → Prop) (S : B.Environment → B.Environment → Prop)
    (outer : List Nat) (before : List Fragment) (fed : Fed B Schedule) :
    Ending B.Environment × Live × Schedule → Prop where
  | finished {evaluations env finish live} :
      fed.results = evaluations.map (fun e => some (.ok e)) → Told R evaluations finish →
      S fed.session.environment env →
      live.Keeps outer (before ++ evaluations.flatMap (·.fragments)) →
      FedAlike R S outer before fed (.finished env finish, live, fed.policyState)
  | givenUp {env live} : none ∈ fed.results → firstError (entries fed.results) = none →
      S fed.session.environment env →
      FedAlike R S outer before fed (.givenUp env, live, fed.policyState)

theorem FedAlike.behind {outer : List Nat} {before : List Fragment} {e : Evaluation}
    {fed : Fed B Schedule} {played : Ending B.Environment × Live × Schedule}
    (first : e.Tells e.fragments .completed)
    (h : FedAlike R S outer (before ++ e.fragments) fed played) :
    FedAlike R S outer before { fed with results := some (.ok e) :: fed.results } played := by
  cases h with
  | @finished evaluations env finish live results told states kept =>
    rw [List.append_assoc, ← List.flatMap_cons] at kept
    refine FedAlike.finished ?_ (told.cons first) states kept
    rw [results, List.map_cons]
  | givenUp waiting harmless states =>
    refine .givenUp (List.mem_cons_of_mem _ waiting) ?_ states
    have none : e.logs.find? (·.isError) = none := first.firstError
    rw [entries, List.flatMap_cons, firstError, List.find?_append, none]
    exact harmless

/-- Statements that are evaluated before those that follow. -/
theorem evaluateEach_behind {s : Session B} {w : Schedule} {statements : List B.Statement}
    {rest : List (List B.Statement)} {before : List Fragment} {live : Live} {env : B.Environment}
    {statements' rest' : List B.Statement}
    (evaluated : EvaluatedAlike R S s before (s.evaluateStatements Schedule.policy w statements)
      ((B.run statements' env).play Schedule.policy live w))
    (later : ∀ {done : Session B} {live kept env w left}, done.Follows live kept →
      S done.environment env → w.upcoming = Schedule.answering left →
      FedAlike R S done.console.installed kept (done.evaluateEach Schedule.policy w rest)
        ((B.run rest' env).play Schedule.policy live w)) :
    FedAlike R S s.console.installed before
      (s.evaluateEach Schedule.policy w (statements :: rest))
      ((B.run (statements' ++ rest') env).play Schedule.policy live w) := by
  rw [run_append, play_bind, Session.evaluateEach]
  generalize s.evaluateStatements Schedule.policy w statements = done at evaluated ⊢
  generalize (B.run statements' env).play Schedule.policy live w = played at evaluated ⊢
  cases evaluated with
  | @finished e env finish finish' live left result tells finishes states installed kept follows
      upcoming =>
    dsimp only
    rw [result]
    by_cases completed : finish = .completed
    · subst completed
      cases finishes
      have goes : goesOn (some (.ok e)) = true := tells.goesOn
      rw [if_pos goes, if_pos rfl, ← installed]
      exact (later (follows rfl) states upcoming).behind tells
    · have stops : finish' ≠ .completed := by
        rintro rfl
        cases finishes
        exact completed rfl
      have halts : goesOn (some (.ok e)) = false := tells.goesOn.trans (decide_eq_false completed)
      rw [halts, if_neg Bool.false_ne_true, if_neg stops]
      have single : Told R [e] finish' := tells.told finishes
      refine .finished ?_ single states ?_
      · rfl
      · rw [List.flatMap_cons, List.flatMap_nil, List.append_nil]
        exact kept
  | givenUp waiting states =>
    dsimp only
    rw [waiting]
    exact .givenUp (List.mem_singleton_self _) rfl states

end

/-! ## Lines -/

namespace Session

variable {B : Backend} {ω : Type}

theorem submit_continued {s : Session B} (running : s.state ≠ .exited) {line : String}
    (continued : Assembler.isContinued line = true) (policy : Policy ω) (w : ω) :
    s.submit policy w line = (.continuation, w,
      { s with assembler := ⟨s.assembler.pending ++ [line]⟩, state := .buffering }) := by
  unfold submit assemble
  rw [if_neg running, Assembler.submit_continued _ continued]

theorem submit_complete {s : Session B} (running : s.state ≠ .exited) {line : String}
    (complete : Assembler.isContinued line = false) (policy : Policy ω) (w : ω) :
    let done := { s with assembler := {}, state := .idle }.evaluate policy w none
      (Assembler.joinLines (s.assembler.pending ++ [line]))
    s.submit policy w line = (.evaluated done.result, done.policyState, done.session) := by
  unfold submit assemble
  rw [if_neg running, Assembler.submit_complete _ complete]

theorem evaluate_eq_evaluateStatements {s : Session B} {text : String}
    {statements : List B.Statement} (running : s.state ≠ .exited)
    (parses : B.statements text = .ok statements) (policy : Policy ω) (w : ω) :
    s.evaluate policy w none text = s.evaluateStatements policy w statements :=
  evaluate_launched running parses policy w none

/-- After an evaluation that succeeds the session is ready for the next one. -/
theorem evaluateStatements_idle {s : Session B} {policy : Policy ω} {w : ω}
    {statements : List B.Statement} {done : Evaluated B ω}
    (evaluated : s.evaluateStatements policy w statements = done) (fresh : s.assembler = {})
    (goes : goesOn done.result = true) :
    done.session = { done.session with assembler := {}, state := .idle } := by
  subst evaluated
  unfold evaluateStatements at goes ⊢
  dsimp only at goes ⊢
  generalize (s.launch none statements).process.play policy (s.launch none statements).live w = played
    at goes ⊢
  obtain ⟨ending, live, w⟩ := played
  rw [settle_session]
  have idle : stateAfter ending = .idle := by
    cases ending with
    | givenUp env => rfl
    | finished env finish =>
      cases finish with
      | exited => simp [goesOn, settle, conclude] at goes
      | _ => rfl
  rw [idle]
  simp [launch, fresh]

/-- Lines are the statements that they complete. -/
theorem feed_same {s : Session B} (running : s.state ≠ .exited) (policy : Policy ω) (w : ω)
    {lines : List String} {parts : List (List B.Statement)}
    (parses : List.Forall₂ (fun text statements => B.statements text = .ok statements)
      (s.assembler.texts lines) parts) :
    SameFed (s.feed policy w lines)
      ({ s with assembler := {}, state := .idle }.evaluateEach policy w parts) := by
  induction lines generalizing s w parts with
  | nil =>
    cases parses
    exact ⟨rfl, rfl, rfl⟩
  | cons line rest ih =>
    cases continued : Assembler.isContinued line with
    | true =>
      rw [Assembler.texts_continued _ continued] at parses
      rw [Session.feed, submit_continued running continued]
      exact ih (s := { s with assembler := ⟨s.assembler.pending ++ [line]⟩, state := .buffering })
        nofun w parses
    | false =>
      rw [Assembler.texts_complete _ continued] at parses
      cases parses with
      | @cons _ statements _ parts first later =>
        let begun : Session B := { s with assembler := {}, state := .idle }
        rw [Session.feed, submit_complete running continued,
          evaluate_eq_evaluateStatements (s := begun) nofun first, Session.evaluateEach]
        dsimp only
        generalize evaluated : begun.evaluateStatements policy w statements = done
        by_cases goes : goesOn done.result = true
        · have ready := evaluateStatements_idle evaluated rfl goes
          have running : done.session.state ≠ .exited := by
            rw [ready]
            nofun
          have fresh : done.session.assembler = {} := by rw [ready]
          rw [← fresh] at later
          have rest := ih running done.policyState later
          rw [← ready] at rest
          rw [if_pos goes, if_pos goes]
          exact ⟨congrArg (done.result :: ·) rest.results, rest.schedule, rest.environment⟩
        · rw [if_neg goes, if_neg goes]
          exact ⟨rfl, rfl, rfl⟩

/-- With nothing assembled it makes no difference what the session was doing before. -/
theorem feed_fresh {s : Session B} (running : s.state ≠ .exited) (fresh : s.assembler = {})
    (policy : Policy ω) (w : ω) {lines : List String} {parts : List (List B.Statement)}
    (parses : List.Forall₂ (fun text statements => B.statements text = .ok statements)
      (Assembler.texts {} lines) parts) :
    SameFed (s.feed policy w lines) (s.evaluateEach policy w parts) := by
  rw [← fresh] at parses
  have fed := feed_same running policy w parses
  rw [← fresh] at fed
  cases parts with
  | nil => exact ⟨fed.results, fed.schedule, fed.environment⟩
  | cons => exact fed

end Session

section

variable {default : String}

open Script (Environment Provenance SamePlace Carried placed stacked unmoved groups)

/-- Groups of statements that are evaluated one after another, and all of them in one run. What was
produced so far grows with each group. -/
theorem evaluateEach_alike {parts parts' : List (List Script.Statement)}
    (like : List.Forall₂ (List.Forall₂ (Script.Statement.Like R)) parts parts')
    {s : Session (Script.language default)} {live : Live} {before : List Fragment}
    (follows : s.Follows live before) {env : Environment} (envs : Environment.Like R s.environment env)
    {w : Schedule} {answers : List String} (upcoming : w.upcoming = Schedule.answering answers) :
    FedAlike R (Environment.Like R) s.console.installed before
      (s.evaluateEach Schedule.policy w parts)
      (((Script.language default).run parts'.flatten env).play Schedule.policy live w) := by
  induction like generalizing s live before env w answers with
  | nil =>
    refine .finished ?_ told_nil envs ?_
    · rfl
    · rw [List.flatMap_nil, List.append_nil]
      exact follows.kept
  | cons first _ ih =>
    have evaluated := evaluateStatements_alike follows (Script.run_like default first envs) upcoming
    rw [List.flatten_cons]
    exact evaluateEach_behind evaluated fun follows envs upcoming => ih follows envs upcoming

/-- Evaluations one after another and one evaluation say the same. -/
structure SameAccount (evaluations : List Evaluation) (e : Evaluation) : Prop where
  fragments : evaluations.flatMap (·.fragments) = e.fragments
  shouldExit : evaluations.any (·.shouldExit) = e.shouldExit

/-- Statements that were evaluated one after another, and all at once. If an answer is missing, both
wait. -/
structure LinesAgree (R : Span → Span → Prop) (fed : Fed (Script.language default) Schedule)
    (whole : Evaluated (Script.language default) Schedule) : Prop where
  globals : Script.Bindings.Like R fed.session.environment.globals
    whole.session.environment.globals
  schedule : fed.policyState = whole.policyState
  firstError : Option.Rel (Diagnostic.Like R) (firstError (entries fed.results))
    (firstError (entries [whole.result]))
  results : none ∈ fed.results ∧ whole.result = none ∨
    ∃ evaluations e, fed.results = evaluations.map (fun e => some (.ok e)) ∧
      whole.result = some (.ok e) ∧ SameAccount evaluations e

theorem SameFed.agrees {fed fed' : Fed (Script.language default) Schedule}
    {whole : Evaluated (Script.language default) Schedule} (same : SameFed fed fed')
    (h : LinesAgree R fed' whole) : LinesAgree R fed whole := by
  obtain ⟨results, schedule, environment⟩ := same
  refine ⟨?_, schedule.trans h.schedule, ?_, ?_⟩
  · rw [environment]
    exact h.globals
  · rw [results]
    exact h.firstError
  · rw [results]
    exact h.results

theorem evaluateEach_agrees {parts parts' : List (List Script.Statement)}
    (like : List.Forall₂ (List.Forall₂ (Script.Statement.Like R)) parts parts')
    {s : Session (Script.language default)} (running : s.state ≠ .exited)
    (known : Environment.Like R s.environment s.environment)
    {w : Schedule} {answers : List String} (upcoming : w.upcoming = Schedule.answering answers) :
    LinesAgree R (s.evaluateEach Schedule.policy w parts)
      (s.evaluateStatements Schedule.policy w parts'.flatten) := by
  have starts := Session.launch_starts running parts'.flatten
  have alike := evaluateEach_alike like starts.follows known upcoming
  rw [← starts.process] at alike
  unfold Session.evaluateStatements
  dsimp only
  generalize (s.launch none parts'.flatten).process.play _ _ w = played at alike ⊢
  cases alike with
  | @finished evaluations env finish live results told states kept =>
    obtain ⟨e, result, tells⟩ := Session.settle_tells starts kept env told.sound
    have leaves := Session.settle_leaves starts kept (.finished env finish)
    refine ⟨?_, rfl, ?_, .inr ⟨evaluations, e, results, result, ?_, ?_⟩⟩
    · rw [leaves.environment]
      exact states.globals
    · have single : entries [some (.ok e)] = e.logs := List.flatMap_singleton _ _
      rw [results, entries_map, result, single, tells.firstError]
      exact told.firstError
    · exact tells.fragments.symm
    · exact told.exits.trans tells.shouldExit.symm
  | givenUp waiting harmless states =>
    refine ⟨states.globals, rfl, ?_, .inl ⟨waiting, rfl⟩⟩
    rw [harmless]
    exact .none

/-! ## Where an error comes from -/

/-- The first error that the statements of these texts report is at a place with this origin: wherever
the texts stand, one evaluation after another and one evaluation of everything report it where the
place is then. -/
structure Session.ReportsFrom (s : Session (Script.language default)) (w : Schedule)
    (texts : List String) (origin : Provenance) : Prop where
  within : origin.Within s.environment.spans texts
  apart : ∀ moved, moved.map (·.1) = texts →
    errorPlace (s.evaluateEach Schedule.policy w (groups moved)).results = some (origin.place moved)
  together : ∀ moved, moved.map (·.1) = texts →
    errorPlace [(s.evaluateStatements Schedule.policy w (stacked moved)).result] =
      some (origin.place moved)

section

variable {s : Session (Script.language default)} {w : Schedule} {texts : List String}

theorem Session.ReportsFrom.unique {origin origin' : Provenance} (h : s.ReportsFrom w texts origin)
    (h' : s.ReportsFrom w texts origin') : origin = origin' := by
  obtain ⟨far, names, distinct⟩ := Script.exists_apart s.environment.spans texts
  have same : some (origin.place far) = some (origin'.place far) :=
    (h.apart far names).symm.trans (h'.apart far names)
  rw [Script.FarApart, names] at distinct
  exact distinct origin origin' h.within h'.within (Option.some.inj same)

theorem errorPlace_alike {moved moved' : List (String × Shift)} (running : s.state ≠ .exited)
    {answers : List String} (upcoming : w.upcoming = Schedule.answering answers)
    (same : moved.map (·.1) = moved'.map (·.1)) :
    Option.Rel (Carried s.environment.spans moved moved')
      (errorPlace (s.evaluateEach Schedule.policy w (groups moved)).results)
      (errorPlace [(s.evaluateStatements Schedule.policy w (stacked moved')).result]) := by
  have known : Environment.Like (Carried s.environment.spans moved moved') s.environment
      s.environment := Environment.like_self _ fun s there => ⟨.known s, .known there, rfl, rfl⟩
  have agree := evaluateEach_agrees (Script.groups_carried _ same) running known upcoming
  exact range_like agree.firstError

/-- Where the texts are far apart, the place of the error tells where it comes from. -/
theorem exists_reportsFrom (running : s.state ≠ .exited) {answers : List String}
    (upcoming : w.upcoming = Schedule.answering answers) {moved : List (String × Shift)}
    (names : moved.map (·.1) = texts) {place : Span}
    (found : errorPlace (s.evaluateEach Schedule.policy w (groups moved)).results = some place) :
    ∃ origin, s.ReportsFrom w texts origin := by
  obtain ⟨far, farNames, distinct⟩ := Script.exists_apart s.environment.spans texts
  have first := errorPlace_alike running upcoming (names.trans farNames.symm)
  rw [found] at first
  generalize whole : errorPlace [(s.evaluateStatements _ w (stacked far)).result] = reported at first
  cases first with
  | some carried =>
    obtain ⟨origin, within, -, rfl⟩ := carried
    rw [names, ← farNames] at within
    have apart : ∀ moved, moved.map (·.1) = texts →
        errorPlace (s.evaluateEach Schedule.policy w (groups moved)).results =
          some (origin.place moved) := by
      intro moved names
      have same := names.trans farNames.symm
      have other := errorPlace_alike running upcoming same
      rw [whole] at other
      generalize errorPlace (s.evaluateEach _ w (groups moved)).results = reported at other ⊢
      cases other with
      | some carried => rw [distinct.place_eq within (carried.flip same)]
    refine ⟨origin, farNames ▸ within, apart, fun moved names => ?_⟩
    have same := farNames.trans names.symm
    have other := errorPlace_alike running upcoming same
    rw [apart far farNames] at other
    generalize errorPlace [(s.evaluateStatements _ w (stacked moved)).result] = reported at other ⊢
    cases other with
    | some carried => rw [distinct.place_eq within carried]

end

/-! ## All lines -/

/-- Whatever a session knows already, and whether its statements succeed, fail, ask or exit, it makes
no difference to submit lines one by one or the whole text at once. The lines have to be complete:
each statement parses by itself and the last one is not continued. If the first error is at a place,
both ways report it at the same place of one and the same statement. -/
theorem lines_agree_with_text (s : Session (Script.language default)) (lines answers : List String)
    (running : s.state ≠ .exited) (fresh : s.assembler = {})
    (plain : ∀ line ∈ lines, '\r' ∉ line.toList) (closed : Assembler.Closed lines)
    (parses : ∀ text ∈ Assembler.texts {} lines, ∃ found, Script.statements text = .ok found) :
    let texts := Assembler.texts {} lines
    let w : Schedule := { upcoming := Schedule.answering answers }
    let fed := s.feed Schedule.policy w lines
    let whole := s.evaluateScheduled (Schedule.answering answers) none (Assembler.joinLines lines)
    LinesAgree (SamePlace s.environment.spans (placed [] texts)) fed whole ∧
      ∀ place, errorPlace fed.results = some place →
        ∃ origin, (∀ other, s.ReportsFrom w texts other ↔ other = origin) ∧ origin.span = place ∧
          errorPlace [whole.result] = some (origin.place (placed [] texts)) := by
  intro texts w fed whole
  have complete : ∀ text ∈ texts, Script.Complete text := Assembler.complete_texts {} plain parses
  have joined : Assembler.joinLines lines = Assembler.joinLines texts := by
    by_cases empty : lines = []
    · subst empty
      rfl
    · exact (Assembler.joinLines_texts {} empty closed).symm
  have all := Script.statements_joined complete
  rw [← Assembler.joinLines, ← joined] at all
  have together : whole = s.evaluateStatements Schedule.policy w (stacked (placed [] texts)) :=
    Session.evaluate_eq_evaluateStatements running all Schedule.policy w
  have each : SameFed fed (s.evaluateEach Schedule.policy w (groups (unmoved texts))) := by
    apply Session.feed_fresh running fresh
    rw [Script.groups_unmoved]
    exact List.forall₂_map_right_iff.mpr
      (List.forall₂_same.mpr fun text there => (complete text there).statements_eq)
  refine ⟨each.agrees ?_, ?_⟩
  · have known : Environment.Like (SamePlace s.environment.spans (placed [] texts)) s.environment
        s.environment := Environment.like_self _ fun _ place => .known place
    rw [together, Script.stacked_eq]
    exact evaluateEach_agrees (Script.groups_same s.environment.spans (Script.placed_texts [] texts))
      running known rfl
  · intro place found
    rw [each.results] at found
    obtain ⟨origin, reports⟩ := exists_reportsFrom running rfl (Script.unmoved_texts texts) found
    refine ⟨origin, fun other => ⟨fun h => h.unique reports, ?_⟩, ?_, ?_⟩
    · rintro rfl
      exact reports
    · have own := reports.apart (unmoved texts) (Script.unmoved_texts texts)
      rw [found, Script.Provenance.place_unmoved] at own
      exact (Option.some.inj own).symm
    · rw [together]
      exact reports.together (placed [] texts) (Script.placed_texts [] texts)

/-- A procedure over two lines below a comment, which fails at its second call. -/
def greeting : List String :=
  ["# greets", "set greet (fun name \\",
    "  (if (eq name \"\") (fail \"no name\") (print \"hi\" name)))",
    "greet (readline \"name?\")", "greet (readline \"again?\"); print 3", "print 4"]

theorem greeting_agrees :
    let s : Session (Script.language ">") := {}
    let w : Schedule := { upcoming := Schedule.answering ["Ann", ""] }
    let texts := Assembler.texts {} greeting
    let fed := s.feed Schedule.policy w greeting
    let whole := s.evaluateScheduled (Schedule.answering ["Ann", ""]) none
      (Assembler.joinLines greeting)
    let place : Span := ⟨⟨2, 20, 41⟩, ⟨2, 35, 56⟩⟩
    let below : Span := ⟨⟨3, 20, 50⟩, ⟨3, 35, 65⟩⟩
    LinesAgree (SamePlace [] (placed [] texts)) fed whole ∧
      (∃ origin, (∀ other, s.ReportsFrom w texts other ↔ other = origin) ∧ origin.span = place ∧
        origin.place (placed [] texts) = below) ∧
      fed.results.drop 3 = [some (.ok { logs := [.error "no name" (some place)] })] ∧
      whole.result = some (.ok { logs := [.error "no name" (some below)]
                                 fragments := [.console .log "hi Ann"] }) := by
  intro s w texts fed whole place below
  have parse : ∀ text ∈ texts, (Script.statements text).isOk = true := by
    decide +kernel
  have each : errorPlace fed.results = some place := by decide +kernel
  have once : whole.result = some (.ok { logs := [.error "no name" (some below)]
                                         fragments := [.console .log "hi Ann"] }) := by
    decide +kernel
  have parses : ∀ text ∈ texts, ∃ found, Script.statements text = .ok found := by
    intro text mem
    have ok := parse text mem
    cases found : Script.statements text with
    | ok statements => exact ⟨statements, rfl⟩
    | error errors =>
      rw [found] at ok
      cases ok
  have closed : Assembler.Closed greeting := by
    rintro line ⟨⟩
    decide +kernel
  obtain ⟨agree, origins⟩ :=
    lines_agree_with_text s greeting ["Ann", ""] nofun rfl (by decide +kernel) closed parses
  obtain ⟨origin, reports, own, moved⟩ := origins place each
  have there : errorPlace [whole.result] = some below := congrArg (fun r => errorPlace [r]) once
  refine ⟨agree, ⟨origin, reports, own, Option.some.inj (moved.symm.trans there)⟩, ?_, once⟩
  decide +kernel

end

end ScriptSession

import ScriptSession.Session

/-!
# Where the output of an evaluation goes

An evaluation installs a collector of its own on top of all others (`collects_accept`), so everything
that it emits is kept there, in order (`Live.Collects`); with a channel it also waits there to be read
(`Live.Streams`).

A process stops where it waits for a line or for time to pass, and at its end. Its turns are what it
produced between two stops (`Process.turns`).
-/
namespace ScriptSession

/-- The evaluation's own collector is the innermost one. -/
structure Live.Collects (live : Live) (c : Collector) : Prop where
  innermost : live.console.installed.head? = some live.collector
  own : live.console.collector? live.collector = some c

/-- Output waits in an open channel. -/
def Live.Streams (live : Live) (waiting : List Fragment) : Prop :=
  ∃ c channel, live.Collects c ∧ c.channel = some channel ∧ channel.isOpen = true ∧
    channel.unread.toList = waiting

theorem getElem?_modify_self {α : Type} {as : Array α} {k : Nat} {a : α} (h : as[k]? = some a)
    (f : α → α) : (as.modify k f)[k]? = some (f a) := by
  rw [Array.getElem?_modify, if_pos rfl, h]
  rfl

namespace Live

variable {live other : Live} {c : Collector} {waiting : List Fragment}

theorem Collects.congr (h : live.Collects c) (console : other.console = live.console)
    (collector : other.collector = live.collector) : other.Collects c where
  innermost := by rw [console, collector]; exact h.innermost
  own := by rw [console, collector]; exact h.own

theorem Streams.congr (h : live.Streams waiting) (console : other.console = live.console)
    (collector : other.collector = live.collector) : other.Streams waiting := by
  obtain ⟨c, channel, collects, rest⟩ := h
  exact ⟨c, channel, collects.congr console collector, rest⟩

/-- A result and a message are kept alike; only results are counted. -/
theorem collects_emit (h : live.Collects c) (f : Fragment) :
    ∃ results, (live.emit f).Collects { c.deliver f with results := results } := by
  have own := h.own
  unfold Console.collector? at own
  unfold emit
  split
  · rename_i isResult
    have result : Fragment.result f.text = f := by
      obtain ⟨origin, text⟩ := f
      have : origin = .result := by simpa [Fragment.isResult] using isResult
      rw [Fragment.result, this]
    refine ⟨c.results + 1, h.innermost, ?_⟩
    exact (getElem?_modify_self own _).trans (by simp [result, Collector.deliver])
  · refine ⟨c.results, ?_⟩
    obtain ⟨rest, installed⟩ := List.head?_eq_some_iff.mp h.innermost
    have emitted : live.console.emit f = live.console.deliver live.collector f := by
      rw [Console.emit, installed]
    refine ⟨?_, ?_⟩
    · rw [emitted]
      exact h.innermost
    · rw [emitted]
      exact getElem?_modify_self own _

theorem streams_emit (h : live.Streams waiting) (f : Fragment) :
    (live.emit f).Streams (waiting ++ [f]) := by
  obtain ⟨c, channel, collects, there, isOpen, unread⟩ := h
  obtain ⟨results, collects'⟩ := collects_emit collects f
  refine ⟨_, channel.send f, collects', ?_, ?_, ?_⟩
  · simp [Collector.deliver, there]
  · simp [Channel.send, isOpen]
  · simp [Channel.send, isOpen, unread]

theorem Streams.unread_eq (h : live.Streams waiting) : live.unread = waiting := by
  obtain ⟨c, channel, collects, there, isOpen, unread⟩ := h
  simp [Live.unread, Console.receive?, collects.own, there, isOpen, unread]

/-- What was read does not wait any more. -/
theorem streams_takeUnread (h : live.Streams waiting) :
    live.takeUnread.1 = waiting ∧ live.takeUnread.2.Streams [] := by
  refine ⟨h.unread_eq, ?_⟩
  obtain ⟨c, channel, collects, there, isOpen, -⟩ := h
  have own := collects.own
  have received : (live.console.receive? live.collector).2 =
      { live.console with collectors := live.console.collectors.modify live.collector fun c =>
        { c with channel := c.channel.map ({ · with unread := #[] }) } } := by
    simp [Console.receive?, own, there, isOpen]
  unfold Console.collector? at own
  refine ⟨{ c with channel := some { channel with unread := #[] } }, _, ⟨?_, ?_⟩, rfl, isOpen, rfl⟩
  · rw [takeUnread, received]
    exact collects.innermost
  · rw [takeUnread, received]
    exact (getElem?_modify_self own _).trans (by rw [there]; rfl)

theorem takeReply_console (live : Live) (id : Nat) :
    (live.takeReply id).2.console = live.console ∧
    (live.takeReply id).2.collector = live.collector := by
  unfold takeReply reply?
  cases live.desk.fetch? id <;> exact ⟨rfl, rfl⟩

end Live

/-! ## Turns -/

/-- Where a process stops. -/
inductive Stop where
  /-- It asked for a line, and was not cancelled yet. -/
  | asked
  | paused
  | ended
  deriving DecidableEq, Repr

/-- What a process produced since its last stop. -/
structure Turn where
  produced : List Fragment
  stop : Stop
  deriving DecidableEq, Repr

/-- Everything produced in some turns. -/
def produced (turns : List Turn) : List Fragment := turns.flatMap (·.produced)

theorem produced_append (a b : List Turn) : produced (a ++ b) = produced a ++ produced b :=
  List.flatMap_append ..

/-- The turns of a process, as it is played. A process that is given up has no turn after that. -/
def Process.turns {σ ω : Type} (policy : Policy ω) :
    Process σ Finish → Live → ω → List Fragment → List Turn
  | .done _ _, _, _, sofar => [⟨sofar, .ended⟩]
  | .call _ request resume, live, w, sofar =>
    match request, resume with
    | .emit f, resume => turns policy (resume ()) (live.emit f) w (sofar ++ [f])
    | .warn message range, resume => turns policy (resume ()) (live.warn message range) w sofar
    | .aborted, resume => turns policy (resume live.isAborted) live w sofar
    | .generation, resume => turns policy (resume (live.desk.generation live.token)) live w sofar
    | .consoleDepth, resume => turns policy (resume live.console.depth) live w sofar
    | .readLine prompt, resume =>
      if live.isAborted then turns policy (resume none) live w sofar
      else
        let (id, desk) := live.desk.enqueue prompt live.token none
        ⟨sofar, .asked⟩ :: match policy.awaitLine id { live with desk := desk } w with
          | (.resume line, live, w) => turns policy (resume line) live w []
          | (.abandon, _, _) => []
    | .sleep millis, resume =>
      if live.isAborted then turns policy (resume false) live w sofar
      else
        ⟨sofar, .paused⟩ :: match policy.awaitTime (live.clock + millis) live w with
          | (.resume passed, live, w) => turns policy (resume passed) live w []
          | (.abandon, _, _) => []

namespace Session

variable {B : Backend} {ω : Type}

/-- The turns of a text's evaluation; none if it does not start. -/
def turns (s : Session B) (policy : Policy ω) (w : ω) (channel : Option Channel) (text : String) :
    List Turn :=
  match s.accept channel text with
  | .started started => started.process.turns policy started.live w []
  | .refused | .rejected .. => []

theorem collects_accept {s : Session B} {channel : Option Channel} {text : String}
    {started : Started B} (h : s.accept channel text = .started started) :
    started.live.Collects { channel := channel } := by
  unfold accept at h
  split at h
  · cases h
  · dsimp only at h
    split at h
    · cases h
    · cases h
      exact ⟨rfl, by simp [Console.collector?, Console.capture, Console.addCollector]⟩

theorem streams_accept {s : Session B} {text : String} {started : Started B}
    (h : s.accept (some {}) text = .started started) : started.live.Streams [] :=
  ⟨_, {}, collects_accept h, rfl, rfl, rfl⟩

end Session

end ScriptSession

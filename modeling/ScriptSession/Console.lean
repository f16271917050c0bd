import ScriptSession.Output

/-! The console that scripts write to. Collectors are installed on top of each other and a message
goes to the innermost one alone. A collector keeps what it gets until it is finished, and may also
pass each fragment on as soon as it arrives. -/
namespace ScriptSession

/-- What a collector passes on: fragments that wait to be read, unless nobody reads any more. -/
structure Channel where
  unread : Array Fragment := #[]
  isOpen : Bool := true

def Channel.send (c : Channel) (f : Fragment) : Channel :=
  if c.isOpen then { c with unread := c.unread.push f } else c

structure Collector where
  fragments : Array Fragment := #[]
  channel : Option Channel := none
  results : Nat := 0
  finished : Bool := false

def Collector.deliver (c : Collector) (f : Fragment) : Collector :=
  { c with fragments := c.fragments.push f, channel := c.channel.map (·.send f) }

/-- Collectors are numbered in the order of their creation. -/
structure Console where
  collectors : Array Collector := #[]
  /-- Numbers of the installed collectors, the innermost one first. -/
  installed : List Nat := []

/-- What a finished collector gives away. -/
structure Collected where
  output : String
  fragments : List Fragment

namespace Console

def depth (c : Console) : Nat := c.installed.length

/-- A new collector and its number. -/
def addCollector (c : Console) (channel : Option Channel) : Console × Nat :=
  ({ c with collectors := c.collectors.push { channel := channel } }, c.collectors.size)

def deliver (c : Console) (k : Nat) (f : Fragment) : Console :=
  { c with collectors := c.collectors.modify k (·.deliver f) }

/-- Without an installed collector a message is lost to the session. -/
def emit (c : Console) (f : Fragment) : Console :=
  match c.installed with
  | [] => c
  | k :: _ => c.deliver k f

def collector? (c : Console) (k : Nat) : Option Collector := c.collectors[k]?

/-- A collector that can still be used. -/
def unfinished? (c : Console) (k : Nat) : Option Collector :=
  (c.collector? k).filter (!·.finished)

/-- Installs a collector; the depth reached names the scope. -/
def capture (c : Console) (k : Nat) : Console × Nat :=
  ({ c with installed := k :: c.installed }, c.depth + 1)

/-- Takes away the collector of a scope and every one installed inside it. -/
def release (c : Console) (scope : Nat) : Console :=
  { c with installed := c.installed.drop (c.depth - (scope - 1)) }

def pushResult (c : Console) (k : Nat) (text : String) : Console :=
  { c with collectors := c.collectors.modify k fun collector =>
      { collector.deliver (.result text) with results := collector.results + 1 } }

/-- The fragments that wait in a collector's channel, which is empty afterwards. Nothing if the
collector passes nothing on or nobody reads. -/
def receive? (c : Console) (k : Nat) : Option (List Fragment) × Console :=
  match (c.collector? k).bind (·.channel) with
  | some channel =>
    if channel.isOpen then
      (some channel.unread.toList,
        { c with collectors := c.collectors.modify k fun collector =>
            { collector with channel := collector.channel.map ({ · with unread := #[] }) } })
    else (none, c)
  | none => (none, c)

/-- Nobody reads the collector's channel any more. -/
def hangUp (c : Console) (k : Nat) : Console :=
  { c with collectors := c.collectors.modify k fun collector =>
      { collector with channel := collector.channel.map fun _ => { isOpen := false } } }

/-- Ends a collector's use and gives what it kept. -/
def finish (c : Console) (k : Nat) : Collected × Console :=
  let fragments := match c.collector? k with
    | some collector => collector.fragments.toList
    | none => []
  (⟨Fragment.merged fragments, fragments⟩,
    { c with collectors := c.collectors.modify k fun collector =>
        { collector with fragments := #[], finished := true } })

/-- Forgets the collectors from `k` on, which nothing refers to any more. -/
def forgetFrom (c : Console) (k : Nat) : Console :=
  { c with collectors := c.collectors.take k }

end Console

end ScriptSession

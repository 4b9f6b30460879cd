/-!
# The state of the host

A snapshot is what one look at the host finds.  The state keeps the last
snapshot and when it was taken, with the rates of the network interfaces worked
out from the snapshot before it.
-/

namespace MonitorAgent
namespace Host

structure Disk where
  mount : String
  fileSystem : String
  used : UInt64
  total : UInt64
  deriving DecidableEq, Repr

/-- Bytes received and sent, in all and per second. -/
structure Interface where
  name : String
  received : UInt64
  sent : UInt64
  receiveRate : UInt64
  sendRate : UInt64
  deriving DecidableEq, Repr

structure Process where
  pid : UInt32
  name : String
  status : String
  memory : UInt64
  load : Float

structure Snapshot where
  hostName : Option String := none
  osName : Option String := none
  osVersion : Option String := none
  kernelVersion : Option String := none
  uptime : UInt64 := 0
  bootTime : UInt64 := 0
  cores : UInt32 := 0
  load : Float := 0
  memoryUsed : UInt64 := 0
  memoryTotal : UInt64 := 0
  swapUsed : UInt64 := 0
  swapTotal : UInt64 := 0
  disks : List Disk := []
  interfaces : List Interface := []
  processes : List Process := []

/-- Times are seconds since 1970; a collection at the time 0 counts as none. -/
structure State where
  startedAt : Int64
  collectedAt : Int64 := 0
  snapshot : Snapshot := {}

namespace State

def new (startedAt : Int64) : State :=
  { startedAt }

def isCollected (s : State) : Bool :=
  s.collectedAt != 0

end State

/-- The difference of two times, within the bounds of times, but at least one
second. -/
def elapsed (earlier later : Int64) : Nat :=
  let difference := later.toInt - earlier.toInt
  (max 1 (min difference Int64.maxValue.toInt)).toNat

/-- The growth per second, rounded down; a counter that fell has not grown. -/
def rate (earlier later : UInt64) (seconds : Nat) : UInt64 :=
  UInt64.ofNat ((later.toNat - earlier.toNat) / seconds)

/-- The last of the interfaces with the name. -/
def lastNamed? (name : String) (interfaces : List Interface) : Option Interface :=
  interfaces.reverse.find? (·.name == name)

/-- An interface that was not seen before has no rates yet. -/
def Interface.rated (i : Interface) (earlier : List Interface) (seconds : Nat) : Interface :=
  match lastNamed? i.name earlier with
  | some before =>
    { i with
      receiveRate := rate before.received i.received seconds
      sendRate := rate before.sent i.sent seconds }
  | none => { i with receiveRate := 0, sendRate := 0 }

/-- The state after a snapshot. -/
def State.collect (s : State) (now : Int64) (snapshot : Snapshot) : State :=
  let seconds := elapsed s.collectedAt now
  let interfaces := snapshot.interfaces.map (·.rated s.snapshot.interfaces seconds)
  { s with collectedAt := now, snapshot := { snapshot with interfaces } }

theorem elapsed_pos (earlier later : Int64) : 0 < elapsed earlier later := by
  simp only [elapsed]
  omega

theorem collect_startedAt (s : State) (now : Int64) (snapshot : Snapshot) :
    (s.collect now snapshot).startedAt = s.startedAt := rfl

end Host
end MonitorAgent

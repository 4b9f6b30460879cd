import MonitorAgent.Duration.Basic

/-!
# The history of the processor load

Samples of the last quarter of an hour, in the order in which they came.  An
instant is a number of nanoseconds on a clock of its own; what lies in the
future has the age zero.
-/

namespace MonitorAgent
namespace Host

structure Sample where
  instant : Int
  load : Float

/-- How long a sample is kept. -/
def retention : Duration :=
  .ofSeconds 900

/-- How long ago `earlier` was at `now`. -/
def age (now earlier : Int) : Duration :=
  ⟨(now - earlier).toNat⟩

structure LoadHistory where
  samples : List Sample := []

namespace LoadHistory

def isExpired (now : Int) (s : Sample) : Bool :=
  retention.nanoseconds < (age now s.instant).nanoseconds

/-- Adds a sample and drops the oldest ones as long as they are expired at its
instant. -/
def push (h : LoadHistory) (instant : Int) (load : Float) : LoadHistory :=
  ⟨(h.samples ++ [Sample.mk instant load]).dropWhile (isExpired instant)⟩

def length (h : LoadHistory) : Nat :=
  h.samples.length

/-- The samples of the window that ends now. -/
def within (h : LoadHistory) (now : Int) (window : Duration) : List Sample :=
  h.samples.filter fun s => (age now s.instant).nanoseconds ≤ window.nanoseconds

/-- The samples of a window are counted in a word of 32 bits. -/
def isCountable (h : LoadHistory) (now : Int) (window : Duration) : Bool :=
  (h.within now window).length < UInt32.size

def mean (samples : List Sample) : Float :=
  samples.foldl (fun sum s => sum + s.load) 0 / Float.ofNat samples.length

/-- The mean over a window that is countable, or the newest sample if it holds none. -/
def average? (h : LoadHistory) (now : Int) (window : Duration) : Option Float :=
  match h.within now window with
  | [] => h.samples.getLast?.map (·.load)
  | samples => some (mean samples)

theorem push_suffix (h : LoadHistory) (instant : Int) (load : Float) :
    (h.push instant load).samples <:+ h.samples ++ [⟨instant, load⟩] :=
  List.dropWhile_suffix _

end LoadHistory
end Host
end MonitorAgent

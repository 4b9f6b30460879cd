import MonitorAgent.Check.Metric

/-!
# Results of checks

A result is a state, an output text and performance data, which is shown behind
a bar when there is any.
-/

namespace MonitorAgent
namespace Check

structure Result where
  state : State
  output : String
  metrics : List Metric := []

namespace Result

def unknown (reason : String) : Result where
  state := .unknown
  output := "UNKNOWN - " ++ reason

/-- The texts of all metrics with nothing between them. -/
def performance (r : Result) : String :=
  String.join (r.metrics.map Metric.text)

def text (r : Result) : String :=
  if r.metrics.isEmpty then r.output else r.output ++ "|" ++ r.performance

end Result
end Check
end MonitorAgent

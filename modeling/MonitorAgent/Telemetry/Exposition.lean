import MonitorAgent.Telemetry.Counters
import MonitorAgent.Telemetry.Gauges

/-!
# Exposition

Gauges and counters as text.  A family of samples has a name, a help text and a
kind; families stand in the order of their names and samples in that of their
labels, and a family without samples is not shown.
-/

namespace MonitorAgent
namespace Telemetry

inductive Kind where
  | counter
  | gauge
  deriving DecidableEq, Repr

def Kind.name : Kind → String
  | counter => "counter"
  | gauge => "gauge"

structure Sample where
  labels : List (String × String)
  value : Float

structure Family where
  name : String
  help : String
  kind : Kind
  samples : List Sample

def escapedLabel (c : Char) : List Char :=
  if c = '\\' then ['\\', '\\']
  else if c = '\n' then ['\\', 'n']
  else if c = '"' then ['\\', '"']
  else [c]

def labelText : String × String → String
  | (name, value) => name ++ "=\"" ++ String.ofList (value.toList.flatMap escapedLabel) ++ "\""

def labelsText (labels : List (String × String)) : String :=
  if labels.isEmpty then ""
  else "\x7b" ++ ",".intercalate (labels.map labelText) ++ "\x7d"

def Sample.text (name : String) (s : Sample) : String :=
  name ++ labelsText s.labels ++ " " ++ Decimal.plain s.value ++ "\n"

def Family.text (f : Family) : String :=
  if f.samples.isEmpty then ""
  else
    "# HELP " ++ f.name ++ " " ++ f.help ++ "\n# TYPE " ++ f.name ++ " " ++ f.kind.name ++ "\n" ++
      String.join (f.samples.map (Sample.text f.name))

/-- A family of one sample without labels. -/
def single (kind : Kind) (name help : String) (value : Float) : Family :=
  ⟨name, help, kind, [⟨[], value⟩]⟩

/-- A family of a sample to each combination of values of the labels. -/
def counted (name help : String) (labels : List String) (counts : Counts) : Family :=
  ⟨name, help, .counter,
    counts.map fun (values, n) => ⟨labels.zip values, Float.ofNat n⟩⟩

/-- A family with a sample to each value of a label. -/
def keyed (name help label : String) (readings : Readings) : Family :=
  ⟨name, help, .gauge, readings.map fun (key, value) => ⟨[(label, key)], value⟩⟩

/-- The families in the order of their names. -/
def families (g : Gauges) (counters : Counters) : List Family :=
  [single .gauge "snclient_agent_uptime_seconds" "Agent uptime in seconds" g.agentUptime,
   counted "snclient_check_executions_total" "Check executions by check name and resulting state"
     ["check", "state"] counters.executions,
   counted "snclient_collect_errors_total" "Collector errors total by collector"
     ["collector"] counters.collectErrors,
   single .gauge "snclient_cpu_usage_percent" "Average CPU usage across cores in percent (0..100)"
     g.load,
   keyed "snclient_disk_total_bytes" "Disk total bytes by mount" "mount" g.diskTotal,
   keyed "snclient_disk_usage_percent" "Disk usage in percent by mount" "mount" g.diskUsage,
   keyed "snclient_disk_used_bytes" "Disk used bytes by mount" "mount" g.diskUsed,
   single .gauge "snclient_last_collect_timestamp_seconds"
     "Unix timestamp of the last collection" g.collectedAt,
   single .gauge "snclient_memory_total_bytes" "Total memory in bytes" g.memoryTotal,
   single .gauge "snclient_memory_used_bytes" "Used memory in bytes" g.memoryUsed,
   keyed "snclient_net_rx_bytes_per_sec" "Receive speed in bytes per second by interface" "iface"
     g.netReceived,
   keyed "snclient_net_tx_bytes_per_sec" "Transmit speed in bytes per second by interface" "iface"
     g.netSent,
   counted "snclient_nrpe_requests_total" "NRPE connections handled by result" ["result"]
     counters.connections,
   single .gauge "snclient_process_count" "Number of running processes" g.processes,
   single .counter "snclient_scrape_count_total" "Number of /metrics scrapes"
     (Float.ofNat counters.scrapes),
   single .gauge "snclient_swap_total_bytes" "Total swap in bytes" g.swapTotal,
   single .gauge "snclient_swap_used_bytes" "Used swap in bytes" g.swapUsed,
   single .gauge "snclient_system_uptime_seconds" "Host uptime in seconds" g.uptime]

/-- The text of all families. -/
def exposition (g : Gauges) (counters : Counters) : String :=
  String.join ((families g counters).map Family.text)

end Telemetry
end MonitorAgent

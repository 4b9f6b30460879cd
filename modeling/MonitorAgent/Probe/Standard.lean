import MonitorAgent.Probe.Drives
import MonitorAgent.Probe.Dummy
import MonitorAgent.Probe.Load
import MonitorAgent.Probe.Memory
import MonitorAgent.Probe.Network
import MonitorAgent.Probe.Processes
import MonitorAgent.Probe.Uptime

/-!
# The standard probes

The seven probes under their names.
-/

namespace MonitorAgent
namespace Probe

abbrev Registry :=
  Check.Registry (ReaderM View)

def standard : Registry where
  entries :=
    [("check_cpu", load), ("check_drivesize", drives), ("check_dummy", dummy),
     ("check_memory", memory), ("check_network", network), ("check_process", processes),
     ("check_uptime", uptime)]

end Probe
end MonitorAgent

import MonitorAgent.Check.Registry
import MonitorAgent.Telemetry.Exposition
import MonitorAgent.Web.Json
import MonitorAgent.Web.Uri

/-!
# The web service

Five routes: a sign of life, the exposition, the state of the host, the names of
the checks, and the run of a check with the pairs of the query as arguments.
Anything but reading is refused on a route that exists.
-/

namespace MonitorAgent
namespace Web

inductive Route where
  | health
  | metrics
  | state
  | inventory
  | query (name : List Char)
  deriving DecidableEq, Repr

def fixedRoutes : List (String × Route) :=
  [("/healthz", .health), ("/metrics", .metrics), ("/api/state", .state),
   ("/api/v1/inventory", .inventory)]

def queryStart : List Char :=
  "/query/".toList

/-- The route of a path as it is written; the name of a check is not empty and
holds no slash. -/
def Route.ofPath? (path : List Char) : Option Route :=
  match fixedRoutes.lookup (String.ofList path) with
  | some route => some route
  | none =>
    match queryStart.isPrefixOf? path with
    | none => none
    | some name => if name.isEmpty || name.contains '/' then none else some (.query name)

structure Request where
  method : String
  target : String
  deriving DecidableEq, Repr

structure Page where
  status : Nat
  contentType : Option String := none
  body : String := ""
  deriving DecidableEq, Repr

def Page.json (value : Json) : Page :=
  ⟨200, some "application/json", value.render⟩

def Page.plain (status : Nat) (body : String) : Page :=
  ⟨status, some "text/plain; charset=utf-8", body⟩

def notFound : Page where
  status := 404

def notAllowed : Page where
  status := 405

def badName : Page :=
  .plain 400 "Invalid URL: Invalid UTF-8 in \x60command\x60"

def diskJson (d : Host.Disk) : Json :=
  .object
    [("mount", .text d.mount), ("file_system", .text d.fileSystem), ("used_bytes", .words d.used),
     ("total_bytes", .words d.total)]

def interfaceJson (i : Host.Interface) : Json :=
  .object
    [("iface", .text i.name), ("rx_bytes_total", .words i.received),
     ("tx_bytes_total", .words i.sent), ("rx_bytes_per_sec", .words i.receiveRate),
     ("tx_bytes_per_sec", .words i.sendRate)]

def processJson (p : Host.Process) : Json :=
  .object
    [("pid", .whole p.pid.toNat), ("name", .text p.name), ("status", .text p.status),
     ("memory_bytes", .words p.memory), ("cpu_usage_percent", .number p.load)]

def hostJson (host : Host.State) : Json :=
  let s := host.snapshot
  .object
    [("started_at_unix", .whole host.startedAt.toInt),
     ("last_collect_timestamp_seconds", .whole host.collectedAt.toInt),
     ("host_name", .optional s.hostName), ("os_name", .optional s.osName),
     ("os_version", .optional s.osVersion), ("kernel_version", .optional s.kernelVersion),
     ("system_uptime_seconds", .words s.uptime), ("boot_time_unix", .words s.bootTime),
     ("cpu_core_count", .whole s.cores.toNat), ("cpu_usage_percent", .number s.load),
     ("memory_used_bytes", .words s.memoryUsed), ("memory_total_bytes", .words s.memoryTotal),
     ("swap_used_bytes", .words s.swapUsed), ("swap_total_bytes", .words s.swapTotal),
     ("disks", .array (s.disks.map diskJson)), ("net", .array (s.interfaces.map interfaceJson)),
     ("processes", .array (s.processes.map processJson))]

def resultJson (command : String) (r : Check.Result) : Json :=
  .object
    [("command", .text command), ("result", .whole r.state.code.toNat),
     ("state", .text r.state.name), ("message", .text r.output), ("perf", .text r.performance)]

/-- What the pages are made of. -/
structure Site (m : Type → Type) where
  registry : Check.Registry m
  host : Host.State
  gauges : Telemetry.Gauges
  counters : Telemetry.Counters

variable {m : Type → Type} [Monad m]

/-- The scrape itself is counted in what it shows. -/
def Site.exposition (site : Site m) : String :=
  Telemetry.exposition site.gauges (site.counters.record .scrape)

def Site.runQuery (site : Site m) (name : List Char) (query : List Char) :
    m (Page × List Telemetry.Event) :=
  match pathText? name with
  | none => pure (badName, [])
  | some name => do
    let name := String.ofList name
    let result ← site.registry.runGuarded name ((queryPairs query).map argumentOf)
    pure (.json (resultJson name result), [.execution name result.state])

def Site.page (site : Site m) (query : List Char) : Route → m (Page × List Telemetry.Event)
  | .health => pure (.plain 200 "ok", [])
  | .metrics => pure (⟨200, some "text/plain; version=0.0.4", site.exposition⟩, [.scrape])
  | .state => pure (.json (hostJson site.host), [])
  | .inventory =>
    pure (.json (.object [("checks", .array (site.registry.names.map .text))]), [])
  | .query name => site.runQuery name query

/-- The page of a request and what is counted of it. -/
def Site.answer (site : Site m) (r : Request) : m (Page × List Telemetry.Event) :=
  let uri := Uri.read r.target.toList
  match Route.ofPath? uri.path with
  | none => pure (notFound, [])
  | some route =>
    if r.method = "GET" then site.page uri.query route
    else if r.method = "HEAD" then do
      let (page, events) ← site.page uri.query route
      pure ({ page with body := "" }, events)
    else pure (notAllowed, [])

end Web
end MonitorAgent

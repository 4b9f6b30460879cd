import MonitorAgent.Proofs.HostSelection
import MonitorAgent.Proofs.LoadWindow

/-!
# What the load check reports

As soon as there was a sample, each window has a mean, if only that of the newest sample, so
each window that is asked for stands for one item and one metric, at its place in the list, and
there is always something to tell.  A text that is no duration fails the check, but only the
first of such texts is told.
-/

namespace MonitorAgent

/-! ## Means -/

namespace Host
namespace LoadHistory

variable {h : LoadHistory} {pushes : List Sample}

theorem Retains.exists_average? (hkept : h.Retains pushes) (hne : pushes ≠ []) (now : Int)
    (window : Duration) : ∃ load, h.average? now window = some load := by
  rw [average?]
  split
  · rw [hkept.getLast?_eq, List.getLast?_eq_some_getLast hne]
    exact ⟨_, rfl⟩
  · exact ⟨_, rfl⟩

end LoadHistory
end Host

namespace Probe

open Check Host.LoadHistory

namespace Load

variable {v : View} {s : Settings} {args : List String} {window : String}

/-! ## Windows -/

/-- Arguments that can be read, with none beyond the settings but windows. -/
structure Accepts (args : List String) : Prop where
  readable : ∀ raw ∈ args, (Argument.read raw).IsReadable
  times : ∀ a ∈ Argument.leftOver args, a.key = "time"

/-- The windows that are asked for, or three of them where none is. -/
def windowsOf (args : List String) : List String :=
  let given := (Argument.leftOver args).map (·.value)
  if given = [] then ["5m", "1m", "5s"] else given

theorem windowsOf_ne (args : List String) : windowsOf args ≠ [] := by
  rw [windowsOf]
  split
  next => exact List.cons_ne_nil _ _
  next hne => exact hne

theorem accepts_of_read {rest : List Argument} (h : (settings.read args).2 = .ok rest)
    (htimes : ∀ a ∈ rest, a.key = "time") : Accepts args ∧ Argument.leftOver args = rest := by
  obtain ⟨hreadable, rfl⟩ := (settings.read_eq_ok_iff args rest).mp h
  exact ⟨⟨hreadable, htimes⟩, rfl⟩

theorem request_of_accepts (h : Accepts args) :
    request args = .ok ((settings.read args).1, windowsOf args) := by
  have hrest := (settings.read_eq_ok_iff args _).mpr ⟨h.readable, rfl⟩
  have hwindows : windows (Argument.leftOver args) = .ok (windowsOf args) := by
    have hknown : ∀ a ∈ Argument.leftOver args, a.key ∈ ["time"] := fun a ha =>
      List.mem_singleton.mpr (h.times a ha)
    rw [windows, refuseOthers_eq_ok_iff.mpr hknown, ok_bind, valuesOf_eq_map h.times, windowsOf]
    simp only [List.isEmpty_iff]
    rfl
  rw [request_eq, hrest, ok_bind, hwindows, ok_bind]

/-! ## Metrics -/

/-- The level of a threshold on the mean, under one of its two names. -/
def levelOf (t : Threshold) : Option Float :=
  if t.name = "load" ∨ t.name = "load_pct" then t.number? else none

/-- What is told of a window: its mean, rounded to a whole number of percent. -/
def told (s : Settings) (window : String) (load : Float) : Metric :=
  { name := "total " ++ window, unit := "%", value := Decimal.nearestWhole load
    warning := levelOf s.warning, critical := levelOf s.critical, min := some 0, max := some 100 }

theorem metrics_entry (s : Settings) (window : String) (load : Float) :
    (entry s window load).metrics = [told s window load] := by
  simp only [entry, Metric.withLevels, Metric.level?, List.mem_cons, List.not_mem_nil, or_false,
    told, levelOf]

/-! ## All windows -/

theorem run_of_request {windows : List String} (h : request args = .ok (s, windows)) :
    (standard.run "check_cpu" args).run v =
      match windows.mapM (measured? v s) with
      | .error outcome => outcome.settle
      | .ok entries => .ok (Entry.report s (entries.filterMap id)) := by
  have hrun : (standard.run "check_cpu" args).run v = (check v args).settle := rfl
  rw [hrun, check, h]
  simp only
  cases windows.mapM (measured? v s) <;> rfl

theorem run_of_fault (hcount : v.history.length < UInt32.size) (h : Accepts args)
    {before behind : List String} {fault : Duration.Fault}
    (hwindows : windowsOf args = before ++ window :: behind)
    (hbefore : ∀ w ∈ before, ∃ d, Duration.read w = .ok d)
    (hread : Duration.read window = .error fault) : (standard.run "check_cpu" args).run v =
      .ok (.unknown ("invalid argument: time=" ++ window ++ ": " ++ fault.message)) := by
  have hmeasured : (windowsOf args).mapM (measured? v (settings.read args).1) =
      .error (.failed (.argument ("time=" ++ window ++ ": " ++ fault.message))) := by
    rw [hwindows]
    apply mapM_eq_error_of_append _ (measured?_of_fault hread)
    intro w hw
    obtain ⟨d, hd⟩ := hbefore w hw
    exact ⟨_, measured?_of_duration hcount hd⟩
  rw [run_of_request (request_of_accepts h), hmeasured]
  rfl

theorem run_of_durations {load : String → Float} (hcount : v.history.length < UInt32.size)
    (h : Accepts args) (hwindows : ∀ w ∈ windowsOf args, ∃ d, Duration.read w = .ok d ∧
      v.history.average? v.now d = some (load w)) :
    let s := (settings.read args).1
    (standard.run "check_cpu" args).run v =
      .ok (Entry.report s ((windowsOf args).map fun w => entry s w (load w))) := by
  intro s
  have hmeasured : (windowsOf args).mapM (measured? v s) =
      .ok ((windowsOf args).map fun w => some (entry s w (load w))) := by
    apply mapM_eq_ok_of_forall
    intro w hw
    obtain ⟨d, hd, hload⟩ := hwindows w hw
    rw [measured?_of_duration hcount hd, hload]
    rfl
  have hentries : ((windowsOf args).map fun w => some (entry s w (load w))).filterMap id =
      (windowsOf args).map fun w => entry s w (load w) := by
    rw [List.filterMap_map]
    exact congrFun List.filterMap_eq_map (windowsOf args)
  rw [run_of_request (request_of_accepts h), hmeasured]
  simp only [hentries]
  rfl

/-- All windows are told in their order, each with its mean and the levels on it, and the state is
that of the worst of them, or the first text that is no duration is told. -/
theorem run_windows {pushes : List Host.Sample} (hne : pushes ≠ [])
    (hcount : (ofPushes pushes).length < UInt32.size) (host : Host.State) (now : Int)
    (h : Accepts args) :
    let v : View := ⟨host, ofPushes pushes, now⟩
    let s := (settings.read args).1
    let windows := windowsOf args
    ((∀ w ∈ windows, ∃ d, Duration.read w = .ok d) →
      windows ≠ [] ∧ ∃ (r : Result) (load : String → Float),
        (standard.run "check_cpu" args).run v = .ok r ∧
        (∀ w ∈ windows, ∃ d, Duration.read w = .ok d ∧
          (ofPushes pushes).average? now d = some (load w)) ∧
        r.TellsOf s (windows.map fun w => entry s w (load w)) ∧
        r.metrics = windows.map fun w => told s w (load w)) ∧
    ((∃ w ∈ windows, ∃ fault, Duration.read w = .error fault) →
      ∃ r, (standard.run "check_cpu" args).run v = .ok r ∧ r.state = .unknown ∧ r.metrics = [] ∧
        ∃ before w behind fault, windows = before ++ w :: behind ∧
          (∀ b ∈ before, ∃ d, Duration.read b = .ok d) ∧ Duration.read w = .error fault ∧
          r.output = "UNKNOWN - invalid argument: time=" ++ w ++ ": " ++ fault.message) := by
  intro v s windows
  constructor
  · intro hdurations
    have hmeans : ∀ w ∈ windows, ∃ load d, Duration.read w = .ok d ∧
        (ofPushes pushes).average? now d = some load := by
      intro w hw
      obtain ⟨d, hd⟩ := hdurations w hw
      obtain ⟨load, hload⟩ := (retains_ofPushes pushes).exists_average? hne now d
      exact ⟨load, d, hd, hload⟩
    choose! load hload using hmeans
    have hrun := run_of_durations (v := v) hcount h hload
    have htells := Entry.report_tellsOf s (windows.map fun w => entry s w (load w))
    refine ⟨windowsOf_ne args, _, load, hrun, hload, htells, ?_⟩
    rw [htells.metrics_eq fun w => metrics_entry s w (load w)]
    exact List.map_eq_flatMap.symm
  · intro hfault
    obtain ⟨before, w, behind, fault, hwindows, hbefore, hread⟩ := exists_first_error hfault
    refine ⟨_, run_of_fault (v := v) hcount h hwindows hbefore hread, rfl, rfl, before, w, behind,
      fault, hwindows, hbefore, hread, ?_⟩
    rw [Result.unknown]
    simp only [← String.append_assoc]
    rfl

/-- Both samples are older than the first window, which has the newest of them, and the other
window has their mean; of three texts the second and the third are no durations. -/
theorem run_windows_old :
    let v : View :=
      ⟨{ startedAt := 0 }, ofPushes [⟨0, 70⟩, ⟨800000000000, 90⟩], 1000000000000⟩
    (∃ r, (standard.run "check_cpu" ["time=1m", "warn=load>85", "time=1h"]).run v = .ok r ∧
      r.state = .warning ∧ r.metrics =
        [{ name := "total 1m", unit := "%", value := 90, warning := some 85, critical := some 90
           min := some 0, max := some 100 },
         { name := "total 1h", unit := "%", value := 80, warning := some 85, critical := some 90
           min := some 0, max := some 100 }]) ∧
    ∃ r, (standard.run "check_cpu" ["time=1m", "time=soon", "time="]).run v = .ok r ∧
      r.state = .unknown ∧ r.metrics = [] := by
  intro v
  let pushes : List Host.Sample := [⟨0, 70⟩, ⟨800000000000, 90⟩]
  have hcount : (ofPushes pushes).length < UInt32.size := by decide
  have hne : pushes ≠ [] := List.cons_ne_nil _ _
  constructor
  · let args := ["time=1m", "warn=load>85", "time=1h"]
    let s := (settings.read args).1
    have hread : (settings.read args).2 = .ok [⟨"time", "1m"⟩, ⟨"time", "1h"⟩] := rfl
    obtain ⟨haccepts, hleft⟩ := accepts_of_read hread (by decide)
    have hwindows : windowsOf args = ["1m", "1h"] := by
      rw [windowsOf, hleft]
      rfl
    have hrun := run_windows hne hcount v.host v.now haccepts
    rw [hwindows] at hrun
    obtain ⟨-, r, load, hr, hloads, htells, hmetrics⟩ := hrun.1 <| by
      rintro w (_ | ⟨_, _ | ⟨_, ⟨⟩⟩⟩)
      · exact ⟨_, rfl⟩
      · exact ⟨_, rfl⟩
    have hminute : load "1m" = 90 := by
      obtain ⟨d, hd, hload⟩ := hloads "1m" List.mem_cons_self
      obtain rfl : ⟨60000000000⟩ = d := Except.ok.inj hd
      have hmean : (ofPushes pushes).average? 1000000000000 ⟨60000000000⟩ = some 90 := by
        decide +kernel
      exact Option.some.inj (hload.symm.trans hmean)
    have hhour : load "1h" = 80 := by
      obtain ⟨d, hd, hload⟩ := hloads "1h" (List.mem_cons_of_mem _ List.mem_cons_self)
      obtain rfl : ⟨3600000000000⟩ = d := Except.ok.inj hd
      have hmean : (ofPushes pushes).average? 1000000000000 ⟨3600000000000⟩ = some 80 := by
        decide +kernel
      exact Option.some.inj (hload.symm.trans hmean)
    refine ⟨r, hr, ?_, hmetrics.trans ?_⟩
    · have hstates : [s.classify (entry s "1m" 90).fields, s.classify (entry s "1h" 80).fields] =
          [.warning, .ok] := by
        decide +kernel
      have hworst : State.IsWorst [.warning, .ok] .warning := ⟨by decide, .inr (by decide)⟩
      rw [← hstates] at hworst
      have htold := htells.worst (List.cons_ne_nil _ _)
      simp only [List.map_cons, List.map_nil, hminute, hhour] at htold
      exact htold.unique hworst
    · have hlevels : levelOf s.warning = some 85 ∧ levelOf s.critical = some 90 := by
        decide +kernel
      have hwhole : Decimal.nearestWhole 90 = 90 ∧ Decimal.nearestWhole 80 = 80 := by
        decide +kernel
      simp only [List.map_cons, List.map_nil, told, hminute, hhour, hwhole]
      rw [hlevels.1, hlevels.2]
      rfl
  · have hread : (settings.read ["time=1m", "time=soon", "time="]).2 =
        .ok [⟨"time", "1m"⟩, ⟨"time", "soon"⟩, ⟨"time", ""⟩] := rfl
    obtain ⟨haccepts, hleft⟩ := accepts_of_read hread (by decide)
    have hrun := run_windows hne hcount v.host v.now haccepts
    rw [windowsOf, hleft] at hrun
    obtain ⟨r, hr, hstate, hmetrics, -⟩ := hrun.2 ⟨"soon", by decide, _, rfl⟩
    exact ⟨r, hr, hstate, hmetrics⟩

end Load
end Probe
end MonitorAgent

import MonitorAgent.Proofs.Isolation

/-!
# Gauges of a run

A collection sets all gauges anew, whatever they have held: those of the disks and the
interfaces are dropped before they are filled, so that a disk or an interface that has gone
leaves no sample behind.  So the gauges show the host of the last collection, and nothing
but a collection changes them.
-/

namespace MonitorAgent

namespace Telemetry

/-- What a host is like under the names of the gauges.  The disks and the interfaces have one
sample to each name, with the value of the last entry of the name. -/
structure ShowsHost (shown : String → List Sample) (host : Host.State) : Prop where
  disk_used : ShowsLatest (shown "snclient_disk_used_bytes") "mount" (·.mount)
    (fun d => Float.ofNat d.used.toNat) host.snapshot.disks
  disk_total : ShowsLatest (shown "snclient_disk_total_bytes") "mount" (·.mount)
    (fun d => Float.ofNat d.total.toNat) host.snapshot.disks
  disk_usage : ShowsLatest (shown "snclient_disk_usage_percent") "mount" (·.mount)
    (fun d => if d.total = 0 then 0
      else Float.ofNat d.used.toNat / Float.ofNat d.total.toNat * 100) host.snapshot.disks
  net_received : ShowsLatest (shown "snclient_net_rx_bytes_per_sec") "iface" (·.name)
    (fun i => Float.ofNat i.receiveRate.toNat) host.snapshot.interfaces
  net_sent : ShowsLatest (shown "snclient_net_tx_bytes_per_sec") "iface" (·.name)
    (fun i => Float.ofNat i.sendRate.toNat) host.snapshot.interfaces
  load : shown "snclient_cpu_usage_percent" = [⟨[], host.snapshot.load⟩]
  collected : shown "snclient_last_collect_timestamp_seconds" = [⟨[], ofTime host.collectedAt⟩]
  memory_total : shown "snclient_memory_total_bytes" =
    [⟨[], Float.ofNat host.snapshot.memoryTotal.toNat⟩]
  memory_used : shown "snclient_memory_used_bytes" =
    [⟨[], Float.ofNat host.snapshot.memoryUsed.toNat⟩]
  processes : shown "snclient_process_count" = [⟨[], Float.ofNat host.snapshot.processes.length⟩]
  swap_total : shown "snclient_swap_total_bytes" =
    [⟨[], Float.ofNat host.snapshot.swapTotal.toNat⟩]
  swap_used : shown "snclient_swap_used_bytes" = [⟨[], Float.ofNat host.snapshot.swapUsed.toNat⟩]
  uptime : shown "snclient_system_uptime_seconds" = [⟨[], Float.ofNat host.snapshot.uptime.toNat⟩]

theorem percent_used (d : Host.Disk) : Host.percent d.used.toNat d.total.toNat =
    if d.total = 0 then 0 else Float.ofNat d.used.toNat / Float.ofNat d.total.toNat * 100 := by
  have htotal : d.total.toNat = 0 ↔ d.total = 0 := UInt64.toNat_inj (b := 0)
  simp only [Host.percent, htotal]

namespace Gauges

variable (g : Gauges) (host : Host.State) (clock : Int64) (c : Counters)

theorem foldl_setDisk (disks : List Host.Disk) : disks.foldl setDisk g =
    { g with
      diskUsed := g.diskUsed.setAll (·.mount) (fun d => sizeOf d.used) disks
      diskTotal := g.diskTotal.setAll (·.mount) (fun d => sizeOf d.total) disks
      diskUsage := g.diskUsage.setAll (·.mount)
        (fun d => Host.percent d.used.toNat d.total.toNat) disks } := by
  induction disks generalizing g with
  | nil => rfl
  | cons d disks ih =>
      rw [List.foldl_cons, ih]
      rfl

theorem foldl_setInterface (interfaces : List Host.Interface) : interfaces.foldl setInterface g =
    { g with
      netReceived := g.netReceived.setAll (·.name) (fun i => sizeOf i.receiveRate) interfaces
      netSent := g.netSent.setAll (·.name) (fun i => sizeOf i.sendRate) interfaces } := by
  induction interfaces generalizing g with
  | nil => rfl
  | cons i interfaces ih =>
      rw [List.foldl_cons, ih]
      rfl

/-- Nothing is left of what the gauges have held. -/
theorem update_eq : g.update host clock =
    { load := host.snapshot.load
      memoryUsed := sizeOf host.snapshot.memoryUsed
      memoryTotal := sizeOf host.snapshot.memoryTotal
      swapUsed := sizeOf host.snapshot.swapUsed
      swapTotal := sizeOf host.snapshot.swapTotal
      diskUsed := .setAll [] (·.mount) (fun d => sizeOf d.used) host.snapshot.disks
      diskTotal := .setAll [] (·.mount) (fun d => sizeOf d.total) host.snapshot.disks
      diskUsage := .setAll [] (·.mount) (fun d => Host.percent d.used.toNat d.total.toNat)
        host.snapshot.disks
      netReceived := .setAll [] (·.name) (fun i => sizeOf i.receiveRate) host.snapshot.interfaces
      netSent := .setAll [] (·.name) (fun i => sizeOf i.sendRate) host.snapshot.interfaces
      processes := Float.ofNat host.snapshot.processes.length
      uptime := sizeOf host.snapshot.uptime
      agentUptime := ofTime (timeSince host.startedAt clock)
      collectedAt := ofTime host.collectedAt } := by
  rw [update, foldl_setDisk, foldl_setInterface]
  rfl

/-- After a collection the gauges show its host. -/
theorem update_showsHost : ShowsHost (samples · (g.update host clock) c) host := by
  rw [update_eq]
  exact {
    disk_used := samples_keyed _ c 6 rfl rfl
    disk_total := samples_keyed _ c 4 rfl rfl
    disk_usage := by
      simp only [← percent_used]
      exact samples_keyed _ c 5 rfl rfl
    net_received := samples_keyed _ c 10 rfl rfl
    net_sent := samples_keyed _ c 11 rfl rfl
    load := samples_single _ c 3 rfl
    collected := samples_single _ c 7 rfl
    memory_total := samples_single _ c 8 rfl
    memory_used := samples_single _ c 9 rfl
    processes := samples_single _ c 13 rfl
    swap_total := samples_single _ c 15 rfl
    swap_used := samples_single _ c 16 rfl
    uptime := samples_single _ c 17 rfl }

end Gauges

end Telemetry

open Telemetry (Exposes Family ShowsHost exposition exposition_exposes families samples textLines
  lineName)

namespace Agent

variable (a : Agent) (now : Int)

/-! ## Steps -/

theorem isSome_collected? (step : Step) :
    (a.step now step).2.collected?.isSome = step.isCollection := by
  cases step <;> rfl

theorem host_step (step : Step) :
    (a.step now step).1.host = (a.step now step).2.collected?.getD a.host := by
  cases step with
  | browse request => exact congrArg (·.1.host) (step_browse a now request)
  | _ => rfl

theorem gauges_step_of_none {step : Step} (h : (a.step now step).2.collected? = none) :
    (a.step now step).1.gauges = a.gauges := by
  cases step with
  | collect time snapshot => cases h
  | browse request => exact congrArg (·.1.gauges) (step_browse a now request)
  | _ => rfl

theorem gauges_step {step : Step} (h : step.isCollection = false) :
    (a.step now step).1.gauges = a.gauges := by
  apply gauges_step_of_none
  rwa [← isSome_collected? a now, Option.isSome_eq_false_iff, Option.isNone_iff_eq_none] at h

/-- A collection leaves no gauge as it was but by chance. -/
theorem showsHost_step {step : Step} {host : Host.State}
    (h : (a.step now step).2.collected? = some host) (c : Telemetry.Counters) :
    ShowsHost (samples · (a.step now step).1.gauges c) host := by
  cases step with
  | collect time snapshot =>
      obtain rfl := Option.some.inj h
      exact a.gauges.update_showsHost _ time c
  | _ => cases h

/-! ## Runs -/

theorem run_concat (steps : List (Int × Step)) (step : Step) :
    a.run (steps ++ [(now, step)]) = ((a.run steps).step now step).1 :=
  List.foldl_concat ..

theorem answers_concat (steps : List (Int × Step)) (step : Step) :
    a.answers (steps ++ [(now, step)]) =
      a.answers steps ++ [((a.run steps).step now step).2] := by
  induction steps generalizing a with
  | nil => rfl
  | cons entry steps ih =>
      obtain ⟨before, first⟩ := entry
      rw [List.cons_append, answers_cons, answers_cons, run_cons, ih, List.cons_append]

theorem collections_concat (steps : List (Int × Step)) (step : Step) :
    a.collections (steps ++ [(now, step)]) =
      a.collections steps ++ ((a.run steps).step now step).2.collected?.toList := by
  rw [collections, answers_concat, List.filterMap_append, collections]
  cases hcollected : ((a.run steps).step now step).2.collected? <;> simp [hcollected]

/-- From whatever the gauges have held at first, they show the host of the last collection. -/
theorem run_showsHost {steps : List (Int × Step)} {host : Host.State}
    (h : (a.collections steps).getLast? = some host) :
    (a.run steps).host = host ∧
      ∀ c, ShowsHost (samples · (a.run steps).gauges c) host := by
  -- The last step is split off: it collects, or it keeps what the steps before it have left.
  induction steps using List.reverseRecOn with
  | nil => cases h
  | append_singleton steps entry ih =>
      obtain ⟨now, step⟩ := entry
      rw [collections_concat] at h
      rw [run_concat, host_step]
      cases hcollected : ((a.run steps).step now step).2.collected? with
      | none =>
          rw [hcollected, Option.toList_none, List.append_nil] at h
          rw [gauges_step_of_none _ _ hcollected]
          exact ih h
      | some collected =>
          rw [hcollected, Option.toList_some, List.getLast?_concat] at h
          obtain rfl := Option.some.inj h
          exact ⟨rfl, showsHost_step _ _ hcollected⟩

theorem exists_last_collection {steps : List (Int × Step)}
    (h : ∃ entry ∈ steps, entry.2.isCollection = true) :
    ∃ host, (a.collections steps).getLast? = some host := by
  induction steps using List.reverseRecOn with
  | nil =>
      obtain ⟨entry, hentry, -⟩ := h
      cases hentry
  | append_singleton steps entry ih =>
      obtain ⟨now, step⟩ := entry
      rw [collections_concat, List.getLast?_append]
      cases hcollected : ((a.run steps).step now step).2.collected? with
      | some host => exact ⟨host, rfl⟩
      | none =>
          obtain ⟨⟨before, earlier⟩, hearlier, hcollects⟩ := h
          refine ih ⟨(before, earlier), ?_, hcollects⟩
          rcases List.mem_append.mp hearlier with hmem | hmem
          · exact hmem
          · cases List.mem_singleton.mp hmem
            rw [← isSome_collected? (a.run steps) now, hcollected] at hcollects
            cases hcollects

/-- Once there has been a collection, the gauges are those of the host that the last one has
answered with, and so are their lines wherever the metrics are shown.  Another collection changes
gauges only, and nothing else that happens changes any of them. -/
theorem run_gauges (a : Agent) (steps : List (Int × Step))
    (h : ∃ entry ∈ steps, entry.2.isCollection = true) :
    ∃ host, (a.collections steps).getLast? = some host ∧
      let b := a.run steps
      b.host = host ∧
      (∀ c, ShowsHost (samples · b.gauges c) host ∧
        Exposes (exposition b.gauges c) (samples · b.gauges c)) ∧
      (∀ now, (b.step now .showMetrics).2 = .metrics (exposition b.gauges b.counters)) ∧
      (∀ now r, r.asksMetrics = true → (b.step now (.browse r)).2 =
        .page ⟨200, some "text/plain; version=0.0.4",
          exposition b.gauges (b.counters.record .scrape)⟩) ∧
      (∀ now time snapshot, let c := (b.step now (.collect time snapshot)).1
        c.counters = b.counters ∧
        List.Forall₂ (Family.DifferIn .gauge) (families b.gauges b.counters)
          (families c.gauges c.counters)) ∧
      (∀ now step, step.isCollection = false → let c := (b.step now step).1
        c.gauges = b.gauges ∧
        List.Forall₂ (Family.DifferIn .counter) (families b.gauges b.counters)
          (families c.gauges c.counters)) ∧
      ∀ listener now event,
        ((⟨b, listener⟩ : Daemon).step now (.listen event)).agent.gauges = b.gauges := by
  obtain ⟨host, hlast⟩ := exists_last_collection a h
  obtain ⟨hhost, hshows⟩ := run_showsHost a hlast
  refine ⟨host, hlast, hhost, fun c => ⟨hshows c, exposition_exposes _ c⟩, fun now => rfl,
    ?_, ?_, ?_, ?_⟩
  · intro now r hr
    rw [step_browse, Web.Site.answer_of_asksMetrics _ hr]
    rfl
  · intro now time snapshot c
    exact ⟨rfl, Telemetry.families_differIn_gauge _ _ _⟩
  · intro now step hstep c
    have hkept : c.gauges = (a.run steps).gauges := gauges_step _ now hstep
    rw [hkept]
    exact ⟨rfl, Telemetry.families_differIn_counter _ _ _⟩
  · intro listener now event
    obtain ⟨events, hevents⟩ := Daemon.exists_count_listen ⟨a.run steps, listener⟩ now event
    rw [hevents, count_gauges]

/-- A disk that is listed twice, one without a size, one that has gone, and one that the gauges have
shown before. -/
theorem run_gauges_disks :
    let a : Agent :=
      { host := .new 0, policy := ⟨[], true, false, .ofSeconds 30⟩
        gauges := { diskUsed := [("/old", 1)] } }
    let steps : List (Int × Step) :=
      [(0, .collect 100 { disks := [⟨"/", "ext4", 10, 100⟩, ⟨"/data", "ext4", 1, 2⟩] }),
       (1, .collect 160
        { disks := [⟨"/", "ext4", 20, 100⟩, ⟨"/", "ext4", 30, 100⟩, ⟨"/proc", "proc", 0, 0⟩] }),
       (2, .collectFailed "disks")]
    let b := a.run steps
    let used := samples "snclient_disk_used_bytes" b.gauges b.counters
    ⟨[("mount", "/")], Float.ofNat 30⟩ ∈ used ∧
    (∀ s ∈ used, s.labels ≠ [("mount", "/data")] ∧ s.labels ≠ [("mount", "/old")]) ∧
    ⟨[("mount", "/proc")], 0⟩ ∈ samples "snclient_disk_usage_percent" b.gauges b.counters ∧
    ∃ text, (b.step 3 .showMetrics).2 = .metrics text ∧
      (textLines text).filter (lineName · = "snclient_disk_used_bytes") =
        ["snclient_disk_used_bytes\x7bmount=\"/\"\x7d 30",
         "snclient_disk_used_bytes\x7bmount=\"/proc\"\x7d 0"] := by
  intro a steps b used
  obtain ⟨host, hlast, -, hshows, hmetrics, -⟩ :=
    run_gauges a steps ⟨(0, _), List.mem_cons_self, rfl⟩
  have hhost : b.host = host := Option.some.inj hlast
  have hdisks : host.snapshot.disks =
      [⟨"/", "ext4", 20, 100⟩, ⟨"/", "ext4", 30, 100⟩, ⟨"/proc", "proc", 0, 0⟩] := by
    rw [← hhost]
    rfl
  have hgone : ∀ d ∈ host.snapshot.disks, d.mount ≠ "/data" ∧ d.mount ≠ "/old" := by
    rw [hdisks]
    decide
  obtain ⟨hshown, hlines⟩ := hshows b.counters
  refine ⟨?_, ?_, ?_, _, hmetrics 3, ?_⟩
  · rw [hshown.disk_used.mem_iff, hdisks]
    exact ⟨⟨"/", "ext4", 30, 100⟩, ⟨[_], [_], rfl, by simp⟩, rfl⟩
  · intro s hs
    obtain ⟨d, ⟨before, after, hsplit, -⟩, rfl⟩ := (hshown.disk_used.mem_iff s).mp hs
    have hd : d ∈ host.snapshot.disks := by
      rw [hsplit]
      exact List.mem_append_right before List.mem_cons_self
    simpa using hgone d hd
  · rw [hshown.disk_usage.mem_iff, hdisks]
    exact ⟨⟨"/proc", "proc", 0, 0⟩, ⟨[_, _], [], rfl, by simp⟩, rfl⟩
  · rw [hlines _ (by decide)]
    decide +kernel

end Agent
end MonitorAgent

import VolumeLifecycle.Proofs.Lifecycle.JobPolls
import VolumeLifecycle.Proofs.Lifecycle.PowerPolls
/-!
# VolumeLifecycle.Proofs.Lifecycle.PollBounds

**The poll loops stop in time, at a positive interval.** Both loops a component runs — the wait
for a job and the power loop of a power cycle — measure their progress by the time left until
the deadline, and each round takes `min I R` of it. On a clock of whole seconds — written as
whole numbers, or as doubles that hold them, as times read from the environment are — with a
positive whole interval `I`, that is at least one second, so a wait of `T` seconds takes at most
`⌈T / I⌉` rounds, whatever the controller answers (`StopsWithin`), and the budget of steps the
loops are given always covers them (`pollsWithin_lt_pollBudget`).

The interval is what carries this. The configuration only refuses negative timings, so an
interval of `0` passes: each round then sleeps `min 0 R = 0`, the time left never shrinks, and a
job that never settles is polled until the budget runs out. Fractional intervals on a clock of
floating-point seconds fall short the other way: ten sleeps of `0.1` leave a remainder of about
`1.1e-16` of a one-second wait, which buys an eleventh poll.
-/

namespace VolumeLifecycle.Lifecycle

open VolumeLifecycle.Redfish VolumeLifecycle.Value

/-- **The poll loops stop in time.** On a clock of whole seconds, at a positive interval of `I`
seconds and with a timeout of `T` seconds, from any time `N` the timebase spans the wait from, a
wait for the job `j` and the power loop of a power cycle each poll at most `⌈T / I⌉` times, wait
at most `max T 0` seconds, and return a result whenever they could go on from every read. The
times may be whole numbers, or doubles that hold whole numbers. -/
theorem pollLoops_stop_within {tb : Timebase} {I T : Int} (hI : 0 < I) {interval timeout : Value}
    (hinterval : Value.Seconds tb interval I) (htimeout : Value.Seconds tb timeout T) (p : Poller)
    {j : String} (hj : j ≠ "") {jobPath : String} (hjob : p.client.target (.str j) = .ok jobPath)
    (c : Client) {systemUri : Value} {systemPath : String}
    (hsystem : c.target systemUri = .ok systemPath) (N : Int) (hspan : tb.Spans N T)
    {deadline : Value} (hdeadline : Value.Seconds tb deadline (N + T)) :
    (p.wait (.str j) timeout interval).Timed tb N
        (StopsWithin readable (taskRead (.str j)) I T jobPath) ∧
      (pollPower c systemUri settledState interval deadline (pollBudget interval timeout) [] 0).Timed
        tb N (StopsWithin powerReadable (powerRead systemUri) I T systemPath) := by
  constructor
  · refine (Poller.wait_timed p hj hI htimeout hinterval hjob N hspan).mono fun r evs d h => ?_
    obtain ⟨answers, elapsed, -, h⟩ := h
    exact h.stopsWithin
  · -- the power loop starts `T` seconds before its deadline, with a budget beyond its polls
    have hT : N + T - N = T := by omega
    have hfuel : pollsWithin I (N + T - N) < pollBudget interval timeout := by
      rw [hT]
      exact pollsWithin_lt_pollBudget hI hinterval htimeout hspan
    refine (pollPower_timed c hsystem settledState hI hinterval hdeadline _ [] 0 N hspan.start
      (by rw [hT]; exact htimeout.fits) hfuel).mono fun r evs d h => ?_
    obtain ⟨answers, h⟩ := h
    rw [hT] at h
    exact h.stopsWithin

/-- A poller waiting 25 seconds for the task `J1` at an interval of ten seconds, both read as
doubles, beside the power loop of the system `1` on the same client, from the clock's start. -/
theorem pollLoops_stop_within_task :
    let p : Poller :=
      { client := { baseUrl := "https://192.168.2.230", auth := none, verify := .bool false,
                    timeout := .int 30, headers := [] },
        interval := .int 10 }
    (0 : Int) < 10 ∧ Value.Seconds .doubles (.float 10) 10 ∧
      Value.Seconds .doubles (.float 25) 25 ∧ "/redfish/v1/TaskService/Tasks/J1" ≠ "" ∧
      Timebase.doubles.Spans 0 25 ∧ Value.Seconds .doubles (.float 25) (0 + 25) ∧
      ∃ jobPath systemPath,
        p.client.target (.str "/redfish/v1/TaskService/Tasks/J1") = .ok jobPath ∧
        p.client.target (.str "/redfish/v1/Systems/1") = .ok systemPath ∧
        (p.wait (.str "/redfish/v1/TaskService/Tasks/J1") (.float 25) (.float 10)).Timed .doubles 0
            (StopsWithin readable (taskRead (.str "/redfish/v1/TaskService/Tasks/J1")) 10 25
              jobPath) ∧
          (pollPower p.client (.str "/redfish/v1/Systems/1") settledState (.float 10) (.float 25)
            (pollBudget (.float 10) (.float 25)) [] 0).Timed .doubles 0
            (StopsWithin powerReadable (powerRead (.str "/redfish/v1/Systems/1")) 10 25
              systemPath) :=
  have hinterval : Value.Seconds .doubles (.float 10) 10 :=
    Value.seconds_float ⟨by decide, by decide⟩
  have htimeout : Value.Seconds .doubles (.float 25) 25 :=
    Value.seconds_float ⟨by decide, by decide⟩
  have hspan : Timebase.doubles.Spans 0 25 := by decide
  ⟨by decide, hinterval, htimeout, by decide, hspan, htimeout,
    (Client.target_str _ _).elim fun jobPath hjob =>
      (Client.target_str _ _).elim fun systemPath hsystem =>
        ⟨jobPath, systemPath, hjob, hsystem,
          pollLoops_stop_within (by decide) hinterval htimeout _ (by decide) hjob _ hsystem 0 hspan
            htimeout⟩⟩

end VolumeLifecycle.Lifecycle

import CpsXen.Sched.System

/-! How a vcpu moves between cpus under the FP scheduler.  The scheduler has no
`migrate` hook, so `vcpu_migrate` rewrites `v->processor` and relies on the wake
that follows; `fp_vcpu_wake` returns early for a vcpu that is linked anywhere or
current on its processor, so a queued vcpu keeps its old queue and a vcpu still
current on another cpu is not queued at all.  A new hard affinity still takes the
vcpu to a cpu of its pool inside the mask.  `sched_move_domain` deals the vcpus
of a domain out round the cpus of the new cpupool, from `cpumask_first` on with
`cpumask_cycle`, and nothing after it moves them again. -/

namespace CpsXen

theorem affinity_change_strands_queued_vcpu :
    let s : State := (State.boot 2 [0] (fun _ => [0, 1]) (fun _ => 0)).run
      [.domainCreate 1 0, .allocVcpu 1 0 0 0, .vcpuUp ⟨1, 0⟩, .schedule 0 0 false,
        .setHardAffinity ⟨1, 0⟩ [1], .schedule 0 100000 false]
    ⟨1, 0⟩ ∈ s.runq 0 ∧ s.processor ⟨1, 0⟩ = 1 ∧ s.hardAffinity ⟨1, 0⟩ = [1] ∧
      (s.fpDoSchedule 0 200000 false).2.task = ⟨1, 0⟩ := by
  decide +kernel

theorem unpause_of_current_vcpu_loses_wakeup :
    let s : State := (State.boot 2 [0] (fun _ => [0, 1]) (fun _ => 0)).run
      [.domainCreate 1 0, .allocVcpu 1 0 0 0, .vcpuUp ⟨1, 0⟩, .schedule 0 0 false,
        .setHardAffinity ⟨1, 0⟩ [1], .schedule 0 100000 false, .schedule 0 200000 false,
        .adjust 1 (.putinfo ⟨0, 0, 0, 0⟩), .schedule 1 210000 false, .schedule 0 220000 false,
        .setHardAffinity ⟨1, 0⟩ [0], .vcpuPauseNosync ⟨1, 0⟩, .setHardAffinity ⟨1, 0⟩ [1],
        .vcpuUnpause ⟨1, 0⟩, .schedule 1 230000 false]
    s.vcpuRunnable ⟨1, 0⟩ = true ∧ s.link ⟨1, 0⟩ = none ∧ ⟨1, 0⟩ ∉ s.runq 0 ∧
      ⟨1, 0⟩ ∉ s.runq 1 ∧ s.curr 0 ≠ ⟨1, 0⟩ ∧ s.curr 1 ≠ ⟨1, 0⟩ := by
  decide +kernel

/-- `sched_move_domain` to a cpupool with at least one cpu leaves every vcpu of the
moved domain on a cpu of that cpupool: the cycle that deals the cpus out stays in
the pool's mask, and neither `insert_vcpu` nor the wakes of `domain_unpause`
change `v->processor`. -/
theorem moved_vcpus_land_in_pool (s : State) (d : Domain) (pool : Nat) (now : Int)
    (populated : s.poolCpus pool ≠ []) :
    ∀ v ∈ d.vcpuIds, (s.schedMoveDomain d pool now).processor v ∈ s.poolCpus pool := by
  have kept : (d.vcpuIds.foldl State.fpVcpuRemove (s.domainPause d)).poolCpus = s.poolCpus :=
    List.foldlRecOn (motive := fun t : State => t.poolCpus = s.poolCpus) _ _
      (State.domainPause_poolCpus s d)
      fun t same v _ => by rw [State.fpVcpuRemove, State.removeFromQueue_poolCpus, same]
  unfold State.schedMoveDomain
  dsimp +zetaHave only
  generalize d.vcpuIds.foldl State.fpVcpuRemove (s.domainPause d) = u at kept
  have cpus : (u.setFpDom d.domainId fpAllocDomdata).poolCpus pool = s.poolCpus pool := by
    rw [← kept]
    rfl
  rw [cpus, State.domainUnpause_processor]
  intro v listed
  -- the placement loop: the next cpu stays in the pool, and so does every vcpu placed
  refine (List.foldl_prefix_induction (motive := fun p (acc : State × Nat) =>
    acc.2 ∈ s.poolCpus pool ∧ ∀ w ∈ p, acc.1.processor w ∈ s.poolCpus pool)
    ⟨getD_min?_mem populated _, by simp⟩ ?_).2 v listed
  intro p x q _ acc before
  obtain ⟨next, placed⟩ := before
  refine ⟨cpumaskCycle_mem _ _ populated, fun w member => ?_⟩
  simp only [State.fpInsertVcpu_processor]
  show Function.update acc.1.processor x acc.2 w ∈ s.poolCpus pool
  by_cases self : w = x
  · rw [self, Function.update_self]
    exact next
  · rw [Function.update_of_ne self]
    exact placed w ((List.mem_append.mp member).resolve_right (by simpa using self))

theorem move_to_second_pool :
    let host : State := State.boot 2 [0, 1] (fun pool => [pool]) (fun cpu => cpu)
    host.poolCpus 1 ≠ [] ∧
      ∀ v ∈ (⟨1, [0], 0⟩ : Domain).vcpuIds,
        (host.schedMoveDomain ⟨1, [0], 0⟩ 1 0).processor v ∈ host.poolCpus 1 :=
  ⟨by decide, moved_vcpus_land_in_pool _ _ 1 0 (by decide)⟩

end CpsXen

import CpsXen.Sched.Order
import CpsXen.Sched.Adjust

/-!
The division `posacc / count` of `__rm_prio_handler` and `__dm_prio_handler` over
whole runs, on any host: several cpupools, dom0 among the domains, domains moved
between pools.  Every caller hands a handler a domain that lists a vcpu:
`fp_sched_set_vm_prio` runs it once per vcpu of the domain, and `fp_vcpu_wake`
and `fp_insert_vcpu` run it for the vcpu they queue, whose domain they find by
its id.  The one call made before `alloc_vcpu` lists its vcpu is the
`insert_vcpu` of `sched_init_vcpu`, and it finds the vcpu down and runs no
handler.  So while domain ids stay distinct and every vcpu marked for migration
is listed, no run divides by zero.
-/

namespace CpsXen

namespace State

/-- What keeps the handlers away from a zero vcpu count: domain ids are distinct,
every vcpu marked for migration is listed by a domain, and no handler has divided
by zero yet. -/
structure TrapFree (s : State) : Prop where
  ids : (s.domains.map Domain.domainId).Nodup
  migrating : ∀ v, (s.pauseFlags v).migrating = true → s.HasVcpu v
  noTrap : s.divideError = false

section Operations

variable {s : State}

theorem TrapFree.of_domains (inv : TrapFree s) {t : State}
    (ids : (t.domains.map Domain.domainId).Nodup) (grown : ∀ v, s.HasVcpu v → t.HasVcpu v)
    (pauseFlags : t.pauseFlags = s.pauseFlags) (divideError : t.divideError = s.divideError) :
    TrapFree t := by
  refine ⟨ids, fun v flagged => grown v (inv.migrating v ?_), divideError.trans inv.noTrap⟩
  rwa [pauseFlags] at flagged

theorem TrapFree.of_generic (inv : TrapFree s) {t : State} (domains : t.domains = s.domains)
    (pauseFlags : t.pauseFlags = s.pauseFlags) (divideError : t.divideError = s.divideError) :
    TrapFree t := by
  refine inv.of_domains ?_ (fun v has => ?_) pauseFlags divideError
  · rw [domains]
    exact inv.ids
  · unfold HasVcpu
    rw [domains]
    exact has

theorem TrapFree.setPauseFlags (inv : TrapFree s) (v : VcpuId) (flags : PauseFlags)
    (allocated : flags.migrating = true → s.HasVcpu v) :
    TrapFree { s with pauseFlags := Function.update s.pauseFlags v flags } := by
  refine ⟨inv.ids, fun w flagged => ?_, inv.noTrap⟩
  by_cases same : w = v
  · subst same
    simp only [Function.update_self] at flagged
    exact allocated flagged
  · simp only [Function.update_of_ne same] at flagged
    exact inv.migrating w flagged

theorem TrapFree.setPauseFlags_of_migrating (inv : TrapFree s) (v : VcpuId) (flags : PauseFlags)
    (kept : flags.migrating = (s.pauseFlags v).migrating) :
    TrapFree { s with pauseFlags := Function.update s.pauseFlags v flags } :=
  inv.setPauseFlags v flags fun flagged => inv.migrating v (kept ▸ flagged)

theorem TrapFree.prioHandler (inv : TrapFree s) {d : Domain} {v : VcpuId} (listed : v ∈ d.vcpuIds)
    (strategy : Strategy) (priority : Int) : TrapFree (State.prioHandler strategy s d priority) := by
  obtain ⟨q, handled⟩ := prioHandler_of_mem listed strategy s priority
  rw [handled, setDomainPriority_eq]
  exact inv.of_generic rfl rfl rfl

theorem TrapFree.removeFromQueue (inv : TrapFree s) (v : VcpuId) :
    TrapFree (s.removeFromQueue v) :=
  inv.of_generic (by simp) (by simp) (by simp)

theorem TrapFree.runqInsert (inv : TrapFree s) (cpu : Nat) (v : VcpuId)
    (compare : FpVcpu → FpVcpu → Bool) : TrapFree (s.runqInsert cpu v compare) :=
  inv.of_generic (by simp) (by simp) (by simp)

theorem TrapFree.fpSchedSetVmPrio (inv : TrapFree s) (pool : Nat) (d : Domain) (prio : Int) :
    TrapFree (s.fpSchedSetVmPrio pool d prio) := by
  unfold State.fpSchedSetVmPrio
  split
  · exact inv.of_generic rfl rfl rfl
  split
  · exact inv.of_generic rfl rfl rfl
  -- the handler runs once for each vcpu the domain lists, so its count is positive
  refine List.foldlRecOn (motive := TrapFree) _ _ inv ?_
  intro t kept v listed
  exact ((kept.prioHandler listed _ prio).removeFromQueue v).runqInsert _ v _

theorem TrapFree.setVmPrioAll (inv : TrapFree s) (pool : Nat) (skip : Nat → Bool) :
    TrapFree (s.setVmPrioAll pool skip) := by
  unfold State.setVmPrioAll
  refine List.foldlRecOn (motive := TrapFree) _ _ inv ?_
  intro t kept p _
  refine List.foldlRecOn (motive := TrapFree) _ _ kept ?_
  intro u alsoKept d _
  split
  · exact alsoKept
  · exact alsoKept.fpSchedSetVmPrio pool d _

theorem TrapFree.fpAdjust (inv : TrapFree s) (pool : Nat) (d : Domain) (cmd : DomctlCmd) :
    TrapFree (s.fpAdjust pool d cmd).1 := by
  cases cmd with
  | getinfo => exact inv
  | putinfo op =>
      rw [fpAdjust_putinfo_eq]
      obtain ⟨fpDom, fpVcpu, stored, -, -⟩ := retimed_putDomainParams s pool d op
      have storedInv : TrapFree (s.putDomainParams pool d op) := by
        rw [stored]
        exact inv.of_generic rfl rfl rfl
      dsimp only
      refine TrapFree.setVmPrioAll ?_ pool _
      split
      · exact storedInv.fpSchedSetVmPrio pool d _
      · exact storedInv

theorem TrapFree.fpAdjustGlobal (inv : TrapFree s) (pool : Nat) (cmd : SysctlCmd) :
    TrapFree (s.fpAdjustGlobal pool cmd).1 := by
  unfold State.fpAdjustGlobal
  cases cmd with
  | getinfo =>
      dsimp only
      exact inv.setVmPrioAll pool _
  | putinfo strategy =>
      dsimp only
      unfold fpSchedSet
      split
      · exact inv.setVmPrioAll pool _
      · -- a new strategy changes no domain, flag or trap
        refine TrapFree.setVmPrioAll ?_ pool _
        exact inv.of_generic rfl rfl rfl

theorem TrapFree.fpInsertVcpu (inv : TrapFree s) {v : VcpuId} (has : s.HasVcpu v) (pool : Nat) :
    TrapFree (s.fpInsertVcpu pool v) := by
  obtain ⟨d, found, listed⟩ := domainOf_of_hasVcpu inv.ids has
  have inserted := inv.runqInsert (s.processor v) v (s.strategy pool).compare
  unfold State.fpInsertVcpu
  split
  · dsimp only
    split
    · simp only [found]
      exact inserted.prioHandler listed _ 1
    · exact inserted
  · exact inv

theorem TrapFree.fpVcpuWake (inv : TrapFree s) {v : VcpuId} (has : s.HasVcpu v) (pool : Nat) :
    TrapFree (s.fpVcpuWake pool v) := by
  obtain ⟨d, found, listed⟩ := domainOf_of_hasVcpu inv.ids has
  have inserted := inv.runqInsert (s.processor v) v (s.strategy pool).compare
  unfold State.fpVcpuWake
  split
  · exact inv
  split
  · exact inv
  split
  · exact inv
  dsimp only
  simp only [found]
  exact inserted.prioHandler listed _ _

theorem TrapFree.vcpuSleepNosync (inv : TrapFree s) (v : VcpuId) :
    TrapFree (s.vcpuSleepNosync v) := by
  unfold State.vcpuSleepNosync State.fpSleep State.runqRemove State.listDelInit
  repeat' split
  all_goals exact inv.of_generic rfl rfl rfl

theorem TrapFree.vcpuWake (inv : TrapFree s) {v : VcpuId} (has : s.HasVcpu v) :
    TrapFree (s.vcpuWake v) := by
  unfold State.vcpuWake
  split
  · exact inv.fpVcpuWake has _
  · exact inv

theorem TrapFree.vcpuMigrate (inv : TrapFree s) (v : VcpuId) : TrapFree (s.vcpuMigrate v) := by
  unfold State.vcpuMigrate
  dsimp only
  split
  · exact inv
  rename_i waiting
  have flagged := (by simpa using waiting :
    s.isRunning v = false ∧ (s.pauseFlags v).migrating = true).2
  have cleared := inv.setPauseFlags v { s.pauseFlags v with migrating := false }
    fun absurd => by simp at absurd
  have moved : TrapFree { s.setMigrating v false with
      processor := Function.update s.processor v (s.fpPickCpu v) } :=
    cleared.of_generic rfl rfl rfl
  exact moved.vcpuWake (inv.migrating v flagged)

theorem TrapFree.vcpuSetHardAffinity (inv : TrapFree s) {v : VcpuId} (has : s.HasVcpu v)
    (affinity : List Nat) : TrapFree (s.vcpuSetHardAffinity v affinity).1 := by
  unfold State.vcpuSetHardAffinity
  split
  · exact inv
  · have flagged := inv.setPauseFlags v { s.pauseFlags v with migrating := true } fun _ => has
    have marked : TrapFree { s.setMigrating v true with
        hardAffinity := Function.update s.hardAffinity v affinity } :=
      flagged.of_generic rfl rfl rfl
    exact (marked.vcpuSleepNosync v).vcpuMigrate v

theorem TrapFree.contextSaved (inv : TrapFree s) (prev : VcpuId) :
    TrapFree (s.contextSaved prev) := by
  unfold State.contextSaved
  dsimp only
  have saved : TrapFree { s with isRunning := Function.update s.isRunning prev false } :=
    inv.of_generic rfl rfl rfl
  split
  · exact saved.vcpuMigrate prev
  · exact saved

theorem TrapFree.recharged (inv : TrapFree s) {t : State} (recharged : Recharged s t) :
    TrapFree t := by
  obtain ⟨fpVcpu, rfl, -⟩ := recharged
  exact inv.of_generic rfl rfl rfl

theorem TrapFree.schedule (inv : TrapFree s) (cpu : Nat) (now : Int) (taskletWorkScheduled : Bool) :
    TrapFree (s.schedule cpu now taskletWorkScheduled) := by
  have picked := inv.recharged (recharged_fpDoSchedule s cpu now taskletWorkScheduled)
  unfold State.schedule
  generalize s.fpDoSchedule cpu now taskletWorkScheduled = out at picked ⊢
  obtain ⟨t, slice⟩ := out
  dsimp only at picked ⊢
  have switched : TrapFree { t with curr := Function.update t.curr cpu slice.task } :=
    picked.of_generic rfl rfl rfl
  split
  · exact switched
  · refine TrapFree.contextSaved ?_ _
    exact switched.of_generic rfl rfl rfl

theorem TrapFree.vcpuPauseNosync (inv : TrapFree s) (v : VcpuId) :
    TrapFree (s.vcpuPauseNosync v) := by
  unfold State.vcpuPauseNosync
  have counted : TrapFree
      { s with pauseCount := Function.update s.pauseCount v (s.pauseCount v + 1) } :=
    inv.of_generic rfl rfl rfl
  exact counted.vcpuSleepNosync v

theorem TrapFree.vcpuUnpause (inv : TrapFree s) {v : VcpuId} (has : s.HasVcpu v) :
    TrapFree (s.vcpuUnpause v) := by
  unfold State.vcpuUnpause
  dsimp only
  have counted : TrapFree
      { s with pauseCount := Function.update s.pauseCount v (s.pauseCount v - 1) } :=
    inv.of_generic rfl rfl rfl
  split
  · exact counted.vcpuWake has
  · exact counted

theorem TrapFree.vcpuBlock (inv : TrapFree s) (v : VcpuId) : TrapFree (s.vcpuBlock v) :=
  inv.setPauseFlags_of_migrating v { s.pauseFlags v with blocked := true } rfl

theorem TrapFree.vcpuUnblock (inv : TrapFree s) {v : VcpuId} (has : s.HasVcpu v) :
    TrapFree (s.vcpuUnblock v) := by
  unfold State.vcpuUnblock
  split
  · exact (inv.setPauseFlags_of_migrating v { s.pauseFlags v with blocked := false } rfl).vcpuWake
      has
  · exact inv

theorem TrapFree.vcpuUp (inv : TrapFree s) {v : VcpuId} (has : s.HasVcpu v) :
    TrapFree (s.vcpuUp v) := by
  unfold State.vcpuUp
  split
  · exact (inv.setPauseFlags_of_migrating v { s.pauseFlags v with down := false } rfl).vcpuWake has
  · exact inv

theorem TrapFree.vcpuDown (inv : TrapFree s) (v : VcpuId) : TrapFree (s.vcpuDown v) := by
  unfold State.vcpuDown
  split
  · exact inv
  · exact (inv.setPauseFlags_of_migrating v { s.pauseFlags v with down := true }
      rfl).vcpuSleepNosync v

theorem TrapFree.domainPause (inv : TrapFree s) (d : Domain) : TrapFree (s.domainPause d) :=
  domainPause_rule TrapFree d (inv.of_generic rfl rfl rfl) fun _ v asleep => asleep.vcpuSleepNosync v

theorem TrapFree.domainUnpause (inv : TrapFree s) {d : Domain} (dm : d ∈ s.domains) :
    TrapFree (s.domainUnpause d) :=
  domainUnpause_rule TrapFree dm (inv.of_generic rfl rfl rfl) fun _ _ awake has => awake.vcpuWake has

theorem TrapFree.listVcpu (inv : TrapFree s) (domainId vcpuId : Nat) :
    TrapFree { s with domains := s.domains.map fun e =>
      if e.domainId = domainId then
        { e with vcpus := e.vcpus.insertBefore (fun x => decide (vcpuId < x)) vcpuId }
      else e } := by
  refine inv.of_domains ?_ ?_ rfl rfl
  · show ((s.domains.map _).map Domain.domainId).Nodup
    rw [map_domainId_listVcpu]
    exact inv.ids
  · exact fun _ ⟨_, em, member⟩ => mem_vcpuIds_listVcpu domainId vcpuId em member

theorem TrapFree.allocVcpu (inv : TrapFree s) (domainId vcpuId processor : Nat) (now : Int) :
    TrapFree (s.allocVcpu domainId vcpuId processor now) := by
  let v : VcpuId := ⟨domainId, vcpuId⟩
  let fresh : State := { s with
    pauseFlags := Function.update s.pauseFlags v { PauseFlags.none with down := true }
    pauseCount := Function.update s.pauseCount v 0
    isRunning := Function.update s.isRunning v false }
  have flagged := inv.setPauseFlags v { PauseFlags.none with down := true }
    fun absurd => by simp [PauseFlags.none] at absurd
  have freshInv : TrapFree fresh := flagged.of_generic rfl rfl rfl
  have inited : TrapFree (fresh.schedInitVcpu v processor now) := by
    rw [schedInitVcpu_of_not_runnable (by simp [fresh, v, vcpuRunnable])]
    exact freshInv.of_generic rfl rfl rfl
  exact inited.listVcpu domainId vcpuId

theorem TrapFree.domainCreate (inv : TrapFree s) {domainId : Nat}
    (fresh : s.domainOf domainId = none) (pool : Nat) :
    TrapFree (s.domainCreate domainId pool) := by
  let created : Domain := ⟨domainId, [], pool⟩
  have listed : TrapFree { s with
      domains := s.domains.insertBefore (fun e => decide (domainId < e.domainId)) created } := by
    refine inv.of_domains ?_ ?_ rfl rfl
    · exact nodup_ids_insertBefore inv.ids fresh _
    · rintro v ⟨e, em, member⟩
      exact ⟨e, List.mem_insertBefore.mpr (.inr em), member⟩
  unfold State.domainCreate
  dsimp only
  split
  · exact listed.of_generic rfl rfl rfl
  · exact listed

theorem TrapFree.schedMoveDomain (inv : TrapFree s) {d : Domain} (dm : d ∈ s.domains)
    (pool : Nat) (now : Int) : TrapFree (s.schedMoveDomain d pool now) := by
  have removed : TrapFree (d.vcpuIds.foldl fpVcpuRemove (s.domainPause d)) ∧
      (d.vcpuIds.foldl fpVcpuRemove (s.domainPause d)).domains = s.domains :=
    List.foldlRecOn (motive := fun t => TrapFree t ∧ t.domains = s.domains) _ _
      ⟨inv.domainPause d, domainPause_domains s d⟩
      fun _ ⟨kept, same⟩ v _ => ⟨kept.removeFromQueue v, by rw [fpVcpuRemove,
        removeFromQueue_domains, same]⟩
  unfold State.schedMoveDomain
  dsimp +zetaHave only
  generalize d.vcpuIds.foldl fpVcpuRemove (s.domainPause d) = u at removed ⊢
  obtain ⟨removedInv, uDomains⟩ := removed
  let moved : Domain := { d with cpupool := pool }
  let relisted : State := { u.setFpDom d.domainId fpAllocDomdata with
    domains := u.domains.map fun e => if e.domainId = d.domainId then moved else e }
  have relistedInv : TrapFree relisted := by
    refine removedInv.of_domains ?_ ?_ rfl rfl
    · show ((u.domains.map _).map Domain.domainId).Nodup
      rw [List.map_map]
      convert removedInv.ids using 1
      refine List.map_congr_left fun e _ => ?_
      simp only [Function.comp_apply]
      split
      · rename_i same
        exact same.symm
      · rfl
    · rintro v ⟨e, em, member⟩
      refine ⟨_, List.mem_map_of_mem em, ?_⟩
      split
      · rename_i same
        rw [uDomains] at em
        rw [List.inj_on_of_nodup_map inv.ids em dm same] at member
        exact member
      · exact member
  have movedListed : moved ∈ relisted.domains := by
    show moved ∈ u.domains.map _
    refine List.mem_map.mpr ⟨d, by rw [uDomains]; exact dm, ?_⟩
    simp
  have unpaused : ∀ acc : State × Nat, TrapFree acc.1 ∧ acc.1.domains = relisted.domains →
      TrapFree (acc.1.domainUnpause moved) :=
    fun acc ⟨kept, same⟩ => kept.domainUnpause (by rw [same]; exact movedListed)
  apply unpaused
  refine List.foldlRecOn (motive := fun acc : State × Nat =>
    TrapFree acc.1 ∧ acc.1.domains = relisted.domains) _ _ ⟨relistedInv, rfl⟩ ?_
  intro acc ⟨kept, same⟩ v listed
  refine ⟨TrapFree.fpInsertVcpu ?_ ?_ pool, ?_⟩
  · exact kept.of_generic rfl rfl rfl
  · exact ⟨moved, (by rw [same]; exact movedListed : moved ∈ acc.1.domains), listed⟩
  · rw [fpInsertVcpu_domains]
    exact same

theorem TrapFree.cpupoolMoveDomain (inv : TrapFree s) {d : Domain} (dm : d ∈ s.domains)
    (pool : Nat) (now : Int) : TrapFree (s.cpupoolMoveDomain d pool now) := by
  unfold State.cpupoolMoveDomain
  split
  · exact inv
  · exact inv.schedMoveDomain dm pool now

end Operations

section Run

variable {s : State}

theorem TrapFree.step (inv : TrapFree s) (event : Event) : TrapFree (s.step event) := by
  have onVcpu : ∀ v (f : State → State), (s.HasVcpu v → TrapFree (f s)) →
      TrapFree (s.withVcpu v f) := by
    intro v f preserved
    unfold withVcpu
    split
    · exact preserved (hasVcpu_of_vcpuExists ‹_›)
    · exact inv
  have onDomain : ∀ id (f : Domain → State), (∀ d ∈ s.domains, TrapFree (f d)) →
      TrapFree (s.withDomain id f) := by
    intro id f preserved
    unfold withDomain
    split
    · exact preserved _ (domainOf_some ‹_›).1
    · exact inv
  cases event with
  | domainCreate domainId pool =>
      simp only [State.step]
      split
      · rename_i guard
        simp only [Bool.and_eq_true, Option.isNone_iff_eq_none] at guard
        exact inv.domainCreate guard.1.1 pool
      · exact inv
  | allocVcpu domainId vcpuId processor now =>
      simp only [State.step]
      split
      · exact inv.allocVcpu domainId vcpuId processor now
      · exact inv
  | vcpuUp v => exact onVcpu v (State.vcpuUp · v) fun has => inv.vcpuUp has
  | vcpuDown v => exact onVcpu v (State.vcpuDown · v) fun _ => inv.vcpuDown v
  | vcpuPauseNosync v => exact onVcpu v (State.vcpuPauseNosync · v) fun _ => inv.vcpuPauseNosync v
  | vcpuUnpause v => exact onVcpu v (State.vcpuUnpause · v) fun has => inv.vcpuUnpause has
  | vcpuBlock v => exact onVcpu v (State.vcpuBlock · v) fun _ => inv.vcpuBlock v
  | vcpuUnblock v => exact onVcpu v (State.vcpuUnblock · v) fun has => inv.vcpuUnblock has
  | domainPause id => exact onDomain id s.domainPause fun d _ => inv.domainPause d
  | domainUnpause id => exact onDomain id s.domainUnpause fun _ dm => inv.domainUnpause dm
  | setHardAffinity v affinity =>
      exact onVcpu v (fun s => (s.vcpuSetHardAffinity v affinity).1)
        fun has => inv.vcpuSetHardAffinity has affinity
  | schedule cpu now tasklet => exact inv.schedule cpu now tasklet
  | adjust id cmd => exact onDomain id _ fun d _ => inv.fpAdjust d.cpupool d cmd
  | adjustGlobal pool cmd =>
      simp only [State.step]
      split
      · exact inv.fpAdjustGlobal pool cmd
      · exact inv
  | moveDomain id pool now =>
      simp only [State.step]
      split
      · exact onDomain id _ fun _ dm => inv.cpupoolMoveDomain dm pool now
      · exact inv
  | destroyVcpu v => exact onVcpu v (schedDestroyVcpu · v) fun _ => inv.removeFromQueue v

theorem TrapFree.run (inv : TrapFree s) (events : List Event) : TrapFree (s.run events) := by
  induction events generalizing s with
  | nil => exact inv
  | cons event rest ih =>
      rw [run_cons]
      exact ih (inv.step event)

theorem trapFree_boot (nrCpuIds : Nat) (pools : List Nat) (poolCpus : Nat → List Nat)
    (cpuPool : Nat → Nat) : TrapFree (State.boot nrCpuIds pools poolCpus cpuPool) := by
  refine ⟨by simp [boot], fun v flagged => ?_, rfl⟩
  simp [boot, PauseFlags.none] at flagged

end Run

end State

/-- On any host booted with FP cpupools, whatever domains, vcpus, wakes, pauses,
affinity changes, adjustments and cpupool moves follow, no priority handler ever
divides by a zero vcpu count. -/
theorem prio_handlers_never_divide_by_zero (nrCpuIds : Nat) (pools : List Nat)
    (poolCpus : Nat → List Nat) (cpuPool : Nat → Nat) (events : List Event) :
    ((State.boot nrCpuIds pools poolCpus cpuPool).run events).divideError = false :=
  ((State.trapFree_boot nrCpuIds pools poolCpus cpuPool).run events).noTrap

end CpsXen

import CpsXen.Sched.Division

/-!
The run queues as lists in memory, over whole runs on any host.  Each
`list_add_tail` of `__runq_insert` is reached through a test that the element is
on no list: `fp_insert_vcpu` and `fp_vcpu_wake` test `__vcpu_on_q`, and
`fp_reinsertsort_vcpu` takes the element off first.  `sched_move_domain` gives each
vcpu of the domain a fresh `queue_elem`, but only after `fp_vcpu_remove` has taken
it off its queue, and `alloc_vcpu` does so for a vcpu that no queue can hold, since
only the vcpus a domain lists are ever queued.  So in every reachable state each
queued vcpu is linked to the queue that holds it, no queue holds a vcpu twice, and
no insertion has relinked a linked element.  Along the way `domain_list` stays
sorted by domid below `DOMID_FIRST_RESERVED`, each domain keeps its vcpus sorted
by `vcpu_id`, and every vcpu on a queue or current on a cpu is listed by its domain.
-/

namespace CpsXen

namespace State

/-- `domain_list` in order of domid with no domid at or above
`DOMID_FIRST_RESERVED`, and the vcpus of each domain in order of `vcpu_id`. -/
structure DomainTable (s : State) : Prop where
  sorted : s.domains.Pairwise fun d e => d.domainId < e.domainId
  reserved : ∀ d ∈ s.domains, d.domainId < domidFirstReserved
  vcpus : ∀ d ∈ s.domains, d.vcpus.Pairwise (· < ·)

/-- The lists of the run queues are intact, and only vcpus that a domain lists are
queued or current. -/
structure QueueSafe (s : State) : Prop where
  trapFree : TrapFree s
  table : DomainTable s
  linked : Linked s
  queued : ∀ v cpu, v ∈ s.runq cpu → s.HasVcpu v
  current : ∀ cpu, (s.curr cpu).isIdle = true ∨ s.HasVcpu (s.curr cpu)
  intact : s.listCorrupted = false

section Table

variable {s : State}

theorem HasVcpu.congr {t : State} (domains : t.domains = s.domains) {v : VcpuId}
    (has : s.HasVcpu v) : t.HasVcpu v := by
  obtain ⟨d, dm, listed⟩ := has
  exact ⟨d, by rw [domains]; exact dm, listed⟩

theorem vcpuExists_of_hasVcpu (ids : (s.domains.map Domain.domainId).Nodup) {v : VcpuId}
    (has : s.HasVcpu v) : s.vcpuExists v = true := by
  obtain ⟨d, found, listed⟩ := domainOf_of_hasVcpu ids has
  simpa [vcpuExists, found] using (Domain.mem_vcpuIds.mp listed).2

theorem not_hasVcpu_of_fresh (ids : (s.domains.map Domain.domainId).Nodup) {v : VcpuId}
    (fresh : s.vcpuExists v = false) : ¬s.HasVcpu v := by
  intro has
  rw [vcpuExists_of_hasVcpu ids has] at fresh
  cases fresh

theorem DomainTable.congr (table : DomainTable s) {t : State} (domains : t.domains = s.domains) :
    DomainTable t := by
  refine ⟨?_, fun d dm => table.reserved d ?_, fun d dm => table.vcpus d ?_⟩
  · rw [domains]
    exact table.sorted
  · rwa [domains] at dm
  · rwa [domains] at dm

theorem DomainTable.map (table : DomainTable s) {t : State} (g : Domain → Domain)
    (domains : t.domains = s.domains.map g) (sameId : ∀ e, (g e).domainId = e.domainId)
    (vcpus : ∀ e ∈ s.domains, (g e).vcpus.Pairwise (· < ·)) : DomainTable t := by
  refine ⟨?_, fun f fm => ?_, fun f fm => ?_⟩
  · rw [domains, List.pairwise_map]
    simpa only [sameId] using table.sorted
  · rw [domains] at fm
    obtain ⟨e, em, rfl⟩ := List.mem_map.mp fm
    rw [sameId]
    exact table.reserved e em
  · rw [domains] at fm
    obtain ⟨e, em, rfl⟩ := List.mem_map.mp fm
    exact vcpus e em

theorem DomainTable.notIdle (table : DomainTable s) {v : VcpuId} (has : s.HasVcpu v) :
    v.isIdle = false := by
  obtain ⟨d, dm, listed⟩ := has
  have below := table.reserved d dm
  have same := (Domain.mem_vcpuIds.mp listed).1
  unfold domidFirstReserved at below
  simp only [VcpuId.isIdle, domidIdle, beq_eq_false_iff_ne, ne_eq]
  omega

theorem DomainTable.nodup_vcpuIds (table : DomainTable s) {d : Domain} (dm : d ∈ s.domains) :
    d.vcpuIds.Nodup := by
  have distinct : d.vcpus.Nodup := (table.vcpus d dm).imp ne_of_lt
  exact distinct.map fun a b same => by simpa using same

end Table

section Operations

variable {s : State}

theorem QueueSafe.of_queues (inv : QueueSafe s) {t : State} (trapFree : TrapFree t)
    (domains : t.domains = s.domains) (linked : Linked t)
    (queued : ∀ v cpu, v ∈ t.runq cpu → s.HasVcpu v) (curr : t.curr = s.curr)
    (intact : t.listCorrupted = false) : QueueSafe t := by
  refine ⟨trapFree, inv.table.congr domains, linked,
    fun v cpu member => (queued v cpu member).congr domains, fun cpu => ?_, intact⟩
  rw [curr]
  exact (inv.current cpu).imp_right (HasVcpu.congr domains)

theorem QueueSafe.of_generic (inv : QueueSafe s) {t : State} (domains : t.domains = s.domains)
    (pauseFlags : t.pauseFlags = s.pauseFlags) (divideError : t.divideError = s.divideError)
    (runq : t.runq = s.runq) (link : t.link = s.link) (curr : t.curr = s.curr)
    (listCorrupted : t.listCorrupted = s.listCorrupted) : QueueSafe t := by
  refine inv.of_queues (inv.trapFree.of_generic domains pauseFlags divideError) domains
    (inv.linked.congr runq link) (fun v cpu member => inv.queued v cpu ?_) curr
    (listCorrupted.trans inv.intact)
  rwa [runq] at member

theorem QueueSafe.setPauseFlags (inv : QueueSafe s) (v : VcpuId) (flags : PauseFlags)
    (allocated : flags.migrating = true → s.HasVcpu v) :
    QueueSafe { s with pauseFlags := Function.update s.pauseFlags v flags } :=
  inv.of_queues (inv.trapFree.setPauseFlags v flags allocated) rfl (inv.linked.congr rfl rfl)
    inv.queued rfl inv.intact

theorem QueueSafe.setPauseFlags_of_migrating (inv : QueueSafe s) (v : VcpuId) (flags : PauseFlags)
    (kept : flags.migrating = (s.pauseFlags v).migrating) :
    QueueSafe { s with pauseFlags := Function.update s.pauseFlags v flags } :=
  inv.setPauseFlags v flags fun flagged => inv.trapFree.migrating v (kept ▸ flagged)

theorem QueueSafe.setCurr (inv : QueueSafe s) (cpu : Nat) {next : VcpuId}
    (valid : next.isIdle = true ∨ s.HasVcpu next) :
    QueueSafe { s with curr := Function.update s.curr cpu next } := by
  refine ⟨inv.trapFree.of_generic rfl rfl rfl, inv.table.congr rfl, inv.linked.congr rfl rfl,
    inv.queued, fun c => ?_, inv.intact⟩
  show (Function.update s.curr cpu next c).isIdle = true ∨
    s.HasVcpu (Function.update s.curr cpu next c)
  by_cases here : c = cpu
  · subst here
    rw [Function.update_self]
    exact valid
  · rw [Function.update_of_ne here]
    exact inv.current c

theorem QueueSafe.installVcpu (inv : QueueSafe s) {v : VcpuId} (unlinked : s.link v = none)
    (record : FpVcpu) : QueueSafe (s.installVcpu v record) :=
  inv.of_generic rfl rfl rfl rfl (Function.update_eq_self_iff.mpr unlinked.symm) rfl rfl

theorem QueueSafe.prioHandler (inv : QueueSafe s) {d : Domain} {v : VcpuId}
    (listed : v ∈ d.vcpuIds) (strategy : Strategy) (priority : Int) :
    QueueSafe (State.prioHandler strategy s d priority) := by
  obtain ⟨q, handled⟩ := prioHandler_of_mem listed strategy s priority
  rw [handled, setDomainPriority_eq]
  exact inv.of_generic rfl rfl rfl rfl rfl rfl rfl

theorem QueueSafe.listDelInit (inv : QueueSafe s) (v : VcpuId) : QueueSafe (s.listDelInit v) := by
  refine inv.of_queues (inv.trapFree.of_generic (by simp) (by simp) (by simp)) (by simp)
    (inv.linked.listDelInit v) (fun w cpu member => inv.queued w cpu ?_) (by simp)
    (by simp [inv.intact])
  rw [inv.linked.listDelInit_runq] at member
  exact List.mem_of_mem_erase member

theorem QueueSafe.removeFromQueue (inv : QueueSafe s) (v : VcpuId) :
    QueueSafe (s.removeFromQueue v) := by
  unfold State.removeFromQueue
  split
  · exact inv.listDelInit v
  · exact inv

theorem QueueSafe.runqInsert (inv : QueueSafe s) {v : VcpuId} (has : s.HasVcpu v)
    (unlinked : s.link v = none) (cpu : Nat) (compare : FpVcpu → FpVcpu → Bool) :
    QueueSafe (s.runqInsert cpu v compare) := by
  have notIdle := inv.table.notIdle has
  refine inv.of_queues (inv.trapFree.runqInsert cpu v compare) (by simp)
    (inv.linked.runqInsert unlinked notIdle cpu compare) (fun w target member => ?_) (by simp)
    (by rw [runqInsert_listCorrupted cpu compare unlinked]; exact inv.intact)
  rw [runqInsert_runq s cpu v compare notIdle] at member
  split at member
  · rcases List.mem_insertBefore.mp member with rfl | old
    · exact has
    · exact inv.queued w cpu old
  · exact inv.queued w target member

theorem QueueSafe.fpReinsertsortVcpu (inv : QueueSafe s) {v : VcpuId} (has : s.HasVcpu v)
    (compare : FpVcpu → FpVcpu → Bool) : QueueSafe (s.fpReinsertsortVcpu v compare) :=
  (inv.removeFromQueue v).runqInsert (has.congr (removeFromQueue_domains s v))
    (removeFromQueue_link_self s v) _ compare

theorem QueueSafe.fpSchedSetVmPrio (inv : QueueSafe s) {d : Domain} (dm : d ∈ s.domains)
    (pool : Nat) (prio : Int) : QueueSafe (s.fpSchedSetVmPrio pool d prio) := by
  unfold State.fpSchedSetVmPrio
  split
  · exact inv.of_generic rfl rfl rfl rfl rfl rfl rfl
  split
  · exact inv.of_generic rfl rfl rfl rfl rfl rfl rfl
  refine (List.foldlRecOn (motive := fun t => QueueSafe t ∧ t.domains = s.domains) _ _
    ⟨inv, rfl⟩ ?_).1
  intro t ⟨kept, same⟩ v listed
  have handled := kept.prioHandler listed (t.strategy pool) prio
  have has : (State.prioHandler (t.strategy pool) t d prio).HasVcpu v :=
    ⟨d, by rw [prioHandler_domains, same]; exact dm, listed⟩
  refine ⟨handled.fpReinsertsortVcpu has _, ?_⟩
  simp [State.fpReinsertsortVcpu, same]

theorem QueueSafe.setVmPrioAll (inv : QueueSafe s) (pool : Nat) (skip : Nat → Bool) :
    QueueSafe (s.setVmPrioAll pool skip) := by
  unfold State.setVmPrioAll
  refine List.foldlRecOn (motive := QueueSafe) _ _ inv ?_
  intro t kept p _
  refine (List.foldlRecOn (motive := fun u => QueueSafe u ∧ u.domains = t.domains) _ _
    ⟨kept, rfl⟩ ?_).1
  intro u ⟨alsoKept, same⟩ d member
  have dm : d ∈ u.domains := by
    rw [same]
    exact (List.mem_filter.mp member).1
  split
  · exact ⟨alsoKept, same⟩
  · exact ⟨alsoKept.fpSchedSetVmPrio dm pool _, by rw [fpSchedSetVmPrio_domains, same]⟩

theorem QueueSafe.fpAdjust (inv : QueueSafe s) {d : Domain} (dm : d ∈ s.domains) (pool : Nat)
    (cmd : DomctlCmd) : QueueSafe (s.fpAdjust pool d cmd).1 := by
  cases cmd with
  | getinfo => exact inv
  | putinfo op =>
      rw [fpAdjust_putinfo_eq]
      obtain ⟨fpDom, fpVcpu, stored, -, -⟩ := retimed_putDomainParams s pool d op
      have storedInv : QueueSafe (s.putDomainParams pool d op) := by
        rw [stored]
        exact inv.of_generic rfl rfl rfl rfl rfl rfl rfl
      have storedDm : d ∈ (s.putDomainParams pool d op).domains := by
        rw [stored]
        exact dm
      dsimp only
      refine QueueSafe.setVmPrioAll ?_ pool _
      split
      · exact storedInv.fpSchedSetVmPrio storedDm pool _
      · exact storedInv

theorem QueueSafe.fpAdjustGlobal (inv : QueueSafe s) (pool : Nat) (cmd : SysctlCmd) :
    QueueSafe (s.fpAdjustGlobal pool cmd).1 := by
  unfold State.fpAdjustGlobal
  cases cmd with
  | getinfo =>
      dsimp only
      exact inv.setVmPrioAll pool _
  | putinfo strategy =>
      dsimp only
      unfold fpSchedSet
      split
      · exact inv.setVmPrioAll pool _
      · refine QueueSafe.setVmPrioAll ?_ pool _
        exact inv.of_generic rfl rfl rfl rfl rfl rfl rfl

theorem QueueSafe.fpInsertVcpu (inv : QueueSafe s) {v : VcpuId} (has : s.HasVcpu v)
    (pool : Nat) : QueueSafe (s.fpInsertVcpu pool v) := by
  obtain ⟨d, found, listed⟩ := domainOf_of_hasVcpu inv.trapFree.ids has
  unfold State.fpInsertVcpu
  split
  · rename_i guard
    have unlinked : s.link v = none := by
      simp only [Bool.and_eq_true, Bool.not_eq_true'] at guard
      simpa [vcpuOnQ] using guard.1.1
    have inserted := inv.runqInsert has unlinked (s.processor v) (s.strategy pool).compare
    dsimp only
    split
    · simp only [found]
      exact inserted.prioHandler listed _ 1
    · exact inserted
  · exact inv

theorem QueueSafe.fpVcpuWake (inv : QueueSafe s) {v : VcpuId} (has : s.HasVcpu v) (pool : Nat) :
    QueueSafe (s.fpVcpuWake pool v) := by
  obtain ⟨d, found, listed⟩ := domainOf_of_hasVcpu inv.trapFree.ids has
  unfold State.fpVcpuWake
  split
  · exact inv
  split
  · exact inv
  split
  · exact inv
  rename_i offQueue
  have inserted := inv.runqInsert has (by simpa [vcpuOnQ] using offQueue) (s.processor v)
    (s.strategy pool).compare
  dsimp only
  simp only [found]
  exact inserted.prioHandler listed _ _

theorem QueueSafe.runqRemove (inv : QueueSafe s) (v : VcpuId) : QueueSafe (s.runqRemove v) := by
  unfold State.runqRemove
  split
  · exact inv
  · exact inv.listDelInit v

theorem QueueSafe.vcpuSleepNosync (inv : QueueSafe s) (v : VcpuId) :
    QueueSafe (s.vcpuSleepNosync v) := by
  unfold State.vcpuSleepNosync State.fpSleep
  split
  · split
    · exact inv
    split
    · exact inv
    split
    · exact inv.runqRemove v
    · exact inv
  · exact inv

theorem QueueSafe.vcpuWake (inv : QueueSafe s) {v : VcpuId} (has : s.HasVcpu v) :
    QueueSafe (s.vcpuWake v) := by
  unfold State.vcpuWake
  split
  · exact inv.fpVcpuWake has _
  · exact inv

theorem QueueSafe.vcpuMigrate (inv : QueueSafe s) (v : VcpuId) : QueueSafe (s.vcpuMigrate v) := by
  unfold State.vcpuMigrate
  dsimp only
  split
  · exact inv
  rename_i waiting
  have flagged := (by simpa using waiting :
    s.isRunning v = false ∧ (s.pauseFlags v).migrating = true).2
  have cleared := inv.setPauseFlags v { s.pauseFlags v with migrating := false }
    fun absurd => by simp at absurd
  have moved : QueueSafe { s.setMigrating v false with
      processor := Function.update s.processor v (s.fpPickCpu v) } :=
    cleared.of_generic rfl rfl rfl rfl rfl rfl rfl
  exact moved.vcpuWake (inv.trapFree.migrating v flagged)

theorem QueueSafe.vcpuSetHardAffinity (inv : QueueSafe s) {v : VcpuId} (has : s.HasVcpu v)
    (affinity : List Nat) : QueueSafe (s.vcpuSetHardAffinity v affinity).1 := by
  unfold State.vcpuSetHardAffinity
  split
  · exact inv
  · have flagged := inv.setPauseFlags v { s.pauseFlags v with migrating := true } fun _ => has
    have marked : QueueSafe { s.setMigrating v true with
        hardAffinity := Function.update s.hardAffinity v affinity } :=
      flagged.of_generic rfl rfl rfl rfl rfl rfl rfl
    exact (marked.vcpuSleepNosync v).vcpuMigrate v

theorem QueueSafe.contextSaved (inv : QueueSafe s) (prev : VcpuId) :
    QueueSafe (s.contextSaved prev) := by
  unfold State.contextSaved
  dsimp only
  have saved : QueueSafe { s with isRunning := Function.update s.isRunning prev false } :=
    inv.of_generic rfl rfl rfl rfl rfl rfl rfl
  split
  · exact saved.vcpuMigrate prev
  · exact saved

theorem QueueSafe.recharged (inv : QueueSafe s) {t : State} (recharged : Recharged s t) :
    QueueSafe t := by
  obtain ⟨fpVcpu, rfl, -⟩ := recharged
  exact inv.of_generic rfl rfl rfl rfl rfl rfl rfl

theorem fpDoSchedule_task (s : State) (cpu : Nat) (now : Int) (taskletWorkScheduled : Bool) :
    (s.fpDoSchedule cpu now taskletWorkScheduled).2.task = idleVcpu cpu ∨
      (s.fpDoSchedule cpu now taskletWorkScheduled).2.task ∈
        (s.fpDoSchedule cpu now taskletWorkScheduled).1.runq cpu := by
  rw [fpDoSchedule_eq]
  dsimp only
  split
  · rename_i v found
    cases taskletWorkScheduled
    · exact .inr (by simpa using List.mem_of_find?_eq_some found)
    · exact .inl rfl
  · exact .inl rfl

theorem QueueSafe.schedule (inv : QueueSafe s) (cpu : Nat) (now : Int)
    (taskletWorkScheduled : Bool) : QueueSafe (s.schedule cpu now taskletWorkScheduled) := by
  have picked := inv.recharged (recharged_fpDoSchedule s cpu now taskletWorkScheduled)
  have task := fpDoSchedule_task s cpu now taskletWorkScheduled
  unfold State.schedule
  generalize s.fpDoSchedule cpu now taskletWorkScheduled = out at picked task ⊢
  obtain ⟨t, slice⟩ := out
  dsimp only at picked task ⊢
  have switched := picked.setCurr cpu
    (task.imp (fun idle => by rw [idle, idleVcpu_isIdle]) (picked.queued _ cpu))
  split
  · exact switched
  · refine QueueSafe.contextSaved ?_ _
    exact switched.of_generic rfl rfl rfl rfl rfl rfl rfl

theorem QueueSafe.vcpuPauseNosync (inv : QueueSafe s) (v : VcpuId) :
    QueueSafe (s.vcpuPauseNosync v) := by
  unfold State.vcpuPauseNosync
  have counted : QueueSafe
      { s with pauseCount := Function.update s.pauseCount v (s.pauseCount v + 1) } :=
    inv.of_generic rfl rfl rfl rfl rfl rfl rfl
  exact counted.vcpuSleepNosync v

theorem QueueSafe.vcpuUnpause (inv : QueueSafe s) {v : VcpuId} (has : s.HasVcpu v) :
    QueueSafe (s.vcpuUnpause v) := by
  unfold State.vcpuUnpause
  dsimp only
  have counted : QueueSafe
      { s with pauseCount := Function.update s.pauseCount v (s.pauseCount v - 1) } :=
    inv.of_generic rfl rfl rfl rfl rfl rfl rfl
  split
  · exact counted.vcpuWake has
  · exact counted

theorem QueueSafe.vcpuBlock (inv : QueueSafe s) (v : VcpuId) : QueueSafe (s.vcpuBlock v) :=
  inv.setPauseFlags_of_migrating v { s.pauseFlags v with blocked := true } rfl

theorem QueueSafe.vcpuUnblock (inv : QueueSafe s) {v : VcpuId} (has : s.HasVcpu v) :
    QueueSafe (s.vcpuUnblock v) := by
  unfold State.vcpuUnblock
  split
  · exact (inv.setPauseFlags_of_migrating v { s.pauseFlags v with blocked := false }
      rfl).vcpuWake has
  · exact inv

theorem QueueSafe.vcpuUp (inv : QueueSafe s) {v : VcpuId} (has : s.HasVcpu v) :
    QueueSafe (s.vcpuUp v) := by
  unfold State.vcpuUp
  split
  · exact (inv.setPauseFlags_of_migrating v { s.pauseFlags v with down := false }
      rfl).vcpuWake has
  · exact inv

theorem QueueSafe.vcpuDown (inv : QueueSafe s) (v : VcpuId) : QueueSafe (s.vcpuDown v) := by
  unfold State.vcpuDown
  split
  · exact inv
  · exact (inv.setPauseFlags_of_migrating v { s.pauseFlags v with down := true }
      rfl).vcpuSleepNosync v

theorem QueueSafe.domainPause (inv : QueueSafe s) (d : Domain) : QueueSafe (s.domainPause d) :=
  domainPause_rule QueueSafe d (inv.of_generic rfl rfl rfl rfl rfl rfl rfl)
    fun _ v asleep => asleep.vcpuSleepNosync v

theorem QueueSafe.domainUnpause (inv : QueueSafe s) {d : Domain} (dm : d ∈ s.domains) :
    QueueSafe (s.domainUnpause d) :=
  domainUnpause_rule QueueSafe dm (inv.of_generic rfl rfl rfl rfl rfl rfl rfl)
    fun _ _ awake has => awake.vcpuWake has

theorem QueueSafe.listVcpu (inv : QueueSafe s) {d : Domain} (dm : d ∈ s.domains) {vcpuId : Nat}
    (unlisted : vcpuId ∉ d.vcpus) :
    QueueSafe { s with domains := s.domains.map fun e =>
      if e.domainId = d.domainId then
        { e with vcpus := e.vcpus.insertBefore (fun x => decide (vcpuId < x)) vcpuId }
      else e } := by
  let grow := fun e : Domain => if e.domainId = d.domainId then
    { e with vcpus := e.vcpus.insertBefore (fun x => decide (vcpuId < x)) vcpuId } else e
  have sameId : ∀ e, (grow e).domainId = e.domainId := by
    intro e
    simp only [grow]
    split <;> rfl
  have grown : ∀ v, s.HasVcpu v → ∃ e ∈ s.domains.map grow, v ∈ e.vcpuIds :=
    fun _ ⟨_, em, listed⟩ => mem_vcpuIds_listVcpu d.domainId vcpuId em listed
  have sortedVcpus : ∀ e ∈ s.domains, (grow e).vcpus.Pairwise (· < ·) := by
    intro e em
    simp only [grow]
    split
    · rename_i same
      rw [List.inj_on_of_nodup_map inv.trapFree.ids em dm same]
      exact List.strictlySorted_insertBefore (inv.table.vcpus d dm) vcpuId
        fun x member equal => unlisted (equal ▸ member)
    · exact inv.table.vcpus e em
  exact ⟨inv.trapFree.listVcpu d.domainId vcpuId, inv.table.map grow rfl sameId sortedVcpus,
    inv.linked.congr rfl rfl, fun v cpu member => grown v (inv.queued v cpu member),
    fun cpu => (inv.current cpu).imp_right (grown _), inv.intact⟩

theorem QueueSafe.allocVcpu (inv : QueueSafe s) {domainId vcpuId processor : Nat} {now : Int}
    {d : Domain} (found : s.domainOf domainId = some d)
    (fresh : s.vcpuExists ⟨domainId, vcpuId⟩ = false) :
    QueueSafe (s.allocVcpu domainId vcpuId processor now) := by
  obtain ⟨dm, rfl⟩ := domainOf_some found
  let v : VcpuId := ⟨d.domainId, vcpuId⟩
  have absent : ¬s.HasVcpu v := not_hasVcpu_of_fresh inv.trapFree.ids fresh
  have unlisted : vcpuId ∉ d.vcpus := fun member =>
    absent ⟨d, dm, Domain.mem_vcpuIds.mpr ⟨rfl, member⟩⟩
  have unlinked : s.link v = none := by
    cases linkedOn : s.link v with
    | none => rfl
    | some cpu => exact absurd (inv.queued v cpu ((inv.linked.mem_iff v cpu).mpr linkedOn)) absent
  let started : State := { s with
    pauseFlags := Function.update s.pauseFlags v { PauseFlags.none with down := true }
    pauseCount := Function.update s.pauseCount v 0
    isRunning := Function.update s.isRunning v false }
  have flagged := inv.setPauseFlags v { PauseFlags.none with down := true }
    fun absurd => by simp [PauseFlags.none] at absurd
  have startedInv : QueueSafe started := flagged.of_generic rfl rfl rfl rfl rfl rfl rfl
  have asleep : started.vcpuRunnable v = false := by simp [started, v, vcpuRunnable]
  have inited : QueueSafe (started.schedInitVcpu v processor now) := by
    rw [schedInitVcpu_of_not_runnable asleep]
    exact startedInv.of_generic rfl rfl rfl rfl (Function.update_eq_self_iff.mpr unlinked.symm)
      rfl rfl
  have initedDm : d ∈ (started.schedInitVcpu v processor now).domains := by
    rw [schedInitVcpu_of_not_runnable asleep]
    exact dm
  exact inited.listVcpu initedDm unlisted

theorem domainCreate_eq (s : State) (domainId pool : Nat) :
    ∃ fpDom, s.domainCreate domainId pool = { s with
      domains := s.domains.insertBefore (fun e => decide (domainId < e.domainId))
        ⟨domainId, [], pool⟩
      fpDom := fpDom } := by
  unfold domainCreate
  dsimp only
  split
  · exact ⟨_, rfl⟩
  · exact ⟨s.fpDom, rfl⟩

theorem QueueSafe.domainCreate (inv : QueueSafe s) {domainId : Nat}
    (fresh : s.domainOf domainId = none) (unreserved : domainId < domidFirstReserved)
    (pool : Nat) : QueueSafe (s.domainCreate domainId pool) := by
  have trapFree := inv.trapFree.domainCreate fresh pool
  obtain ⟨fpDom, created⟩ := domainCreate_eq s domainId pool
  rw [created] at trapFree ⊢
  have grown : ∀ v, s.HasVcpu v → ∃ e ∈ s.domains.insertBefore
      (fun e => decide (domainId < e.domainId)) ⟨domainId, [], pool⟩, v ∈ e.vcpuIds :=
    fun _ ⟨e, em, listed⟩ => ⟨e, List.mem_insertBefore.mpr (.inr em), listed⟩
  refine ⟨trapFree, ⟨?_, fun e em => ?_, fun e em => ?_⟩, inv.linked.congr rfl rfl,
    fun v cpu member => grown v (inv.queued v cpu member),
    fun cpu => (inv.current cpu).imp_right (grown _), inv.intact⟩
  · -- the new domain goes in front of the first larger id
    exact List.strictlySorted_insertBefore inv.table.sorted ⟨domainId, [], pool⟩
      (domainOf_none fresh)
  · rcases List.mem_insertBefore.mp em with rfl | old
    · exact unreserved
    · exact inv.table.reserved e old
  · rcases List.mem_insertBefore.mp em with rfl | old
    · exact List.Pairwise.nil
    · exact inv.table.vcpus e old

theorem QueueSafe.relist (inv : QueueSafe s) {d : Domain} (dm : d ∈ s.domains) (pool : Nat) :
    QueueSafe { s.setFpDom d.domainId fpAllocDomdata with
      domains := s.domains.map fun e =>
        if e.domainId = d.domainId then { d with cpupool := pool } else e } := by
  let relist := fun e : Domain => if e.domainId = d.domainId then { d with cpupool := pool } else e
  have sameId : ∀ e, (relist e).domainId = e.domainId := by
    intro e
    simp only [relist]
    split
    · rename_i same
      exact same.symm
    · rfl
  have grown : ∀ v, s.HasVcpu v → ∃ f ∈ s.domains.map relist, v ∈ f.vcpuIds :=
    fun _ ⟨_, em, listed⟩ => mem_vcpuIds_relist d pool inv.trapFree.ids dm em listed
  have sortedVcpus : ∀ e ∈ s.domains, (relist e).vcpus.Pairwise (· < ·) := by
    intro e em
    simp only [relist]
    split
    · exact inv.table.vcpus d dm
    · exact inv.table.vcpus e em
  have ids : ((s.domains.map relist).map Domain.domainId).Nodup := by
    rw [map_domainId_relist]
    exact inv.trapFree.ids
  exact ⟨inv.trapFree.of_domains ids grown rfl rfl, inv.table.map relist rfl sameId sortedVcpus,
    inv.linked.congr rfl rfl, fun v cpu member => grown v (inv.queued v cpu member),
    fun cpu => (inv.current cpu).imp_right (grown _), inv.intact⟩

theorem QueueSafe.removeVcpus (inv : QueueSafe s) (d : Domain) :
    QueueSafe (d.vcpuIds.foldl fpVcpuRemove (s.domainPause d)) ∧
      (d.vcpuIds.foldl fpVcpuRemove (s.domainPause d)).domains = s.domains ∧
      ∀ w ∈ d.vcpuIds, (d.vcpuIds.foldl fpVcpuRemove (s.domainPause d)).link w = none := by
  -- every vcpu the loop has reached is on no list
  refine List.foldl_prefix_induction
    (motive := fun p t => QueueSafe t ∧ t.domains = s.domains ∧ ∀ w ∈ p, t.link w = none)
    ⟨inv.domainPause d, domainPause_domains s d, by simp⟩ ?_
  intro p v _ _ t before
  obtain ⟨kept, same, done⟩ := before
  refine ⟨kept.removeFromQueue v, by rw [fpVcpuRemove, removeFromQueue_domains, same],
    fun w member => ?_⟩
  by_cases self : w = v
  · rw [self]
    exact removeFromQueue_link_self t v
  · rw [fpVcpuRemove, removeFromQueue_link_of_ne t self]
    exact done w ((List.mem_append.mp member).resolve_right (by simpa using self))

theorem QueueSafe.schedMoveDomain (inv : QueueSafe s) {d : Domain} (dm : d ∈ s.domains)
    (pool : Nat) (now : Int) : QueueSafe (s.schedMoveDomain d pool now) := by
  have distinct := inv.table.nodup_vcpuIds dm
  have removed := inv.removeVcpus d
  unfold State.schedMoveDomain
  dsimp +zetaHave only
  generalize d.vcpuIds.foldl fpVcpuRemove (s.domainPause d) = u at removed ⊢
  obtain ⟨removedInv, uDomains, uUnlinked⟩ := removed
  let moved : Domain := { d with cpupool := pool }
  let relisted : State := { u.setFpDom d.domainId fpAllocDomdata with
    domains := u.domains.map fun e => if e.domainId = d.domainId then moved else e }
  have relistedInv : QueueSafe relisted := removedInv.relist (by rw [uDomains]; exact dm) pool
  have movedListed : moved ∈ relisted.domains := by
    show moved ∈ u.domains.map _
    refine List.mem_map.mpr ⟨d, by rw [uDomains]; exact dm, ?_⟩
    simp
  have unpaused : ∀ acc : State × Nat, QueueSafe acc.1 ∧ acc.1.domains = relisted.domains ∧
      (∀ w ∈ d.vcpuIds, w ∉ d.vcpuIds → acc.1.link w = none) →
      QueueSafe (acc.1.domainUnpause moved) :=
    fun _ placed => placed.1.domainUnpause (by rw [placed.2.1]; exact movedListed)
  apply unpaused
  -- the placement loop: every vcpu it has not reached yet is still on no list
  refine List.foldl_prefix_induction (motive := fun p (acc : State × Nat) =>
    QueueSafe acc.1 ∧ acc.1.domains = relisted.domains ∧
      ∀ w ∈ d.vcpuIds, w ∉ p → acc.1.link w = none)
    ⟨relistedInv, rfl, fun w member _ => uUnlinked w member⟩ ?_
  intro p v q whole acc before
  obtain ⟨kept, same, waiting⟩ := before
  have listed : v ∈ d.vcpuIds := by
    rw [whole]
    simp
  have first : v ∉ p := by
    rw [whole] at distinct
    exact fun earlier => List.disjoint_of_nodup_append distinct earlier List.mem_cons_self
  have positioned : QueueSafe { acc.1 with
      processor := Function.update acc.1.processor v acc.2
      hardAffinity := Function.update acc.1.hardAffinity v (List.range acc.1.nrCpuIds) } :=
    kept.of_generic rfl rfl rfl rfl rfl rfl rfl
  have installed := positioned.installVcpu (waiting v listed first)
    (fpAllocVdata (s.schedPriv d.domainId) v now)
  refine ⟨installed.fpInsertVcpu ⟨moved, ?_, listed⟩ pool, ?_, fun w member later => ?_⟩
  · show moved ∈ acc.1.domains
    rw [same]
    exact movedListed
  · rw [fpInsertVcpu_domains]
    exact same
  · have other : w ≠ v := fun self => later (by rw [self]; simp)
    rw [fpInsertVcpu_link_of_ne _ pool other]
    show Function.update acc.1.link v none w = none
    rw [Function.update_of_ne other]
    exact waiting w member fun earlier => later (List.mem_append_left _ earlier)

theorem QueueSafe.cpupoolMoveDomain (inv : QueueSafe s) {d : Domain} (dm : d ∈ s.domains)
    (pool : Nat) (now : Int) : QueueSafe (s.cpupoolMoveDomain d pool now) := by
  unfold State.cpupoolMoveDomain
  split
  · exact inv
  · exact inv.schedMoveDomain dm pool now

end Operations

section Run

variable (P : State → Prop) {s : State}

theorem withVcpu_rule (kept : P s) {v : VcpuId} {f : State → State}
    (preserved : s.HasVcpu v → P (f s)) : P (s.withVcpu v f) := by
  unfold withVcpu
  split
  · exact preserved (hasVcpu_of_vcpuExists ‹_›)
  · exact kept

theorem withDomain_rule (kept : P s) {id : Nat} {f : Domain → State}
    (preserved : ∀ d ∈ s.domains, P (f d)) : P (s.withDomain id f) := by
  unfold withDomain
  split
  · exact preserved _ (domainOf_some ‹_›).1
  · exact kept

theorem run_rule (allowed : Event → Prop) (step : ∀ t event, allowed event → P t → P (t.step event))
    (start : P s) {events : List Event} (only : ∀ event ∈ events, allowed event) :
    P (s.run events) := by
  induction events generalizing s with
  | nil => exact start
  | cons event rest ih =>
      rw [run_cons]
      exact ih (step s event (only event List.mem_cons_self) start)
        fun later member => only later (List.mem_cons_of_mem event member)

end Run

section Step

variable {s : State}

theorem QueueSafe.step (inv : QueueSafe s) (event : Event) : QueueSafe (s.step event) := by
  cases event with
  | domainCreate domainId pool =>
      simp only [State.step]
      split
      · rename_i guard
        simp only [Bool.and_eq_true, Option.isNone_iff_eq_none, decide_eq_true_eq] at guard
        obtain ⟨⟨fresh, unreserved⟩, -⟩ := guard
        exact inv.domainCreate fresh unreserved pool
      · exact inv
  | allocVcpu domainId vcpuId processor now =>
      simp only [State.step]
      split
      · rename_i guard
        simp only [Bool.and_eq_true, Bool.not_eq_true'] at guard
        obtain ⟨d, found⟩ := Option.isSome_iff_exists.mp guard.1
        exact inv.allocVcpu found guard.2
      · exact inv
  | vcpuUp v =>
      apply withVcpu_rule QueueSafe inv
      exact fun has => inv.vcpuUp has
  | vcpuDown v =>
      apply withVcpu_rule QueueSafe inv
      exact fun _ => inv.vcpuDown v
  | vcpuPauseNosync v =>
      apply withVcpu_rule QueueSafe inv
      exact fun _ => inv.vcpuPauseNosync v
  | vcpuUnpause v =>
      apply withVcpu_rule QueueSafe inv
      exact fun has => inv.vcpuUnpause has
  | vcpuBlock v =>
      apply withVcpu_rule QueueSafe inv
      exact fun _ => inv.vcpuBlock v
  | vcpuUnblock v =>
      apply withVcpu_rule QueueSafe inv
      exact fun has => inv.vcpuUnblock has
  | domainPause id =>
      apply withDomain_rule QueueSafe inv
      exact fun d _ => inv.domainPause d
  | domainUnpause id =>
      apply withDomain_rule QueueSafe inv
      exact fun _ dm => inv.domainUnpause dm
  | setHardAffinity v affinity =>
      apply withVcpu_rule QueueSafe inv
      exact fun has => inv.vcpuSetHardAffinity has affinity
  | schedule cpu now tasklet => exact inv.schedule cpu now tasklet
  | adjust id cmd =>
      apply withDomain_rule QueueSafe inv
      exact fun d dm => inv.fpAdjust dm d.cpupool cmd
  | adjustGlobal pool cmd =>
      simp only [State.step]
      split
      · exact inv.fpAdjustGlobal pool cmd
      · exact inv
  | moveDomain id pool now =>
      simp only [State.step]
      split
      · apply withDomain_rule QueueSafe inv
        exact fun _ dm => inv.cpupoolMoveDomain dm pool now
      · exact inv
  | destroyVcpu v =>
      apply withVcpu_rule QueueSafe inv
      exact fun _ => inv.removeFromQueue v

theorem queueSafe_boot (nrCpuIds : Nat) (pools : List Nat) (poolCpus : Nat → List Nat)
    (cpuPool : Nat → Nat) : QueueSafe (State.boot nrCpuIds pools poolCpus cpuPool) :=
  ⟨trapFree_boot nrCpuIds pools poolCpus cpuPool, ⟨by simp [boot], by simp [boot], by simp [boot]⟩,
    ⟨by simp [boot], by simp [boot]⟩, by simp [boot], fun cpu => .inl (idleVcpu_isIdle cpu), rfl⟩

theorem queueSafe_run (nrCpuIds : Nat) (pools : List Nat) (poolCpus : Nat → List Nat)
    (cpuPool : Nat → Nat) (events : List Event) :
    QueueSafe ((State.boot nrCpuIds pools poolCpus cpuPool).run events) :=
  run_rule QueueSafe (fun _ => True) (fun _ event _ inv => inv.step event)
    (queueSafe_boot nrCpuIds pools poolCpus cpuPool) fun _ _ => trivial

end Step

theorem QueueSafe.allocated {s : State} (safe : s.QueueSafe) :
    (∀ v cpu, v ∈ s.runq cpu → s.vcpuExists v = true) ∧
      ∀ cpu, (s.curr cpu).isIdle = true ∨ s.vcpuExists (s.curr cpu) = true :=
  ⟨fun v cpu member => vcpuExists_of_hasVcpu safe.trapFree.ids (safe.queued v cpu member),
    fun cpu => (safe.current cpu).imp_right (vcpuExists_of_hasVcpu safe.trapFree.ids)⟩

end State

/-- On any host, whatever events arrive, every vcpu on a run queue is linked to
that queue and to no other, no queue holds a vcpu twice, and no `list_add_tail`
of `__runq_insert` ever links an element that is still on a list. -/
theorem run_queues_stay_linked (nrCpuIds : Nat) (pools : List Nat) (poolCpus : Nat → List Nat)
    (cpuPool : Nat → Nat) (events : List Event) :
    let s : State := (State.boot nrCpuIds pools poolCpus cpuPool).run events
    (∀ v cpu, v ∈ s.runq cpu ↔ s.link v = some cpu) ∧ (∀ cpu, (s.runq cpu).Nodup) ∧
      s.listCorrupted = false := by
  intro s
  have inv := State.queueSafe_run nrCpuIds pools poolCpus cpuPool events
  exact ⟨inv.linked.mem_iff, inv.linked.nodup, inv.intact⟩

end CpsXen

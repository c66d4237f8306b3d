import CpsXen.Sched.System
import CpsXen.Sched.Pass

/-!
The order of the run queues over whole runs.  On a host whose only FP cpupool
holds no dom0, every event keeps every queue sorted by the pool's strategy, so
`fp_do_schedule` always dispatches an eligible vcpu of least key.  With dom0 in
the pool this fails: `fp_sched_set_vm_prio` gives dom0 its fixed priority and
never re-inserts its vcpus, so a new period for dom0 leaves its vcpu where the
old period put it.
-/

namespace CpsXen

namespace State

section Lookup

variable {pool : Nat} {s : State}

theorem HostShape.domainOf_vcpu (shape : HostShape pool s) {v : VcpuId} {d : Domain}
    (dm : d ∈ s.domains) (listed : v ∈ d.vcpuIds) : s.domainOf v.domain = some d := by
  rw [(Domain.mem_vcpuIds.mp listed).1]
  exact domainOf_of_mem shape.ids dm

theorem HostShape.vcpuPool (shape : HostShape pool s) {v : VcpuId} (has : s.HasVcpu v) :
    s.vcpuPool v = pool := by
  obtain ⟨d, dm, listed⟩ := has
  simp [State.vcpuPool, shape.domainOf_vcpu dm listed, (shape.member d dm).1]

end Lookup

end State

/-- `__runq_insert` on a queue of distinct vcpus sorted by a strategy's compare,
with a vcpu on no queue: the queue stays sorted, gains the vcpu in front of the
first element the compare accepts and nothing else, and every element's
`position` is its index. -/
theorem runq_insert_sorted_and_numbered (s : State) (cpu : Nat) (v : VcpuId) (strategy : Strategy)
    (distinct : (s.runq cpu).Nodup) (absent : v ∉ s.runq cpu) (notIdle : v.isIdle = false)
    (sorted : (s.runq cpu).Pairwise fun a b => strategy.compare (s.fpVcpu a) (s.fpVcpu b) = true) :
    let t : State := s.runqInsert cpu v strategy.compare
    (t.runq cpu).Pairwise (fun a b => strategy.compare (t.fpVcpu a) (t.fpVcpu b) = true) ∧
      (∃ front back, s.runq cpu = front ++ back ∧ t.runq cpu = front ++ v :: back ∧
        (∀ e ∈ front, strategy.compare (s.fpVcpu v) (s.fpVcpu e) = false) ∧
        ∀ e ∈ back.head?, strategy.compare (s.fpVcpu v) (s.fpVcpu e) = true) ∧
      ∀ i (h : i < (t.runq cpu).length), (t.fpVcpu (t.runq cpu)[i]).position = i := by
  dsimp only
  have keySorted : (s.runq cpu).Pairwise fun a b =>
      strategy.key (s.fpVcpu a) ≤ strategy.key (s.fpVcpu b) :=
    sorted.imp fun {a b} ordered => by simpa [Strategy.compare_eq_key] using ordered
  refine ⟨?_, ?_, State.runqInsert_position s cpu _ notIdle distinct absent⟩
  · refine (State.runqInsert_sorted strategy s cpu notIdle absent keySorted).imp
      fun {a b} ordered => ?_
    rw [Strategy.compare_eq_key]
    exact decide_eq_true ordered
  · -- the walk stops at the first element the compare accepts
    have queue := State.runqInsert_runq s cpu v strategy.compare notIdle cpu
    rw [if_pos rfl] at queue
    rw [queue]
    exact List.insertBefore_split _ v _

theorem runq_insert_two_vcpus :
    let s : State := (State.boot 1 [0] (fun _ => [0]) (fun _ => 0)).run
      [.domainCreate 1 0, .allocVcpu 1 0 0 0, .vcpuUp ⟨1, 0⟩, .domainCreate 2 0, .allocVcpu 2 0 0 0]
    let t : State := s.runqInsert 0 ⟨2, 0⟩ Strategy.rm.compare
    (s.runq 0).Nodup ∧ ⟨2, 0⟩ ∉ s.runq 0 ∧ (⟨2, 0⟩ : VcpuId).isIdle = false ∧
      (s.runq 0).Pairwise (fun a b => Strategy.rm.compare (s.fpVcpu a) (s.fpVcpu b) = true) ∧
      (t.runq 0).Pairwise (fun a b => Strategy.rm.compare (t.fpVcpu a) (t.fpVcpu b) = true) ∧
      (∃ front back, s.runq 0 = front ++ back ∧ t.runq 0 = front ++ ⟨2, 0⟩ :: back ∧
        (∀ e ∈ front, Strategy.rm.compare (s.fpVcpu ⟨2, 0⟩) (s.fpVcpu e) = false) ∧
        ∀ e ∈ back.head?, Strategy.rm.compare (s.fpVcpu ⟨2, 0⟩) (s.fpVcpu e) = true) ∧
      ∀ i (h : i < (t.runq 0).length), (t.fpVcpu (t.runq 0)[i]).position = i := by
  intro s t
  have distinct : (s.runq 0).Nodup := by decide +kernel
  have absent : (⟨2, 0⟩ : VcpuId) ∉ s.runq 0 := by decide +kernel
  have sorted : (s.runq 0).Pairwise
      (fun a b => Strategy.rm.compare (s.fpVcpu a) (s.fpVcpu b) = true) := by decide +kernel
  exact ⟨distinct, absent, rfl, sorted,
    runq_insert_sorted_and_numbered s 0 ⟨2, 0⟩ .rm distinct absent rfl sorted⟩

namespace State

section Operations

variable {pool : Nat} {s : State}

theorem SortedHost.of_generic (host : SortedHost pool s) {t : State}
    (pools : t.pools = s.pools) (domains : t.domains = s.domains)
    (strategy : t.strategy = s.strategy) (fpDom : t.fpDom = s.fpDom)
    (fpVcpu : t.fpVcpu = s.fpVcpu) (runq : t.runq = s.runq) (link : t.link = s.link)
    (migrating : ∀ v, (t.pauseFlags v).migrating = true → s.HasVcpu v) : SortedHost pool t := by
  have has : ∀ v, t.HasVcpu v ↔ s.HasVcpu v := by simp [HasVcpu, domains]
  obtain ⟨⟨shapePools, member, ids, queued, _, priority⟩, ⟨memIff, nodup⟩, sorted⟩ := host
  refine ⟨⟨?_, ?_, ?_, ?_, ?_, ?_⟩, ⟨?_, ?_⟩, ?_⟩
  · rw [pools, shapePools]
  · rw [domains]
    exact member
  · rw [domains]
    exact ids
  · intro v cpu queued'
    rw [runq] at queued'
    exact (has v).mpr (queued v cpu queued')
  · intro v flagged
    exact (has v).mpr (migrating v flagged)
  · rw [domains, fpVcpu, fpDom]
    exact priority
  · rw [runq, link]
    exact memIff
  · rw [runq]
    exact nodup
  · intro cpu
    unfold RunqOrdered
    rw [runq, fpVcpu, strategy]
    exact sorted cpu

theorem SortedHost.setPauseFlags (host : SortedHost pool s) (v : VcpuId) (flags : PauseFlags)
    (allocated : flags.migrating = true → s.HasVcpu v) :
    SortedHost pool { s with pauseFlags := Function.update s.pauseFlags v flags } := by
  refine host.of_generic rfl rfl rfl rfl rfl rfl rfl fun w flagged => ?_
  by_cases same : w = v
  · subst same
    simp only [Function.update_self] at flagged
    exact allocated flagged
  · simp only [Function.update_of_ne same] at flagged
    exact host.shape.migrating w flagged

theorem SortedHost.removeFromQueue (host : SortedHost pool s) (v : VcpuId) :
    SortedHost pool (s.removeFromQueue v) := by
  refine ⟨host.shape.removeFromQueue host.linked v, host.linked.removeFromQueue v, fun cpu => ?_⟩
  unfold RunqOrdered
  rw [host.linked.removeFromQueue_runq, removeFromQueue_fpVcpu, removeFromQueue_strategy]
  exact (host.sorted cpu).sublist (List.erase_sublist)

theorem SortedHost.runqInsert (host : SortedHost pool s) {v : VcpuId} (has : s.HasVcpu v)
    (unlinked : s.link v = none) (cpu : Nat) :
    SortedHost pool (s.runqInsert cpu v (s.strategy pool).compare) := by
  have notIdle := host.shape.notIdle has
  refine ⟨host.shape.runqInsert has cpu _,
    host.linked.runqInsert unlinked notIdle cpu _, fun target => ?_⟩
  unfold RunqOrdered
  rw [runqInsert_strategy]
  by_cases here : target = cpu
  · subst here
    exact runqInsert_sorted _ s target notIdle (host.linked.not_mem_of_link_none unlinked target)
      (host.sorted target)
  · -- another queue keeps its elements, and their keys
    rw [runqInsert_runq _ _ _ _ notIdle, if_neg here]
    refine (host.sorted target).imp fun {a b} ordered => ?_
    rw [runqInsert_key _ s cpu v _ a, runqInsert_key _ s cpu v _ b]
    exact ordered

theorem SortedHost.prioHandler (host : SortedHost pool s) {d : Domain} (dm : d ∈ s.domains)
    {priority : Int} (settled : Settled (s.strategy pool) s d priority) :
    SortedHost pool (State.prioHandler (s.strategy pool) s d priority) := by
  refine ⟨host.shape.prioHandler dm _ priority,
    ⟨by simpa using host.linked.mem_iff, by simpa using host.linked.nodup⟩, fun cpu => ?_⟩
  unfold RunqOrdered
  rw [prioHandler_runq, prioHandler_strategy]
  refine (host.sorted cpu).imp fun {a b} ordered => ?_
  rw [prioHandler_key _ s d priority settled a, prioHandler_key _ s d priority settled b]
  exact ordered

theorem SortedHost.recharged (host : SortedHost pool s) {t : State} (recharged : Recharged s t) :
    SortedHost pool t := by
  obtain ⟨fpVcpu, rfl, kept⟩ := recharged
  have keys : ∀ w, (s.strategy pool).key (fpVcpu w) = (s.strategy pool).key (s.fpVcpu w) := by
    intro w
    obtain ⟨priority, period, _, deadline⟩ := kept w
    cases s.strategy pool <;> simp [Strategy.key, priority, period, deadline]
  refine ⟨⟨host.shape.pools, host.shape.member, host.shape.ids, host.shape.queued,
    host.shape.migrating, fun d dm v listed => ?_⟩,
    ⟨host.linked.mem_iff, host.linked.nodup⟩, fun cpu => ?_⟩
  · exact (kept v).1.trans (host.shape.priority d dm v listed)
  · refine (host.sorted cpu).imp fun {a b} ordered => ?_
    show (s.strategy pool).key (fpVcpu a) ≤ (s.strategy pool).key (fpVcpu b)
    rw [keys a, keys b]
    exact ordered

theorem SortedHost.fpVcpuWake (host : SortedHost pool s) {v : VcpuId} (has : s.HasVcpu v) :
    SortedHost pool (s.fpVcpuWake pool v) := by
  unfold State.fpVcpuWake
  split
  · exact host
  split
  · exact host
  split
  · exact host
  rename_i onQ
  have unlinked : s.link v = none := by simpa [vcpuOnQ] using onQ
  have inserted := host.runqInsert has unlinked (s.processor v)
  dsimp only
  split
  · rename_i d found
    obtain ⟨dm, _⟩ := domainOf_some found
    have dmInserted : d ∈ (s.runqInsert (s.processor v) v (s.strategy pool).compare).domains := by
      simpa using dm
    obtain ⟨e, em, listed⟩ := has
    have own : v ∈ d.vcpuIds := by
      rw [host.shape.domainOf_vcpu em listed] at found
      cases found
      exact listed
    have settled : Settled ((s.runqInsert (s.processor v) v (s.strategy pool).compare).strategy pool)
        (s.runqInsert (s.processor v) v (s.strategy pool).compare) d
        ((s.runqInsert (s.processor v) v (s.strategy pool).compare).fpVcpu v).priority := by
      intro _ w member
      rw [inserted.shape.priority d dmInserted w member,
        inserted.shape.priority d dmInserted v own]
    simpa using inserted.prioHandler dmInserted settled
  · exact inserted

theorem SortedHost.vcpuWake (host : SortedHost pool s) {v : VcpuId} (has : s.HasVcpu v) :
    SortedHost pool (s.vcpuWake v) := by
  unfold State.vcpuWake
  split
  · rw [host.shape.vcpuPool has]
    exact host.fpVcpuWake has
  · exact host

theorem SortedHost.fpSleep (host : SortedHost pool s) (v : VcpuId) :
    SortedHost pool (s.fpSleep v) := by
  unfold State.fpSleep
  split
  · exact host
  split
  · exact host
  split
  · rename_i notIdle _ onQ
    have removed : s.runqRemove v = s.removeFromQueue v := by
      simp [runqRemove, State.removeFromQueue, notIdle, onQ]
    rw [removed]
    exact host.removeFromQueue v
  · exact host

theorem SortedHost.vcpuSleepNosync (host : SortedHost pool s) (v : VcpuId) :
    SortedHost pool (s.vcpuSleepNosync v) := by
  unfold State.vcpuSleepNosync
  split
  · exact host.fpSleep v
  · exact host

theorem SortedHost.vcpuMigrate (host : SortedHost pool s) (v : VcpuId) :
    SortedHost pool (s.vcpuMigrate v) := by
  unfold State.vcpuMigrate
  dsimp only
  split
  · exact host
  rename_i waiting
  have flagged := (by simpa using waiting :
    s.isRunning v = false ∧ (s.pauseFlags v).migrating = true).2
  have cleared := host.setPauseFlags v { s.pauseFlags v with migrating := false }
    fun absurd => by simp at absurd
  have moved : SortedHost pool { s.setMigrating v false with
      processor := Function.update s.processor v (s.fpPickCpu v) } :=
    cleared.of_generic rfl rfl rfl rfl rfl rfl rfl cleared.shape.migrating
  exact moved.vcpuWake (host.shape.migrating v flagged)

theorem SortedHost.vcpuSetHardAffinity (host : SortedHost pool s) {v : VcpuId} (has : s.HasVcpu v)
    (affinity : List Nat) : SortedHost pool (s.vcpuSetHardAffinity v affinity).1 := by
  unfold State.vcpuSetHardAffinity
  split
  · exact host
  · have flagged := host.setPauseFlags v { s.pauseFlags v with migrating := true } fun _ => has
    have marked : SortedHost pool { s.setMigrating v true with
        hardAffinity := Function.update s.hardAffinity v affinity } :=
      flagged.of_generic rfl rfl rfl rfl rfl rfl rfl flagged.shape.migrating
    exact (marked.vcpuSleepNosync v).vcpuMigrate v

theorem SortedHost.contextSaved (host : SortedHost pool s) (prev : VcpuId) :
    SortedHost pool (s.contextSaved prev) := by
  unfold State.contextSaved
  dsimp only
  have saved : SortedHost pool { s with isRunning := Function.update s.isRunning prev false } :=
    host.of_generic rfl rfl rfl rfl rfl rfl rfl host.shape.migrating
  split
  · exact saved.vcpuMigrate prev
  · exact saved

theorem SortedHost.schedule (host : SortedHost pool s) (cpu : Nat) (now : Int)
    (taskletWorkScheduled : Bool) : SortedHost pool (s.schedule cpu now taskletWorkScheduled) := by
  have picked := host.recharged (recharged_fpDoSchedule s cpu now taskletWorkScheduled)
  unfold State.schedule
  generalize s.fpDoSchedule cpu now taskletWorkScheduled = out at picked ⊢
  obtain ⟨t, slice⟩ := out
  dsimp only at picked ⊢
  have switched : SortedHost pool { t with curr := Function.update t.curr cpu slice.task } :=
    picked.of_generic rfl rfl rfl rfl rfl rfl rfl picked.shape.migrating
  split
  · exact switched
  · refine SortedHost.contextSaved ?_ _
    exact switched.of_generic rfl rfl rfl rfl rfl rfl rfl switched.shape.migrating

theorem SortedHost.vcpuPauseNosync (host : SortedHost pool s) (v : VcpuId) :
    SortedHost pool (s.vcpuPauseNosync v) := by
  unfold State.vcpuPauseNosync
  have counted : SortedHost pool
      { s with pauseCount := Function.update s.pauseCount v (s.pauseCount v + 1) } :=
    host.of_generic rfl rfl rfl rfl rfl rfl rfl host.shape.migrating
  exact counted.vcpuSleepNosync v

theorem SortedHost.vcpuUnpause (host : SortedHost pool s) {v : VcpuId} (has : s.HasVcpu v) :
    SortedHost pool (s.vcpuUnpause v) := by
  unfold State.vcpuUnpause
  dsimp only
  have counted : SortedHost pool
      { s with pauseCount := Function.update s.pauseCount v (s.pauseCount v - 1) } :=
    host.of_generic rfl rfl rfl rfl rfl rfl rfl host.shape.migrating
  split
  · exact counted.vcpuWake has
  · exact counted

theorem SortedHost.setPauseFlags_of_migrating (host : SortedHost pool s) (v : VcpuId)
    (flags : PauseFlags) (kept : flags.migrating = (s.pauseFlags v).migrating) :
    SortedHost pool { s with pauseFlags := Function.update s.pauseFlags v flags } :=
  host.setPauseFlags v flags fun flagged => host.shape.migrating v (kept ▸ flagged)

theorem SortedHost.vcpuBlock (host : SortedHost pool s) (v : VcpuId) :
    SortedHost pool (s.vcpuBlock v) :=
  host.setPauseFlags_of_migrating v { s.pauseFlags v with blocked := true } rfl

theorem SortedHost.vcpuUnblock (host : SortedHost pool s) {v : VcpuId} (has : s.HasVcpu v) :
    SortedHost pool (s.vcpuUnblock v) := by
  unfold State.vcpuUnblock
  split
  · exact (host.setPauseFlags_of_migrating v { s.pauseFlags v with blocked := false } rfl).vcpuWake
      has
  · exact host

theorem SortedHost.vcpuUp (host : SortedHost pool s) {v : VcpuId} (has : s.HasVcpu v) :
    SortedHost pool (s.vcpuUp v) := by
  unfold State.vcpuUp
  split
  · exact (host.setPauseFlags_of_migrating v { s.pauseFlags v with down := false } rfl).vcpuWake
      has
  · exact host

theorem SortedHost.vcpuDown (host : SortedHost pool s) (v : VcpuId) :
    SortedHost pool (s.vcpuDown v) := by
  unfold State.vcpuDown
  split
  · exact host
  · exact (host.setPauseFlags_of_migrating v { s.pauseFlags v with down := true }
      rfl).vcpuSleepNosync v

theorem SortedHost.domainPause (host : SortedHost pool s) (d : Domain) :
    SortedHost pool (s.domainPause d) :=
  domainPause_rule (SortedHost pool) d
    (host.of_generic rfl rfl rfl rfl rfl rfl rfl host.shape.migrating)
    fun _ v asleep => asleep.vcpuSleepNosync v

theorem SortedHost.domainUnpause (host : SortedHost pool s) {d : Domain} (dm : d ∈ s.domains) :
    SortedHost pool (s.domainUnpause d) :=
  domainUnpause_rule (SortedHost pool) dm
    (host.of_generic rfl rfl rfl rfl rfl rfl rfl host.shape.migrating)
    fun _ _ awake has => awake.vcpuWake has

theorem SortedHost.domainCreate (host : SortedHost pool s) {domainId : Nat}
    (fresh : s.domainOf domainId = none) (notDom0 : domainId ≠ 0)
    (unreserved : domainId < domidFirstReserved) :
    SortedHost pool (s.domainCreate domainId pool) := by
  have notIdle : domainId ≠ domidIdle := by
    unfold domidFirstReserved at unreserved
    unfold domidIdle
    omega
  let created : Domain := ⟨domainId, [], pool⟩
  let listed := s.domains.insertBefore (fun e => decide (domainId < e.domainId)) created
  have grown : ∀ e ∈ s.domains, e ∈ listed := fun e em => List.mem_insertBefore.mpr (.inr em)
  have grownHas : ∀ v, s.HasVcpu v → ∃ e ∈ listed, v ∈ e.vcpuIds := by
    rintro v ⟨e, em, member⟩
    exact ⟨e, grown e em, member⟩
  have init : fpInitDomain created = some { fpAllocDomdata with
      period := vmStandardPeriod, deadline := vmStandardPeriod, slice := vmStandardSlice } := by
    simp [fpInitDomain, created, Domain.isIdle, notIdle, notDom0]
  unfold State.domainCreate
  dsimp only
  rw [init]
  dsimp only
  obtain ⟨⟨_, member, ids, queued, migrating, priority⟩, linked, sorted⟩ := host
  refine ⟨⟨by assumption, ?_, ?_, ?_, ?_, ?_⟩, ⟨linked.mem_iff, linked.nodup⟩, sorted⟩
  · intro e em
    rcases List.mem_insertBefore.mp em with same | old
    · subst same
      exact ⟨rfl, notDom0, by simpa [Domain.isIdle] using notIdle⟩
    · exact member e old
  · exact nodup_ids_insertBefore ids fresh _
  · exact fun v cpu queued' => grownHas v (queued v cpu queued')
  · exact fun v flagged => grownHas v (migrating v flagged)
  · intro e em v member
    rcases List.mem_insertBefore.mp em with same | old
    · subst same
      simp [Domain.vcpuIds] at member
    · have other : e.domainId ≠ domainId := domainOf_none fresh e old
      simpa [Function.update_of_ne other] using priority e old v member

theorem hasVcpu_of_vcpuExists {s : State} {v : VcpuId} (allocated : s.vcpuExists v = true) :
    s.HasVcpu v := by
  unfold vcpuExists at allocated
  split at allocated
  · rename_i d found
    obtain ⟨dm, same⟩ := domainOf_some found
    refine ⟨d, dm, Domain.mem_vcpuIds.mpr ⟨same.symm, ?_⟩⟩
    simpa using allocated
  · cases allocated

theorem SortedHost.installVcpu (host : SortedHost pool s) {v : VcpuId} (absent : ¬s.HasVcpu v)
    (record : FpVcpu) : SortedHost pool (s.installVcpu v record) := by
  have offQueue : ∀ cpu, v ∉ s.runq cpu := fun cpu queued => absent (host.shape.queued v cpu queued)
  have unlinked : s.link v = none := by
    cases linkedOn : s.link v with
    | none => rfl
    | some cpu => exact absurd ((host.linked.mem_iff v cpu).mpr linkedOn) (offQueue cpu)
  have sameLink : Function.update s.link v none = s.link := by
    rw [← unlinked, Function.update_eq_self]
  have otherRecord : ∀ w, w ≠ v → Function.update s.fpVcpu v record w = s.fpVcpu w :=
    fun w other => Function.update_of_ne other _ _
  unfold State.installVcpu
  refine ⟨⟨host.shape.pools, host.shape.member, host.shape.ids, host.shape.queued,
    host.shape.migrating, fun d dm w listed => ?_⟩, ?_, fun cpu => ?_⟩
  · have other : w ≠ v := fun same => absent ⟨d, dm, same ▸ listed⟩
    simpa [otherRecord w other] using host.shape.priority d dm w listed
  · refine ⟨fun w cpu => ?_, host.linked.nodup⟩
    show w ∈ s.runq cpu ↔ Function.update s.link v none w = some cpu
    rw [sameLink]
    exact host.linked.mem_iff w cpu
  · refine (host.sorted cpu).imp_of_mem fun {a b} aQueued bQueued ordered => ?_
    have aOther : a ≠ v := fun same => offQueue cpu (same ▸ aQueued)
    have bOther : b ≠ v := fun same => offQueue cpu (same ▸ bQueued)
    show (s.strategy pool).key (Function.update s.fpVcpu v record a) ≤
      (s.strategy pool).key (Function.update s.fpVcpu v record b)
    rw [otherRecord a aOther, otherRecord b bOther]
    exact ordered

theorem SortedHost.listVcpu (host : SortedHost pool s) (d : Domain) (vcpuId : Nat)
    (priority : (s.fpVcpu ⟨d.domainId, vcpuId⟩).priority = (s.fpDom d.domainId).priority) :
    SortedHost pool { s with domains := s.domains.map fun e =>
      if e.domainId = d.domainId then
        { e with vcpus := e.vcpus.insertBefore (fun x => decide (vcpuId < x)) vcpuId }
      else e } := by
  let grow := fun e : Domain => if e.domainId = d.domainId then
    { e with vcpus := e.vcpus.insertBefore (fun x => decide (vcpuId < x)) vcpuId } else e
  have sameId : ∀ e, (grow e).domainId = e.domainId := by
    intro e
    simp only [grow]
    split <;> rfl
  have sameIds : (s.domains.map grow).map Domain.domainId = s.domains.map Domain.domainId :=
    map_domainId_listVcpu d.domainId vcpuId s.domains
  have grownHas : ∀ v, s.HasVcpu v → ∃ e ∈ s.domains.map grow, v ∈ e.vcpuIds :=
    fun _ ⟨_, em, member⟩ => mem_vcpuIds_listVcpu d.domainId vcpuId em member
  refine ⟨⟨host.shape.pools, ?_, ?_, fun v cpu queued => grownHas v (host.shape.queued v cpu queued),
    fun v flagged => grownHas v (host.shape.migrating v flagged), ?_⟩,
    ⟨host.linked.mem_iff, host.linked.nodup⟩, host.sorted⟩
  · intro e em
    obtain ⟨old, oldMember, rfl⟩ := List.mem_map.mp em
    have := host.shape.member old oldMember
    split <;> exact this
  · show ((s.domains.map grow).map Domain.domainId).Nodup
    rw [sameIds]
    exact host.shape.ids
  · intro e em v member
    obtain ⟨old, oldMember, rfl⟩ := List.mem_map.mp em
    rw [sameId]
    split at member
    · rename_i own
      rw [Domain.mem_vcpuIds] at member
      simp only [List.mem_insertBefore] at member
      rcases member with ⟨sameDomain, newVcpu | oldVcpu⟩
      · have : v = ⟨d.domainId, vcpuId⟩ := by
          obtain ⟨domain, vcpu⟩ := v
          simp_all
        rw [this, own]
        exact priority
      · exact host.shape.priority old oldMember v (Domain.mem_vcpuIds.mpr ⟨sameDomain, oldVcpu⟩)
    · exact host.shape.priority old oldMember v member

theorem SortedHost.allocVcpu (host : SortedHost pool s) {domainId vcpuId processor : Nat}
    {now : Int} {d : Domain} (found : s.domainOf domainId = some d)
    (fresh : s.vcpuExists ⟨domainId, vcpuId⟩ = false) :
    SortedHost pool (s.allocVcpu domainId vcpuId processor now) := by
  obtain ⟨dm, rfl⟩ := domainOf_some found
  have absent : ¬s.HasVcpu ⟨d.domainId, vcpuId⟩ := by
    rintro ⟨e, em, listed⟩
    have same : some e = some d := (host.shape.domainOf_vcpu em listed).symm.trans found
    cases same
    have : s.vcpuExists ⟨d.domainId, vcpuId⟩ = true := by
      simpa [vcpuExists, found] using (Domain.mem_vcpuIds.mp listed).2
    rw [fresh] at this
    cases this
  have notIdle : d.domainId ≠ domidIdle := by
    simpa [Domain.isIdle] using (host.shape.member d dm).2.2
  let v : VcpuId := ⟨d.domainId, vcpuId⟩
  let fresh : State := { s with
    pauseFlags := Function.update s.pauseFlags v { PauseFlags.none with down := true }
    pauseCount := Function.update s.pauseCount v 0
    isRunning := Function.update s.isRunning v false }
  have flagged := host.setPauseFlags v { PauseFlags.none with down := true }
    fun absurd => by simp [PauseFlags.none] at absurd
  have freshHost : SortedHost pool fresh :=
    flagged.of_generic rfl rfl rfl rfl rfl rfl rfl flagged.shape.migrating
  have inited : SortedHost pool (fresh.schedInitVcpu v processor now) := by
    rw [schedInitVcpu_of_not_runnable (by simp [fresh, v, vcpuRunnable])]
    have installed := freshHost.installVcpu absent (fpAllocVdata (fresh.schedPriv v.domain) v now)
    exact installed.of_generic rfl rfl rfl rfl rfl rfl rfl installed.shape.migrating
  have priority : ((fresh.schedInitVcpu v processor now).fpVcpu v).priority =
      ((fresh.schedInitVcpu v processor now).fpDom d.domainId).priority := by
    rw [schedInitVcpu_of_not_runnable (by simp [fresh, v, vcpuRunnable])]
    simp [schedPriv, notIdle, fpAllocVdata, v, fresh]
  exact inited.listVcpu d vcpuId priority

theorem sortedHost_boot (nrCpuIds pool : Nat) (poolCpus : Nat → List Nat) (cpuPool : Nat → Nat) :
    SortedHost pool (State.boot nrCpuIds [pool] poolCpus cpuPool) := by
  refine ⟨⟨rfl, by simp [boot], by simp [boot], by simp [boot], ?_, by simp [boot]⟩,
    ⟨by simp [boot], by simp [boot]⟩, fun cpu => by simp [RunqOrdered, boot]⟩
  intro v flagged
  simp [boot, PauseFlags.none] at flagged

end Operations

/-- What `fp_do_schedule` on `cpu` must pick, without tasklet work: when it
dispatches a vcpu, a queued eligible one whose key under the pool's strategy is
least among the eligible vcpus of the queue. -/
def DispatchesLeastKey (s : State) (pool cpu : Nat) (now : Int) : Prop :=
  let (t, slice) := s.fpDoSchedule cpu now false
  slice.task.isIdle = false →
    slice.task ∈ t.runq cpu ∧ t.eligible slice.task = true ∧
      ∀ e ∈ t.runq cpu, t.eligible e = true →
        (t.strategy pool).key (t.fpVcpu slice.task) ≤ (t.strategy pool).key (t.fpVcpu e)

section Run

variable {pool : Nat} {s : State}

theorem SortedHost.step (host : SortedHost pool s) (event : Event)
    (notDom0 : ∀ q, event ≠ .domainCreate 0 q) : SortedHost pool (s.step event) := by
  have onVcpu : ∀ v (f : State → State), (s.HasVcpu v → SortedHost pool (f s)) →
      SortedHost pool (s.withVcpu v f) := by
    intro v f preserved
    unfold withVcpu
    split
    · exact preserved (hasVcpu_of_vcpuExists ‹_›)
    · exact host
  have onDomain : ∀ id (f : Domain → State), (∀ d ∈ s.domains, SortedHost pool (f d)) →
      SortedHost pool (s.withDomain id f) := by
    intro id f preserved
    unfold withDomain
    split
    · exact preserved _ (domainOf_some ‹_›).1
    · exact host
  have inPool : ∀ q, s.pools.contains q = true → q = pool := by
    intro q contained
    simpa [host.shape.pools] using contained
  cases event with
  | domainCreate domainId q =>
      simp only [State.step]
      split
      · rename_i guard
        simp only [Bool.and_eq_true, Option.isNone_iff_eq_none, decide_eq_true_eq] at guard
        obtain ⟨⟨fresh, unreserved⟩, contained⟩ := guard
        obtain rfl := inPool q contained
        exact host.domainCreate fresh (fun zero => notDom0 q (by rw [zero])) unreserved
      · exact host
  | allocVcpu domainId vcpuId processor now =>
      simp only [State.step]
      split
      · rename_i guard
        simp only [Bool.and_eq_true, Bool.not_eq_true'] at guard
        obtain ⟨d, found⟩ := Option.isSome_iff_exists.mp guard.1
        exact host.allocVcpu found guard.2
      · exact host
  | vcpuUp v => exact onVcpu v (State.vcpuUp · v) fun has => host.vcpuUp has
  | vcpuDown v => exact onVcpu v (State.vcpuDown · v) fun _ => host.vcpuDown v
  | vcpuPauseNosync v => exact onVcpu v (State.vcpuPauseNosync · v) fun _ => host.vcpuPauseNosync v
  | vcpuUnpause v => exact onVcpu v (State.vcpuUnpause · v) fun has => host.vcpuUnpause has
  | vcpuBlock v => exact onVcpu v (State.vcpuBlock · v) fun _ => host.vcpuBlock v
  | vcpuUnblock v => exact onVcpu v (State.vcpuUnblock · v) fun has => host.vcpuUnblock has
  | domainPause id => exact onDomain id s.domainPause fun d _ => host.domainPause d
  | domainUnpause id => exact onDomain id s.domainUnpause fun _ dm => host.domainUnpause dm
  | setHardAffinity v affinity =>
      exact onVcpu v (fun s => (s.vcpuSetHardAffinity v affinity).1)
        fun has => host.vcpuSetHardAffinity has affinity
  | schedule cpu now tasklet => exact host.schedule cpu now tasklet
  | adjust id cmd =>
      refine onDomain id _ fun d dm => ?_
      rw [(host.shape.member d dm).1]
      exact host.fpAdjust dm cmd
  | adjustGlobal q cmd =>
      simp only [State.step]
      split
      · obtain rfl := inPool q ‹_›
        exact host.fpAdjustGlobal cmd
      · exact host
  | moveDomain id q now =>
      simp only [State.step]
      split
      · obtain rfl := inPool q ‹_›
        refine onDomain id _ fun d dm => ?_
        rw [cpupoolMoveDomain, if_pos (host.shape.member d dm).1]
        exact host
      · exact host
  | destroyVcpu v => exact onVcpu v (schedDestroyVcpu · v) fun _ => host.removeFromQueue v

theorem SortedHost.run (host : SortedHost pool s) (events : List Event)
    (noDom0 : ∀ q, Event.domainCreate 0 q ∉ events) : SortedHost pool (s.run events) := by
  induction events generalizing s with
  | nil => exact host
  | cons event rest ih =>
      rw [run_cons]
      refine ih (host.step event fun q same => noDom0 q (same ▸ List.mem_cons_self)) ?_
      exact fun q later => noDom0 q (List.mem_cons_of_mem event later)

theorem SortedHost.dispatch (host : SortedHost pool s) (cpu : Nat) (now : Int) :
    s.DispatchesLeastKey pool cpu now := by
  have replenished := host.recharged ((recharged_chargeCurrent s cpu now).trans
    (recharged_updateQueue (s.chargeCurrent cpu now) now cpu))
  unfold DispatchesLeastKey
  rw [fpDoSchedule_eq]
  generalize (s.chargeCurrent cpu now).updateQueue now cpu = u at replenished ⊢
  dsimp only
  split
  · rename_i v found
    intro _
    have eligibleKept : ∀ e,
        (u.setFpVcpu v { u.fpVcpu v with lastTimeScheduled := now }).eligible e = u.eligible e := by
      intro e
      by_cases same : e = v
      · subst same
        simp [eligible, vcpuRunnable, setFpVcpu]
      · simp [eligible, vcpuRunnable, setFpVcpu, Function.update_of_ne same]
    have keyKept : ∀ e, (u.strategy pool).key
        ((u.setFpVcpu v { u.fpVcpu v with lastTimeScheduled := now }).fpVcpu e) =
          (u.strategy pool).key (u.fpVcpu e) := by
      intro e
      by_cases same : e = v
      · subst same
        cases u.strategy pool <;> simp [Strategy.key]
      · simp [Function.update_of_ne same]
    simp only [setFpVcpu_runq, setFpVcpu_strategy, Bool.false_eq_true, if_false]
    refine ⟨List.mem_of_find?_eq_some found, ?_, fun e queued eligible' => ?_⟩
    · rw [eligibleKept]
      exact List.find?_some found
    · rw [keyKept, keyKept]
      rw [eligibleKept] at eligible'
      exact List.find?_least (replenished.sorted cpu) found e queued eligible'
  · intro notIdle
    simp at notIdle

end Run

end State

/-- On a host whose only FP cpupool holds no dom0, every run queue stays ordered
by the pool's strategy, and `fp_do_schedule` dispatches an eligible vcpu of least
key among the eligible vcpus of its queue. -/
theorem runq_ordered_without_dom0 (nrCpuIds pool : Nat) (poolCpus : Nat → List Nat)
    (cpuPool : Nat → Nat) (events : List Event) (noDom0 : ∀ q, Event.domainCreate 0 q ∉ events)
    (cpu : Nat) (now : Int) :
    let s := (State.boot nrCpuIds [pool] poolCpus cpuPool).run events
    s.RunqOrdered pool cpu ∧ s.DispatchesLeastKey pool cpu now := by
  intro s
  have host := (State.sortedHost_boot nrCpuIds pool poolCpus cpuPool).run events noDom0
  exact ⟨host.sorted cpu, host.dispatch cpu now⟩

theorem runq_ordered_two_domains :
    (∀ q, Event.domainCreate 0 q ∉ [.domainCreate 1 0, .allocVcpu 1 0 0 0, .vcpuUp ⟨1, 0⟩,
      .domainCreate 2 0, .allocVcpu 2 0 0 0, .vcpuUp ⟨2, 0⟩, .adjust 2 (.putinfo ⟨0, 500, 0, 0⟩)]) ∧
    let s := (State.boot 1 [0] (fun _ => [0]) (fun _ => 0)).run [.domainCreate 1 0,
      .allocVcpu 1 0 0 0, .vcpuUp ⟨1, 0⟩, .domainCreate 2 0, .allocVcpu 2 0 0 0, .vcpuUp ⟨2, 0⟩,
      .adjust 2 (.putinfo ⟨0, 500, 0, 0⟩)]
    s.RunqOrdered 0 0 ∧ s.DispatchesLeastKey 0 0 0 :=
  ⟨by simp, runq_ordered_without_dom0 1 0 (fun _ => [0]) (fun _ => 0) _ (by simp) 0 0⟩

/-- The order fails with dom0 in the pool: `fp_adjust` stores dom0's new period,
but `fp_sched_set_vm_prio` does not re-insert dom0's vcpu, which keeps the place
its old period gave it behind two vcpus of longer period.  It fails with a second
FP cpupool too: getinfo on cpupool 0, which runs RM, re-sorts the queue of
cpupool 1, which runs DM, by period. -/
theorem runq_unordered_with_dom0_or_two_pools :
    (¬∀ (events : List Event) (cpu : Nat),
      ((State.boot 1 [0] (fun _ => [0]) (fun _ => 0)).run events).RunqOrdered 0 cpu) ∧
    ¬∀ (events : List Event) (cpu : Nat), (∀ q, Event.domainCreate 0 q ∉ events) →
      ((State.boot 2 [0, 1] (fun p => [p]) (fun c => c)).run events).RunqOrdered 1 cpu := by
  refine ⟨fun ordered => ?_, fun ordered => ?_⟩
  · have dom0Behind := ordered [.domainCreate 0 0, .allocVcpu 0 0 0 0, .vcpuUp ⟨0, 0⟩,
      .domainCreate 1 0, .allocVcpu 1 0 0 0, .vcpuUp ⟨1, 0⟩,
      .domainCreate 2 0, .allocVcpu 2 0 0 0, .vcpuUp ⟨2, 0⟩,
      .adjust 0 (.putinfo ⟨0, 500, 0, 0⟩)] 0
    revert dom0Behind
    decide +kernel
  · have resorted := ordered [.adjustGlobal 1 (.putinfo 1),
      .domainCreate 1 1, .allocVcpu 1 0 1 0, .vcpuUp ⟨1, 0⟩,
      .domainCreate 2 1, .allocVcpu 2 0 1 0, .vcpuUp ⟨2, 0⟩,
      .adjust 1 (.putinfo ⟨300, 1000, 800, 0⟩), .adjust 2 (.putinfo ⟨300, 2000, 500, 0⟩),
      .adjustGlobal 0 .getinfo] 1 (by simp)
    revert resorted
    decide +kernel

end CpsXen

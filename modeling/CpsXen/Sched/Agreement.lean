import CpsXen.Sched.Integrity

/-!
What `XEN_DOMCTL_SCHEDOP_getinfo` reports against what `fp_do_schedule` uses, over
whole runs.  The two are kept apart: one `fp_dom` record per domain, and one
`fp_vcpu` record per vcpu.  `fp_adjust` putinfo writes each parameter into both,
every priority handler writes one priority into both, `fp_alloc_vdata` copies the
domain's record into a new vcpu, and the queue operations and `fp_do_schedule`
change only positions and budgets.  So as long as no domain moves between
cpupools, where `sched_move_domain` hands the domain a zeroed record, every vcpu
carries its domain's priority, period, slice and deadline.  dom0 needs one fact
more: `fp_sched_set_vm_prio` writes `VM_DOM0_PRIO` into dom0's record alone, which
keeps the two in step only because no vcpu of domid 0 ever leaves that priority.
-/

namespace CpsXen

namespace State

/-- `t` has the domains of `s`, and every vcpu and domain record of `t` carries the
parameters it has in `s`. -/
structure ParamsKept (s t : State) : Prop where
  domains : t.domains = s.domains
  vcpus : ∀ v, (t.fpVcpu v).params = (s.fpVcpu v).params
  doms : ∀ id, (t.fpDom id).params = (s.fpDom id).params

/-- The records are in step: domain ids are distinct and none is the idle domain's,
every vcpu of a domain carries its domain's parameters, and dom0's record and
every vcpu record of domid 0 hold `VM_DOM0_PRIO`. -/
structure ParamsSynced (s : State) : Prop where
  ids : (s.domains.map Domain.domainId).Nodup
  busy : ∀ d ∈ s.domains, d.isIdle = false
  agree : ∀ d ∈ s.domains, s.ParamsAgree d
  dom0Record : ∀ d ∈ s.domains, d.domainId = 0 → (s.fpDom 0).priority = vmDom0Prio
  dom0Vcpus : ∀ v : VcpuId, v.domain = 0 → (s.fpVcpu v).priority = vmDom0Prio

section Kept

variable {s t u : State}

theorem ParamsKept.refl (s : State) : ParamsKept s s :=
  ⟨rfl, fun _ => rfl, fun _ => rfl⟩

theorem ParamsKept.trans (first : ParamsKept s t) (second : ParamsKept t u) : ParamsKept s u :=
  ⟨second.domains.trans first.domains, fun v => (second.vcpus v).trans (first.vcpus v),
    fun id => (second.doms id).trans (first.doms id)⟩

theorem ParamsKept.of_records (domains : t.domains = s.domains) (vcpus : t.fpVcpu = s.fpVcpu)
    (doms : t.fpDom = s.fpDom) : ParamsKept s t :=
  ⟨domains, fun v => by rw [vcpus], fun id => by rw [doms]⟩

theorem paramsKept_runqInsert (s : State) (cpu : Nat) (v : VcpuId)
    (compare : FpVcpu → FpVcpu → Bool) : ParamsKept s (s.runqInsert cpu v compare) := by
  refine ⟨by simp, fun w => ?_, fun id => by simp⟩
  obtain ⟨position, inserted⟩ := runqInsert_fpVcpu_eq s cpu v compare w
  rw [inserted]
  rfl

theorem paramsKept_fpReinsertsortVcpu (s : State) (v : VcpuId)
    (compare : FpVcpu → FpVcpu → Bool) : ParamsKept s (s.fpReinsertsortVcpu v compare) :=
  (ParamsKept.of_records (by simp) (by simp) (by simp)).trans (paramsKept_runqInsert _ _ v compare)

theorem ParamsKept.of_recharged (recharged : Recharged s t) : ParamsKept s t := by
  obtain ⟨fpVcpu, rfl, kept⟩ := recharged
  refine ⟨rfl, fun v => ?_, fun _ => rfl⟩
  obtain ⟨priority, period, slice, deadline⟩ := kept v
  simp only [FpVcpu.params, priority, period, slice, deadline]

end Kept

section Operations

variable {s : State}

theorem ParamsSynced.of_kept (sync : ParamsSynced s) {t : State} (kept : ParamsKept s t) :
    ParamsSynced t := by
  have dm : ∀ {d}, d ∈ t.domains → d ∈ s.domains := fun dm => kept.domains ▸ dm
  refine ⟨?_, fun d member => sync.busy d (dm member), fun d member v listed => ?_,
    fun d member zero => ?_, fun v zero => ?_⟩
  · rw [kept.domains]
    exact sync.ids
  · rw [kept.vcpus, kept.doms]
    exact sync.agree d (dm member) v listed
  · rw [← sync.dom0Record d (dm member) zero]
    exact congrArg Prod.fst (kept.doms 0)
  · rw [← sync.dom0Vcpus v zero]
    exact congrArg Prod.fst (kept.vcpus v)

theorem ParamsSynced.of_records (sync : ParamsSynced s) {t : State} (domains : t.domains = s.domains)
    (vcpus : t.fpVcpu = s.fpVcpu) (doms : t.fpDom = s.fpDom) : ParamsSynced t :=
  sync.of_kept (.of_records domains vcpus doms)

theorem keepsParams_setDomainPriority_of_ne {d e : Domain} (other : d.domainId ≠ e.domainId)
    (s : State) (priority : Int) : KeepsParams d s (s.setDomainPriority e priority) := by
  rw [setDomainPriority_eq]
  refine ⟨fun v member => ?_, by simp [Function.update_of_ne other]⟩
  have outside : v ∉ e.vcpuIds := by
    simp only [Domain.mem_vcpuIds] at member ⊢
    rw [member.1]
    exact fun inside => other inside.1
  simp [outside]

theorem ParamsSynced.setDomainPriority (sync : ParamsSynced s) {e : Domain} (em : e ∈ s.domains)
    (priority : Int) (pinned : e.domainId = 0 → priority = vmDom0Prio) :
    ParamsSynced (s.setDomainPriority e priority) := by
  have written := setDomainPriority_eq s e priority
  have domains : (s.setDomainPriority e priority).domains = s.domains := by rw [written]
  refine ⟨domains ▸ sync.ids, domains ▸ sync.busy, fun d dm => ?_, fun d dm zero => ?_,
    fun v zero => ?_⟩
  · rw [domains] at dm
    by_cases same : d.domainId = e.domainId
    · rw [List.inj_on_of_nodup_map sync.ids dm em same]
      exact (sync.agree e em).setDomainPriority priority
    · exact (sync.agree d dm).of_keepsParams (keepsParams_setDomainPriority_of_ne same s priority)
  · rw [domains] at dm
    rw [written]
    show (Function.update s.fpDom e.domainId _ 0).priority = vmDom0Prio
    by_cases here : e.domainId = 0
    · rw [← here, Function.update_self]
      exact pinned here
    · rw [Function.update_of_ne (Ne.symm here)]
      exact sync.dom0Record d dm zero
  · rw [written]
    show (if v ∈ e.vcpuIds then _ else s.fpVcpu v).priority = vmDom0Prio
    split
    · rename_i listed
      exact pinned ((Domain.mem_vcpuIds.mp listed).1 ▸ zero)
    · exact sync.dom0Vcpus v zero

theorem positionPrioHandler_dom0 {d : Domain} (zero : d.domainId = 0) (s : State) (priority : Int) :
    s.positionPrioHandler d priority = s.setDomainPriority d vmDom0Prio := by
  rw [positionPrioHandler, if_pos zero]

theorem ParamsSynced.prioHandler (sync : ParamsSynced s) {e : Domain} (em : e ∈ s.domains)
    (strategy : Strategy) (priority : Int)
    (pinned : e.domainId = 0 → strategy = .fp → priority = vmDom0Prio) :
    ParamsSynced (State.prioHandler strategy s e priority) := by
  by_cases zero : e.domainId = 0
  · have handled : State.prioHandler strategy s e priority = s.setDomainPriority e vmDom0Prio := by
      cases strategy with
      | fp =>
          show s.setDomainPriority e priority = _
          rw [pinned zero rfl]
      | rm | dm => exact positionPrioHandler_dom0 zero s priority
    rw [handled]
    exact sync.setDomainPriority em _ fun _ => rfl
  · rcases prioHandler_cases strategy s e priority with ⟨q, -, handled⟩ | trapped
    · rw [handled]
      exact sync.setDomainPriority em q fun absurd => (zero absurd).elim
    · rw [trapped]
      exact sync.of_records rfl rfl rfl

theorem ParamsSynced.putDomainParams (sync : ParamsSynced s) {e : Domain} (em : e ∈ s.domains)
    (pool : Nat) (op : DomctlFp) : ParamsSynced (s.putDomainParams pool e op) := by
  obtain ⟨fpDom, fpVcpu, stored, vcpus, doms⟩ := retimed_putDomainParams s pool e op
  have domains : (s.putDomainParams pool e op).domains = s.domains := by rw [stored]
  refine ⟨domains ▸ sync.ids, domains ▸ sync.busy, fun d dm => ?_, fun d dm zero => ?_,
    fun v zero => ?_⟩
  · rw [domains] at dm
    by_cases same : d.domainId = e.domainId
    · rw [List.inj_on_of_nodup_map sync.ids dm em same]
      exact (sync.agree e em).putDomainParams pool op
    · -- the vcpus of `d` are not `e`'s, and its record is another
      refine (sync.agree d dm).of_keepsParams ⟨fun v listed => ?_, ?_⟩
      · refine congrArg FpVcpu.params (putDomainParams_fpVcpu_of_not_mem ?_ s pool op)
        simp only [Domain.mem_vcpuIds] at listed ⊢
        exact fun inside => same (listed.1.symm.trans inside.1)
      · exact congrArg FpDom.params (putDomainParams_fpDom_of_ne same s pool op)
  · rw [domains] at dm
    rw [stored]
    exact (doms 0).trans (sync.dom0Record d dm zero)
  · rw [stored]
    exact (vcpus v).trans (sync.dom0Vcpus v zero)

theorem ParamsSynced.fpSchedSetVmPrio (sync : ParamsSynced s) {e : Domain} (em : e ∈ s.domains)
    (pool : Nat) (prio : Int) : ParamsSynced (s.fpSchedSetVmPrio pool e prio) := by
  unfold State.fpSchedSetVmPrio
  split
  · rename_i zero
    have pinned := sync.dom0Record e em zero
    have unchanged : { s.fpDom e.domainId with priority := vmDom0Prio } = s.fpDom e.domainId := by
      rw [zero, ← pinned]
    rw [unchanged]
    exact sync.of_records rfl rfl (by simp)
  split
  · rename_i idle
    rw [sync.busy e em] at idle
    cases idle
  rename_i notDom0 _
  refine (List.foldlRecOn (motive := fun t => ParamsSynced t ∧ t.domains = s.domains) _ _
    ⟨sync, rfl⟩ ?_).1
  intro t before v _
  obtain ⟨kept, same⟩ := before
  have handled := kept.prioHandler (same ▸ em) (t.strategy pool) prio
    fun zero => absurd zero notDom0
  exact ⟨handled.of_kept (paramsKept_fpReinsertsortVcpu _ v _),
    by simp [State.fpReinsertsortVcpu, same]⟩

theorem ParamsSynced.setVmPrioAll (sync : ParamsSynced s) (pool : Nat) (skip : Nat → Bool) :
    ParamsSynced (s.setVmPrioAll pool skip) := by
  unfold State.setVmPrioAll
  refine List.foldlRecOn (motive := ParamsSynced) _ _ sync ?_
  intro t kept p _
  refine (List.foldlRecOn (motive := fun u => ParamsSynced u ∧ u.domains = t.domains) _ _
    ⟨kept, rfl⟩ ?_).1
  intro u before e member
  obtain ⟨alsoKept, same⟩ := before
  have em : e ∈ u.domains := by
    rw [same]
    exact (List.mem_filter.mp member).1
  split
  · exact ⟨alsoKept, same⟩
  · exact ⟨alsoKept.fpSchedSetVmPrio em pool _, by rw [fpSchedSetVmPrio_domains, same]⟩

theorem ParamsSynced.fpAdjust (sync : ParamsSynced s) {e : Domain} (em : e ∈ s.domains)
    (pool : Nat) (cmd : DomctlCmd) : ParamsSynced (s.fpAdjust pool e cmd).1 := by
  cases cmd with
  | getinfo => exact sync
  | putinfo op =>
      rw [fpAdjust_putinfo_eq]
      have stored := sync.putDomainParams em pool op
      have storedEm : e ∈ (s.putDomainParams pool e op).domains := by
        obtain ⟨_, _, written, -, -⟩ := retimed_putDomainParams s pool e op
        rw [written]
        exact em
      dsimp only
      refine ParamsSynced.setVmPrioAll ?_ pool _
      split
      · exact stored.fpSchedSetVmPrio storedEm pool _
      · exact stored

theorem ParamsSynced.fpAdjustGlobal (sync : ParamsSynced s) (pool : Nat) (cmd : SysctlCmd) :
    ParamsSynced (s.fpAdjustGlobal pool cmd).1 := by
  unfold State.fpAdjustGlobal
  cases cmd with
  | getinfo =>
      dsimp only
      exact sync.setVmPrioAll pool _
  | putinfo strategy =>
      dsimp only
      unfold fpSchedSet
      split
      · exact sync.setVmPrioAll pool _
      · refine ParamsSynced.setVmPrioAll ?_ pool _
        exact sync.of_records rfl rfl rfl

theorem ParamsSynced.fpInsertVcpu (sync : ParamsSynced s) (pool : Nat) (v : VcpuId) :
    ParamsSynced (s.fpInsertVcpu pool v) := by
  unfold State.fpInsertVcpu
  split
  · have inserted := sync.of_kept (paramsKept_runqInsert s (s.processor v) v
      (s.strategy pool).compare)
    dsimp only
    split
    · rename_i notFp
      split
      · rename_i d found
        refine inserted.prioHandler ?_ _ 1 fun _ fp => absurd fp notFp
        rw [runqInsert_domains]
        exact (domainOf_some found).1
      · exact inserted
    · exact inserted
  · exact sync

theorem ParamsSynced.fpVcpuWake (sync : ParamsSynced s) (pool : Nat) (v : VcpuId) :
    ParamsSynced (s.fpVcpuWake pool v) := by
  unfold State.fpVcpuWake
  split
  · exact sync
  split
  · exact sync
  split
  · exact sync
  have inserted := sync.of_kept (paramsKept_runqInsert s (s.processor v) v
    (s.strategy pool).compare)
  dsimp only
  split
  · rename_i d found
    obtain ⟨dm, same⟩ := domainOf_some found
    refine inserted.prioHandler (by rw [runqInsert_domains]; exact dm) _ _ fun zero _ => ?_
    exact inserted.dom0Vcpus v (same.symm.trans zero)
  · exact inserted

theorem ParamsSynced.vcpuSleepNosync (sync : ParamsSynced s) (v : VcpuId) :
    ParamsSynced (s.vcpuSleepNosync v) := by
  unfold State.vcpuSleepNosync State.fpSleep State.runqRemove
  repeat' split
  all_goals first
    | exact sync
    | exact sync.of_records (by simp) (by simp) (by simp)

theorem ParamsSynced.vcpuWake (sync : ParamsSynced s) (v : VcpuId) :
    ParamsSynced (s.vcpuWake v) := by
  unfold State.vcpuWake
  split
  · exact sync.fpVcpuWake _ v
  · exact sync

theorem ParamsSynced.vcpuMigrate (sync : ParamsSynced s) (v : VcpuId) :
    ParamsSynced (s.vcpuMigrate v) := by
  unfold State.vcpuMigrate
  dsimp only
  split
  · exact sync
  · refine ParamsSynced.vcpuWake ?_ v
    exact sync.of_records rfl rfl rfl

theorem ParamsSynced.vcpuSetHardAffinity (sync : ParamsSynced s) (v : VcpuId)
    (affinity : List Nat) : ParamsSynced (s.vcpuSetHardAffinity v affinity).1 := by
  unfold State.vcpuSetHardAffinity
  split
  · exact sync
  · refine ParamsSynced.vcpuMigrate (ParamsSynced.vcpuSleepNosync ?_ v) v
    exact sync.of_records rfl rfl rfl

theorem ParamsSynced.contextSaved (sync : ParamsSynced s) (prev : VcpuId) :
    ParamsSynced (s.contextSaved prev) := by
  unfold State.contextSaved
  dsimp only
  split
  · refine ParamsSynced.vcpuMigrate ?_ prev
    exact sync.of_records rfl rfl rfl
  · exact sync.of_records rfl rfl rfl

theorem ParamsSynced.schedule (sync : ParamsSynced s) (cpu : Nat) (now : Int)
    (taskletWorkScheduled : Bool) : ParamsSynced (s.schedule cpu now taskletWorkScheduled) := by
  have picked := sync.of_kept (.of_recharged (recharged_fpDoSchedule s cpu now taskletWorkScheduled))
  unfold State.schedule
  generalize s.fpDoSchedule cpu now taskletWorkScheduled = out at picked ⊢
  obtain ⟨t, slice⟩ := out
  dsimp only at picked ⊢
  split
  · exact picked.of_records rfl rfl rfl
  · refine ParamsSynced.contextSaved ?_ _
    exact picked.of_records rfl rfl rfl

theorem ParamsSynced.vcpuPauseNosync (sync : ParamsSynced s) (v : VcpuId) :
    ParamsSynced (s.vcpuPauseNosync v) := by
  refine ParamsSynced.vcpuSleepNosync ?_ v
  exact sync.of_records rfl rfl rfl

theorem ParamsSynced.vcpuUnpause (sync : ParamsSynced s) (v : VcpuId) :
    ParamsSynced (s.vcpuUnpause v) := by
  unfold State.vcpuUnpause
  dsimp only
  split
  · refine ParamsSynced.vcpuWake ?_ v
    exact sync.of_records rfl rfl rfl
  · exact sync.of_records rfl rfl rfl

theorem ParamsSynced.vcpuBlock (sync : ParamsSynced s) (v : VcpuId) :
    ParamsSynced (s.vcpuBlock v) :=
  sync.of_records rfl rfl rfl

theorem ParamsSynced.vcpuUnblock (sync : ParamsSynced s) (v : VcpuId) :
    ParamsSynced (s.vcpuUnblock v) := by
  unfold State.vcpuUnblock
  split
  · refine ParamsSynced.vcpuWake ?_ v
    exact sync.of_records rfl rfl rfl
  · exact sync

theorem ParamsSynced.vcpuUp (sync : ParamsSynced s) (v : VcpuId) : ParamsSynced (s.vcpuUp v) := by
  unfold State.vcpuUp
  split
  · refine ParamsSynced.vcpuWake ?_ v
    exact sync.of_records rfl rfl rfl
  · exact sync

theorem ParamsSynced.vcpuDown (sync : ParamsSynced s) (v : VcpuId) :
    ParamsSynced (s.vcpuDown v) := by
  unfold State.vcpuDown
  split
  · exact sync
  · refine ParamsSynced.vcpuSleepNosync ?_ v
    exact sync.of_records rfl rfl rfl

theorem ParamsSynced.domainPause (sync : ParamsSynced s) (d : Domain) :
    ParamsSynced (s.domainPause d) :=
  domainPause_rule ParamsSynced d (sync.of_records rfl rfl rfl)
    fun _ v asleep => asleep.vcpuSleepNosync v

theorem ParamsSynced.domainUnpause (sync : ParamsSynced s) {d : Domain} (dm : d ∈ s.domains) :
    ParamsSynced (s.domainUnpause d) :=
  domainUnpause_rule ParamsSynced dm (sync.of_records rfl rfl rfl)
    fun _ v awake _ => awake.vcpuWake v

theorem ParamsSynced.allocVcpu (sync : ParamsSynced s) {domainId vcpuId processor : Nat}
    {now : Int} {d : Domain} (found : s.domainOf domainId = some d)
    (fresh : s.vcpuExists ⟨domainId, vcpuId⟩ = false) :
    ParamsSynced (s.allocVcpu domainId vcpuId processor now) := by
  obtain ⟨dm, rfl⟩ := domainOf_some found
  have absent : ¬s.HasVcpu ⟨d.domainId, vcpuId⟩ := not_hasVcpu_of_fresh sync.ids fresh
  have copied : (fpAllocVdata (s.schedPriv d.domainId) ⟨d.domainId, vcpuId⟩ now).params =
      (s.fpDom d.domainId).params := by
    have notIdle : d.domainId ≠ domidIdle := by simpa [Domain.isIdle] using sync.busy d dm
    rw [schedPriv, if_neg notIdle]
    rfl
  have older : ∀ e ∈ s.domains, ∀ w ∈ e.vcpuIds, w ≠ ⟨d.domainId, vcpuId⟩ := by
    rintro e em w listed rfl
    exact absent ⟨e, em, listed⟩
  have sameId : ∀ e : Domain, (if e.domainId = d.domainId then
      { e with vcpus := e.vcpus.insertBefore (fun x => decide (vcpuId < x)) vcpuId }
      else e).domainId = e.domainId := by
    intro e
    split <;> rfl
  refine ⟨?_, ?_, ?_, ?_, ?_⟩
  · rw [allocVcpu_domains, map_domainId_listVcpu]
    exact sync.ids
  · rw [allocVcpu_domains, List.forall_mem_map]
    intro e em
    simpa only [Domain.isIdle, sameId] using sync.busy e em
  · rw [allocVcpu_domains, List.forall_mem_map]
    intro e em w listed
    rw [allocVcpu_fpVcpu, allocVcpu_fpDom, sameId]
    split at listed
    · rename_i same
      rw [List.inj_on_of_nodup_map sync.ids em dm same] at listed ⊢
      obtain ⟨domain, member⟩ := Domain.mem_vcpuIds.mp listed
      rcases List.mem_insertBefore.mp member with new | old
      · have self : w = ⟨d.domainId, vcpuId⟩ := by
          obtain ⟨wd, wv⟩ := w
          simp only [VcpuId.mk.injEq]
          exact ⟨domain, new⟩
        rw [self, Function.update_self]
        exact copied
      · have listedOld : w ∈ d.vcpuIds := Domain.mem_vcpuIds.mpr ⟨domain, old⟩
        rw [Function.update_of_ne (older d dm w listedOld)]
        exact sync.agree d dm w listedOld
    · rw [Function.update_of_ne (older e em w listed)]
      exact sync.agree e em w listed
  · rw [allocVcpu_domains, allocVcpu_fpDom, List.forall_mem_map]
    intro e em zero
    exact sync.dom0Record e em (by rwa [sameId] at zero)
  · rw [allocVcpu_fpVcpu]
    intro w zero
    by_cases self : w = ⟨d.domainId, vcpuId⟩
    · -- a vcpu of dom0 copies dom0's record
      rw [self, Function.update_self]
      have dom0 : d.domainId = 0 := by rw [← zero, self]
      rw [← sync.dom0Record d dm dom0, ← dom0]
      exact congrArg Prod.fst copied
    · rw [Function.update_of_ne self]
      exact sync.dom0Vcpus w zero

theorem fpInitDomain_of_busy {d : Domain} (busy : d.isIdle = false) :
    ∃ record, fpInitDomain d = some record ∧ (d.domainId = 0 → record.priority = vmDom0Prio) := by
  unfold fpInitDomain
  rw [if_neg (by simp [busy])]
  split
  · exact ⟨_, rfl, fun _ => rfl⟩
  · rename_i nonzero
    exact ⟨_, rfl, fun zero => absurd zero nonzero⟩

theorem ParamsSynced.domainCreate (sync : ParamsSynced s) {domainId : Nat}
    (fresh : s.domainOf domainId = none) (unreserved : domainId < domidFirstReserved)
    (pool : Nat) : ParamsSynced (s.domainCreate domainId pool) := by
  have notIdle : (⟨domainId, [], pool⟩ : Domain).isIdle = false := by
    unfold domidFirstReserved at unreserved
    simp only [Domain.isIdle, domidIdle, beq_eq_false_iff_ne]
    omega
  obtain ⟨record, initial, pinned⟩ := fpInitDomain_of_busy notIdle
  have other : ∀ e ∈ s.domains, e.domainId ≠ domainId := domainOf_none fresh
  unfold State.domainCreate
  dsimp only
  rw [initial]
  refine ⟨nodup_ids_insertBefore sync.ids fresh _, fun e em => ?_, fun e em => ?_,
    fun e em zero => ?_, sync.dom0Vcpus⟩
  · rcases List.mem_insertBefore.mp em with rfl | old
    · exact notIdle
    · exact sync.busy e old
  · rcases List.mem_insertBefore.mp em with rfl | old
    · -- the new domain has no vcpu yet
      intro v listed
      simp [Domain.vcpuIds] at listed
    · intro v listed
      show (s.fpVcpu v).params = (Function.update s.fpDom domainId record e.domainId).params
      rw [Function.update_of_ne (other e old)]
      exact sync.agree e old v listed
  · show (Function.update s.fpDom domainId record 0).priority = vmDom0Prio
    rcases List.mem_insertBefore.mp em with rfl | old
    · have created : domainId = 0 := zero
      rw [created, Function.update_self]
      exact pinned zero
    · rw [Function.update_of_ne (zero ▸ other e old)]
      exact sync.dom0Record e old zero

end Operations

section Step

variable {s : State}

theorem ParamsSynced.step (sync : ParamsSynced s) (event : Event)
    (stays : ∀ id pool now, event ≠ .moveDomain id pool now) : ParamsSynced (s.step event) := by
  cases event with
  | domainCreate domainId pool =>
      simp only [State.step]
      split
      · rename_i guard
        simp only [Bool.and_eq_true, Option.isNone_iff_eq_none, decide_eq_true_eq] at guard
        obtain ⟨⟨fresh, unreserved⟩, -⟩ := guard
        exact sync.domainCreate fresh unreserved pool
      · exact sync
  | allocVcpu domainId vcpuId processor now =>
      simp only [State.step]
      split
      · rename_i guard
        simp only [Bool.and_eq_true, Bool.not_eq_true'] at guard
        obtain ⟨d, found⟩ := Option.isSome_iff_exists.mp guard.1
        exact sync.allocVcpu found guard.2
      · exact sync
  | vcpuUp v =>
      apply withVcpu_rule ParamsSynced sync
      exact fun _ => sync.vcpuUp v
  | vcpuDown v =>
      apply withVcpu_rule ParamsSynced sync
      exact fun _ => sync.vcpuDown v
  | vcpuPauseNosync v =>
      apply withVcpu_rule ParamsSynced sync
      exact fun _ => sync.vcpuPauseNosync v
  | vcpuUnpause v =>
      apply withVcpu_rule ParamsSynced sync
      exact fun _ => sync.vcpuUnpause v
  | vcpuBlock v =>
      apply withVcpu_rule ParamsSynced sync
      exact fun _ => sync.vcpuBlock v
  | vcpuUnblock v =>
      apply withVcpu_rule ParamsSynced sync
      exact fun _ => sync.vcpuUnblock v
  | domainPause id =>
      apply withDomain_rule ParamsSynced sync
      exact fun d _ => sync.domainPause d
  | domainUnpause id =>
      apply withDomain_rule ParamsSynced sync
      exact fun _ dm => sync.domainUnpause dm
  | setHardAffinity v affinity =>
      apply withVcpu_rule ParamsSynced sync
      exact fun _ => sync.vcpuSetHardAffinity v affinity
  | schedule cpu now tasklet => exact sync.schedule cpu now tasklet
  | adjust id cmd =>
      apply withDomain_rule ParamsSynced sync
      exact fun d dm => sync.fpAdjust dm d.cpupool cmd
  | adjustGlobal pool cmd =>
      simp only [State.step]
      split
      · exact sync.fpAdjustGlobal pool cmd
      · exact sync
  | moveDomain id pool now => exact absurd rfl (stays id pool now)
  | destroyVcpu v =>
      apply withVcpu_rule ParamsSynced sync
      exact fun _ => sync.of_records (by simp [schedDestroyVcpu, fpVcpuRemove])
        (by simp [schedDestroyVcpu, fpVcpuRemove]) (by simp [schedDestroyVcpu, fpVcpuRemove])

theorem paramsSynced_boot (nrCpuIds : Nat) (pools : List Nat) (poolCpus : Nat → List Nat)
    (cpuPool : Nat → Nat) : ParamsSynced (State.boot nrCpuIds pools poolCpus cpuPool) := by
  refine ⟨by simp [boot], by simp [boot], by simp [boot], by simp [boot], fun v zero => ?_⟩
  simp [boot, fpAllocVdata, zero]

end Step

end State

/-- On any host, as long as no domain moves between cpupools, every vcpu of every
domain carries the priority, period, slice and deadline of its domain's record:
what `XEN_DOMCTL_SCHEDOP_getinfo` reports for a domain is what `fp_do_schedule`
uses for each of its vcpus, through creations, vcpu allocations, wakes and every
adjustment. -/
theorem vcpus_carry_domain_params (nrCpuIds : Nat) (pools : List Nat) (poolCpus : Nat → List Nat)
    (cpuPool : Nat → Nat) (events : List Event)
    (stays : ∀ id pool now, Event.moveDomain id pool now ∉ events) :
    let s : State := (State.boot nrCpuIds pools poolCpus cpuPool).run events
    ∀ d ∈ s.domains, s.ParamsAgree d := by
  intro s
  have sync : s.ParamsSynced :=
    State.run_rule State.ParamsSynced (fun event => ∀ id pool now, event ≠ .moveDomain id pool now)
      (fun _ event allowed sync => sync.step event allowed)
      (State.paramsSynced_boot nrCpuIds pools poolCpus cpuPool)
      fun event member id pool now same => stays id pool now (same ▸ member)
  exact sync.agree

theorem params_in_step_after_adjust :
    let events : List Event := [.domainCreate 0 0, .allocVcpu 0 0 0 0, .vcpuUp ⟨0, 0⟩,
      .domainCreate 1 0, .allocVcpu 1 0 0 0, .allocVcpu 1 1 0 0, .vcpuUp ⟨1, 1⟩,
      .adjust 1 (.putinfo ⟨7, 2000, 300, 0⟩), .schedule 0 5000 false]
    (∀ id pool now, Event.moveDomain id pool now ∉ events) ∧
      let s : State := (State.boot 1 [0] (fun _ => [0]) (fun _ => 0)).run events
      ∀ d ∈ s.domains, s.ParamsAgree d :=
  ⟨by simp, vcpus_carry_domain_params 1 [0] (fun _ => [0]) (fun _ => 0) _ (by simp)⟩

end CpsXen

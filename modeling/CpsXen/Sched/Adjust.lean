import CpsXen.Sched.Frames
import CpsXen.Sched.System

/-! The two adjust entry points.  `fp_adjust` putinfo writes the parameters of its
target domain into the domain record and into each of its vcpus, so the two stay
in step; `sched_move_domain` instead hands the moved domain a zeroed record and
vcpu records copied from the old one.  Both entry points end in a re-sorting
pass over every FP cpupool, which may change priorities, positions and queues
everywhere but no parameter, budget or strategy. -/

namespace CpsXen

def FpVcpu.params (r : FpVcpu) : Int × Int × Int × Int := (r.priority, r.period, r.slice, r.deadline)

def FpDom.params (r : FpDom) : Int × Int × Int × Int := (r.priority, r.period, r.slice, r.deadline)

namespace State

section UpdateDomainTimes

variable (s : State) (d : Domain) (onDomain : FpDom → FpDom) (onVcpu : FpVcpu → FpVcpu)

theorem updateDomainTimes_fpVcpu_of_not_mem {v : VcpuId} (outside : v ∉ d.vcpuIds) :
    (s.updateDomainTimes d onDomain onVcpu).fpVcpu v = s.fpVcpu v := by
  unfold updateDomainTimes
  refine List.foldlRecOn (motive := fun t : State => t.fpVcpu v = s.fpVcpu v) _ _ rfl ?_
  intro t same w member
  have other : v ≠ w := fun h => outside (h ▸ member)
  simp [Function.update_of_ne other, same]

theorem updateDomainTimes_fpDom :
    (s.updateDomainTimes d onDomain onVcpu).fpDom =
      Function.update s.fpDom d.domainId (onDomain (s.fpDom d.domainId)) := by
  unfold updateDomainTimes
  exact List.foldlRecOn (motive := fun t : State => t.fpDom = _) _ _ rfl
    fun t same _ _ => by simp [same]

end UpdateDomainTimes

theorem putDomainParams_fpVcpu_of_not_mem {v : VcpuId} (outside : v ∉ d.vcpuIds) (s : State)
    (pool : Nat) (op : DomctlFp) : (s.putDomainParams pool d op).fpVcpu v = s.fpVcpu v := by
  unfold putDomainParams
  dsimp only
  split_ifs <;> simp only [updateDomainTimes_fpVcpu_of_not_mem _ _ _ _ outside]

theorem putDomainParams_fpDom_of_ne {id : Nat} (other : id ≠ d.domainId) (s : State)
    (pool : Nat) (op : DomctlFp) : (s.putDomainParams pool d op).fpDom id = s.fpDom id := by
  unfold putDomainParams
  dsimp only
  split_ifs <;> simp only [updateDomainTimes_fpDom, Function.update_of_ne other]

theorem fpAdjust_putinfo_eq (s : State) (pool : Nat) (d : Domain) (op : DomctlFp) :
    (s.fpAdjust pool d (.putinfo op)).1 =
      let u := s.putDomainParams pool d op
      let prio := if op.priority > 0 then op.priority else (u.fpDom d.domainId).priority
      (if u.pools.contains d.cpupool then u.fpSchedSetVmPrio pool d prio else u).setVmPrioAll
        pool fun id => id == d.domainId :=
  rfl

theorem putDomainParams_fpDom_self (s : State) (pool : Nat) (d : Domain) (op : DomctlFp)
    (given : 0 < op.period ∧ 0 < op.slice ∧ 0 < op.deadline) :
    let r := (s.putDomainParams pool d op).fpDom d.domainId
    r.priority = (s.fpDom d.domainId).priority ∧ r.period = toSTime (op.period * 1000) ∧
      r.slice = toSTime (op.slice * 1000) ∧ r.deadline = toSTime (op.deadline * 1000) := by
  obtain ⟨period, slice, deadline⟩ := given
  simp only [putDomainParams, if_pos period, if_pos slice, if_pos deadline,
    updateDomainTimes_fpDom, Function.update_self]
  simp

/-! ### The vcpus of a domain agree with its record -/

/-- Every vcpu of `d` carries the priority, period, slice and deadline of `d`'s
record: what getinfo reports is what `fp_do_schedule` uses. -/
def ParamsAgree (s : State) (d : Domain) : Prop :=
  ∀ v ∈ d.vcpuIds, (s.fpVcpu v).params = (s.fpDom d.domainId).params

instance (s : State) (d : Domain) : Decidable (s.ParamsAgree d) :=
  inferInstanceAs (Decidable (∀ v ∈ d.vcpuIds, _))

theorem ParamsAgree.updateDomainTimes {s : State} {d : Domain} (agree : s.ParamsAgree d)
    (onDomain : FpDom → FpDom) (onVcpu : FpVcpu → FpVcpu)
    (idempotent : ∀ r, onVcpu (onVcpu r) = onVcpu r)
    (alike : ∀ r w, w.params = r.params → (onVcpu w).params = (onDomain r).params) :
    (s.updateDomainTimes d onDomain onVcpu).ParamsAgree d := by
  intro v member
  rw [updateDomainTimes_eq s d onDomain onVcpu idempotent]
  simp only [member, if_true, Function.update_self]
  exact alike _ _ (agree v member)

theorem ParamsAgree.putDomainParams {s : State} {d : Domain} (agree : s.ParamsAgree d)
    (pool : Nat) (op : DomctlFp) : (s.putDomainParams pool d op).ParamsAgree d := by
  unfold State.putDomainParams
  dsimp only
  have stage : ∀ {t : State} (c : Prop) [Decidable c] (onDomain : FpDom → FpDom)
      (onVcpu : FpVcpu → FpVcpu), t.ParamsAgree d → (∀ r, onVcpu (onVcpu r) = onVcpu r) →
      (∀ r w, w.params = r.params → (onVcpu w).params = (onDomain r).params) →
      (if c then t.updateDomainTimes d onDomain onVcpu else t).ParamsAgree d := by
    intro t c _ onDomain onVcpu agreeing idempotent alike
    split
    · exact agreeing.updateDomainTimes onDomain onVcpu idempotent alike
    · exact agreeing
  refine stage _ _ _ (stage _ _ _ (stage _ _ _ agree ?periodTwice ?periodAlike)
    ?sliceTwice ?sliceAlike) ?deadlineTwice ?deadlineAlike
  case periodTwice =>
    -- under RM the period stage also writes the deadline
    intro r
    split <;> rfl
  case sliceTwice | deadlineTwice =>
    intro r
    rfl
  case periodAlike | sliceAlike | deadlineAlike =>
    intro r w same
    simp only [FpVcpu.params, FpDom.params, Prod.mk.injEq] at same ⊢
    simp [same]

theorem ParamsAgree.setDomainPriority {s : State} {d : Domain} (agree : s.ParamsAgree d)
    (priority : Int) : (s.setDomainPriority d priority).ParamsAgree d := by
  intro v member
  have same := agree v member
  simp only [FpVcpu.params, FpDom.params, Prod.mk.injEq] at same
  simp only [setDomainPriority_eq, if_pos member, Function.update_self]
  simp [FpVcpu.params, FpDom.params, same]

theorem ParamsAgree.prioHandler {s : State} {d : Domain} (agree : s.ParamsAgree d)
    (strategy : Strategy) (priority : Int) : (prioHandler strategy s d priority).ParamsAgree d := by
  rcases prioHandler_cases strategy s d priority with ⟨q, -, handled⟩ | trapped
  · rw [handled]
    exact agree.setDomainPriority q
  · rw [trapped]
    exact agree

/-! ### The adjust path keeps them in step -/

/-- `t` has the parameters of `s` in `d`'s record and in each of `d`'s vcpus. -/
def KeepsParams (d : Domain) (s t : State) : Prop :=
  (∀ v ∈ d.vcpuIds, (t.fpVcpu v).params = (s.fpVcpu v).params) ∧
    (t.fpDom d.domainId).params = (s.fpDom d.domainId).params

theorem KeepsParams.refl (d : Domain) (s : State) : KeepsParams d s s :=
  ⟨fun _ _ => rfl, rfl⟩

theorem KeepsParams.trans {d : Domain} {s t u : State} (first : KeepsParams d s t)
    (second : KeepsParams d t u) : KeepsParams d s u :=
  ⟨fun v member => (second.1 v member).trans (first.1 v member), second.2.trans first.2⟩

theorem ParamsAgree.of_keepsParams {s t : State} {d : Domain} (agree : s.ParamsAgree d)
    (kept : KeepsParams d s t) : t.ParamsAgree d := by
  intro v member
  rw [kept.1 v member, kept.2, agree v member]

theorem keepsParams_fpReinsertsortVcpu (d : Domain) (s : State) (v : VcpuId)
    (compare : FpVcpu → FpVcpu → Bool) : KeepsParams d s (s.fpReinsertsortVcpu v compare) := by
  refine ⟨fun w _ => ?_, by simp [fpReinsertsortVcpu]⟩
  obtain ⟨position, inserted⟩ := runqInsert_fpVcpu_eq (s.removeFromQueue v) (s.processor v) v
    compare w
  simp [fpReinsertsortVcpu, inserted, FpVcpu.params]

theorem keepsParams_setFpDom_of_ne {d : Domain} {id : Nat} (other : id ≠ d.domainId) (s : State)
    (r : FpDom) : KeepsParams d s (s.setFpDom id r) :=
  ⟨fun _ _ => rfl, by simp [Function.update_of_ne other.symm]⟩

theorem keepsParams_prioHandler_of_ne {d e : Domain} (other : e.domainId ≠ d.domainId)
    (strategy : Strategy) (s : State) (priority : Int) :
    KeepsParams d s (prioHandler strategy s e priority) := by
  rcases prioHandler_cases strategy s e priority with ⟨q, -, handled⟩ | trapped
  · rw [handled, setDomainPriority_eq]
    refine ⟨fun v member => ?_, by simp [Function.update_of_ne other.symm]⟩
    have outside : v ∉ e.vcpuIds := by
      simp only [Domain.mem_vcpuIds] at member ⊢
      rw [member.1]
      exact fun inside => other inside.1.symm
    simp [outside]
  · rw [trapped]
    exact KeepsParams.refl d s

theorem keepsParams_fpSchedSetVmPrio_of_ne {d e : Domain} (other : e.domainId ≠ d.domainId)
    (s : State) (pool : Nat) (prio : Int) : KeepsParams d s (s.fpSchedSetVmPrio pool e prio) := by
  unfold fpSchedSetVmPrio
  split
  · exact keepsParams_setFpDom_of_ne other s _
  split
  · exact keepsParams_setFpDom_of_ne other s _
  refine List.foldlRecOn (motive := KeepsParams d s) _ _ (KeepsParams.refl d s) ?_
  intro t kept v _
  exact kept.trans ((keepsParams_prioHandler_of_ne other _ t prio).trans
    (keepsParams_fpReinsertsortVcpu d _ v _))

theorem keepsParams_setVmPrioAll (d : Domain) (s : State) (pool : Nat) :
    KeepsParams d s (s.setVmPrioAll pool fun id => id == d.domainId) := by
  unfold setVmPrioAll
  refine List.foldlRecOn (motive := KeepsParams d s) _ _ (KeepsParams.refl d s) ?_
  intro t kept p _
  refine List.foldlRecOn (motive := KeepsParams d s) _ _ kept ?_
  intro u alsoKept e _
  split
  · exact alsoKept
  · rename_i visited
    have other : e.domainId ≠ d.domainId := by simpa using visited
    exact alsoKept.trans (keepsParams_fpSchedSetVmPrio_of_ne other u pool _)

theorem ParamsAgree.fpSchedSetVmPrio {s : State} {d : Domain} (agree : s.ParamsAgree d)
    (notDom0 : d.domainId ≠ 0) (busy : d.isIdle = false) (pool : Nat) (prio : Int) :
    (s.fpSchedSetVmPrio pool d prio).ParamsAgree d := by
  unfold State.fpSchedSetVmPrio
  rw [if_neg notDom0, if_neg (by simp [busy])]
  refine List.foldlRecOn (motive := (ParamsAgree · d)) _ _ agree ?_
  intro t agreeing v _
  exact (agreeing.prioHandler _ prio).of_keepsParams (keepsParams_fpReinsertsortVcpu d _ v _)

theorem ParamsAgree.fpAdjust {s : State} {d : Domain} (agree : s.ParamsAgree d)
    (notDom0 : d.domainId ≠ 0) (busy : d.isIdle = false) (pool : Nat) (op : DomctlFp) :
    (s.fpAdjust pool d (.putinfo op)).1.ParamsAgree d := by
  rw [fpAdjust_putinfo_eq]
  dsimp only
  refine ParamsAgree.of_keepsParams ?_ (keepsParams_setVmPrioAll d _ pool)
  have stored := agree.putDomainParams pool op
  split
  · exact stored.fpSchedSetVmPrio notDom0 busy pool _
  · exact stored

theorem fpSchedSetVmPrio_fp_priority {s : State} {pool : Nat} {d : Domain}
    (fp : s.strategy pool = .fp) (notDom0 : d.domainId ≠ 0) (busy : d.isIdle = false)
    (hasVcpu : d.vcpus ≠ []) (prio : Int) :
    ((s.fpSchedSetVmPrio pool d prio).fpDom d.domainId).priority = prio := by
  unfold State.fpSchedSetVmPrio
  rw [if_neg notDom0, if_neg (by simp [busy])]
  obtain ⟨first, last, split⟩ : ∃ first last, d.vcpuIds = first ++ [last] := by
    rcases List.eq_nil_or_concat d.vcpuIds with empty | found
    · simp [Domain.vcpuIds, hasVcpu] at empty
    · simpa using found
  rw [split, List.foldl_append, List.foldl_cons, List.foldl_nil]
  have kept : (first.foldl (fun t v => (prioHandler (t.strategy pool) t d prio).fpReinsertsortVcpu
      v (t.strategy pool).compare) s).strategy = s.strategy :=
    List.foldlRecOn (motive := fun t : State => t.strategy = s.strategy) _ _ rfl
      fun t same _ _ => by simp [fpReinsertsortVcpu, same]
  have written : ∀ t : State, t.strategy pool = .fp → ∀ v, (((prioHandler (t.strategy pool) t d
      prio).fpReinsertsortVcpu v (t.strategy pool).compare).fpDom d.domainId).priority = prio := by
    intro t fpNow v
    rw [fpNow]
    simp [fpReinsertsortVcpu, prioHandler, fpPrioHandler, setDomainPriority_fpDom_self]
  exact written _ (by rw [kept]; exact fp) last

theorem reordered_fpAdjust_putinfo (s : State) (pool : Nat) (d : Domain) (op : DomctlFp) :
    Reordered (s.putDomainParams pool d op) (s.fpAdjust pool d (.putinfo op)).1 := by
  rw [fpAdjust_putinfo_eq]
  dsimp only
  refine Reordered.trans ?_ (reordered_setVmPrioAll _ pool _)
  split
  · exact reordered_fpSchedSetVmPrio _ pool d _
  · exact Reordered.refl _

@[simp] theorem fpAdjust_putinfo_strategy (s : State) (pool : Nat) (d : Domain) (op : DomctlFp) :
    (s.fpAdjust pool d (.putinfo op)).1.strategy = s.strategy := by
  obtain ⟨_, _, stored, -, -⟩ := retimed_putDomainParams s pool d op
  rw [fpAdjust_putinfo_eq]
  dsimp only
  split <;> simp [stored]

@[simp] theorem fpAdjust_putinfo_domains (s : State) (pool : Nat) (d : Domain) (op : DomctlFp) :
    (s.fpAdjust pool d (.putinfo op)).1.domains = s.domains := by
  obtain ⟨_, _, stored, -, -⟩ := retimed_putDomainParams s pool d op
  rw [fpAdjust_putinfo_eq]
  dsimp only
  split <;> simp [stored]

theorem fpAdjust_putinfo_fpDom_self (s : State) (pool : Nat) (d : Domain) (op : DomctlFp)
    (given : 0 < op.period ∧ 0 < op.slice ∧ 0 < op.deadline) :
    let r := (s.fpAdjust pool d (.putinfo op)).1.fpDom d.domainId
    r.period = toSTime (op.period * 1000) ∧ r.slice = toSTime (op.slice * 1000) ∧
      r.deadline = toSTime (op.deadline * 1000) := by
  obtain ⟨_, period, slice, deadline⟩ := putDomainParams_fpDom_self s pool d op given
  have kept := (reordered_fpAdjust_putinfo s pool d op).dom d.domainId
  exact ⟨kept.1.trans period, kept.2.1.trans slice, kept.2.2.trans deadline⟩

theorem KeepsParams.priority {d : Domain} {s t : State} (kept : KeepsParams d s t) :
    (t.fpDom d.domainId).priority = (s.fpDom d.domainId).priority :=
  congrArg Prod.fst kept.2

theorem fpSchedSetVmPrio_of_no_vcpus {d : Domain} (vcpuless : d.vcpus = [])
    (notDom0 : d.domainId ≠ 0) (busy : d.isIdle = false) (s : State) (pool : Nat) (prio : Int) :
    s.fpSchedSetVmPrio pool d prio = s := by
  unfold fpSchedSetVmPrio
  rw [if_neg notDom0, if_neg (by simp [busy])]
  simp [Domain.vcpuIds, vcpuless]

theorem fpAdjust_putinfo_priority_fp (s : State) (pool : Nat) (d : Domain) (op : DomctlFp)
    (inPool : s.pools.contains d.cpupool = true) (fp : s.strategy pool = .fp)
    (notDom0 : d.domainId ≠ 0) (busy : d.isIdle = false) :
    ((s.fpAdjust pool d (.putinfo op)).1.fpDom d.domainId).priority =
      if d.vcpus ≠ [] ∧ 0 < op.priority then op.priority else (s.fpDom d.domainId).priority := by
  obtain ⟨_, _, stored, -, doms⟩ := retimed_putDomainParams s pool d op
  have old : ((s.putDomainParams pool d op).fpDom d.domainId).priority =
      (s.fpDom d.domainId).priority := by
    rw [stored]
    exact doms _
  have pooled : (s.putDomainParams pool d op).pools.contains d.cpupool = true := by
    rw [stored]
    exact inPool
  rw [fpAdjust_putinfo_eq]
  dsimp only
  rw [(keepsParams_setVmPrioAll d _ pool).priority, if_pos pooled]
  by_cases vcpuless : d.vcpus = []
  · rw [fpSchedSetVmPrio_of_no_vcpus vcpuless notDom0 busy, old]
    simp [vcpuless]
  · rw [fpSchedSetVmPrio_fp_priority (s := s.putDomainParams pool d op) (by rw [stored]; exact fp)
      notDom0 busy vcpuless, old]
    split_ifs <;> simp_all

end State

/-- Moving a created domain into a second FP cpupool leaves its vcpu with the
parameters of its old record and the domain with the zeroed record of
`fp_alloc_domdata`, which getinfo then reports. -/
theorem moved_domain_loses_parameters :
    let s : State := (State.boot 2 [0, 1] (fun p => [p]) (fun c => c)).run
      [.domainCreate 1 0, .allocVcpu 1 0 0 0, .vcpuUp ⟨1, 0⟩, .moveDomain 1 1 0]
    ¬s.ParamsAgree ⟨1, [0], 1⟩ ∧ (s.fpVcpu ⟨1, 0⟩).period = 1000000 ∧
      (s.fpVcpu ⟨1, 0⟩).slice = 500000 ∧ s.getDomainParams ⟨1, [0], 1⟩ = ⟨0, 0, 0, 999⟩ := by
  decide +kernel

/-! ### Priorities under RM and DM

Neither handler reads a period or a deadline: both turn the cached `position` of
a domain's vcpus into `VM_DOM0_PRIO - posacc / count - 1`, and
`fp_sched_set_vm_prio` runs the handler before it re-inserts the vcpu. -/

/-- Two single-vcpu domains on one queue of an RM pool: after the period of the
second is doubled, both report priority 999 although the first has the shorter
period. -/
theorem rm_priority_ignores_shorter_period :
    let s : State := (State.boot 2 [0] (fun _ => [0, 1]) (fun _ => 0)).run
      [.domainCreate 1 0, .allocVcpu 1 0 0 0, .vcpuUp ⟨1, 0⟩,
        .domainCreate 2 0, .allocVcpu 2 0 0 0, .vcpuUp ⟨2, 0⟩,
        .adjust 2 (.putinfo ⟨0, 2000, 0, 0⟩)]
    s.strategy 0 = .rm ∧ s.runq 0 = [⟨1, 0⟩, ⟨2, 0⟩] ∧
      (s.fpDom 1).period = 1000000 ∧ (s.fpDom 2).period = 2000000 ∧
      (s.getDomainParams ⟨1, [0], 0⟩).priority = 999 ∧
      (s.getDomainParams ⟨2, [0], 0⟩).priority = 999 := by
  decide +kernel

/-! ### What the adjust entry points may change -/

namespace State

theorem reordered_fpSchedSet (s : State) (pool strategy : Nat) :
    Reordered s (s.fpSchedSet pool strategy).1 := by
  unfold fpSchedSet
  split <;> exact Reordered.of_records rfl rfl

theorem fpAdjustGlobal_eq (s : State) (pool : Nat) (cmd : SysctlCmd) :
    s.fpAdjustGlobal pool cmd =
      match cmd with
      | .getinfo => (s.setVmPrioAll pool fun _ => false, 0)
      | .putinfo n => ((s.fpSchedSet pool n).1.setVmPrioAll pool (fun _ => false),
          (s.fpSchedSet pool n).2) := by
  cases cmd <;> rfl

end State

/-- What the adjust requests change.  `fp_adjust_global` answers `0` for getinfo
and for a strategy in `{0, 1, 2}`, which it adopts for the calling pool only, and
`-EINVAL` otherwise; `fp_adjust` getinfo changes nothing; and `fp_adjust` putinfo
on `d` changes no strategy and, outside `d`, no domain's or vcpu's record except
in its priority and position.  So outside the adjusted domain every period,
slice, deadline and budget survives: the reach of either request into other
domains and other cpupools is confined to priorities, positions and run queues. -/
theorem adjust_confined_to_priorities (s : State) (pool : Nat) (d : Domain) :
    (∀ cmd, let r := s.fpAdjustGlobal pool cmd
      s.Reordered r.1 ∧ r.1.domains = s.domains ∧
      (r.1.strategy, r.2) =
        match cmd with
        | .getinfo => (s.strategy, 0)
        | .putinfo n =>
            match Strategy.ofNat? n with
            | some chosen => (Function.update s.strategy pool chosen, 0)
            | none => (s.strategy, -einval)) ∧
    (s.fpAdjust pool d .getinfo).1 = s ∧
    ∀ op, let t := (s.fpAdjust pool d (.putinfo op)).1
      t.strategy = s.strategy ∧ t.domains = s.domains ∧
      (∀ v : VcpuId, v.domain ≠ d.domainId → ∃ priority position,
        t.fpVcpu v = { s.fpVcpu v with priority := priority, position := position }) ∧
      ∀ id, id ≠ d.domainId → ∃ priority, t.fpDom id = { s.fpDom id with priority := priority } := by
  refine ⟨fun cmd => ?_, rfl, fun op => ?_⟩
  · rw [State.fpAdjustGlobal_eq]
    cases cmd with
    | getinfo =>
        exact ⟨State.reordered_setVmPrioAll s pool _, by simp, by simp⟩
    | putinfo n =>
        dsimp only
        refine ⟨(State.reordered_fpSchedSet s pool n).trans (State.reordered_setVmPrioAll _ pool _),
          ?_, ?_⟩
        all_goals
          unfold State.fpSchedSet
          cases Strategy.ofNat? n <;> simp
  · -- the parameter stage touches `d` alone; what follows only reorders
    have resorted := State.reordered_fpAdjust_putinfo s pool d op
    refine ⟨by simp, by simp, fun v other => ?_, fun id other => ?_⟩
    · obtain ⟨priority, position, moved⟩ := resorted.1 v
      have outside : v ∉ d.vcpuIds := by simp [other]
      exact ⟨priority, position, by rw [moved, State.putDomainParams_fpVcpu_of_not_mem outside]⟩
    · obtain ⟨priority, moved⟩ := resorted.2 id
      exact ⟨priority, by rw [moved, State.putDomainParams_fpDom_of_ne other]⟩

/-- The re-sorting pass reaches beyond the request.  `fp_adjust_global` getinfo
queues a vcpu that was allocated but never brought up.  `fp_adjust` putinfo on
domain 4 reverses the queue order of three other domains of equal period, since
`__runq_insert` puts each re-inserted vcpu before its equals.  And getinfo on
cpupool 0, which runs RM, re-sorts the queue of cpupool 1, which runs DM, by
period. -/
theorem adjust_reaches_beyond_target :
    (¬∀ events : List Event,
      let s := (State.boot 1 [0] (fun _ => [0]) (fun _ => 0)).run events
      (s.fpAdjustGlobal 0 .getinfo).1.runq 0 = s.runq 0) ∧
    (let s : State := (State.boot 1 [0] (fun _ => [0]) (fun _ => 0)).run
      [.domainCreate 1 0, .domainCreate 2 0, .domainCreate 3 0, .domainCreate 4 0,
        .allocVcpu 1 0 0 0, .allocVcpu 2 0 0 0, .allocVcpu 3 0 0 0, .allocVcpu 4 0 0 0,
        .vcpuUp ⟨3, 0⟩, .vcpuUp ⟨2, 0⟩, .vcpuUp ⟨1, 0⟩]
    s.runq 0 = [⟨1, 0⟩, ⟨2, 0⟩, ⟨3, 0⟩] ∧ (s.fpVcpu ⟨1, 0⟩).period = 1000000 ∧
      (s.fpVcpu ⟨2, 0⟩).period = 1000000 ∧ (s.fpVcpu ⟨3, 0⟩).period = 1000000 ∧
      (s.fpAdjust 0 ⟨4, [0], 0⟩ (.putinfo ⟨0, 0, 0, 0⟩)).1.runq 0 =
        [⟨3, 0⟩, ⟨2, 0⟩, ⟨1, 0⟩, ⟨4, 0⟩]) ∧
    let s : State := (State.boot 2 [0, 1] (fun p => [p]) (fun c => c)).run
      [.adjustGlobal 1 (.putinfo 1), .domainCreate 1 1, .allocVcpu 1 0 1 0, .vcpuUp ⟨1, 0⟩,
        .domainCreate 2 1, .allocVcpu 2 0 1 0, .vcpuUp ⟨2, 0⟩,
        .adjust 1 (.putinfo ⟨300, 1000, 800, 0⟩), .adjust 2 (.putinfo ⟨300, 2000, 500, 0⟩)]
    s.strategy 0 = .rm ∧ s.strategy 1 = .dm ∧ s.runq 1 = [⟨2, 0⟩, ⟨1, 0⟩] ∧
      (s.fpVcpu ⟨1, 0⟩).deadline = 800000 ∧ (s.fpVcpu ⟨2, 0⟩).deadline = 500000 ∧
      (s.fpAdjustGlobal 0 .getinfo).1.runq 1 = [⟨1, 0⟩, ⟨2, 0⟩] := by
  refine ⟨fun unchanged => ?_, by decide +kernel, by decide +kernel⟩
  have queued := unchanged [.domainCreate 1 0, .allocVcpu 1 0 0 0]
  revert queued
  decide +kernel

end CpsXen

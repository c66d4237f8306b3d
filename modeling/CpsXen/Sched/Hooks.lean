import CpsXen.Sched.RunQueue

/-!
The hooks of `sched_fp_def` in `xen/common/sched_fp.c`: the three priority
handlers, strategy selection, the re-sorting pass `fp_sched_set_vm_prio` that
`fp_adjust` and `fp_adjust_global` run over every FP cpupool, the queue hooks
`insert_vcpu`, `sleep`, `wake` and `remove_vcpu`, the record allocators, and
`fp_do_schedule` with `update_queue`.  Each hook takes the cpupool whose
`ops` it is called through.
-/

namespace CpsXen

def einval : Int := 22

def toSTime (x : Nat) : Int := if x % 2 ^ 64 < 2 ^ 63 then (x % 2 ^ 64 : Nat) else (x % 2 ^ 64 : Nat) - 2 ^ 64

def toUint64 (x : Int) : Nat := (x % 2 ^ 64).toNat

theorem toSTime_of_lt {x : Nat} (small : x < 2 ^ 63) : toSTime x = x := by
  have kept : x % 2 ^ 64 = x := Nat.mod_eq_of_lt (by omega)
  rw [toSTime, kept, if_pos small]

def Strategy.ofNat? : Nat → Option Strategy
  | 0 => some .rm
  | 1 => some .dm
  | 2 => some .fp
  | _ => none

structure DomctlFp where
  slice : Nat
  period : Nat
  deadline : Nat
  priority : Int
deriving DecidableEq, Repr

inductive DomctlCmd where
  | getinfo
  | putinfo (op : DomctlFp)
deriving DecidableEq, Repr

inductive SysctlCmd where
  | getinfo
  | putinfo (strategy : Nat)
deriving DecidableEq, Repr

structure TaskSlice where
  task : VcpuId
  time : Int
  migrated : Bool
deriving DecidableEq, Repr

def fpAllocDomdata : FpDom := FpDom.zero

def fpInitDomain (d : Domain) : Option FpDom :=
  if d.isIdle then none
  else if d.domainId = 0 then
    some { priority := vmDom0Prio, slice := vmDom0Slice, period := vmDom0Period,
           deadline := vmDom0Period }
  else
    some { fpAllocDomdata with
      period := vmStandardPeriod, deadline := vmStandardPeriod, slice := vmStandardSlice }

def fpAllocVdata (domainRecord : Option FpDom) (v : VcpuId) (now : Int) : FpVcpu :=
  let filled : FpVcpu :=
    match domainRecord with
    | some fpDom =>
        { priority := fpDom.priority, period := fpDom.period, slice := fpDom.slice,
          deadline := fpDom.deadline, periodNext := 0, lastTimeScheduled := 0, cputime := 0,
          iterations := 0, position := 0 }
    | none =>
        if v.domain = 0 then
          { priority := vmDom0Prio, period := vmDom0Period, slice := vmDom0Slice,
            deadline := vmDom0Period, periodNext := 0, lastTimeScheduled := 0, cputime := 0,
            iterations := 0, position := 0 }
        else
          { priority := if v.isIdle then vmIdlePrio else 0, period := vmStandardPeriod,
            slice := if v.isIdle then 0 else vmStandardSlice, deadline := vmStandardPeriod,
            periodNext := 0, lastTimeScheduled := 0, cputime := 0, iterations := 0,
            position := 0 }
  { filled with
    cputime := 0, lastTimeScheduled := 0, periodNext := now + filled.period, iterations := 0 }

def cpumaskCycle (nrCpuIds n : Nat) (mask : List Nat) : Nat :=
  match (mask.filter fun c => n < c).min? with
  | some next => next
  | none => mask.min?.getD nrCpuIds

theorem getD_min?_mem {mask : List Nat} (populated : mask ≠ []) (fallback : Nat) :
    mask.min?.getD fallback ∈ mask := by
  cases first : mask.min? with
  | none => exact absurd (List.min?_eq_none_iff.mp first) populated
  | some cpu => exact List.min?_mem first

theorem cpumaskCycle_mem (nrCpuIds n : Nat) {mask : List Nat} (populated : mask ≠ []) :
    cpumaskCycle nrCpuIds n mask ∈ mask := by
  unfold cpumaskCycle
  split
  · rename_i next found
    exact (List.mem_filter.mp (List.min?_mem found)).1
  · exact getD_min?_mem populated nrCpuIds

namespace State

def schedPriv (s : State) (domainId : Nat) : Option FpDom :=
  if domainId = domidIdle then none else some (s.fpDom domainId)

def setDomainPriority (s : State) (d : Domain) (priority : Int) : State :=
  d.vcpuIds.foldl (fun s v => s.setFpVcpu v { s.fpVcpu v with priority := priority })
    (s.setFpDom d.domainId { s.fpDom d.domainId with priority := priority })

theorem foldl_setFpVcpu (change : FpVcpu → FpVcpu) (idempotent : ∀ r, change (change r) = change r)
    (vs : List VcpuId) (s : State) :
    vs.foldl (fun s v => s.setFpVcpu v (change (s.fpVcpu v))) s =
      { s with fpVcpu := fun v => if v ∈ vs then change (s.fpVcpu v) else s.fpVcpu v } := by
  induction vs generalizing s with
  | nil => rfl
  | cons head rest ih =>
      rw [List.foldl_cons, ih]
      simp only [setFpVcpu, State.mk.injEq, true_and, and_true]
      funext v
      by_cases same : v = head
      · subst same
        simp [idempotent]
      · simp [same]

theorem setDomainPriority_eq (s : State) (d : Domain) (priority : Int) :
    s.setDomainPriority d priority =
      { s with
        fpDom := Function.update s.fpDom d.domainId { s.fpDom d.domainId with priority := priority }
        fpVcpu := fun v =>
          if v ∈ d.vcpuIds then { s.fpVcpu v with priority := priority } else s.fpVcpu v } := by
  unfold setDomainPriority
  rw [foldl_setFpVcpu (fun r => { r with priority := priority }) (fun _ => rfl)]
  rfl

def fpPrioHandler (s : State) (d : Domain) (priority : Int) : State :=
  s.setDomainPriority d priority

def positionPrioHandler (s : State) (d : Domain) (_priority : Int) : State :=
  if d.domainId = 0 then s.setDomainPriority d vmDom0Prio
  else if d.isIdle then s.setDomainPriority d vmIdlePrio
  else
    let posacc := (d.vcpuIds.map fun v => (s.fpVcpu v).position).sum
    let count : Int := d.vcpus.length
    if count = 0 then { s with divideError := true }
    else s.setDomainPriority d (vmDom0Prio - posacc.tdiv count - 1)

def rmPrioHandler (s : State) (d : Domain) (priority : Int) : State :=
  s.positionPrioHandler d priority

def dmPrioHandler (s : State) (d : Domain) (priority : Int) : State :=
  s.positionPrioHandler d priority

def prioHandler (strategy : Strategy) (s : State) (d : Domain) (priority : Int) : State :=
  match strategy with
  | .rm => s.rmPrioHandler d priority
  | .dm => s.dmPrioHandler d priority
  | .fp => s.fpPrioHandler d priority

theorem prioHandler_cases (strategy : Strategy) (s : State) (d : Domain) (priority : Int) :
    (∃ q, (strategy = .fp → q = priority) ∧
        prioHandler strategy s d priority = s.setDomainPriority d q) ∨
      prioHandler strategy s d priority = { s with divideError := true } := by
  have positional : ∀ p, (∃ q, s.positionPrioHandler d p = s.setDomainPriority d q) ∨
      s.positionPrioHandler d p = { s with divideError := true } := by
    intro p
    unfold positionPrioHandler
    split
    · exact .inl ⟨_, rfl⟩
    split
    · exact .inl ⟨_, rfl⟩
    dsimp only
    split
    · exact .inr rfl
    · exact .inl ⟨_, rfl⟩
  cases strategy with
  | rm =>
      rcases positional priority with ⟨q, handled⟩ | trapped
      · exact .inl ⟨q, by simp, handled⟩
      · exact .inr trapped
  | dm =>
      rcases positional priority with ⟨q, handled⟩ | trapped
      · exact .inl ⟨q, by simp, handled⟩
      · exact .inr trapped
  | fp => exact .inl ⟨priority, fun _ => rfl, rfl⟩

theorem prioHandler_of_mem {d : Domain} {v : VcpuId} (listed : v ∈ d.vcpuIds)
    (strategy : Strategy) (s : State) (priority : Int) :
    ∃ q, prioHandler strategy s d priority = s.setDomainPriority d q := by
  have counted : (d.vcpus.length : Int) ≠ 0 := by
    have positive := List.length_pos_of_mem (Domain.mem_vcpuIds.mp listed).2
    omega
  have positional : ∃ q, s.positionPrioHandler d priority = s.setDomainPriority d q := by
    unfold positionPrioHandler
    split
    · exact ⟨_, rfl⟩
    split
    · exact ⟨_, rfl⟩
    dsimp only
    rw [if_neg counted]
    exact ⟨_, rfl⟩
  cases strategy with
  | rm => exact positional
  | dm => exact positional
  | fp => exact ⟨priority, rfl⟩

theorem prioHandler_eq_mk (strategy : Strategy) (s : State) (d : Domain) (priority : Int) :
    ∃ fpDom fpVcpu divideError, prioHandler strategy s d priority =
      { s with fpDom := fpDom, fpVcpu := fpVcpu, divideError := divideError } := by
  rcases prioHandler_cases strategy s d priority with ⟨q, -, handled⟩ | trapped
  · rw [handled, setDomainPriority_eq]
    exact ⟨_, _, _, rfl⟩
  · rw [trapped]
    exact ⟨_, _, _, rfl⟩

section HandlerFrame

variable (strategy : Strategy) (s : State) (d : Domain) (priority : Int)

@[simp] theorem prioHandler_runq : (prioHandler strategy s d priority).runq = s.runq := by
  obtain ⟨_, _, _, handled⟩ := prioHandler_eq_mk strategy s d priority
  rw [handled]
@[simp] theorem prioHandler_link : (prioHandler strategy s d priority).link = s.link := by
  obtain ⟨_, _, _, handled⟩ := prioHandler_eq_mk strategy s d priority
  rw [handled]
@[simp] theorem prioHandler_strategy :
    (prioHandler strategy s d priority).strategy = s.strategy := by
  obtain ⟨_, _, _, handled⟩ := prioHandler_eq_mk strategy s d priority
  rw [handled]
@[simp] theorem prioHandler_domains :
    (prioHandler strategy s d priority).domains = s.domains := by
  obtain ⟨_, _, _, handled⟩ := prioHandler_eq_mk strategy s d priority
  rw [handled]
@[simp] theorem prioHandler_pools : (prioHandler strategy s d priority).pools = s.pools := by
  obtain ⟨_, _, _, handled⟩ := prioHandler_eq_mk strategy s d priority
  rw [handled]
@[simp] theorem prioHandler_processor :
    (prioHandler strategy s d priority).processor = s.processor := by
  obtain ⟨_, _, _, handled⟩ := prioHandler_eq_mk strategy s d priority
  rw [handled]
@[simp] theorem prioHandler_pauseFlags :
    (prioHandler strategy s d priority).pauseFlags = s.pauseFlags := by
  obtain ⟨_, _, _, handled⟩ := prioHandler_eq_mk strategy s d priority
  rw [handled]
@[simp] theorem prioHandler_listCorrupted :
    (prioHandler strategy s d priority).listCorrupted = s.listCorrupted := by
  obtain ⟨_, _, _, handled⟩ := prioHandler_eq_mk strategy s d priority
  rw [handled]

end HandlerFrame

theorem prioHandler_fp_fpVcpu (s : State) (d : Domain) (priority : Int) (v : VcpuId) :
    (prioHandler .fp s d priority).fpVcpu v =
      if v ∈ d.vcpuIds then { s.fpVcpu v with priority := priority } else s.fpVcpu v := by
  show (s.setDomainPriority d priority).fpVcpu v = _
  rw [setDomainPriority_eq]

theorem prioHandler_key (strategy : Strategy) (s : State) (d : Domain) (priority : Int)
    (settled : strategy = .fp → ∀ v ∈ d.vcpuIds, (s.fpVcpu v).priority = priority) (v : VcpuId) :
    strategy.key ((prioHandler strategy s d priority).fpVcpu v) = strategy.key (s.fpVcpu v) := by
  cases strategy with
  | fp =>
      rw [prioHandler_fp_fpVcpu]
      split
      · rename_i member
        rw [← settled rfl v member]
      · rfl
  | rm | dm =>
      rcases prioHandler_cases _ s d priority with ⟨q, -, handled⟩ | trapped
      · rw [handled, setDomainPriority_eq]
        dsimp only
        split <;> rfl
      · rw [trapped]

def fpSchedGet (s : State) (pool : Nat) : Nat := (s.strategy pool).toNat

def fpSchedSet (s : State) (pool : Nat) (strategy : Nat) : State × Int :=
  match Strategy.ofNat? strategy with
  | none => (s, -einval)
  | some chosen => ({ s with strategy := Function.update s.strategy pool chosen }, 0)

def fpSchedSetVmPrio (s : State) (pool : Nat) (d : Domain) (prio : Int) : State :=
  if d.domainId = 0 then s.setFpDom d.domainId { s.fpDom d.domainId with priority := vmDom0Prio }
  else if d.isIdle then s.setFpDom d.domainId { s.fpDom d.domainId with priority := vmIdlePrio }
  else
    d.vcpuIds.foldl (fun s v =>
      (prioHandler (s.strategy pool) s d prio).fpReinsertsortVcpu v (s.strategy pool).compare) s

@[simp] theorem fpSchedSetVmPrio_domains (s : State) (pool : Nat) (d : Domain) (prio : Int) :
    (s.fpSchedSetVmPrio pool d prio).domains = s.domains := by
  unfold fpSchedSetVmPrio
  split
  · rfl
  split
  · rfl
  exact List.foldlRecOn (motive := fun t : State => t.domains = s.domains) _ _ rfl
    fun t same _ _ => by simp [fpReinsertsortVcpu, same]

def setVmPrioAll (s : State) (pool : Nat) (skip : Nat → Bool) : State :=
  s.pools.foldl (fun s p =>
    (s.domainsIn p).foldl (fun s d =>
      if skip d.domainId then s
      else s.fpSchedSetVmPrio pool d (s.fpDom d.domainId).priority) s) s

@[simp] theorem setVmPrioAll_domains (s : State) (pool : Nat) (skip : Nat → Bool) :
    (s.setVmPrioAll pool skip).domains = s.domains := by
  unfold setVmPrioAll
  refine List.foldlRecOn (motive := fun t : State => t.domains = s.domains) _ _ rfl ?_
  intro t same p _
  refine List.foldlRecOn (motive := fun u : State => u.domains = s.domains) _ _ same ?_
  intro u alsoSame e _
  split
  · exact alsoSame
  · simpa using alsoSame

def fpAdjustGlobal (s : State) (pool : Nat) (cmd : SysctlCmd) : State × Int :=
  let (s, rc) :=
    match cmd with
    | .putinfo strategy => s.fpSchedSet pool strategy
    | .getinfo => (s, 0)
  (s.setVmPrioAll pool fun _ => false, rc)

def fpInsertVcpu (s : State) (pool : Nat) (v : VcpuId) : State :=
  if !s.vcpuOnQ v && s.vcpuRunnable v && !s.isRunning v then
    let inserted := s.runqInsert (s.processor v) v (s.strategy pool).compare
    if s.strategy pool ≠ .fp then
      match s.domainOf v.domain with
      | some d => prioHandler (s.strategy pool) inserted d 1
      | none => inserted
    else inserted
  else s

theorem fpInsertVcpu_of_not_runnable {s : State} {v : VcpuId} (asleep : s.vcpuRunnable v = false)
    (pool : Nat) : s.fpInsertVcpu pool v = s := by
  simp [fpInsertVcpu, asleep]

@[simp] theorem fpInsertVcpu_domains (s : State) (pool : Nat) (v : VcpuId) :
    (s.fpInsertVcpu pool v).domains = s.domains := by
  unfold fpInsertVcpu
  split
  · dsimp only
    split
    · split <;> simp
    · simp
  · rfl

@[simp] theorem fpInsertVcpu_processor (s : State) (pool : Nat) (v : VcpuId) :
    (s.fpInsertVcpu pool v).processor = s.processor := by
  unfold fpInsertVcpu
  split
  · dsimp only
    split
    · split <;> simp
    · simp
  · rfl

theorem fpInsertVcpu_link_of_ne (s : State) (pool : Nat) {v w : VcpuId} (other : w ≠ v) :
    (s.fpInsertVcpu pool v).link w = s.link w := by
  unfold fpInsertVcpu
  split
  · dsimp only
    split
    · split <;> simp [runqInsert_link_of_ne _ _ other]
    · simp [runqInsert_link_of_ne _ _ other]
  · rfl

def fpSleep (s : State) (v : VcpuId) : State :=
  if v.isIdle then s
  else if s.curr (s.processor v) = v then s
  else if s.vcpuOnQ v then s.runqRemove v
  else s

@[simp] theorem fpSleep_domains (s : State) (v : VcpuId) : (s.fpSleep v).domains = s.domains := by
  unfold fpSleep runqRemove
  repeat' split
  all_goals simp

def fpVcpuWake (s : State) (pool : Nat) (v : VcpuId) : State :=
  if s.curr (s.processor v) = v then s
  else if v.isIdle then s
  else if s.vcpuOnQ v then s
  else
    let inserted := s.runqInsert (s.processor v) v (s.strategy pool).compare
    match s.domainOf v.domain with
    | some d => prioHandler (s.strategy pool) inserted d (inserted.fpVcpu v).priority
    | none => inserted

@[simp] theorem fpVcpuWake_domains (s : State) (pool : Nat) (v : VcpuId) :
    (s.fpVcpuWake pool v).domains = s.domains := by
  unfold fpVcpuWake
  split
  · rfl
  split
  · rfl
  split
  · rfl
  dsimp only
  split <;> simp

@[simp] theorem fpVcpuWake_processor (s : State) (pool : Nat) (v : VcpuId) :
    (s.fpVcpuWake pool v).processor = s.processor := by
  unfold fpVcpuWake
  repeat' split
  all_goals simp

def fpPickCpu (s : State) (v : VcpuId) : Nat :=
  let online := (s.poolCpus (s.vcpuPool v)).filter fun c => c ∈ s.hardAffinity v
  if s.processor v ∈ online then s.processor v
  else cpumaskCycle s.nrCpuIds (s.processor v) online

def fpVcpuRemove (s : State) (v : VcpuId) : State :=
  s.removeFromQueue v

def updateDomainTimes (s : State) (d : Domain) (onDomain : FpDom → FpDom)
    (onVcpu : FpVcpu → FpVcpu) : State :=
  d.vcpuIds.foldl (fun s v => s.setFpVcpu v (onVcpu (s.fpVcpu v)))
    (s.setFpDom d.domainId (onDomain (s.fpDom d.domainId)))

theorem updateDomainTimes_eq (s : State) (d : Domain) (onDomain : FpDom → FpDom)
    (onVcpu : FpVcpu → FpVcpu) (idempotent : ∀ r, onVcpu (onVcpu r) = onVcpu r) :
    s.updateDomainTimes d onDomain onVcpu =
      { s with
        fpDom := Function.update s.fpDom d.domainId (onDomain (s.fpDom d.domainId))
        fpVcpu := fun v => if v ∈ d.vcpuIds then onVcpu (s.fpVcpu v) else s.fpVcpu v } := by
  unfold updateDomainTimes
  rw [foldl_setFpVcpu onVcpu idempotent]
  rfl

/-- `t` is `s` with records changed in anything but their priority. -/
def Retimed (s t : State) : Prop :=
  ∃ fpDom fpVcpu, t = { s with fpDom := fpDom, fpVcpu := fpVcpu } ∧
    (∀ v, (fpVcpu v).priority = (s.fpVcpu v).priority) ∧
    ∀ id, (fpDom id).priority = (s.fpDom id).priority

theorem Retimed.refl (s : State) : Retimed s s :=
  ⟨s.fpDom, s.fpVcpu, rfl, fun _ => rfl, fun _ => rfl⟩

theorem Retimed.trans {s t u : State} (first : Retimed s t) (second : Retimed t u) :
    Retimed s u := by
  obtain ⟨fpDom, fpVcpu, rfl, vcpus, doms⟩ := first
  obtain ⟨fpDom', fpVcpu', rfl, vcpus', doms'⟩ := second
  exact ⟨fpDom', fpVcpu', rfl, fun v => (vcpus' v).trans (vcpus v),
    fun id => (doms' id).trans (doms id)⟩

theorem retimed_ite {s t : State} (c : Prop) [Decidable c] (changed : Retimed s t) :
    Retimed s (if c then t else s) := by
  split
  · exact changed
  · exact Retimed.refl s

theorem retimed_updateDomainTimes (s : State) (d : Domain) (onDomain : FpDom → FpDom)
    (onVcpu : FpVcpu → FpVcpu) (keepsDomain : ∀ r, (onDomain r).priority = r.priority)
    (keepsVcpu : ∀ r, (onVcpu r).priority = r.priority) :
    Retimed s (s.updateDomainTimes d onDomain onVcpu) := by
  have domain : Retimed s (s.setFpDom d.domainId (onDomain (s.fpDom d.domainId))) := by
    refine ⟨_, _, rfl, fun _ => rfl, fun id => ?_⟩
    by_cases same : id = d.domainId
    · subst same
      simp [keepsDomain]
    · simp [Function.update_of_ne same]
  refine List.foldlRecOn (motive := fun t => Retimed s t) _ _ domain ?_
  intro t retimed v _
  refine retimed.trans ⟨_, _, rfl, fun w => ?_, fun _ => rfl⟩
  by_cases same : w = v
  · subst same
    simp [keepsVcpu]
  · simp [Function.update_of_ne same]

def putDomainParams (s : State) (pool : Nat) (d : Domain) (op : DomctlFp) : State :=
  let rm := s.strategy pool = .rm
  let s :=
    if op.period > 0 then
      let period := toSTime (op.period * 1000)
      s.updateDomainTimes d
        (fun r => { r with period := period, deadline := if rm then period else r.deadline })
        (fun r => { r with period := period, deadline := if rm then period else r.deadline })
    else s
  let s :=
    if op.slice > 0 then
      let slice := toSTime (op.slice * 1000)
      s.updateDomainTimes d (fun r => { r with slice := slice }) (fun r => { r with slice := slice })
    else s
  if op.deadline > 0 then
    let deadline := toSTime (op.deadline * 1000)
    s.updateDomainTimes d (fun r => { r with deadline := deadline })
      (fun r => { r with deadline := deadline })
  else s

theorem retimed_putDomainParams (s : State) (pool : Nat) (d : Domain) (op : DomctlFp) :
    Retimed s (s.putDomainParams pool d op) := by
  unfold putDomainParams
  dsimp only
  refine Retimed.trans ?_ (retimed_ite (op.deadline > 0)
    (retimed_updateDomainTimes _ _ _ _ (fun _ => rfl) (fun _ => rfl)))
  refine Retimed.trans ?_ (retimed_ite (op.slice > 0)
    (retimed_updateDomainTimes _ _ _ _ (fun _ => rfl) (fun _ => rfl)))
  exact retimed_ite (op.period > 0)
    (retimed_updateDomainTimes _ _ _ _ (fun _ => rfl) (fun _ => rfl))

def getDomainParams (s : State) (d : Domain) : DomctlFp :=
  let fpDom := s.fpDom d.domainId
  { priority := fpDom.priority, slice := toUint64 fpDom.slice, period := toUint64 fpDom.period,
    deadline := toUint64 fpDom.deadline }

def fpAdjust (s : State) (pool : Nat) (d : Domain) (cmd : DomctlCmd) : State × DomctlFp :=
  match cmd with
  | .getinfo => (s, s.getDomainParams d)
  | .putinfo op =>
      let s := s.putDomainParams pool d op
      let prio := if op.priority > 0 then op.priority else (s.fpDom d.domainId).priority
      let s := if s.pools.contains d.cpupool then s.fpSchedSetVmPrio pool d prio else s
      (s.setVmPrioAll pool fun id => id == d.domainId, op)

def updateQueue (s : State) (now : Int) (cpu : Nat) : State :=
  (s.runq cpu).foldl (fun s v =>
    let fpv := s.fpVcpu v
    if now > fpv.periodNext then
      s.setFpVcpu v { fpv with
        iterations := fpv.iterations + 1, cputime := 0, periodNext := now + fpv.period }
    else s) s

def eligible (s : State) (v : VcpuId) : Bool :=
  s.vcpuRunnable v && decide ((s.fpVcpu v).cputime < (s.fpVcpu v).slice)

def chargeCurrent (s : State) (cpu : Nat) (now : Int) : State :=
  let current := s.curr cpu
  if !current.isIdle then
    s.setFpVcpu current { s.fpVcpu current with
      cputime := (s.fpVcpu current).cputime + (now - (s.fpVcpu current).lastTimeScheduled) }
  else s

def fpDoSchedule (s : State) (cpu : Nat) (now : Int) (taskletWorkScheduled : Bool) :
    State × TaskSlice :=
  let s := (s.chargeCurrent cpu now).updateQueue now cpu
  let (s, snext) :=
    match (s.runq cpu).find? s.eligible with
    | some v => (s.setFpVcpu v { s.fpVcpu v with lastTimeScheduled := now }, v)
    | none => (s, idleVcpu cpu)
  let snext := if taskletWorkScheduled then idleVcpu cpu else snext
  (s, { task := snext, time := microsecs 100, migrated := false })

/-- `t` is `s` with vcpu records changed in their budget accounting only: the
priority, period, slice and deadline of every vcpu stay. -/
def Recharged (s t : State) : Prop :=
  ∃ fpVcpu, t = { s with fpVcpu := fpVcpu } ∧ ∀ v,
    (fpVcpu v).priority = (s.fpVcpu v).priority ∧ (fpVcpu v).period = (s.fpVcpu v).period ∧
      (fpVcpu v).slice = (s.fpVcpu v).slice ∧ (fpVcpu v).deadline = (s.fpVcpu v).deadline

theorem Recharged.refl (s : State) : Recharged s s :=
  ⟨s.fpVcpu, rfl, fun _ => ⟨rfl, rfl, rfl, rfl⟩⟩

theorem Recharged.trans {s t u : State} (first : Recharged s t) (second : Recharged t u) :
    Recharged s u := by
  obtain ⟨fpVcpu, rfl, kept⟩ := first
  obtain ⟨fpVcpu', rfl, kept'⟩ := second
  refine ⟨fpVcpu', rfl, fun v => ?_⟩
  obtain ⟨p, q, r, t⟩ := kept v
  obtain ⟨p', q', r', t'⟩ := kept' v
  exact ⟨p'.trans p, q'.trans q, r'.trans r, t'.trans t⟩

theorem recharged_setFpVcpu (s : State) (v : VcpuId) (record : FpVcpu)
    (priority : record.priority = (s.fpVcpu v).priority) (period : record.period = (s.fpVcpu v).period)
    (slice : record.slice = (s.fpVcpu v).slice) (deadline : record.deadline = (s.fpVcpu v).deadline) :
    Recharged s (s.setFpVcpu v record) := by
  refine ⟨_, rfl, fun w => ?_⟩
  by_cases same : w = v
  · subst same
    simp [priority, period, slice, deadline]
  · simp [Function.update_of_ne same]

theorem recharged_chargeCurrent (s : State) (cpu : Nat) (now : Int) :
    Recharged s (s.chargeCurrent cpu now) := by
  unfold chargeCurrent
  dsimp only
  split
  · exact recharged_setFpVcpu _ _ _ rfl rfl rfl rfl
  · exact Recharged.refl s

theorem recharged_updateQueue (s : State) (now : Int) (cpu : Nat) :
    Recharged s (s.updateQueue now cpu) := by
  unfold updateQueue
  refine List.foldlRecOn (motive := fun t => Recharged s t) _ _ (Recharged.refl s) ?_
  intro t recharged v _
  dsimp only
  split
  · exact recharged.trans (recharged_setFpVcpu _ _ _ rfl rfl rfl rfl)
  · exact recharged

theorem fpDoSchedule_eq (s : State) (cpu : Nat) (now : Int) (taskletWorkScheduled : Bool) :
    s.fpDoSchedule cpu now taskletWorkScheduled =
      let t := (s.chargeCurrent cpu now).updateQueue now cpu
      match (t.runq cpu).find? t.eligible with
      | some v =>
          (t.setFpVcpu v { t.fpVcpu v with lastTimeScheduled := now },
            { task := if taskletWorkScheduled then idleVcpu cpu else v, time := microsecs 100,
              migrated := false })
      | none =>
          (t, { task := idleVcpu cpu, time := microsecs 100, migrated := false }) := by
  unfold fpDoSchedule
  dsimp only
  split <;> simp

theorem recharged_fpDoSchedule (s : State) (cpu : Nat) (now : Int) (taskletWorkScheduled : Bool) :
    Recharged s (s.fpDoSchedule cpu now taskletWorkScheduled).1 := by
  have before := (recharged_chargeCurrent s cpu now).trans
    (recharged_updateQueue (s.chargeCurrent cpu now) now cpu)
  rw [fpDoSchedule_eq]
  dsimp only
  split
  · exact before.trans (recharged_setFpVcpu _ _ _ rfl rfl rfl rfl)
  · exact before

end State

end CpsXen

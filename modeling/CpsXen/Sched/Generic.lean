import CpsXen.Sched.Hooks

/-!
The generic scheduling code of `xen/common/schedule.c` and `xen/common/domain.c`
that drives the FP hooks: waking and putting vcpus to sleep, pausing, blocking,
affinity changes and `vcpu_migrate`, `schedule()` with `context_saved`, vcpu
creation and destruction, and moving a domain between cpupools.  Every cpupool
of the model runs the FP scheduler, so each `SCHED_OP` is an FP hook.
Runstate bookkeeping and the `ASSERT`s of `schedule()` are left out: a release
build compiles the assertions away.
-/

namespace CpsXen

namespace State

def vcpuSleepNosync (s : State) (v : VcpuId) : State :=
  if !s.vcpuRunnable v then s.fpSleep v else s

def vcpuWake (s : State) (v : VcpuId) : State :=
  if s.vcpuRunnable v then s.fpVcpuWake (s.vcpuPool v) v else s

@[simp] theorem vcpuWake_domains (s : State) (v : VcpuId) : (s.vcpuWake v).domains = s.domains := by
  unfold vcpuWake
  split <;> simp

@[simp] theorem vcpuSleepNosync_domains (s : State) (v : VcpuId) :
    (s.vcpuSleepNosync v).domains = s.domains := by
  unfold vcpuSleepNosync
  split <;> simp

@[simp] theorem vcpuWake_processor (s : State) (v : VcpuId) :
    (s.vcpuWake v).processor = s.processor := by
  unfold vcpuWake
  split <;> simp

theorem vcpuSleepNosync_eq (s : State) (v : VcpuId) :
    ∃ runq link, s.vcpuSleepNosync v = { s with runq := runq, link := link } := by
  unfold vcpuSleepNosync fpSleep runqRemove listDelInit
  repeat' split
  all_goals exact ⟨_, _, rfl⟩

@[simp] theorem vcpuSleepNosync_poolCpus (s : State) (v : VcpuId) :
    (s.vcpuSleepNosync v).poolCpus = s.poolCpus := by
  obtain ⟨runq, link, slept⟩ := vcpuSleepNosync_eq s v
  rw [slept]

def setMigrating (s : State) (v : VcpuId) (flag : Bool) : State :=
  { s with pauseFlags := Function.update s.pauseFlags v { s.pauseFlags v with migrating := flag } }

def vcpuMigrate (s : State) (v : VcpuId) : State :=
  let newCpu := s.fpPickCpu v
  if s.isRunning v || !(s.pauseFlags v).migrating then s
  else
    let moved := { s.setMigrating v false with
      processor := Function.update s.processor v newCpu }
    moved.vcpuWake v

def vcpuSetHardAffinity (s : State) (v : VcpuId) (affinity : List Nat) : State × Int :=
  if ((s.poolCpus (s.vcpuPool v)).filter fun c => c ∈ affinity).isEmpty then (s, -einval)
  else
    let marked := { s.setMigrating v true with
      hardAffinity := Function.update s.hardAffinity v affinity }
    ((marked.vcpuSleepNosync v).vcpuMigrate v, 0)

def contextSaved (s : State) (prev : VcpuId) : State :=
  let saved := { s with isRunning := Function.update s.isRunning prev false }
  if (saved.pauseFlags prev).migrating then saved.vcpuMigrate prev else saved

def schedule (s : State) (cpu : Nat) (now : Int) (taskletWorkScheduled : Bool) : State :=
  let prev := s.curr cpu
  let (s, slice) := s.fpDoSchedule cpu now taskletWorkScheduled
  let next := slice.task
  let s := { s with curr := Function.update s.curr cpu next }
  if prev = next then s
  else { s with isRunning := Function.update s.isRunning next true }.contextSaved prev

def vcpuPauseNosync (s : State) (v : VcpuId) : State :=
  { s with pauseCount := Function.update s.pauseCount v (s.pauseCount v + 1) }.vcpuSleepNosync v

def vcpuUnpause (s : State) (v : VcpuId) : State :=
  let s := { s with pauseCount := Function.update s.pauseCount v (s.pauseCount v - 1) }
  if s.pauseCount v = 0 then s.vcpuWake v else s

def vcpuBlock (s : State) (v : VcpuId) : State :=
  { s with pauseFlags := Function.update s.pauseFlags v { s.pauseFlags v with blocked := true } }

def vcpuUnblock (s : State) (v : VcpuId) : State :=
  if (s.pauseFlags v).blocked then
    { s with pauseFlags :=
        Function.update s.pauseFlags v { s.pauseFlags v with blocked := false } }.vcpuWake v
  else s

def vcpuUp (s : State) (v : VcpuId) : State :=
  if (s.pauseFlags v).down then
    { s with pauseFlags :=
        Function.update s.pauseFlags v { s.pauseFlags v with down := false } }.vcpuWake v
  else s

def vcpuDown (s : State) (v : VcpuId) : State :=
  if (s.pauseFlags v).down then s
  else
    { s with pauseFlags :=
        Function.update s.pauseFlags v { s.pauseFlags v with down := true } }.vcpuSleepNosync v

def domainPause (s : State) (d : Domain) : State :=
  let count := s.domPauseCount d.domainId + 1
  d.vcpuIds.foldl vcpuSleepNosync
    { s with domPauseCount := Function.update s.domPauseCount d.domainId count }

def domainUnpause (s : State) (d : Domain) : State :=
  let count := s.domPauseCount d.domainId - 1
  let s := { s with domPauseCount := Function.update s.domPauseCount d.domainId count }
  if s.domPauseCount d.domainId = 0 then d.vcpuIds.foldl vcpuWake s else s

@[simp] theorem domainPause_domains (s : State) (d : Domain) :
    (s.domainPause d).domains = s.domains := by
  unfold domainPause
  exact List.foldlRecOn (motive := fun t : State => t.domains = s.domains) _ _ rfl
    fun t same v _ => by rw [vcpuSleepNosync_domains, same]

@[simp] theorem domainPause_poolCpus (s : State) (d : Domain) :
    (s.domainPause d).poolCpus = s.poolCpus := by
  unfold domainPause
  exact List.foldlRecOn (motive := fun t : State => t.poolCpus = s.poolCpus) _ _ rfl
    fun t same v _ => by rw [vcpuSleepNosync_poolCpus, same]

@[simp] theorem domainUnpause_processor (s : State) (d : Domain) :
    (s.domainUnpause d).processor = s.processor := by
  unfold domainUnpause
  dsimp only
  split
  · exact List.foldlRecOn (motive := fun t : State => t.processor = s.processor) _ _ rfl
      fun t same v _ => by rw [vcpuWake_processor, same]
  · rfl

@[simp] theorem domainUnpause_domains (s : State) (d : Domain) :
    (s.domainUnpause d).domains = s.domains := by
  unfold domainUnpause
  dsimp only
  split
  · exact List.foldlRecOn (motive := fun t : State => t.domains = s.domains) _ _ rfl
      fun t same v _ => by rw [vcpuWake_domains, same]
  · rfl

def installVcpu (s : State) (v : VcpuId) (record : FpVcpu) : State :=
  { s with fpVcpu := Function.update s.fpVcpu v record, link := Function.update s.link v none }

def schedInitVcpu (s : State) (v : VcpuId) (processor : Nat) (now : Int) : State :=
  let pool := s.vcpuPool v
  let s := { s with processor := Function.update s.processor v processor,
                    hardAffinity := Function.update s.hardAffinity v (List.range s.nrCpuIds) }
  (s.installVcpu v (fpAllocVdata (s.schedPriv v.domain) v now)).fpInsertVcpu pool v

theorem schedInitVcpu_of_not_runnable {s : State} {v : VcpuId} (asleep : s.vcpuRunnable v = false)
    (processor : Nat) (now : Int) :
    s.schedInitVcpu v processor now =
      { s with
        processor := Function.update s.processor v processor
        hardAffinity := Function.update s.hardAffinity v (List.range s.nrCpuIds)
        fpVcpu := Function.update s.fpVcpu v (fpAllocVdata (s.schedPriv v.domain) v now)
        link := Function.update s.link v none } := by
  unfold schedInitVcpu
  rw [fpInsertVcpu_of_not_runnable (by simpa [installVcpu, vcpuRunnable] using asleep)]
  rfl

def allocVcpu (s : State) (domainId vcpuId processor : Nat) (now : Int) : State :=
  let v : VcpuId := ⟨domainId, vcpuId⟩
  let fresh := { s with pauseFlags := Function.update s.pauseFlags v { PauseFlags.none with down := true },
                        pauseCount := Function.update s.pauseCount v 0,
                        isRunning := Function.update s.isRunning v false }
  let s := fresh.schedInitVcpu v processor now
  { s with domains := s.domains.map fun d =>
      if d.domainId = domainId then
        { d with vcpus := d.vcpus.insertBefore (fun e => decide (vcpuId < e)) vcpuId }
      else d }

section Allocation

variable (s : State) (domainId vcpuId processor : Nat) (now : Int)

@[simp] theorem allocVcpu_fpVcpu :
    (s.allocVcpu domainId vcpuId processor now).fpVcpu =
      Function.update s.fpVcpu ⟨domainId, vcpuId⟩
        (fpAllocVdata (s.schedPriv domainId) ⟨domainId, vcpuId⟩ now) := by
  unfold allocVcpu
  dsimp only
  rw [schedInitVcpu_of_not_runnable (by simp [vcpuRunnable])]
  rfl

@[simp] theorem allocVcpu_fpDom : (s.allocVcpu domainId vcpuId processor now).fpDom = s.fpDom := by
  unfold allocVcpu
  dsimp only
  rw [schedInitVcpu_of_not_runnable (by simp [vcpuRunnable])]

@[simp] theorem allocVcpu_domains :
    (s.allocVcpu domainId vcpuId processor now).domains = s.domains.map fun d =>
      if d.domainId = domainId then
        { d with vcpus := d.vcpus.insertBefore (fun e => decide (vcpuId < e)) vcpuId }
      else d := by
  unfold allocVcpu
  dsimp only
  rw [schedInitVcpu_of_not_runnable (by simp [vcpuRunnable])]

end Allocation

def schedDestroyVcpu (s : State) (v : VcpuId) : State :=
  s.fpVcpuRemove v

def domainCreate (s : State) (domainId pool : Nat) : State :=
  let d : Domain := ⟨domainId, [], pool⟩
  let s := { s with domains := s.domains.insertBefore (fun e => decide (domainId < e.domainId)) d }
  match fpInitDomain d with
  | some record => s.setFpDom domainId record
  | none => s

def schedMoveDomain (s : State) (d : Domain) (pool : Nat) (now : Int) : State :=
  let domdata := fpAllocDomdata
  let vcpuPriv := fun v => fpAllocVdata (s.schedPriv d.domainId) v now
  let s := s.domainPause d
  let s := d.vcpuIds.foldl fpVcpuRemove s
  let moved : Domain := { d with cpupool := pool }
  let s := { s.setFpDom d.domainId domdata with
    domains := s.domains.map fun e => if e.domainId = d.domainId then moved else e }
  let cpus := s.poolCpus pool
  let placed := d.vcpuIds.foldl (fun (acc : State × Nat) v =>
      let s := { acc.1 with processor := Function.update acc.1.processor v acc.2,
                            hardAffinity := Function.update acc.1.hardAffinity v
                              (List.range acc.1.nrCpuIds) }
      ((s.installVcpu v (vcpuPriv v)).fpInsertVcpu pool v,
        cpumaskCycle s.nrCpuIds acc.2 cpus))
    (s, cpus.min?.getD s.nrCpuIds)
  placed.1.domainUnpause moved

def cpupoolMoveDomain (s : State) (d : Domain) (pool : Nat) (now : Int) : State :=
  if d.cpupool = pool then s else s.schedMoveDomain d pool now

def boot (nrCpuIds : Nat) (pools : List Nat) (poolCpus : Nat → List Nat)
    (cpuPool : Nat → Nat) : State where
  nrCpuIds := nrCpuIds
  pools := pools
  strategy := fun _ => .rm
  poolCpus := poolCpus
  cpuPool := cpuPool
  domains := []
  fpDom := fun _ => FpDom.zero
  fpVcpu := fun v => fpAllocVdata none v 0
  runq := fun _ => []
  link := fun _ => none
  processor := fun v => v.vcpu
  hardAffinity := fun v => [v.vcpu]
  isRunning := fun v => v.isIdle
  pauseFlags := fun _ => PauseFlags.none
  pauseCount := fun _ => 0
  domPauseCount := fun _ => 0
  curr := idleVcpu
  listCorrupted := false
  divideError := false

end State

end CpsXen

import Mathlib

/-!
The data the FP scheduler of `xen/common/sched_fp.c` works on, together with
the part of the generic scheduler state (`xen/common/schedule.c`,
`xen/include/xen/sched.h`) that its hooks read.  Times are `s_time_t`
nanoseconds and are kept as `Int`; the only place a product can leave the
64-bit range is the parameter scaling of `fp_adjust`, which wraps explicitly.
-/

namespace CpsXen

def domidIdle : Nat := 0x7FFF

def microsecs (us : Int) : Int := us * 1000

def vmDom0Prio : Int := 1000
def vmIdlePrio : Int := 0
def vmStandardSlice : Int := microsecs 500
def vmDom0Slice : Int := microsecs 900
def vmStandardPeriod : Int := microsecs 1000
def vmDom0Period : Int := microsecs 1000

structure VcpuId where
  domain : Nat
  vcpu : Nat
deriving DecidableEq, Repr

def idleVcpu (cpu : Nat) : VcpuId := ⟨domidIdle, cpu⟩

def VcpuId.isIdle (v : VcpuId) : Bool := v.domain == domidIdle

@[simp] theorem idleVcpu_isIdle (cpu : Nat) : (idleVcpu cpu).isIdle = true := by
  simp [idleVcpu, VcpuId.isIdle]

inductive Strategy where
  | rm
  | dm
  | fp
deriving DecidableEq, Repr

def Strategy.toNat : Strategy → Nat
  | .rm => 0
  | .dm => 1
  | .fp => 2

structure FpVcpu where
  priority : Int
  period : Int
  slice : Int
  deadline : Int
  periodNext : Int
  lastTimeScheduled : Int
  cputime : Int
  iterations : Nat
  position : Int
deriving DecidableEq, Repr

structure FpDom where
  priority : Int
  period : Int
  slice : Int
  deadline : Int
deriving DecidableEq, Repr

def FpDom.zero : FpDom := ⟨0, 0, 0, 0⟩

structure Domain where
  domainId : Nat
  vcpus : List Nat
  cpupool : Nat
deriving DecidableEq, Repr

def Domain.isIdle (d : Domain) : Bool := d.domainId == domidIdle

def Domain.vcpuIds (d : Domain) : List VcpuId := d.vcpus.map fun v => ⟨d.domainId, v⟩

@[simp] theorem Domain.mem_vcpuIds {d : Domain} {v : VcpuId} :
    v ∈ d.vcpuIds ↔ v.domain = d.domainId ∧ v.vcpu ∈ d.vcpus := by
  obtain ⟨domain, vcpu⟩ := v
  simp only [Domain.vcpuIds, List.mem_map, VcpuId.mk.injEq]
  constructor
  · rintro ⟨n, member, rfl, rfl⟩
    exact ⟨rfl, member⟩
  · rintro ⟨rfl, member⟩
    exact ⟨vcpu, member, rfl, rfl⟩

structure PauseFlags where
  blocked : Bool
  down : Bool
  migrating : Bool
deriving DecidableEq, Repr

def PauseFlags.none : PauseFlags := ⟨false, false, false⟩

/-- The scheduler state of the host: the FP scheduler's private data of every
FP cpupool, and the generic per-vcpu and per-cpu fields its hooks read.
`link` is the list each `queue_elem` is linked on.  Two ghost flags record what
the machine cannot survive: `listCorrupted`, a `list_add_tail` on an element that
was still linked, and `divideError`, a priority handler dividing by a zero vcpu
count. -/
structure State where
  nrCpuIds : Nat
  pools : List Nat
  strategy : Nat → Strategy
  poolCpus : Nat → List Nat
  cpuPool : Nat → Nat
  domains : List Domain
  fpDom : Nat → FpDom
  fpVcpu : VcpuId → FpVcpu
  runq : Nat → List VcpuId
  link : VcpuId → Option Nat
  processor : VcpuId → Nat
  hardAffinity : VcpuId → List Nat
  isRunning : VcpuId → Bool
  pauseFlags : VcpuId → PauseFlags
  pauseCount : VcpuId → Nat
  domPauseCount : Nat → Nat
  curr : Nat → VcpuId
  listCorrupted : Bool
  divideError : Bool

namespace State

def vcpuRunnable (s : State) (v : VcpuId) : Bool :=
  !((s.pauseFlags v).blocked || (s.pauseFlags v).down || (s.pauseFlags v).migrating) &&
    s.pauseCount v == 0 && s.domPauseCount v.domain == 0

def domainOf (s : State) (id : Nat) : Option Domain :=
  s.domains.find? fun d => d.domainId == id

theorem domainOf_some {s : State} {id : Nat} {d : Domain} (found : s.domainOf id = some d) :
    d ∈ s.domains ∧ d.domainId = id := by
  unfold domainOf at found
  exact ⟨List.mem_of_find?_eq_some found, by simpa using List.find?_some found⟩

theorem domainOf_none {s : State} {id : Nat} (missing : s.domainOf id = none) :
    ∀ d ∈ s.domains, d.domainId ≠ id := by
  unfold domainOf at missing
  intro d member same
  simpa [same] using List.find?_eq_none.mp missing d member

def domainsIn (s : State) (pool : Nat) : List Domain :=
  s.domains.filter fun d => d.cpupool == pool

def vcpuPool (s : State) (v : VcpuId) : Nat :=
  match s.domainOf v.domain with
  | some d => d.cpupool
  | none => s.cpuPool (s.processor v)

def vcpuOnQ (s : State) (v : VcpuId) : Bool := (s.link v).isSome

def setFpVcpu (s : State) (v : VcpuId) (record : FpVcpu) : State :=
  { s with fpVcpu := Function.update s.fpVcpu v record }

def setFpDom (s : State) (id : Nat) (record : FpDom) : State :=
  { s with fpDom := Function.update s.fpDom id record }

@[simp] theorem setFpVcpu_fpVcpu (s : State) (v : VcpuId) (record : FpVcpu) :
    (s.setFpVcpu v record).fpVcpu = Function.update s.fpVcpu v record := rfl
@[simp] theorem setFpVcpu_runq (s : State) (v : VcpuId) (record : FpVcpu) :
    (s.setFpVcpu v record).runq = s.runq := rfl
@[simp] theorem setFpVcpu_link (s : State) (v : VcpuId) (record : FpVcpu) :
    (s.setFpVcpu v record).link = s.link := rfl
@[simp] theorem setFpVcpu_fpDom (s : State) (v : VcpuId) (record : FpVcpu) :
    (s.setFpVcpu v record).fpDom = s.fpDom := rfl
@[simp] theorem setFpVcpu_domains (s : State) (v : VcpuId) (record : FpVcpu) :
    (s.setFpVcpu v record).domains = s.domains := rfl
@[simp] theorem setFpVcpu_pools (s : State) (v : VcpuId) (record : FpVcpu) :
    (s.setFpVcpu v record).pools = s.pools := rfl
@[simp] theorem setFpVcpu_strategy (s : State) (v : VcpuId) (record : FpVcpu) :
    (s.setFpVcpu v record).strategy = s.strategy := rfl
@[simp] theorem setFpVcpu_processor (s : State) (v : VcpuId) (record : FpVcpu) :
    (s.setFpVcpu v record).processor = s.processor := rfl
@[simp] theorem setFpVcpu_pauseFlags (s : State) (v : VcpuId) (record : FpVcpu) :
    (s.setFpVcpu v record).pauseFlags = s.pauseFlags := rfl
@[simp] theorem setFpVcpu_listCorrupted (s : State) (v : VcpuId) (record : FpVcpu) :
    (s.setFpVcpu v record).listCorrupted = s.listCorrupted := rfl

@[simp] theorem setFpDom_fpDom (s : State) (id : Nat) (record : FpDom) :
    (s.setFpDom id record).fpDom = Function.update s.fpDom id record := rfl
@[simp] theorem setFpDom_fpVcpu (s : State) (id : Nat) (record : FpDom) :
    (s.setFpDom id record).fpVcpu = s.fpVcpu := rfl
@[simp] theorem setFpDom_runq (s : State) (id : Nat) (record : FpDom) :
    (s.setFpDom id record).runq = s.runq := rfl
@[simp] theorem setFpDom_link (s : State) (id : Nat) (record : FpDom) :
    (s.setFpDom id record).link = s.link := rfl
@[simp] theorem setFpDom_domains (s : State) (id : Nat) (record : FpDom) :
    (s.setFpDom id record).domains = s.domains := rfl
@[simp] theorem setFpDom_pools (s : State) (id : Nat) (record : FpDom) :
    (s.setFpDom id record).pools = s.pools := rfl
@[simp] theorem setFpDom_strategy (s : State) (id : Nat) (record : FpDom) :
    (s.setFpDom id record).strategy = s.strategy := rfl
@[simp] theorem setFpDom_processor (s : State) (id : Nat) (record : FpDom) :
    (s.setFpDom id record).processor = s.processor := rfl
@[simp] theorem setFpDom_pauseFlags (s : State) (id : Nat) (record : FpDom) :
    (s.setFpDom id record).pauseFlags = s.pauseFlags := rfl
@[simp] theorem setFpDom_listCorrupted (s : State) (id : Nat) (record : FpDom) :
    (s.setFpDom id record).listCorrupted = s.listCorrupted := rfl

end State

end CpsXen

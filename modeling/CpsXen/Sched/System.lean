import CpsXen.Sched.Generic

/-!
The host as a transition system: every entry point through which the
toolstack, a guest or a timer reaches the FP scheduler is an event, a run is a
list of events applied from boot, and the reachable states are those of some run.
-/

namespace CpsXen

/-- The ways the host enters the scheduler. -/
inductive Event where
  | domainCreate (domainId pool : Nat)
  | allocVcpu (domainId vcpuId processor : Nat) (now : Int)
  | vcpuUp (v : VcpuId)
  | vcpuDown (v : VcpuId)
  | vcpuPauseNosync (v : VcpuId)
  | vcpuUnpause (v : VcpuId)
  | vcpuBlock (v : VcpuId)
  | vcpuUnblock (v : VcpuId)
  | domainPause (domainId : Nat)
  | domainUnpause (domainId : Nat)
  | setHardAffinity (v : VcpuId) (affinity : List Nat)
  | schedule (cpu : Nat) (now : Int) (taskletWorkScheduled : Bool)
  | adjust (domainId : Nat) (cmd : DomctlCmd)
  | adjustGlobal (pool : Nat) (cmd : SysctlCmd)
  | moveDomain (domainId pool : Nat) (now : Int)
  | destroyVcpu (v : VcpuId)
deriving DecidableEq, Repr

namespace State

def domidFirstReserved : Nat := 0x7FF0

def withDomain (s : State) (domainId : Nat) (f : Domain → State) : State :=
  match s.domainOf domainId with
  | some d => f d
  | none => s

def vcpuExists (s : State) (v : VcpuId) : Bool :=
  match s.domainOf v.domain with
  | some d => d.vcpus.contains v.vcpu
  | none => false

/-- Apply a function to a vcpu if it exists; a hypercall naming a vcpu or a
domain that does not exist fails before it reaches the scheduler. -/
def withVcpu (s : State) (v : VcpuId) (f : State → State) : State :=
  if s.vcpuExists v then f s else s

def step (s : State) : Event → State
  | .domainCreate domainId pool =>
      if (s.domainOf domainId).isNone && decide (domainId < domidFirstReserved) &&
          s.pools.contains pool then s.domainCreate domainId pool
      else s
  | .allocVcpu domainId vcpuId processor now =>
      if (s.domainOf domainId).isSome && !s.vcpuExists ⟨domainId, vcpuId⟩ then
        s.allocVcpu domainId vcpuId processor now
      else s
  | .vcpuUp v => s.withVcpu v (vcpuUp · v)
  | .vcpuDown v => s.withVcpu v (vcpuDown · v)
  | .vcpuPauseNosync v => s.withVcpu v (vcpuPauseNosync · v)
  | .vcpuUnpause v => s.withVcpu v (vcpuUnpause · v)
  | .vcpuBlock v => s.withVcpu v (vcpuBlock · v)
  | .vcpuUnblock v => s.withVcpu v (vcpuUnblock · v)
  | .domainPause domainId => s.withDomain domainId s.domainPause
  | .domainUnpause domainId => s.withDomain domainId s.domainUnpause
  | .setHardAffinity v affinity => s.withVcpu v fun s => (s.vcpuSetHardAffinity v affinity).1
  | .schedule cpu now tasklet => s.schedule cpu now tasklet
  | .adjust domainId cmd => s.withDomain domainId fun d => (s.fpAdjust d.cpupool d cmd).1
  | .adjustGlobal pool cmd =>
      if s.pools.contains pool then (s.fpAdjustGlobal pool cmd).1 else s
  | .moveDomain domainId pool now =>
      if s.pools.contains pool then s.withDomain domainId fun d => s.cpupoolMoveDomain d pool now
      else s
  | .destroyVcpu v => s.withVcpu v (schedDestroyVcpu · v)

def run (s : State) (events : List Event) : State :=
  events.foldl step s

@[simp] theorem run_nil (s : State) : s.run [] = s := rfl

@[simp] theorem run_cons (s : State) (event : Event) (events : List Event) :
    s.run (event :: events) = (s.step event).run events := rfl

end State

end CpsXen

import CpsXen.Libxl.SchedParams

/-! The `xl sched-fp` command and the libxl calls it makes for a cpupool.  With
`-S` it reads the cpupool's parameters and writes back the strategy given, which
lands in the `uint8_t` field of `libxl_sched_fp_params` before libxl checks its
range.  With `-d` and any of `-P`, `-s`, `-D`, `-p` it reads the domain's
parameters, writes the fields given over them and hands the lot back, the
read-modify-write that the libxl round trip makes safe.  A priority is only
taken when cpupool 0, whichever cpupool holds the domain, runs fixed
priorities. -/

namespace CpsXen

namespace Libxl

structure SchedFpParams where
  strategy : UInt8
deriving DecidableEq, Repr

def schedFpScheduleGet (s : State) (poolid : Nat) : Except Int (State × SchedFpParams) :=
  if s.pools.contains poolid then
    .ok ((s.fpAdjustGlobal poolid .getinfo).1, ⟨UInt8.ofNat (s.fpSchedGet poolid)⟩)
  else .error errorFail

end Libxl

namespace Xl

structure FpOptions where
  period : Option Int
  slice : Option Int
  deadline : Option Int
  priority : Option Int
deriving DecidableEq, Repr

def schedFpStratFp : UInt8 := 2

def mainSchedFpDomain (s : State) (domid : Nat) (opts : FpOptions) (stack : UInt8) : State × Int :=
  match Libxl.schedFpDomainGet s domid with
  | .error _ => (s, -1)
  | .ok scinfo =>
      let scinfo := { scinfo with
        period := opts.period.getD scinfo.period, slice := opts.slice.getD scinfo.slice,
        deadline := opts.deadline.getD scinfo.deadline }
      let checked : State × Option Libxl.DomainSchedParams :=
        match opts.priority with
        | none => (s, some scinfo)
        | some priority =>
            let read : State × Libxl.SchedFpParams :=
              match Libxl.schedFpScheduleGet s 0 with
              | .ok got => got
              | .error _ => (s, ⟨stack⟩)
            if read.2.strategy ≠ schedFpStratFp then (read.1, none)
            else (read.1, some { scinfo with priority := priority })
      match checked with
      | (s, none) => (s, 1)
      | (s, some scinfo) =>
          match Libxl.schedFpDomainSet s domid scinfo with
          | .ok s => (s, 0)
          | .error _ => (s, -1)

end Xl

namespace Xl

end Xl

namespace State

theorem prioHandler_of_ne_fp {strategy : Strategy} (notFp : strategy ≠ .fp) (s : State)
    (d : Domain) (p p' : Int) : prioHandler strategy s d p = prioHandler strategy s d p' := by
  cases strategy with
  | rm => rfl
  | dm => rfl
  | fp => exact absurd rfl notFp

theorem fpSchedSetVmPrio_of_ne_fp {s : State} {pool : Nat} (notFp : s.strategy pool ≠ .fp)
    (d : Domain) (p p' : Int) : s.fpSchedSetVmPrio pool d p = s.fpSchedSetVmPrio pool d p' := by
  unfold fpSchedSetVmPrio
  split
  · rfl
  split
  · rfl
  -- the handler and the re-insertion keep every strategy, so no turn of the loop
  -- reads the priority
  generalize d.vcpuIds = vs
  induction vs generalizing s with
  | nil => rfl
  | cons v rest ih =>
      simp only [List.foldl_cons]
      rw [prioHandler_of_ne_fp notFp s d p p']
      exact ih (by simpa [fpReinsertsortVcpu] using notFp)

theorem putDomainParams_strategy (s : State) (pool : Nat) (d : Domain) (op : DomctlFp) :
    (s.putDomainParams pool d op).strategy = s.strategy := by
  obtain ⟨_, _, same, -, -⟩ := retimed_putDomainParams s pool d op
  rw [same]

theorem fpAdjust_putinfo_of_ne_fp {s : State} {pool : Nat} (notFp : s.strategy pool ≠ .fp)
    (d : Domain) {op op' : DomctlFp} (period : op.period = op'.period)
    (slice : op.slice = op'.slice) (deadline : op.deadline = op'.deadline) :
    (s.fpAdjust pool d (.putinfo op)).1 = (s.fpAdjust pool d (.putinfo op')).1 := by
  have params : s.putDomainParams pool d op = s.putDomainParams pool d op' := by
    unfold putDomainParams
    rw [period, slice, deadline]
  have stillNotFp : (s.putDomainParams pool d op').strategy pool ≠ .fp := by
    rwa [putDomainParams_strategy]
  simp only [fpAdjust, params]
  split
  · rw [fpSchedSetVmPrio_of_ne_fp stillNotFp d _ ((if op'.priority > 0 then op'.priority
      else ((s.putDomainParams pool d op').fpDom d.domainId).priority))]
  · rfl

end State

namespace Libxl

theorem schedFpDomainSet_of_ne_fp {s : State} {d : Domain} (found : s.domainOf d.domainId = some d)
    (notFp : s.strategy d.cpupool ≠ .fp) (period slice deadline : Int) {k k' : Int}
    (allowed : 0 ≤ k ∧ k < schedParamPriorityMax) (allowed' : 0 ≤ k' ∧ k' < schedParamPriorityMax) :
    schedFpDomainSet s d.domainId ⟨k, period, slice, deadline⟩ =
      schedFpDomainSet s d.domainId ⟨k', period, slice, deadline⟩ := by
  unfold schedFpDomainSet
  rw [found]
  dsimp only
  rw [if_neg (by omega : ¬(k < 0 ∨ k ≥ schedParamPriorityMax)),
    if_neg (by omega : ¬(k' < 0 ∨ k' ≥ schedParamPriorityMax))]
  split_ifs
  · rfl
  · rfl
  · rfl
  · exact congrArg Except.ok (State.fpAdjust_putinfo_of_ne_fp notFp d rfl rfl rfl)

end Libxl

/-- For a domain whose cpupool runs RM or DM, `xl sched-fp -d ... -p k` ignores `k`:
any two priorities libxl accepts leave the same host and the same exit status,
whatever else the command is given. -/
theorem sched_fp_priority_ignored_off_fp (s : State) (d : Domain)
    (found : s.domainOf d.domainId = some d) (notFp : s.strategy d.cpupool ≠ .fp)
    (opts : Xl.FpOptions) (k k' : Int) (allowed : 0 ≤ k ∧ k < Libxl.schedParamPriorityMax)
    (allowed' : 0 ≤ k' ∧ k' < Libxl.schedParamPriorityMax) (stack : UInt8) :
    Xl.mainSchedFpDomain s d.domainId { opts with priority := some k } stack =
      Xl.mainSchedFpDomain s d.domainId { opts with priority := some k' } stack := by
  unfold Xl.mainSchedFpDomain
  rw [Libxl.schedFpDomainGet_eq found]
  dsimp only
  generalize read : Libxl.schedFpScheduleGet s 0 = result
  cases result with
  | ok got =>
      obtain ⟨t, params⟩ := got
      have resorted : t = s.setVmPrioAll 0 fun _ => false := by
        unfold Libxl.schedFpScheduleGet at read
        split at read
        · cases read
          rw [State.fpAdjustGlobal_eq]
        · cases read
      have stillFound : t.domainOf d.domainId = some d := by
        simpa [State.domainOf, resorted] using found
      have stillNotFp : t.strategy d.cpupool ≠ .fp := by simpa [resorted] using notFp
      dsimp only
      split_ifs
      · rfl
      · dsimp only
        rw [Libxl.schedFpDomainSet_of_ne_fp stillFound stillNotFp _ _ _ allowed allowed']
  | error _ =>
      dsimp only
      split_ifs
      · rfl
      · dsimp only
        rw [Libxl.schedFpDomainSet_of_ne_fp found notFp _ _ _ allowed allowed']

theorem priority_5_same_as_7_under_rm :
    let s : State := (State.boot 2 [0, 1] (fun p => [p]) (fun c => c)).run
      [.adjustGlobal 0 (.putinfo 2), .domainCreate 1 1, .allocVcpu 1 0 1 0]
    s.domainOf 1 = some ⟨1, [0], 1⟩ ∧ s.strategy 1 ≠ .fp ∧
      (0 ≤ (5 : Int) ∧ (5 : Int) < Libxl.schedParamPriorityMax) ∧
      (0 ≤ (7 : Int) ∧ (7 : Int) < Libxl.schedParamPriorityMax) ∧
      Xl.mainSchedFpDomain s 1 ⟨none, none, none, some 5⟩ 0 =
        Xl.mainSchedFpDomain s 1 ⟨none, none, none, some 7⟩ 0 := by
  intro s
  have found : s.domainOf 1 = some ⟨1, [0], 1⟩ := by decide +kernel
  have rm : s.strategy 1 ≠ .fp := by decide +kernel
  exact ⟨found, rm, by decide, by decide, sched_fp_priority_ignored_off_fp s ⟨1, [0], 1⟩ found rm
    ⟨none, none, none, none⟩ 5 7 (by decide) (by decide) 0⟩

end CpsXen

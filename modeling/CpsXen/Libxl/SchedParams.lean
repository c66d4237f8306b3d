import CpsXen.Sched.Adjust

/-! The scheduling parameters as libxl passes them to and from the hypervisor.
`sched_fp_domain_get` reads the domain record through getinfo and turns its
nanoseconds into microseconds; `sched_fp_domain_set` checks the four fields and
hands them to putinfo, which turns them back into nanoseconds.  The hypervisor
pins dom0 at `VM_DOM0_PRIO`, a priority libxl itself refuses to send.

The RTDS path shares the `period` field of `libxl_domain_sched_params`:
`sched_rtds_domain_set` reads a period equal to
`LIBXL_DOMAIN_SCHED_PARAM_PERIOD_DEFAULT` as unset, and this tree sets that
default to 100, a valid RTDS period. -/

namespace CpsXen

namespace Libxl

def errorFail : Int := -3

def errorInval : Int := -6

def schedParamPriorityMax : Int := 1000

structure DomainSchedParams where
  priority : Int
  period : Int
  slice : Int
  deadline : Int
deriving DecidableEq, Repr

/-- A `uint64_t` stored into an `int`: the two's-complement reading of its low 32 bits. -/
def toCInt (x : Nat) : Int :=
  if x % 2 ^ 32 < 2 ^ 31 then (x % 2 ^ 32 : Nat) else (x % 2 ^ 32 : Nat) - 2 ^ 32

def rc {α : Type} : Except Int α → Int
  | .ok _ => 0
  | .error e => e

theorem toCInt_of_lt {x : Nat} (small : x < 2 ^ 31) : toCInt x = x := by
  have kept : x % 2 ^ 32 = x := Nat.mod_eq_of_lt (by omega)
  rw [toCInt, kept, if_pos small]

def schedFpDomainGet (s : State) (domid : Nat) : Except Int DomainSchedParams :=
  match s.domainOf domid with
  | none => .error errorFail
  | some d =>
      let sdom := (s.fpAdjust d.cpupool d .getinfo).2
      .ok { priority := sdom.priority, period := toCInt (sdom.period / 1000),
            slice := toCInt (sdom.slice / 1000), deadline := toCInt (sdom.deadline / 1000) }

def fpDomctl (scinfo : DomainSchedParams) : DomctlFp :=
  { priority := scinfo.priority, slice := scinfo.slice.toNat, period := scinfo.period.toNat,
    deadline := scinfo.deadline.toNat }

def schedFpDomainSet (s : State) (domid : Nat) (scinfo : DomainSchedParams) : Except Int State :=
  match s.domainOf domid with
  | none => .error errorInval
  | some d =>
      if scinfo.period < 0 then .error errorInval
      else if scinfo.deadline < 0 then .error errorInval
      else if scinfo.slice < 0 then .error errorInval
      else if scinfo.priority < 0 ∨ scinfo.priority ≥ schedParamPriorityMax then .error errorInval
      else .ok (s.fpAdjust d.cpupool d (.putinfo (fpDomctl scinfo))).1

/-- Parameters that set accepts and that survive the scaling to nanoseconds:
whole microseconds in `[1, 2^31)` and a priority set does not refuse. -/
def Storable (scinfo : DomainSchedParams) : Prop :=
  (1 ≤ scinfo.period ∧ scinfo.period < 2 ^ 31) ∧ (1 ≤ scinfo.slice ∧ scinfo.slice < 2 ^ 31) ∧
    (1 ≤ scinfo.deadline ∧ scinfo.deadline < 2 ^ 31) ∧
    (0 ≤ scinfo.priority ∧ scinfo.priority < schedParamPriorityMax)

instance (scinfo : DomainSchedParams) : Decidable (Storable scinfo) :=
  inferInstanceAs (Decidable (_ ∧ _))

def WholeMicros (ns : Int) : Prop := 1000 ≤ ns ∧ ns < 2 ^ 31 * 1000 ∧ ns % 1000 = 0

instance (ns : Int) : Decidable (WholeMicros ns) := inferInstanceAs (Decidable (_ ∧ _))

/-- A record getinfo reports in a form set takes back: whole microseconds in
`[1, 2^31)` and a priority set does not refuse. -/
def Rewritable (r : FpDom) : Prop :=
  WholeMicros r.period ∧ WholeMicros r.slice ∧ WholeMicros r.deadline ∧
    0 ≤ r.priority ∧ r.priority < schedParamPriorityMax

instance (r : FpDom) : Decidable (Rewritable r) := inferInstanceAs (Decidable (_ ∧ _))

theorem micros_round_trip {x : Int} (range : 1 ≤ x ∧ x < 2 ^ 31) :
    toCInt (toUint64 (x * 1000) / 1000) = x := by
  have product : toUint64 (x * 1000) = x.toNat * 1000 := by
    rw [toUint64]
    omega
  rw [product, Nat.mul_div_cancel _ (by decide), toCInt_of_lt (by omega)]
  omega

theorem WholeMicros.div_mul {ns : Int} (whole : WholeMicros ns) : ns / 1000 * 1000 = ns :=
  Int.ediv_mul_cancel (Int.dvd_of_emod_eq_zero whole.2.2)

theorem micros_of_whole {ns : Int} (whole : WholeMicros ns) :
    toCInt (toUint64 ns / 1000) = ns / 1000 := by
  have reported := micros_round_trip (x := ns / 1000) (by obtain ⟨_, _, _⟩ := whole; omega)
  rwa [whole.div_mul] at reported

theorem storable_of_rewritable {r : FpDom} (rewritable : Rewritable r) :
    Storable ⟨r.priority, r.period / 1000, r.slice / 1000, r.deadline / 1000⟩ := by
  obtain ⟨⟨_, _, _⟩, ⟨_, _, _⟩, ⟨_, _, _⟩, priority⟩ := rewritable
  simp only [Storable, schedParamPriorityMax] at priority ⊢
  omega

variable {s : State} {d : Domain}

theorem schedFpDomainGet_eq (found : s.domainOf d.domainId = some d) :
    schedFpDomainGet s d.domainId =
      let r := s.fpDom d.domainId
      .ok { priority := r.priority, period := toCInt (toUint64 r.period / 1000),
            slice := toCInt (toUint64 r.slice / 1000),
            deadline := toCInt (toUint64 r.deadline / 1000) } := by
  rw [schedFpDomainGet, found]
  rfl

theorem schedFpDomainSet_of_storable (found : s.domainOf d.domainId = some d)
    {scinfo : DomainSchedParams} (storable : Storable scinfo) :
    schedFpDomainSet s d.domainId scinfo = .ok (s.fpAdjust d.cpupool d (.putinfo (fpDomctl scinfo))).1 := by
  obtain ⟨period, slice, deadline, priority⟩ := storable
  unfold schedFpDomainSet schedParamPriorityMax at *
  simp only [found]
  rw [if_neg (by omega), if_neg (by omega), if_neg (by omega), if_neg (by omega)]

theorem record_of_storable {scinfo : DomainSchedParams} (storable : Storable scinfo) :
    let r := (s.fpAdjust d.cpupool d (.putinfo (fpDomctl scinfo))).1.fpDom d.domainId
    r.period = scinfo.period * 1000 ∧ r.slice = scinfo.slice * 1000 ∧
      r.deadline = scinfo.deadline * 1000 ∧
      (s.pools.contains d.cpupool = true → s.strategy d.cpupool = .fp → d.domainId ≠ 0 →
        d.isIdle = false → r.priority = if d.vcpus ≠ [] ∧ 0 < scinfo.priority then scinfo.priority
          else (s.fpDom d.domainId).priority) := by
  obtain ⟨period, slice, deadline, -⟩ := storable
  obtain ⟨periodSet, sliceSet, deadlineSet⟩ :=
    State.fpAdjust_putinfo_fpDom_self s d.cpupool d (fpDomctl scinfo) (by simp only [fpDomctl]; omega)
  have scaled : ∀ x : Int, 1 ≤ x ∧ x < 2 ^ 31 → toSTime (x.toNat * 1000) = x * 1000 := by
    intro x range
    rw [toSTime_of_lt (by omega)]
    omega
  refine ⟨periodSet.trans (scaled _ period), sliceSet.trans (scaled _ slice),
    deadlineSet.trans (scaled _ deadline), ?_⟩
  intro inPool fp notDom0 busy
  exact State.fpAdjust_putinfo_priority_fp s d.cpupool d (fpDomctl scinfo) inPool fp notDom0 busy

section RoundTrip

variable (found : s.domainOf d.domainId = some d) (inPool : s.pools.contains d.cpupool = true)
  (notDom0 : d.domainId ≠ 0) (busy : d.isIdle = false)
include found inPool notDom0 busy

theorem set_then_get {scinfo : DomainSchedParams} (storable : Storable scinfo) :
    ∃ t, schedFpDomainSet s d.domainId scinfo = .ok t ∧
      ∃ got, schedFpDomainGet t d.domainId = .ok got ∧
        got.period = scinfo.period ∧ got.slice = scinfo.slice ∧ got.deadline = scinfo.deadline ∧
        (s.strategy d.cpupool = .fp → d.vcpus ≠ [] → 1 ≤ scinfo.priority →
          got.priority = scinfo.priority) := by
  obtain ⟨periodSet, sliceSet, deadlineSet, prioritySet⟩ := record_of_storable (s := s) (d := d) storable
  have stillFound : (s.fpAdjust d.cpupool d (.putinfo (fpDomctl scinfo))).1.domainOf
      d.domainId = some d := by
    simpa [State.domainOf] using found
  have ⟨inPeriod, inSlice, inDeadline, _⟩ := storable
  refine ⟨_, schedFpDomainSet_of_storable found storable, _,
    schedFpDomainGet_eq stillFound, ?_, ?_, ?_, ?_⟩
  · simp only [periodSet, micros_round_trip inPeriod]
  · simp only [sliceSet, micros_round_trip inSlice]
  · simp only [deadlineSet, micros_round_trip inDeadline]
  · intro fp hasVcpu positive
    rw [prioritySet inPool fp notDom0 busy, if_pos ⟨hasVcpu, by omega⟩]

theorem get_then_set (rewritable : Rewritable (s.fpDom d.domainId)) :
    ∃ got, schedFpDomainGet s d.domainId = .ok got ∧
      ∃ t, schedFpDomainSet s d.domainId got = .ok t ∧
        (t.fpDom d.domainId).period = (s.fpDom d.domainId).period ∧
        (t.fpDom d.domainId).slice = (s.fpDom d.domainId).slice ∧
        (t.fpDom d.domainId).deadline = (s.fpDom d.domainId).deadline ∧
        (s.strategy d.cpupool = .fp →
          (t.fpDom d.domainId).priority = (s.fpDom d.domainId).priority) := by
  have storable := storable_of_rewritable rewritable
  obtain ⟨periodSet, sliceSet, deadlineSet, prioritySet⟩ := record_of_storable (s := s) (d := d) storable
  obtain ⟨period, slice, deadline, -⟩ := rewritable
  refine ⟨_, schedFpDomainGet_eq found,
    (s.fpAdjust d.cpupool d (.putinfo (fpDomctl ⟨(s.fpDom d.domainId).priority,
      (s.fpDom d.domainId).period / 1000, (s.fpDom d.domainId).slice / 1000,
      (s.fpDom d.domainId).deadline / 1000⟩))).1, ?_, ?_, ?_, ?_, ?_⟩
  · simp only [micros_of_whole period, micros_of_whole slice, micros_of_whole deadline]
    exact schedFpDomainSet_of_storable found storable
  · rw [periodSet]
    exact period.div_mul
  · rw [sliceSet]
    exact slice.div_mul
  · rw [deadlineSet]
    exact deadline.div_mul
  · intro fp
    rw [prioritySet inPool fp notDom0 busy]
    split_ifs <;> rfl

end RoundTrip

/-! ### The RTDS path -/

def schedParamPeriodDefault : Int := 100

def schedParamBudgetDefault : Int := -1

def rtdsDefaultPeriod : Nat := 10000 * 1000

def rtdsDefaultBudget : Nat := 4000 * 1000

structure SchedRtds where
  period : Nat
  budget : Nat
deriving DecidableEq, Repr

structure RtVcpu where
  period : Nat
  budget : Nat
deriving DecidableEq, Repr

structure RtdsParams where
  period : Int
  budget : Int
deriving DecidableEq, Repr

def toUint32 (x : Int) : Nat := (x % 2 ^ 32).toNat

def rtDomCntlGetinfo : SchedRtds := ⟨rtdsDefaultPeriod / 1000, rtdsDefaultBudget / 1000⟩

def rtDomCntlPutinfo (vcpus : List RtVcpu) (op : SchedRtds) : Except Int (List RtVcpu) :=
  if op.period = 0 ∨ op.budget = 0 then .error (-einval)
  else .ok (vcpus.map fun _ => ⟨op.period * 1000, op.budget * 1000⟩)

def schedRtdsValidateParams (period budget : Int) : Int :=
  if period < 1 then errorInval
  else if budget < 1 then errorInval
  else if budget > period then errorInval
  else 0

def schedRtdsDomainGet (vcpus : Option (List RtVcpu)) : Except Int RtdsParams :=
  match vcpus with
  | none => .error errorFail
  | some _ => .ok ⟨toCInt rtDomCntlGetinfo.period, toCInt rtDomCntlGetinfo.budget⟩

def schedRtdsDomainSet (vcpus : Option (List RtVcpu)) (scinfo : RtdsParams) :
    Except Int (List RtVcpu) :=
  match vcpus with
  | none => .error errorFail
  | some vcpus =>
      let got : SchedRtds := rtDomCntlGetinfo
      let sdom : SchedRtds :=
        if scinfo.period ≠ schedParamPeriodDefault then { got with period := toUint32 scinfo.period }
        else got
      let sdom : SchedRtds :=
        if scinfo.budget ≠ schedParamBudgetDefault then { sdom with budget := toUint32 scinfo.budget }
        else sdom
      if schedRtdsValidateParams (toCInt sdom.period) (toCInt sdom.budget) ≠ 0 then .error errorInval
      else
        match rtDomCntlPutinfo vcpus sdom with
        | .ok vcpus => .ok vcpus
        | .error _ => .error errorFail

theorem schedRtdsValidateParams_eq_zero {period budget : Int} :
    schedRtdsValidateParams period budget = 0 ↔ 1 ≤ period ∧ 1 ≤ budget ∧ budget ≤ period := by
  have refused : errorInval ≠ 0 := by decide
  unfold schedRtdsValidateParams
  split_ifs with noPeriod noBudget tooBig
  · exact iff_of_false refused (by omega)
  · exact iff_of_false refused (by omega)
  · exact iff_of_false refused (by omega)
  · exact iff_of_true rfl (by omega)

theorem toCInt_toUint32 {x : Int} (range : 0 ≤ x ∧ x < 2 ^ 31) : toCInt (toUint32 x) = x := by
  have kept : toUint32 x = x.toNat := by
    rw [toUint32, Int.emod_eq_of_lt range.1 (by omega)]
  rw [kept, toCInt_of_lt (by omega)]
  omega

theorem rtDomCntlPutinfo_of_pos (vcpus : List RtVcpu) {op : SchedRtds} (period : 0 < op.period)
    (budget : 0 < op.budget) :
    rtDomCntlPutinfo vcpus op = .ok (vcpus.map fun _ => ⟨op.period * 1000, op.budget * 1000⟩) := by
  rw [rtDomCntlPutinfo, if_neg (by omega)]

theorem schedRtdsDomainSet_of_valid (vcpus : List RtVcpu) (scinfo : RtdsParams)
    (valid : schedRtdsValidateParams scinfo.period scinfo.budget = 0)
    (fits : scinfo.period < 2 ^ 31) :
    schedRtdsDomainSet (some vcpus) scinfo =
      .ok (vcpus.map fun _ =>
        ⟨(if scinfo.period = schedParamPeriodDefault then rtdsDefaultPeriod / 1000
          else scinfo.period.toNat) * 1000, scinfo.budget.toNat * 1000⟩) := by
  obtain ⟨periodPos, budgetPos, budgetBelow⟩ := schedRtdsValidateParams_eq_zero.mp valid
  have budgetSet : scinfo.budget ≠ schedParamBudgetDefault := by
    unfold schedParamBudgetDefault
    omega
  have budgetBack : toCInt (toUint32 scinfo.budget) = scinfo.budget := toCInt_toUint32 (by omega)
  have budgetNat : toUint32 scinfo.budget = scinfo.budget.toNat := by
    rw [toUint32, Int.emod_eq_of_lt (by omega) (by omega)]
  simp only [schedRtdsDomainSet, budgetSet, ne_eq, not_false_eq_true, if_true]
  by_cases sentinel : scinfo.period = schedParamPeriodDefault
  · -- the valid period 100 is read as unset: getinfo's default goes out instead
    have defaultBack : toCInt (rtDomCntlGetinfo.period) = 10000 := by decide
    have budgetFits : scinfo.budget ≤ 10000 := by
      unfold schedParamPeriodDefault at sentinel
      omega
    simp only [sentinel, not_true_eq_false, if_false, budgetBack, defaultBack, if_true]
    rw [if_neg (by rw [schedRtdsValidateParams_eq_zero]; omega),
      rtDomCntlPutinfo_of_pos _ (by show 0 < rtDomCntlGetinfo.period; decide)
        (by simp only [budgetNat]; omega), budgetNat]
    rfl
  · have periodBack : toCInt (toUint32 scinfo.period) = scinfo.period := toCInt_toUint32 (by omega)
    have periodNat : toUint32 scinfo.period = scinfo.period.toNat := by
      rw [toUint32, Int.emod_eq_of_lt (by omega) (by omega)]
    simp only [sentinel, not_false_eq_true, if_true, if_false, periodBack, budgetBack, valid,
      not_true_eq_false]
    rw [rtDomCntlPutinfo_of_pos _ (by simp only [periodNat]; omega)
      (by simp only [budgetNat]; omega), periodNat, budgetNat]

end Libxl

/-- Where the round trip fails.  A valid RTDS period of 100 microseconds is taken
for the unset default, and the domain's vcpus get `RTDS_DEFAULT_PERIOD` instead.
And on a host whose FP cpupool holds dom0, the read-modify-write of `xl sched-fp`
fails for dom0: getinfo reports the pinned priority 1000, which set refuses. -/
theorem sched_params_round_trip_fails :
    (∀ (vcpus : List Libxl.RtVcpu) (budget : Int), 1 ≤ budget → budget ≤ 100 →
      Libxl.schedRtdsValidateParams 100 budget = 0 ∧
        Libxl.schedRtdsDomainSet (some vcpus) ⟨100, budget⟩ =
          .ok (vcpus.map fun _ => ⟨Libxl.rtdsDefaultPeriod, budget.toNat * 1000⟩)) ∧
    let s : State := (State.boot 1 [0] (fun _ => [0]) (fun _ => 0)).run
      [.domainCreate 0 0, .allocVcpu 0 0 0 0]
    (Libxl.schedFpDomainGet s 0).toOption = some ⟨1000, 1000, 900, 1000⟩ ∧
      Libxl.rc (Libxl.schedFpDomainSet s 0 ⟨1000, 1000, 900, 1000⟩) = Libxl.errorInval := by
  refine ⟨fun vcpus budget low high => ?_, by decide +kernel⟩
  have valid : Libxl.schedRtdsValidateParams 100 budget = 0 :=
    Libxl.schedRtdsValidateParams_eq_zero.mpr ⟨by decide, low, high⟩
  refine ⟨valid, ?_⟩
  have fits : (100 : Int) < 2 ^ 31 := by decide
  rw [Libxl.schedRtdsDomainSet_of_valid vcpus ⟨100, budget⟩ valid fits]
  rfl

/-- The two directions of the libxl interface for a domain other than dom0 in
an FP cpupool.  Set then get: every storable request is accepted and read back,
its priority too under FP once the domain has a vcpu and the priority is
positive.  Get then set: when the record holds whole microseconds in
`[1, 2^31)` and a priority below 1000, writing back what get reports is accepted
and keeps period, slice and deadline, and under FP the priority. -/
theorem sched_params_round_trip (s : State) (d : Domain) (found : s.domainOf d.domainId = some d)
    (inPool : s.pools.contains d.cpupool = true) (notDom0 : d.domainId ≠ 0)
    (busy : d.isIdle = false) :
    (∀ scinfo, Libxl.Storable scinfo →
      ∃ t, Libxl.schedFpDomainSet s d.domainId scinfo = .ok t ∧
        ∃ got, Libxl.schedFpDomainGet t d.domainId = .ok got ∧
          got.period = scinfo.period ∧ got.slice = scinfo.slice ∧ got.deadline = scinfo.deadline ∧
          (s.strategy d.cpupool = .fp → d.vcpus ≠ [] → 1 ≤ scinfo.priority →
            got.priority = scinfo.priority)) ∧
    (Libxl.Rewritable (s.fpDom d.domainId) →
      ∃ got, Libxl.schedFpDomainGet s d.domainId = .ok got ∧
        ∃ t, Libxl.schedFpDomainSet s d.domainId got = .ok t ∧
          (t.fpDom d.domainId).period = (s.fpDom d.domainId).period ∧
          (t.fpDom d.domainId).slice = (s.fpDom d.domainId).slice ∧
          (t.fpDom d.domainId).deadline = (s.fpDom d.domainId).deadline ∧
          (s.strategy d.cpupool = .fp →
            (t.fpDom d.domainId).priority = (s.fpDom d.domainId).priority)) :=
  ⟨fun _ storable => Libxl.set_then_get found inPool notDom0 busy storable,
    Libxl.get_then_set found inPool notDom0 busy⟩

theorem sched_params_round_trip_standard :
    let s : State := (State.boot 1 [0] (fun _ => [0]) (fun _ => 0)).run
      [.domainCreate 1 0, .allocVcpu 1 0 0 0]
    s.domainOf 1 = some ⟨1, [0], 0⟩ ∧ s.pools.contains 0 = true ∧
      Libxl.Storable ⟨500, 2000, 700, 1500⟩ ∧ Libxl.Rewritable (s.fpDom 1) ∧
      (∃ t, Libxl.schedFpDomainSet s 1 ⟨500, 2000, 700, 1500⟩ = .ok t ∧
        ∃ got, Libxl.schedFpDomainGet t 1 = .ok got ∧
          got.period = 2000 ∧ got.slice = 700 ∧ got.deadline = 1500 ∧
          (s.strategy 0 = .fp → [0] ≠ [] → 1 ≤ (500 : Int) → got.priority = 500)) ∧
      ∃ got, Libxl.schedFpDomainGet s 1 = .ok got ∧
        ∃ t, Libxl.schedFpDomainSet s 1 got = .ok t ∧
          (t.fpDom 1).period = (s.fpDom 1).period ∧ (t.fpDom 1).slice = (s.fpDom 1).slice ∧
          (t.fpDom 1).deadline = (s.fpDom 1).deadline ∧
          (s.strategy 0 = .fp → (t.fpDom 1).priority = (s.fpDom 1).priority) := by
  intro s
  have found : s.domainOf 1 = some ⟨1, [0], 0⟩ := by decide +kernel
  have inPool : s.pools.contains 0 = true := by decide +kernel
  have storable : Libxl.Storable ⟨500, 2000, 700, 1500⟩ := by decide
  have rewritable : Libxl.Rewritable (s.fpDom 1) := by decide +kernel
  have both := sched_params_round_trip s ⟨1, [0], 0⟩ found inPool (by decide) (by decide)
  exact ⟨found, inPool, storable, rewritable, both.1 _ storable, both.2 rewritable⟩

end CpsXen

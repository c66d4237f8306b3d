import CpsXen.Sched.Generic

/-! What the queue operations, the priority handlers and the wake paths may
change in the scheduler's records: a vcpu record only in its priority and
position, a domain record only in its priority.  Parameters and budgets
(period, slice, deadline, cputime, period start, last scheduling time) are
written by `fp_adjust` putinfo, the allocators and `fp_do_schedule` alone. -/

namespace CpsXen

namespace State

/-- `t` is `s` with vcpu records changed at most in priority and position, and
domain records at most in priority. -/
def Reordered (s t : State) : Prop :=
  (∀ v, ∃ priority position,
      t.fpVcpu v = { s.fpVcpu v with priority := priority, position := position }) ∧
    ∀ id, ∃ priority, t.fpDom id = { s.fpDom id with priority := priority }

theorem Reordered.refl (s : State) : Reordered s s :=
  ⟨fun v => ⟨(s.fpVcpu v).priority, (s.fpVcpu v).position, rfl⟩,
    fun id => ⟨(s.fpDom id).priority, rfl⟩⟩

theorem Reordered.trans {s t u : State} (first : Reordered s t) (second : Reordered t u) :
    Reordered s u := by
  refine ⟨fun v => ?_, fun id => ?_⟩
  · obtain ⟨_, _, early⟩ := first.1 v
    obtain ⟨priority, position, late⟩ := second.1 v
    exact ⟨priority, position, by rw [late, early]⟩
  · obtain ⟨_, early⟩ := first.2 id
    obtain ⟨priority, late⟩ := second.2 id
    exact ⟨priority, by rw [late, early]⟩

theorem Reordered.of_records {s t : State} (vcpus : t.fpVcpu = s.fpVcpu) (doms : t.fpDom = s.fpDom) :
    Reordered s t :=
  ⟨fun v => ⟨(s.fpVcpu v).priority, (s.fpVcpu v).position, by rw [vcpus]⟩,
    fun id => ⟨(s.fpDom id).priority, by rw [doms]⟩⟩

theorem Reordered.vcpu {s t : State} (reordered : Reordered s t) (v : VcpuId) :
    (t.fpVcpu v).period = (s.fpVcpu v).period ∧ (t.fpVcpu v).slice = (s.fpVcpu v).slice ∧
      (t.fpVcpu v).deadline = (s.fpVcpu v).deadline ∧
      (t.fpVcpu v).cputime = (s.fpVcpu v).cputime ∧
      (t.fpVcpu v).periodNext = (s.fpVcpu v).periodNext ∧
      (t.fpVcpu v).lastTimeScheduled = (s.fpVcpu v).lastTimeScheduled := by
  obtain ⟨_, _, changed⟩ := reordered.1 v
  simp [changed]

theorem Reordered.dom {s t : State} (reordered : Reordered s t) (id : Nat) :
    (t.fpDom id).period = (s.fpDom id).period ∧ (t.fpDom id).slice = (s.fpDom id).slice ∧
      (t.fpDom id).deadline = (s.fpDom id).deadline := by
  obtain ⟨_, changed⟩ := reordered.2 id
  simp [changed]

theorem reordered_removeFromQueue (s : State) (v : VcpuId) : Reordered s (s.removeFromQueue v) :=
  Reordered.of_records (by simp) (by simp)

theorem reordered_runqInsert (s : State) (cpu : Nat) (v : VcpuId)
    (compare : FpVcpu → FpVcpu → Bool) : Reordered s (s.runqInsert cpu v compare) := by
  refine ⟨fun w => ?_, fun id => ⟨(s.fpDom id).priority, by simp⟩⟩
  obtain ⟨position, inserted⟩ := runqInsert_fpVcpu_eq s cpu v compare w
  exact ⟨(s.fpVcpu w).priority, position, inserted⟩

theorem reordered_fpReinsertsortVcpu (s : State) (v : VcpuId)
    (compare : FpVcpu → FpVcpu → Bool) : Reordered s (s.fpReinsertsortVcpu v compare) :=
  (reordered_removeFromQueue s v).trans (reordered_runqInsert _ _ v compare)

theorem reordered_setFpDom_priority (s : State) (id : Nat) (priority : Int) :
    Reordered s (s.setFpDom id { s.fpDom id with priority := priority }) := by
  refine ⟨fun v => ⟨(s.fpVcpu v).priority, (s.fpVcpu v).position, rfl⟩, fun other => ?_⟩
  by_cases same : other = id
  · subst same
    exact ⟨priority, by simp⟩
  · exact ⟨(s.fpDom other).priority, by simp [Function.update_of_ne same]⟩

theorem setDomainPriority_fpDom_self (s : State) (d : Domain) (priority : Int) :
    (s.setDomainPriority d priority).fpDom d.domainId =
      { s.fpDom d.domainId with priority := priority } := by
  simp [setDomainPriority_eq]

theorem reordered_setDomainPriority (s : State) (d : Domain) (priority : Int) :
    Reordered s (s.setDomainPriority d priority) := by
  rw [setDomainPriority_eq]
  refine ⟨fun v => ?_, (reordered_setFpDom_priority s d.domainId priority).2⟩
  dsimp only
  split
  · exact ⟨priority, (s.fpVcpu v).position, rfl⟩
  · exact ⟨(s.fpVcpu v).priority, (s.fpVcpu v).position, rfl⟩

theorem reordered_prioHandler (strategy : Strategy) (s : State) (d : Domain) (priority : Int) :
    Reordered s (prioHandler strategy s d priority) := by
  rcases prioHandler_cases strategy s d priority with ⟨q, -, handled⟩ | trapped
  · rw [handled]
    exact reordered_setDomainPriority s d q
  · rw [trapped]
    exact Reordered.of_records rfl rfl

theorem reordered_fpSchedSetVmPrio (s : State) (pool : Nat) (d : Domain) (prio : Int) :
    Reordered s (s.fpSchedSetVmPrio pool d prio) := by
  unfold fpSchedSetVmPrio
  split
  · exact reordered_setFpDom_priority s _ _
  split
  · exact reordered_setFpDom_priority s _ _
  refine List.foldlRecOn (motive := Reordered s) _ _ (Reordered.refl s) ?_
  intro t reordered v _
  exact reordered.trans ((reordered_prioHandler _ t d prio).trans
    (reordered_fpReinsertsortVcpu _ v _))

theorem reordered_setVmPrioAll (s : State) (pool : Nat) (skip : Nat → Bool) :
    Reordered s (s.setVmPrioAll pool skip) := by
  unfold setVmPrioAll
  refine List.foldlRecOn (motive := Reordered s) _ _ (Reordered.refl s) ?_
  intro t reordered p _
  refine List.foldlRecOn (motive := Reordered s) _ _ reordered ?_
  intro u alsoReordered d _
  split
  · exact alsoReordered
  · exact alsoReordered.trans (reordered_fpSchedSetVmPrio u pool d _)

theorem reordered_fpVcpuWake (s : State) (pool : Nat) (v : VcpuId) :
    Reordered s (s.fpVcpuWake pool v) := by
  unfold fpVcpuWake
  split
  · exact Reordered.refl s
  split
  · exact Reordered.refl s
  split
  · exact Reordered.refl s
  dsimp only
  have inserted := reordered_runqInsert s (s.processor v) v (s.strategy pool).compare
  split
  · exact inserted.trans (reordered_prioHandler _ _ _ _)
  · exact inserted

theorem reordered_vcpuWake (s : State) (v : VcpuId) : Reordered s (s.vcpuWake v) := by
  unfold vcpuWake
  split
  · exact reordered_fpVcpuWake s _ v
  · exact Reordered.refl s

theorem reordered_vcpuMigrate (s : State) (v : VcpuId) : Reordered s (s.vcpuMigrate v) := by
  unfold vcpuMigrate
  dsimp only
  split
  · exact Reordered.refl s
  · exact reordered_vcpuWake _ v

theorem reordered_contextSaved (s : State) (prev : VcpuId) :
    Reordered s (s.contextSaved prev) := by
  unfold contextSaved
  dsimp only
  split
  · exact reordered_vcpuMigrate _ prev
  · exact Reordered.refl s

section StrategyFrame

@[simp] theorem fpSchedSetVmPrio_strategy (s : State) (pool : Nat) (d : Domain) (prio : Int) :
    (s.fpSchedSetVmPrio pool d prio).strategy = s.strategy := by
  unfold fpSchedSetVmPrio
  split
  · rfl
  split
  · rfl
  exact List.foldlRecOn (motive := fun t : State => t.strategy = s.strategy) _ _ rfl
    fun t same _ _ => by simp [fpReinsertsortVcpu, same]

@[simp] theorem setVmPrioAll_strategy (s : State) (pool : Nat) (skip : Nat → Bool) :
    (s.setVmPrioAll pool skip).strategy = s.strategy := by
  unfold setVmPrioAll
  refine List.foldlRecOn (motive := fun t : State => t.strategy = s.strategy) _ _ rfl ?_
  intro t same p _
  refine List.foldlRecOn (motive := fun u : State => u.strategy = s.strategy) _ _ same ?_
  intro u alsoSame e _
  split
  · exact alsoSame
  · simpa using alsoSame

@[simp] theorem fpSchedSetVmPrio_pools (s : State) (pool : Nat) (d : Domain) (prio : Int) :
    (s.fpSchedSetVmPrio pool d prio).pools = s.pools := by
  unfold fpSchedSetVmPrio
  split
  · rfl
  split
  · rfl
  exact List.foldlRecOn (motive := fun t : State => t.pools = s.pools) _ _ rfl
    fun t same _ _ => by simp [fpReinsertsortVcpu, same]

@[simp] theorem setVmPrioAll_pools (s : State) (pool : Nat) (skip : Nat → Bool) :
    (s.setVmPrioAll pool skip).pools = s.pools := by
  unfold setVmPrioAll
  refine List.foldlRecOn (motive := fun t : State => t.pools = s.pools) _ _ rfl ?_
  intro t same p _
  refine List.foldlRecOn (motive := fun u : State => u.pools = s.pools) _ _ same ?_
  intro u alsoSame e _
  split
  · exact alsoSame
  · simpa using alsoSame

end StrategyFrame

section CurrFrame

@[simp] theorem runqInsert_curr (s : State) (cpu : Nat) (v : VcpuId)
    (compare : FpVcpu → FpVcpu → Bool) : (s.runqInsert cpu v compare).curr = s.curr := by
  unfold runqInsert
  split <;> rfl

@[simp] theorem prioHandler_curr (strategy : Strategy) (s : State) (d : Domain) (priority : Int) :
    (prioHandler strategy s d priority).curr = s.curr := by
  rcases prioHandler_cases strategy s d priority with ⟨q, -, handled⟩ | trapped
  · rw [handled, setDomainPriority_eq]
  · rw [trapped]

@[simp] theorem fpVcpuWake_curr (s : State) (pool : Nat) (v : VcpuId) :
    (s.fpVcpuWake pool v).curr = s.curr := by
  unfold fpVcpuWake
  repeat' split
  all_goals simp

@[simp] theorem vcpuWake_curr (s : State) (v : VcpuId) : (s.vcpuWake v).curr = s.curr := by
  unfold vcpuWake
  split <;> simp

@[simp] theorem vcpuMigrate_curr (s : State) (v : VcpuId) : (s.vcpuMigrate v).curr = s.curr := by
  unfold vcpuMigrate
  dsimp only
  split <;> simp [setMigrating]

@[simp] theorem contextSaved_curr (s : State) (prev : VcpuId) :
    (s.contextSaved prev).curr = s.curr := by
  unfold contextSaved
  dsimp only
  split <;> simp

end CurrFrame

end State

end CpsXen

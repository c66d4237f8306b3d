import CpsXen.Sched.Integrity

/-!
Where each vcpu runs, over whole runs on any host.  `fp_do_schedule` takes the
first eligible vcpu of its own cpu's queue without looking at `is_running`, so that
a vcpu runs on one cpu at a time rests on where the queue operations put it:
`fp_vcpu_wake`, `fp_insert_vcpu` and `fp_reinsertsort_vcpu` all queue a vcpu on the
queue of its `v->processor`.  A vcpu changes processor only in `vcpu_migrate` and in
`sched_move_domain`.

`vcpu_set_affinity` on a running vcpu leaves the move to `context_saved`, and
`fp_sleep` leaves a running vcpu on its queue, so the move rewrites `v->processor`
of a vcpu that is still queued on the old cpu.  `sched_move_domain` first pauses the
domain, and the `vcpu_sleep_sync` of `domain_pause` waits until none of its vcpus
runs; the model has no waiting and takes a move only from such a state.  On a run
whose affinity changes and cpupool moves all come when the vcpus they move do not
run, every queued vcpu waits on its processor's queue, every cpu's current vcpu has
that cpu as processor, and `is_running` is set exactly for the current vcpus.  So
when `schedule()` switches to another vcpu, that vcpu runs nowhere, as its
`ASSERT(!next->is_running)` demands.  An affinity change of a running vcpu breaks
this: the vcpu stays on its old queue, its old cpu takes it again, and once a re-sort
or a pause and unpause queues it on its new processor, that cpu takes it too.
-/

namespace CpsXen

namespace State

/-- Whether the model takes an event as the source does: an affinity change of a
vcpu that is not running, and a cpupool move of a domain none of whose vcpus runs,
the state `domain_pause` waits for. -/
def quiet (s : State) : Event → Bool
  | .setHardAffinity v _ => !s.isRunning v
  | .moveDomain domainId _ _ =>
      match s.domainOf domainId with
      | some d => d.vcpuIds.all fun v => !s.isRunning v
      | none => true
  | _ => true

/-- A run whose every event is quiet when it comes. -/
def quietRun (s : State) : List Event → Bool
  | [] => true
  | event :: rest => s.quiet event && (s.step event).quietRun rest

/-- Every vcpu is where the scheduler looks for it: on the queue of its processor
when queued, on its processor when current, and running exactly when current; no
migration is pending, and each idle vcpu belongs to its own cpu. -/
structure Placed (s : State) : Prop where
  queued : ∀ v cpu, v ∈ s.runq cpu → s.processor v = cpu
  current : ∀ cpu, s.processor (s.curr cpu) = cpu
  running : ∀ v, s.isRunning v = true ↔ ∃ cpu, s.curr cpu = v
  settled : ∀ v, (s.pauseFlags v).migrating = false
  idle : ∀ cpu, s.processor (idleVcpu cpu) = cpu

section Frame

variable (s : State) (v : VcpuId)

@[simp] theorem listDelInit_isRunning : (s.listDelInit v).isRunning = s.isRunning := by
  unfold listDelInit; split <;> rfl
@[simp] theorem removeFromQueue_isRunning : (s.removeFromQueue v).isRunning = s.isRunning := by
  unfold removeFromQueue; split <;> simp
@[simp] theorem runqInsert_isRunning (cpu : Nat) (compare : FpVcpu → FpVcpu → Bool) :
    (s.runqInsert cpu v compare).isRunning = s.isRunning := by
  unfold runqInsert; split <;> rfl
@[simp] theorem prioHandler_isRunning (strategy : Strategy) (d : Domain) (priority : Int) :
    (prioHandler strategy s d priority).isRunning = s.isRunning := by
  obtain ⟨_, _, _, handled⟩ := prioHandler_eq_mk strategy s d priority
  rw [handled]
@[simp] theorem fpInsertVcpu_isRunning (pool : Nat) :
    (s.fpInsertVcpu pool v).isRunning = s.isRunning := by
  unfold fpInsertVcpu
  split
  · dsimp only
    split
    · split <;> simp
    · simp
  · rfl
@[simp] theorem vcpuSleepNosync_isRunning : (s.vcpuSleepNosync v).isRunning = s.isRunning := by
  obtain ⟨_, _, slept⟩ := vcpuSleepNosync_eq s v
  rw [slept]
@[simp] theorem domainPause_isRunning (d : Domain) : (s.domainPause d).isRunning = s.isRunning :=
  domainPause_rule (fun t => t.isRunning = s.isRunning) d rfl fun t v same => by simp [same]

end Frame

theorem mem_runq_of_listDelInit {s : State} {v w : VcpuId} {cpu : Nat}
    (member : w ∈ (s.listDelInit v).runq cpu) : w ∈ s.runq cpu := by
  unfold State.listDelInit at member
  split at member
  · exact member
  · rename_i home _
    by_cases here : cpu = home
    · subst here
      simp only [Function.update_self] at member
      exact List.mem_of_mem_erase member
    · simpa [Function.update_of_ne here] using member

theorem mem_runqInsert_runq {s : State} {cpu target : Nat} {v w : VcpuId}
    {compare : FpVcpu → FpVcpu → Bool} (member : w ∈ (s.runqInsert cpu v compare).runq target) :
    (w = v ∧ target = cpu) ∨ w ∈ s.runq target := by
  unfold State.runqInsert at member
  split at member
  · exact .inr member
  by_cases here : target = cpu
  · subst here
    simp only [Function.update_self] at member
    rcases List.mem_insertBefore.mp member with rfl | old
    · exact .inl ⟨rfl, rfl⟩
    · exact .inr old
  · simp only [Function.update_of_ne here] at member
    exact .inr member

theorem mem_runq_fpInsertVcpu {s : State} {pool target : Nat} {v w : VcpuId}
    (member : w ∈ (s.fpInsertVcpu pool v).runq target) : w = v ∨ w ∈ s.runq target := by
  unfold State.fpInsertVcpu at member
  split at member
  · dsimp only at member
    have inserted : w ∈ (s.runqInsert (s.processor v) v (s.strategy pool).compare).runq target := by
      split at member
      · split at member <;> simpa using member
      · exact member
    exact (mem_runqInsert_runq inserted).imp_left And.left
  · exact .inr member

section Placement

variable {s : State}

theorem Placed.curr_injective (inv : Placed s) {c c' : Nat} (same : s.curr c = s.curr c') :
    c = c' := by
  have home := inv.current c
  rw [same, inv.current c'] at home
  exact home.symm

theorem Placed.not_curr (inv : Placed s) {v : VcpuId} (stopped : s.isRunning v = false)
    (cpu : Nat) : s.curr cpu ≠ v := by
  intro current
  have running := (inv.running v).mpr ⟨cpu, current⟩
  rw [stopped] at running
  cases running

theorem Placed.of_queues (inv : Placed s) {t : State}
    (queued : ∀ v cpu, v ∈ t.runq cpu → v ∈ s.runq cpu ∨ s.processor v = cpu)
    (processor : t.processor = s.processor) (curr : t.curr = s.curr)
    (isRunning : t.isRunning = s.isRunning) (settled : ∀ v, (t.pauseFlags v).migrating = false) :
    Placed t := by
  refine ⟨fun v cpu member => ?_, fun cpu => ?_, fun v => ?_, settled, fun cpu => ?_⟩
  · rw [processor]
    exact (queued v cpu member).elim (inv.queued v cpu) id
  · rw [processor, curr]
    exact inv.current cpu
  · rw [isRunning, curr]
    exact inv.running v
  · rw [processor]
    exact inv.idle cpu

theorem Placed.of_generic (inv : Placed s) {t : State} (runq : t.runq = s.runq)
    (processor : t.processor = s.processor) (curr : t.curr = s.curr)
    (isRunning : t.isRunning = s.isRunning) (pauseFlags : t.pauseFlags = s.pauseFlags) :
    Placed t :=
  inv.of_queues (fun _ _ member => .inl (runq ▸ member)) processor curr isRunning
    fun v => pauseFlags ▸ inv.settled v

theorem Placed.setPauseFlags (inv : Placed s) (v : VcpuId) (flags : PauseFlags)
    (kept : flags.migrating = false) :
    Placed { s with pauseFlags := Function.update s.pauseFlags v flags } := by
  refine inv.of_queues (fun w cpu member => .inl member) rfl rfl rfl fun w => ?_
  by_cases same : w = v
  · subst same
    simpa using kept
  · simpa [Function.update_of_ne same] using inv.settled w

theorem Placed.prioHandler (inv : Placed s) (strategy : Strategy) (d : Domain) (priority : Int) :
    Placed (State.prioHandler strategy s d priority) := by
  obtain ⟨fpDom, fpVcpu, divideError, handled⟩ := prioHandler_eq_mk strategy s d priority
  rw [handled]
  exact inv.of_generic rfl rfl rfl rfl rfl

theorem Placed.listDelInit (inv : Placed s) (v : VcpuId) : Placed (s.listDelInit v) :=
  inv.of_queues (fun _ _ member => .inl (mem_runq_of_listDelInit member)) (by simp) (by simp)
    (by simp) (by simpa using inv.settled)

theorem Placed.removeFromQueue (inv : Placed s) (v : VcpuId) : Placed (s.removeFromQueue v) := by
  unfold State.removeFromQueue
  split
  · exact inv.listDelInit v
  · exact inv

theorem Placed.runqRemove (inv : Placed s) (v : VcpuId) : Placed (s.runqRemove v) := by
  unfold State.runqRemove
  split
  · exact inv
  · exact inv.listDelInit v

theorem Placed.runqInsert (inv : Placed s) {cpu : Nat} {v : VcpuId} (home : s.processor v = cpu)
    (compare : FpVcpu → FpVcpu → Bool) : Placed (s.runqInsert cpu v compare) := by
  refine inv.of_queues (fun w target member => ?_) (by simp) (by simp) (by simp) (by simpa using inv.settled)
  rcases mem_runqInsert_runq member with ⟨rfl, rfl⟩ | old
  · exact .inr home
  · exact .inl old

theorem Placed.fpReinsertsortVcpu (inv : Placed s) (v : VcpuId) (compare : FpVcpu → FpVcpu → Bool) :
    Placed (s.fpReinsertsortVcpu v compare) :=
  (inv.removeFromQueue v).runqInsert (by simp) compare

theorem Placed.fpSchedSetVmPrio (inv : Placed s) (pool : Nat) (d : Domain) (prio : Int) :
    Placed (s.fpSchedSetVmPrio pool d prio) := by
  unfold State.fpSchedSetVmPrio
  split
  · exact inv.of_generic rfl rfl rfl rfl rfl
  split
  · exact inv.of_generic rfl rfl rfl rfl rfl
  refine List.foldlRecOn (motive := Placed) _ _ inv ?_
  intro t kept v _
  exact (kept.prioHandler _ d prio).fpReinsertsortVcpu v _

theorem Placed.setVmPrioAll (inv : Placed s) (pool : Nat) (skip : Nat → Bool) :
    Placed (s.setVmPrioAll pool skip) := by
  unfold State.setVmPrioAll
  refine List.foldlRecOn (motive := Placed) _ _ inv ?_
  intro t kept p _
  refine List.foldlRecOn (motive := Placed) _ _ kept ?_
  intro u alsoKept d _
  split
  · exact alsoKept
  · exact alsoKept.fpSchedSetVmPrio pool d _

theorem Placed.fpAdjust (inv : Placed s) (pool : Nat) (d : Domain) (cmd : DomctlCmd) :
    Placed (s.fpAdjust pool d cmd).1 := by
  cases cmd with
  | getinfo => exact inv
  | putinfo op =>
      rw [fpAdjust_putinfo_eq]
      obtain ⟨fpDom, fpVcpu, stored, -, -⟩ := retimed_putDomainParams s pool d op
      have storedInv : Placed (s.putDomainParams pool d op) := by
        rw [stored]
        exact inv.of_generic rfl rfl rfl rfl rfl
      dsimp only
      refine Placed.setVmPrioAll ?_ pool _
      split
      · exact storedInv.fpSchedSetVmPrio pool d _
      · exact storedInv

theorem Placed.fpAdjustGlobal (inv : Placed s) (pool : Nat) (cmd : SysctlCmd) :
    Placed (s.fpAdjustGlobal pool cmd).1 := by
  unfold State.fpAdjustGlobal
  cases cmd with
  | getinfo =>
      dsimp only
      exact inv.setVmPrioAll pool _
  | putinfo strategy =>
      dsimp only
      unfold fpSchedSet
      split
      · exact inv.setVmPrioAll pool _
      · refine Placed.setVmPrioAll ?_ pool _
        exact inv.of_generic rfl rfl rfl rfl rfl

theorem Placed.fpInsertVcpu (inv : Placed s) (pool : Nat) (v : VcpuId) :
    Placed (s.fpInsertVcpu pool v) := by
  unfold State.fpInsertVcpu
  split
  · have inserted := inv.runqInsert rfl (s.strategy pool).compare (v := v)
    dsimp only
    split
    · split
      · exact inserted.prioHandler _ _ 1
      · exact inserted
    · exact inserted
  · exact inv

theorem Placed.fpVcpuWake (inv : Placed s) (pool : Nat) (v : VcpuId) :
    Placed (s.fpVcpuWake pool v) := by
  unfold State.fpVcpuWake
  split
  · exact inv
  split
  · exact inv
  split
  · exact inv
  have inserted := inv.runqInsert rfl (s.strategy pool).compare (v := v)
  dsimp only
  split
  · exact inserted.prioHandler _ _ _
  · exact inserted

theorem Placed.vcpuSleepNosync (inv : Placed s) (v : VcpuId) : Placed (s.vcpuSleepNosync v) := by
  unfold State.vcpuSleepNosync State.fpSleep
  split
  · split
    · exact inv
    split
    · exact inv
    split
    · exact inv.runqRemove v
    · exact inv
  · exact inv

theorem Placed.vcpuWake (inv : Placed s) (v : VcpuId) : Placed (s.vcpuWake v) := by
  unfold State.vcpuWake
  split
  · exact inv.fpVcpuWake _ v
  · exact inv

theorem Placed.vcpuPauseNosync (inv : Placed s) (v : VcpuId) : Placed (s.vcpuPauseNosync v) := by
  unfold State.vcpuPauseNosync
  refine Placed.vcpuSleepNosync ?_ v
  exact inv.of_generic rfl rfl rfl rfl rfl

theorem Placed.vcpuUnpause (inv : Placed s) (v : VcpuId) : Placed (s.vcpuUnpause v) := by
  unfold State.vcpuUnpause
  dsimp only
  have counted : Placed
      { s with pauseCount := Function.update s.pauseCount v (s.pauseCount v - 1) } :=
    inv.of_generic rfl rfl rfl rfl rfl
  split
  · exact counted.vcpuWake v
  · exact counted

theorem Placed.vcpuBlock (inv : Placed s) (v : VcpuId) : Placed (s.vcpuBlock v) :=
  inv.setPauseFlags v { s.pauseFlags v with blocked := true } (inv.settled v)

theorem Placed.vcpuUnblock (inv : Placed s) (v : VcpuId) : Placed (s.vcpuUnblock v) := by
  unfold State.vcpuUnblock
  split
  · exact (inv.setPauseFlags v { s.pauseFlags v with blocked := false } (inv.settled v)).vcpuWake v
  · exact inv

theorem Placed.vcpuUp (inv : Placed s) (v : VcpuId) : Placed (s.vcpuUp v) := by
  unfold State.vcpuUp
  split
  · exact (inv.setPauseFlags v { s.pauseFlags v with down := false } (inv.settled v)).vcpuWake v
  · exact inv

theorem Placed.vcpuDown (inv : Placed s) (v : VcpuId) : Placed (s.vcpuDown v) := by
  unfold State.vcpuDown
  split
  · exact inv
  · exact (inv.setPauseFlags v { s.pauseFlags v with down := true }
      (inv.settled v)).vcpuSleepNosync v

theorem Placed.domainPause (inv : Placed s) (d : Domain) : Placed (s.domainPause d) :=
  domainPause_rule Placed d (inv.of_generic rfl rfl rfl rfl rfl)
    fun _ v asleep => asleep.vcpuSleepNosync v

theorem Placed.domainUnpause (inv : Placed s) (d : Domain) : Placed (s.domainUnpause d) := by
  unfold State.domainUnpause
  dsimp only
  have counted : Placed { s with
      domPauseCount := Function.update s.domPauseCount d.domainId (s.domPauseCount d.domainId - 1) } :=
    inv.of_generic rfl rfl rfl rfl rfl
  split
  · exact List.foldlRecOn (motive := Placed) _ _ counted fun t awake v _ => awake.vcpuWake v
  · exact counted

theorem Placed.recharged (inv : Placed s) {t : State} (recharged : Recharged s t) : Placed t := by
  obtain ⟨fpVcpu, rfl, -⟩ := recharged
  exact inv.of_generic rfl rfl rfl rfl rfl

theorem Placed.setProcessor (inv : Placed s) {v : VcpuId} (offQueue : ∀ cpu, v ∉ s.runq cpu)
    (stopped : s.isRunning v = false) (notIdle : v.isIdle = false) (cpu : Nat) :
    Placed { s with processor := Function.update s.processor v cpu } := by
  refine ⟨fun w c member => ?_, fun c => ?_, inv.running, inv.settled, fun c => ?_⟩
  · have other : w ≠ v := fun same => offQueue c (same ▸ member)
    show Function.update s.processor v cpu w = c
    rw [Function.update_of_ne other]
    exact inv.queued w c member
  · show Function.update s.processor v cpu (s.curr c) = c
    rw [Function.update_of_ne (inv.not_curr stopped c)]
    exact inv.current c
  · have other : idleVcpu c ≠ v := by
      intro same
      rw [← same, idleVcpu_isIdle] at notIdle
      cases notIdle
    show Function.update s.processor v cpu (idleVcpu c) = c
    rw [Function.update_of_ne other]
    exact inv.idle c

theorem Placed.vcpuSetHardAffinity (inv : Placed s) (safe : QueueSafe s) {v : VcpuId}
    (has : s.HasVcpu v) (stopped : s.isRunning v = false) (affinity : List Nat) :
    Placed (s.vcpuSetHardAffinity v affinity).1 := by
  have notIdle := safe.table.notIdle has
  unfold State.vcpuSetHardAffinity
  split
  · exact inv
  dsimp only
  let marked : State := { s.setMigrating v true with
    hardAffinity := Function.update s.hardAffinity v affinity }
  have asleep : marked.vcpuSleepNosync v = marked.removeFromQueue v := by
    have notRunnable : marked.vcpuRunnable v = false := by
      simp [marked, setMigrating, vcpuRunnable]
    have notHere : marked.curr (marked.processor v) ≠ v := inv.not_curr stopped (s.processor v)
    unfold State.vcpuSleepNosync State.fpSleep State.runqRemove State.removeFromQueue
    simp only [notRunnable, notIdle, notHere, Bool.not_false, Bool.false_eq_true, if_true,
      if_false]
  show Placed ((marked.vcpuSleepNosync v).vcpuMigrate v)
  rw [asleep]
  have linked : (marked.removeFromQueue v).Linked :=
    (safe.linked.congr (t := marked) rfl rfl).removeFromQueue v
  have offQueue : ∀ cpu, v ∉ (marked.removeFromQueue v).runq cpu :=
    linked.not_mem_of_link_none (removeFromQueue_link_self marked v)
  have cleared : Placed ((marked.removeFromQueue v).setMigrating v false) := by
    refine inv.of_queues (fun w cpu member => .inl (?_)) (by simp [marked, setMigrating])
      (by simp [marked, setMigrating]) (by simp [marked, setMigrating]) fun w => ?_
    · unfold State.removeFromQueue at member
      split at member
      · exact mem_runq_of_listDelInit (s := marked) member
      · exact member
    · by_cases same : w = v
      · subst same
        simp [setMigrating]
      · simpa [setMigrating, marked, Function.update_of_ne same] using inv.settled w
  have moving : (marked.removeFromQueue v).vcpuMigrate v =
      { (marked.removeFromQueue v).setMigrating v false with
        processor := Function.update (marked.removeFromQueue v).processor v
          ((marked.removeFromQueue v).fpPickCpu v) }.vcpuWake v := by
    unfold State.vcpuMigrate
    rw [if_neg (by simp [marked, setMigrating, stopped])]
  rw [moving]
  exact (cleared.setProcessor offQueue (by simp [marked, setMigrating, stopped]) notIdle _).vcpuWake v

theorem Placed.running_of_switch (inv : Placed s) {cpu : Nat} {next : VcpuId}
    (switched : s.curr cpu ≠ next) (v : VcpuId) :
    Function.update (Function.update s.isRunning next true) (s.curr cpu) false v = true ↔
      ∃ c, Function.update s.curr cpu next c = v := by
  by_cases prev : v = s.curr cpu
  · subst prev
    simp only [Function.update_self, Bool.false_eq_true, false_iff, not_exists]
    intro c
    by_cases here : c = cpu
    · subst here
      rw [Function.update_self]
      exact Ne.symm switched
    · rw [Function.update_of_ne here]
      exact fun same => here (inv.curr_injective same)
  rw [Function.update_of_ne prev]
  by_cases chosen : v = next
  · subst chosen
    simp only [Function.update_self, true_iff]
    exact ⟨cpu, Function.update_self ..⟩
  rw [Function.update_of_ne chosen, inv.running v]
  constructor
  · rintro ⟨c, current⟩
    have here : c ≠ cpu := fun here => prev (here ▸ current.symm)
    exact ⟨c, by rw [Function.update_of_ne here]; exact current⟩
  · rintro ⟨c, current⟩
    by_cases here : c = cpu
    · subst here
      rw [Function.update_self] at current
      exact absurd current.symm chosen
    · rw [Function.update_of_ne here] at current
      exact ⟨c, current⟩

theorem Placed.schedule (inv : Placed s) (cpu : Nat) (now : Int) (taskletWorkScheduled : Bool) :
    Placed (s.schedule cpu now taskletWorkScheduled) := by
  have recharged := recharged_fpDoSchedule s cpu now taskletWorkScheduled
  have task := fpDoSchedule_task s cpu now taskletWorkScheduled
  unfold State.schedule
  generalize s.fpDoSchedule cpu now taskletWorkScheduled = out at recharged task ⊢
  obtain ⟨t, slice⟩ := out
  obtain ⟨fpVcpu, rfl, -⟩ := recharged
  dsimp only at task ⊢
  have home : s.processor slice.task = cpu := by
    rcases task with idle | queued
    · rw [idle]
      exact inv.idle cpu
    · exact inv.queued _ cpu queued
  have current : ∀ c, s.processor (Function.update s.curr cpu slice.task c) = c := by
    intro c
    by_cases here : c = cpu
    · subst here
      rw [Function.update_self]
      exact home
    · rw [Function.update_of_ne here]
      exact inv.current c
  split
  · -- the cpu goes on with its vcpu
    rename_i same
    refine inv.of_generic rfl rfl ?_ rfl rfl
    show Function.update s.curr cpu slice.task = s.curr
    rw [← same, Function.update_eq_self]
  · rename_i switched
    unfold State.contextSaved
    dsimp only
    rw [if_neg (by simp [inv.settled])]
    exact ⟨inv.queued, current, inv.running_of_switch switched, inv.settled, inv.idle⟩

theorem DomainTable.notIdle_of_domainOf (table : DomainTable s) {domainId : Nat} {d : Domain}
    (found : s.domainOf domainId = some d) (vcpuId : Nat) :
    (⟨domainId, vcpuId⟩ : VcpuId).isIdle = false := by
  obtain ⟨dm, rfl⟩ := domainOf_some found
  have below := table.reserved d dm
  unfold domidFirstReserved at below
  simp only [VcpuId.isIdle, domidIdle, beq_eq_false_iff_ne, ne_eq]
  omega

theorem QueueSafe.not_curr_of_fresh (safe : QueueSafe s) {domainId vcpuId : Nat} {d : Domain}
    (found : s.domainOf domainId = some d) (fresh : s.vcpuExists ⟨domainId, vcpuId⟩ = false)
    (cpu : Nat) : s.curr cpu ≠ ⟨domainId, vcpuId⟩ := by
  intro current
  rcases safe.current cpu with idle | has
  · rw [current, safe.table.notIdle_of_domainOf found vcpuId] at idle
    cases idle
  · exact not_hasVcpu_of_fresh safe.trapFree.ids fresh (current ▸ has)

theorem Placed.allocVcpu (inv : Placed s) (safe : QueueSafe s) {domainId vcpuId processor : Nat}
    {now : Int} {d : Domain} (found : s.domainOf domainId = some d)
    (fresh : s.vcpuExists ⟨domainId, vcpuId⟩ = false) :
    Placed (s.allocVcpu domainId vcpuId processor now) := by
  let v : VcpuId := ⟨domainId, vcpuId⟩
  have absent : ¬s.HasVcpu v := not_hasVcpu_of_fresh safe.trapFree.ids fresh
  have notIdle : v.isIdle = false := safe.table.notIdle_of_domainOf found vcpuId
  have offQueue : ∀ cpu, v ∉ s.runq cpu := fun cpu member => absent (safe.queued v cpu member)
  have stopped : s.isRunning v = false := by
    cases running : s.isRunning v with
    | false => rfl
    | true =>
        obtain ⟨cpu, current⟩ := (inv.running v).mp running
        exact absurd current (safe.not_curr_of_fresh found fresh cpu)
  let started : State := { s with
    pauseFlags := Function.update s.pauseFlags v { PauseFlags.none with down := true }
    pauseCount := Function.update s.pauseCount v 0
    isRunning := Function.update s.isRunning v false }
  have startedInv : Placed started :=
    (inv.setPauseFlags v { PauseFlags.none with down := true } rfl).of_generic rfl rfl rfl
      (Function.update_eq_self_iff.mpr stopped.symm) rfl
  have asleep : started.vcpuRunnable v = false := by simp [started, v, vcpuRunnable]
  have inited : Placed (started.schedInitVcpu v processor now) := by
    rw [schedInitVcpu_of_not_runnable asleep]
    exact (startedInv.setProcessor offQueue (by simp [started]) notIdle processor).of_generic
      rfl rfl rfl rfl rfl
  unfold State.allocVcpu
  exact inited.of_generic rfl rfl rfl rfl rfl

theorem Placed.domainCreate (inv : Placed s) (domainId pool : Nat) :
    Placed (s.domainCreate domainId pool) := by
  obtain ⟨fpDom, created⟩ := domainCreate_eq s domainId pool
  rw [created]
  exact inv.of_generic rfl rfl rfl rfl rfl

theorem Placed.schedMoveDomain (inv : Placed s) (safe : QueueSafe s) {d : Domain}
    (dm : d ∈ s.domains) (stopped : ∀ v ∈ d.vcpuIds, s.isRunning v = false) (pool : Nat)
    (now : Int) : Placed (s.schedMoveDomain d pool now) := by
  have distinct := safe.table.nodup_vcpuIds dm
  obtain ⟨removedSafe, -, unlinked⟩ := safe.removeVcpus d
  have removed : Placed (d.vcpuIds.foldl fpVcpuRemove (s.domainPause d)) ∧
      (d.vcpuIds.foldl fpVcpuRemove (s.domainPause d)).isRunning = s.isRunning :=
    List.foldlRecOn (motive := fun t => Placed t ∧ t.isRunning = s.isRunning) _ _
      ⟨inv.domainPause d, by simp⟩ fun t kept v _ =>
        ⟨kept.1.removeFromQueue v, by rw [fpVcpuRemove, removeFromQueue_isRunning, kept.2]⟩
  unfold State.schedMoveDomain
  dsimp +zetaHave only
  generalize d.vcpuIds.foldl fpVcpuRemove (s.domainPause d) = u at removed removedSafe unlinked ⊢
  obtain ⟨removedInv, uRunning⟩ := removed
  -- the placement loop: every vcpu it has not reached yet is still on no queue
  refine Placed.domainUnpause ?_ _
  refine (List.foldl_prefix_induction (motive := fun p (acc : State × Nat) =>
    Placed acc.1 ∧ acc.1.isRunning = s.isRunning ∧
      ∀ w ∈ d.vcpuIds, w ∉ p → ∀ cpu, w ∉ acc.1.runq cpu)
    ⟨removedInv.of_generic rfl rfl rfl rfl rfl, uRunning,
      fun w listed _ => removedSafe.linked.not_mem_of_link_none (unlinked w listed)⟩ ?_).1
  intro p v q whole acc before
  obtain ⟨kept, running, waiting⟩ := before
  have listed : v ∈ d.vcpuIds := by
    rw [whole]
    simp
  have first : v ∉ p := by
    rw [whole] at distinct
    exact fun earlier => List.disjoint_of_nodup_append distinct earlier List.mem_cons_self
  let positioned : State := { acc.1 with
    processor := Function.update acc.1.processor v acc.2
    hardAffinity := Function.update acc.1.hardAffinity v (List.range acc.1.nrCpuIds) }
  have positionedInv : Placed positioned := (kept.setProcessor (waiting v listed first)
    (by rw [running]; exact stopped v listed) (safe.table.notIdle ⟨d, dm, listed⟩) acc.2).of_generic
    rfl rfl rfl rfl rfl
  have installed : Placed (positioned.installVcpu v (fpAllocVdata (s.schedPriv d.domainId) v now)) :=
    positionedInv.of_generic rfl rfl rfl rfl rfl
  refine ⟨installed.fpInsertVcpu pool v, by simp [State.installVcpu, running],
    fun w member later cpu queued => ?_⟩
  have other : w ≠ v := fun self => later (by rw [self]; simp)
  rcases mem_runq_fpInsertVcpu queued with self | old
  · exact other self
  · exact waiting w member (fun earlier => later (List.mem_append_left _ earlier)) cpu old

theorem Placed.cpupoolMoveDomain (inv : Placed s) (safe : QueueSafe s) {d : Domain}
    (dm : d ∈ s.domains) (stopped : ∀ v ∈ d.vcpuIds, s.isRunning v = false) (pool : Nat)
    (now : Int) : Placed (s.cpupoolMoveDomain d pool now) := by
  unfold State.cpupoolMoveDomain
  split
  · exact inv
  · exact inv.schedMoveDomain safe dm stopped pool now

theorem Placed.fpDoSchedule_not_running (inv : Placed s) (cpu : Nat) (now : Int)
    (taskletWorkScheduled : Bool)
    (switched : (s.fpDoSchedule cpu now taskletWorkScheduled).2.task ≠ s.curr cpu) :
    s.isRunning (s.fpDoSchedule cpu now taskletWorkScheduled).2.task = false := by
  obtain ⟨fpVcpu, same, -⟩ := recharged_fpDoSchedule s cpu now taskletWorkScheduled
  have home : s.processor (s.fpDoSchedule cpu now taskletWorkScheduled).2.task = cpu := by
    rcases fpDoSchedule_task s cpu now taskletWorkScheduled with idle | queued
    · rw [idle]
      exact inv.idle cpu
    · rw [same] at queued
      exact inv.queued _ cpu queued
  cases running : s.isRunning (s.fpDoSchedule cpu now taskletWorkScheduled).2.task with
  | false => rfl
  | true =>
      obtain ⟨c, current⟩ := (inv.running _).mp running
      have there := inv.current c
      rw [current, home] at there
      subst there
      exact absurd current.symm switched

end Placement

section Step

variable {s : State}

theorem Placed.step (inv : Placed s) (safe : QueueSafe s) (event : Event)
    (calm : s.quiet event = true) : Placed (s.step event) := by
  cases event with
  | domainCreate domainId pool =>
      simp only [State.step]
      split
      · exact inv.domainCreate domainId pool
      · exact inv
  | allocVcpu domainId vcpuId processor now =>
      simp only [State.step]
      split
      · rename_i guard
        simp only [Bool.and_eq_true, Bool.not_eq_true'] at guard
        obtain ⟨d, found⟩ := Option.isSome_iff_exists.mp guard.1
        exact inv.allocVcpu safe found guard.2
      · exact inv
  | vcpuUp v =>
      apply withVcpu_rule Placed inv
      exact fun _ => inv.vcpuUp v
  | vcpuDown v =>
      apply withVcpu_rule Placed inv
      exact fun _ => inv.vcpuDown v
  | vcpuPauseNosync v =>
      apply withVcpu_rule Placed inv
      exact fun _ => inv.vcpuPauseNosync v
  | vcpuUnpause v =>
      apply withVcpu_rule Placed inv
      exact fun _ => inv.vcpuUnpause v
  | vcpuBlock v =>
      apply withVcpu_rule Placed inv
      exact fun _ => inv.vcpuBlock v
  | vcpuUnblock v =>
      apply withVcpu_rule Placed inv
      exact fun _ => inv.vcpuUnblock v
  | domainPause id =>
      apply withDomain_rule Placed inv
      exact fun d _ => inv.domainPause d
  | domainUnpause id =>
      apply withDomain_rule Placed inv
      exact fun d _ => inv.domainUnpause d
  | setHardAffinity v affinity =>
      -- the one event whose quietness matters for a single vcpu
      have stopped : s.isRunning v = false := by simpa [quiet] using calm
      apply withVcpu_rule Placed inv
      exact fun has => inv.vcpuSetHardAffinity safe has stopped affinity
  | schedule cpu now tasklet => exact inv.schedule cpu now tasklet
  | adjust id cmd =>
      apply withDomain_rule Placed inv
      exact fun d _ => inv.fpAdjust d.cpupool d cmd
  | adjustGlobal pool cmd =>
      simp only [State.step]
      split
      · exact inv.fpAdjustGlobal pool cmd
      · exact inv
  | moveDomain id pool now =>
      simp only [State.step]
      split
      · unfold withDomain
        cases found : s.domainOf id with
        | none => exact inv
        | some d =>
            have stopped : ∀ v ∈ d.vcpuIds, s.isRunning v = false := by
              simpa [quiet, found] using calm
            exact inv.cpupoolMoveDomain safe (domainOf_some found).1 stopped pool now
      · exact inv
  | destroyVcpu v =>
      apply withVcpu_rule Placed inv
      exact fun _ => inv.removeFromQueue v

theorem Placed.run (inv : Placed s) (safe : QueueSafe s) {events : List Event}
    (calm : s.quietRun events = true) : Placed (s.run events) := by
  induction events generalizing s with
  | nil => exact inv
  | cons event rest ih =>
      simp only [quietRun, Bool.and_eq_true] at calm
      rw [run_cons]
      exact ih (inv.step safe event calm.1) (safe.step event) calm.2

theorem placed_boot (nrCpuIds : Nat) (pools : List Nat) (poolCpus : Nat → List Nat)
    (cpuPool : Nat → Nat) : Placed (State.boot nrCpuIds pools poolCpus cpuPool) := by
  refine ⟨by simp [boot], fun cpu => rfl, fun v => ?_, fun v => rfl, fun cpu => rfl⟩
  show v.isIdle = true ↔ ∃ cpu, idleVcpu cpu = v
  constructor
  · intro idle
    refine ⟨v.vcpu, ?_⟩
    obtain ⟨domain, vcpu⟩ := v
    simp only [VcpuId.isIdle, beq_iff_eq] at idle
    simp [idleVcpu, idle]
  · rintro ⟨cpu, rfl⟩
    exact idleVcpu_isIdle cpu

end Step

end State

/-- On any host, along any run whose affinity changes and cpupool moves come when
the vcpus they move do not run, every queued vcpu waits on the queue of its own
processor, `is_running` is set exactly for the vcpus current on a cpu, and no
vcpu is current on two cpus; and whenever `fp_do_schedule` hands a cpu another
vcpu than the one it runs, that vcpu runs nowhere, so the
`ASSERT(!next->is_running)` of `schedule()` holds. -/
theorem vcpus_run_on_one_cpu (nrCpuIds : Nat) (pools : List Nat) (poolCpus : Nat → List Nat)
    (cpuPool : Nat → Nat) (events : List Event)
    (calm : (State.boot nrCpuIds pools poolCpus cpuPool).quietRun events = true) :
    let s : State := (State.boot nrCpuIds pools poolCpus cpuPool).run events
    (∀ v cpu, v ∈ s.runq cpu → s.processor v = cpu) ∧
      (∀ v, s.isRunning v = true ↔ ∃ cpu, s.curr cpu = v) ∧
      (∀ c c', s.curr c = s.curr c' → c = c') ∧
      ∀ cpu now taskletWorkScheduled,
        (s.fpDoSchedule cpu now taskletWorkScheduled).2.task ≠ s.curr cpu →
          s.isRunning (s.fpDoSchedule cpu now taskletWorkScheduled).2.task = false := by
  intro s
  have inv : s.Placed := (State.placed_boot nrCpuIds pools poolCpus cpuPool).run
    (State.queueSafe_boot nrCpuIds pools poolCpus cpuPool) calm
  exact ⟨inv.queued, inv.running, fun _ _ same => inv.curr_injective same,
    inv.fpDoSchedule_not_running⟩

theorem pinned_then_moved_runs_once :
    let events : List Event := [.domainCreate 1 0, .allocVcpu 1 0 0 0, .vcpuUp ⟨1, 0⟩,
      .schedule 0 0 false, .schedule 0 100 true, .setHardAffinity ⟨1, 0⟩ [0],
      .moveDomain 1 1 200, .schedule 1 300 false]
    (State.boot 2 [0, 1] (fun p => [p]) (fun c => c)).quietRun events = true ∧
      let s : State := (State.boot 2 [0, 1] (fun p => [p]) (fun c => c)).run events
      (∀ v cpu, v ∈ s.runq cpu → s.processor v = cpu) ∧
        (∀ v, s.isRunning v = true ↔ ∃ cpu, s.curr cpu = v) ∧
        (∀ c c', s.curr c = s.curr c' → c = c') ∧
        ∀ cpu now taskletWorkScheduled,
          (s.fpDoSchedule cpu now taskletWorkScheduled).2.task ≠ s.curr cpu →
            s.isRunning (s.fpDoSchedule cpu now taskletWorkScheduled).2.task = false :=
  ⟨by decide +kernel, vcpus_run_on_one_cpu 2 [0, 1] (fun p => [p]) (fun c => c) _ (by decide +kernel)⟩

theorem affinity_change_runs_vcpu_twice :
    let s : State := (State.boot 2 [0] (fun _ => [0, 1]) (fun _ => 0)).run
      [.domainCreate 1 0, .allocVcpu 1 0 0 0, .vcpuUp ⟨1, 0⟩, .schedule 0 0 false,
        .setHardAffinity ⟨1, 0⟩ [1], .schedule 0 0 false, .schedule 0 0 false,
        .adjust 1 (.putinfo ⟨0, 0, 0, 0⟩), .schedule 1 0 false]
    s.curr 0 = ⟨1, 0⟩ ∧ s.curr 1 = ⟨1, 0⟩ := by
  decide +kernel

end CpsXen

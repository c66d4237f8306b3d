import CpsXen.Sched.Exclusive

/-!
No wake-up is lost, over whole runs on any host.  `fp_do_schedule` looks only at
the queue of its own cpu, so a vcpu that may run is seen only while it is linked
there.  The FP scheduler leaves the vcpu it dispatches on its queue; `fp_sleep`
takes a vcpu off only when it may not run and is not current on its processor; and
every change that may let a vcpu run again ends in `vcpu_wake`: `vcpu_unpause`,
`vcpu_unblock`, `VCPUOP_up`, `domain_unpause` and `vcpu_migrate`.  `fp_vcpu_wake`
then queues the vcpu unless it is current on its processor or linked already.
`Awake` says that between two such steps every current vcpu and every vcpu that
may run is linked on a queue, save those whose wake is still to come.

On a quiet run (`CpsXen.Sched.Exclusive`) in which no vcpu is destroyed, every vcpu
a domain lists that may run therefore waits on the queue of its processor, and
`fp_do_schedule` hands a cpu its idle vcpu only when each vcpu that may run there
has used up its slice.  `sched_destroy_vcpu` takes a vcpu off its queue for good;
the source calls it only while it destroys the domain, which the model keeps
listed, so runs with it are left out.
-/

namespace CpsXen

namespace State

/-- Every vcpu the scheduler may have to run is linked on a run queue: the current
vcpu of each cpu, unless idle, and each vcpu a domain lists that may run, save
those in `pending`, whose `vcpu_wake` is still to come. -/
structure Awake (pending : VcpuId → Prop) (s : State) : Prop where
  current : ∀ cpu, (s.curr cpu).isIdle = false → s.vcpuOnQ (s.curr cpu) = true
  runnable : ∀ v, v.isIdle = false → s.HasVcpu v → s.vcpuRunnable v = true → ¬pending v →
    s.vcpuOnQ v = true

section Frame

variable (s : State) (v : VcpuId)

@[simp] theorem listDelInit_vcpuRunnable : (s.listDelInit v).vcpuRunnable = s.vcpuRunnable := by
  unfold listDelInit
  split <;> rfl
@[simp] theorem removeFromQueue_vcpuRunnable :
    (s.removeFromQueue v).vcpuRunnable = s.vcpuRunnable := by
  unfold removeFromQueue
  split <;> simp
@[simp] theorem removeFromQueue_domPauseCount :
    (s.removeFromQueue v).domPauseCount = s.domPauseCount := by
  unfold removeFromQueue listDelInit
  repeat' split
  all_goals rfl
@[simp] theorem runqInsert_vcpuRunnable (cpu : Nat) (compare : FpVcpu → FpVcpu → Bool) :
    (s.runqInsert cpu v compare).vcpuRunnable = s.vcpuRunnable := by
  unfold runqInsert
  split <;> rfl
@[simp] theorem prioHandler_vcpuRunnable (strategy : Strategy) (d : Domain) (priority : Int) :
    (prioHandler strategy s d priority).vcpuRunnable = s.vcpuRunnable := by
  obtain ⟨_, _, _, handled⟩ := prioHandler_eq_mk strategy s d priority
  rw [handled]
  rfl
@[simp] theorem fpVcpuWake_vcpuRunnable (pool : Nat) :
    (s.fpVcpuWake pool v).vcpuRunnable = s.vcpuRunnable := by
  unfold fpVcpuWake
  repeat' split
  all_goals simp
@[simp] theorem vcpuWake_vcpuRunnable : (s.vcpuWake v).vcpuRunnable = s.vcpuRunnable := by
  unfold vcpuWake
  split <;> simp
@[simp] theorem vcpuSleepNosync_vcpuRunnable :
    (s.vcpuSleepNosync v).vcpuRunnable = s.vcpuRunnable := by
  obtain ⟨_, _, slept⟩ := vcpuSleepNosync_eq s v
  rw [slept]
  rfl
@[simp] theorem vcpuSleepNosync_curr : (s.vcpuSleepNosync v).curr = s.curr := by
  obtain ⟨_, _, slept⟩ := vcpuSleepNosync_eq s v
  rw [slept]
@[simp] theorem vcpuSleepNosync_processor : (s.vcpuSleepNosync v).processor = s.processor := by
  obtain ⟨_, _, slept⟩ := vcpuSleepNosync_eq s v
  rw [slept]
@[simp] theorem vcpuSleepNosync_domPauseCount :
    (s.vcpuSleepNosync v).domPauseCount = s.domPauseCount := by
  obtain ⟨_, _, slept⟩ := vcpuSleepNosync_eq s v
  rw [slept]
@[simp] theorem domainPause_curr (d : Domain) : (s.domainPause d).curr = s.curr :=
  domainPause_rule (fun t => t.curr = s.curr) d rfl fun t v same => by simp [same]
theorem domainPause_domPauseCount (d : Domain) :
    (s.domainPause d).domPauseCount d.domainId = s.domPauseCount d.domainId + 1 :=
  domainPause_rule (fun t => t.domPauseCount d.domainId = s.domPauseCount d.domainId + 1) d
    (by simp) fun t v same => by simp [same]

end Frame

theorem vcpuRunnable_of_domainPaused {s : State} {v : VcpuId}
    (paused : s.domPauseCount v.domain ≠ 0) : s.vcpuRunnable v = false := by
  simp [vcpuRunnable, paused]

theorem notIdle_of_mem_vcpuIds {d : Domain} (busy : d.isIdle = false) {v : VcpuId}
    (listed : v ∈ d.vcpuIds) : v.isIdle = false := by
  rw [VcpuId.isIdle, (Domain.mem_vcpuIds.mp listed).1]
  exact busy

theorem mem_vcpuIds_of_hasVcpu {s : State} (ids : (s.domains.map Domain.domainId).Nodup)
    {d : Domain} (dm : d ∈ s.domains) {w : VcpuId} (has : s.HasVcpu w)
    (same : w.domain = d.domainId) : w ∈ d.vcpuIds := by
  obtain ⟨e, em, listed⟩ := has
  have sameId : e.domainId = d.domainId := (Domain.mem_vcpuIds.mp listed).1.symm.trans same
  rwa [List.inj_on_of_nodup_map ids em dm sameId] at listed

theorem hasVcpu_of_listVcpu {domains : List Domain} {domainId vcpuId : Nat} {w : VcpuId}
    (listed : ∃ f ∈ domains.map (fun e => if e.domainId = domainId then
        { e with vcpus := e.vcpus.insertBefore (fun x => decide (vcpuId < x)) vcpuId } else e),
      w ∈ f.vcpuIds) :
    (∃ e ∈ domains, w ∈ e.vcpuIds) ∨ w = ⟨domainId, vcpuId⟩ := by
  obtain ⟨f, fm, member⟩ := listed
  obtain ⟨e, em, rfl⟩ := List.mem_map.mp fm
  split at member
  · rename_i same
    obtain ⟨sameDomain, inserted⟩ := Domain.mem_vcpuIds.mp member
    rcases List.mem_insertBefore.mp inserted with newVcpu | oldVcpu
    · right
      obtain ⟨domain, vcpu⟩ := w
      dsimp only at sameDomain newVcpu
      rw [sameDomain, same, newVcpu]
    · exact .inl ⟨e, em, Domain.mem_vcpuIds.mpr ⟨sameDomain, oldVcpu⟩⟩
  · exact .inl ⟨e, em, member⟩

theorem hasVcpu_of_relist {domains : List Domain} {d : Domain} (dm : d ∈ domains) (pool : Nat)
    {w : VcpuId}
    (listed : ∃ f ∈ domains.map (fun e => if e.domainId = d.domainId then
        { d with cpupool := pool } else e), w ∈ f.vcpuIds) :
    ∃ e ∈ domains, w ∈ e.vcpuIds := by
  obtain ⟨f, fm, member⟩ := listed
  obtain ⟨e, em, rfl⟩ := List.mem_map.mp fm
  split at member
  · exact ⟨d, dm, member⟩
  · exact ⟨e, em, member⟩

section Rules

variable {s : State} {p : VcpuId → Prop}

theorem Awake.mono (inv : Awake p s) {q : VcpuId → Prop}
    (settled : ∀ w, w.isIdle = false → p w → ¬q w → s.HasVcpu w → s.vcpuRunnable w = true →
      s.vcpuOnQ w = true) : Awake q s := by
  refine ⟨inv.current, fun w notIdle has ran waiting => ?_⟩
  by_cases pend : p w
  · exact settled w notIdle pend waiting has ran
  · exact inv.runnable w notIdle has ran pend

theorem Awake.weaken (inv : Awake p s) {q : VcpuId → Prop} (more : ∀ w, p w → q w) : Awake q s :=
  inv.mono fun w _ pend waiting _ _ => absurd (more w pend) waiting

theorem Awake.settle {q : VcpuId → Prop} (inv : Awake (fun w => p w ∨ q w) s)
    (asleep : ∀ w, q w → s.vcpuRunnable w = false) : Awake p s :=
  inv.mono fun w _ pend waiting _ ran => by
    rw [asleep w (pend.resolve_left waiting)] at ran
    cases ran

theorem Awake.of_links (inv : Awake p s) {t : State} {q : VcpuId → Prop}
    (kept : ∀ w, s.vcpuOnQ w = true → t.vcpuOnQ w = true) (curr : t.curr = s.curr)
    (fresh : ∀ w, t.HasVcpu w → t.vcpuRunnable w = true → ¬q w →
      t.vcpuOnQ w = true ∨ s.HasVcpu w ∧ s.vcpuRunnable w = true ∧ ¬p w) :
    Awake q t := by
  refine ⟨fun cpu notIdle => ?_, fun w notIdle has ran waiting => ?_⟩
  · rw [curr] at notIdle ⊢
    exact kept _ (inv.current cpu notIdle)
  · rcases fresh w has ran waiting with onQ | ⟨had, wasRunnable, notPending⟩
    · exact onQ
    · exact kept w (inv.runnable w notIdle had wasRunnable notPending)

theorem Awake.of_flags (inv : Awake p s) {t : State} {q : VcpuId → Prop} (link : t.link = s.link)
    (curr : t.curr = s.curr) (domains : t.domains = s.domains)
    (runnable : ∀ w, t.vcpuRunnable w = true → ¬q w → s.vcpuRunnable w = true)
    (more : ∀ w, p w → q w) : Awake q t :=
  inv.of_links (fun w onQ => by rw [vcpuOnQ, link]; exact onQ) curr fun w has ran waiting =>
    .inr ⟨has.congr domains.symm, runnable w ran waiting, fun pend => waiting (more w pend)⟩

theorem Awake.of_generic (inv : Awake p s) {t : State} (link : t.link = s.link)
    (curr : t.curr = s.curr) (domains : t.domains = s.domains)
    (runnable : t.vcpuRunnable = s.vcpuRunnable) : Awake p t :=
  inv.of_flags link curr domains (fun w ran _ => by rw [← runnable]; exact ran) fun _ pend => pend

theorem Awake.stop (inv : Awake p s) {t : State} {v : VcpuId} (link : t.link = s.link)
    (curr : t.curr = s.curr) (domains : t.domains = s.domains)
    (others : ∀ w, w ≠ v → t.vcpuRunnable w = s.vcpuRunnable w)
    (asleep : t.vcpuRunnable v = false) : Awake p t := by
  refine inv.of_flags link curr domains (fun w ran _ => ?_) fun _ pend => pend
  have other : w ≠ v := by
    rintro rfl
    rw [asleep] at ran
    cases ran
  rwa [others w other] at ran

theorem Awake.start (inv : Awake p s) {t : State} {v : VcpuId} (link : t.link = s.link)
    (curr : t.curr = s.curr) (domains : t.domains = s.domains)
    (others : ∀ w, w ≠ v → t.vcpuRunnable w = s.vcpuRunnable w) :
    Awake (fun w => p w ∨ w = v) t :=
  inv.of_flags link curr domains (fun w ran pend => by rwa [others w fun same => pend (.inr same)] at ran)
    fun _ pend => .inl pend

theorem Awake.unlink (inv : Awake p s) {t : State} {v : VcpuId}
    (asleep : t.vcpuRunnable v = false) (notCurrent : ∀ cpu, s.curr cpu ≠ v)
    (link : ∀ w, w ≠ v → t.link w = s.link w) (curr : t.curr = s.curr)
    (fresh : ∀ w, w ≠ v → t.HasVcpu w → t.vcpuRunnable w = true →
      s.HasVcpu w ∧ s.vcpuRunnable w = true) : Awake p t := by
  refine ⟨fun cpu notIdle => ?_, fun w notIdle has ran waiting => ?_⟩
  · rw [curr] at notIdle ⊢
    rw [vcpuOnQ, link _ (notCurrent cpu)]
    exact inv.current cpu notIdle
  · have other : w ≠ v := by
      rintro rfl
      rw [asleep] at ran
      cases ran
    obtain ⟨had, wasRunnable⟩ := fresh w other has ran
    rw [vcpuOnQ, link w other]
    exact inv.runnable w notIdle had wasRunnable waiting

end Rules

section Operations

variable {s : State} {p : VcpuId → Prop}

theorem Awake.listDelInit (inv : Awake p s) {v : VcpuId} (asleep : s.vcpuRunnable v = false)
    (notCurrent : ∀ cpu, s.curr cpu ≠ v) : Awake p (s.listDelInit v) :=
  inv.unlink (by rw [listDelInit_vcpuRunnable]; exact asleep) notCurrent
    (fun _ other => listDelInit_link_of_ne s other) (by simp)
    fun _ _ has ran => ⟨has.congr (listDelInit_domains s v).symm, by simpa using ran⟩

theorem Awake.removeFromQueue (inv : Awake p s) {v : VcpuId} (asleep : s.vcpuRunnable v = false)
    (notCurrent : ∀ cpu, s.curr cpu ≠ v) : Awake p (s.removeFromQueue v) := by
  unfold State.removeFromQueue
  split
  · exact inv.listDelInit asleep notCurrent
  · exact inv

theorem Awake.runqInsert (inv : Awake p s) (cpu : Nat) (v : VcpuId)
    (compare : FpVcpu → FpVcpu → Bool) :
    Awake (fun w => p w ∧ w ≠ v) (s.runqInsert cpu v compare) := by
  cases idle : v.isIdle
  · have linked : ∀ w, s.vcpuOnQ w = true ∨ w = v →
        (s.runqInsert cpu v compare).vcpuOnQ w = true := by
      intro w before
      by_cases same : w = v
      · simp [vcpuOnQ, same, runqInsert_link s cpu v compare idle]
      · rw [vcpuOnQ, runqInsert_link_of_ne cpu compare same]
        exact before.resolve_right same
    refine inv.of_links (fun w onQ => linked w (.inl onQ)) (by simp) fun w has ran waiting => ?_
    by_cases same : w = v
    · exact .inl (linked w (.inr same))
    · exact .inr ⟨has.congr (by simp), by simpa using ran, fun pend => waiting ⟨pend, same⟩⟩
  · -- an idle vcpu is never queued, and no wake of it is pending
    have unchanged : s.runqInsert cpu v compare = s := by simp [State.runqInsert, idle]
    rw [unchanged]
    refine inv.mono fun w notIdle pend waiting _ _ => ?_
    rw [not_and_not_right.mp waiting pend, idle] at notIdle
    cases notIdle

theorem Awake.prioHandler (inv : Awake p s) (strategy : Strategy) (d : Domain) (priority : Int) :
    Awake p (State.prioHandler strategy s d priority) :=
  inv.of_generic (by simp) (by simp) (by simp) (by simp)

theorem Awake.fpVcpuWake (inv : Awake p s) (pool : Nat) (v : VcpuId) :
    Awake (fun w => p w ∧ w ≠ v) (s.fpVcpuWake pool v) := by
  have alone : s.curr (s.processor v) = v ∨ v.isIdle = true ∨ s.vcpuOnQ v = true →
      Awake (fun w => p w ∧ w ≠ v) s := by
    intro found
    refine inv.mono fun w notIdle pend waiting _ _ => ?_
    rw [not_and_not_right.mp waiting pend] at notIdle ⊢
    rcases found with current | idle | onQ
    · -- the current vcpu is linked
      have linked := inv.current (s.processor v) (by rw [current]; exact notIdle)
      rwa [current] at linked
    · rw [idle] at notIdle
      cases notIdle
    · exact onQ
  unfold State.fpVcpuWake
  split
  · exact alone (.inl ‹_›)
  split
  · exact alone (.inr (.inl ‹_›))
  split
  · exact alone (.inr (.inr ‹_›))
  have inserted := inv.runqInsert (s.processor v) v (s.strategy pool).compare
  dsimp only
  split
  · exact inserted.prioHandler _ _ _
  · exact inserted

theorem Awake.vcpuWake (inv : Awake p s) (v : VcpuId) :
    Awake (fun w => p w ∧ w ≠ v) (s.vcpuWake v) := by
  unfold State.vcpuWake
  split
  · exact inv.fpVcpuWake _ v
  · rename_i asleep
    refine inv.mono fun w _ pend waiting _ ran => ?_
    rw [not_and_not_right.mp waiting pend] at ran
    exact absurd ran asleep

theorem Awake.vcpuWake_pending {v : VcpuId} (inv : Awake (fun w => p w ∨ w = v) s) :
    Awake p (s.vcpuWake v) :=
  (inv.vcpuWake v).weaken fun _ pend => pend.1.resolve_right pend.2

theorem Awake.vcpuSleepNosync (inv : Awake p s) (home : ∀ cpu, s.processor (s.curr cpu) = cpu)
    (v : VcpuId) : Awake p (s.vcpuSleepNosync v) := by
  unfold State.vcpuSleepNosync State.fpSleep
  split
  · rename_i asleep
    split
    · exact inv
    split
    · exact inv
    split
    · rename_i notIdle away _
      have notCurrent : ∀ cpu, s.curr cpu ≠ v := fun cpu current =>
        away (by rw [← current, home cpu])
      unfold State.runqRemove
      rw [if_neg notIdle]
      exact inv.listDelInit (by simpa using asleep) notCurrent
    · exact inv
  · exact inv

theorem Awake.vcpuMigrate (inv : Awake p s) (v : VcpuId) : Awake p (s.vcpuMigrate v) := by
  unfold State.vcpuMigrate
  dsimp only
  split
  · exact inv
  · refine Awake.vcpuWake_pending (inv.start rfl rfl rfl fun w other => ?_)
    simp [setMigrating, vcpuRunnable, Function.update_of_ne other]

theorem Awake.vcpuPauseNosync (inv : Awake p s) (home : ∀ cpu, s.processor (s.curr cpu) = cpu)
    (v : VcpuId) : Awake p (s.vcpuPauseNosync v) := by
  have counted : Awake p
      { s with pauseCount := Function.update s.pauseCount v (s.pauseCount v + 1) } :=
    inv.stop (v := v) rfl rfl rfl
      (fun w other => by simp [vcpuRunnable, Function.update_of_ne other]) (by simp [vcpuRunnable])
  exact counted.vcpuSleepNosync home v

theorem Awake.vcpuUnpause (inv : Awake p s) (v : VcpuId) : Awake p (s.vcpuUnpause v) := by
  unfold State.vcpuUnpause
  dsimp only
  have counted : Awake (fun w => p w ∨ w = v)
      { s with pauseCount := Function.update s.pauseCount v (s.pauseCount v - 1) } :=
    inv.start rfl rfl rfl fun w other => by simp [vcpuRunnable, Function.update_of_ne other]
  split
  · exact counted.vcpuWake_pending
  · -- still paused: `v` may not run
    rename_i paused
    have stillPaused : s.pauseCount v - 1 ≠ 0 := by simpa using paused
    exact counted.settle fun w same => by simp [vcpuRunnable, same, stillPaused]

theorem Awake.vcpuBlock (inv : Awake p s) (v : VcpuId) : Awake p (s.vcpuBlock v) :=
  inv.stop (v := v) rfl rfl rfl
    (fun w other => by simp [State.vcpuBlock, vcpuRunnable, Function.update_of_ne other])
    (by simp [State.vcpuBlock, vcpuRunnable])

theorem Awake.setPauseFlags_vcpuWake (inv : Awake p s) (v : VcpuId) (flags : PauseFlags) :
    Awake p ({ s with pauseFlags := Function.update s.pauseFlags v flags }.vcpuWake v) :=
  Awake.vcpuWake_pending
    (inv.start rfl rfl rfl fun w other => by simp [vcpuRunnable, Function.update_of_ne other])

theorem Awake.vcpuUnblock (inv : Awake p s) (v : VcpuId) : Awake p (s.vcpuUnblock v) := by
  unfold State.vcpuUnblock
  split
  · exact inv.setPauseFlags_vcpuWake v _
  · exact inv

theorem Awake.vcpuUp (inv : Awake p s) (v : VcpuId) : Awake p (s.vcpuUp v) := by
  unfold State.vcpuUp
  split
  · exact inv.setPauseFlags_vcpuWake v _
  · exact inv

theorem Awake.vcpuDown (inv : Awake p s) (home : ∀ cpu, s.processor (s.curr cpu) = cpu)
    (v : VcpuId) : Awake p (s.vcpuDown v) := by
  unfold State.vcpuDown
  split
  · exact inv
  · have down : Awake p { s with
        pauseFlags := Function.update s.pauseFlags v { s.pauseFlags v with down := true } } :=
      inv.stop (v := v) rfl rfl rfl
        (fun w other => by simp [vcpuRunnable, Function.update_of_ne other]) (by simp [vcpuRunnable])
    exact down.vcpuSleepNosync home v

theorem Awake.domainPause (inv : Awake p s) (home : ∀ cpu, s.processor (s.curr cpu) = cpu)
    (d : Domain) : Awake p (s.domainPause d) := by
  have counted : Awake p { s with
      domPauseCount := Function.update s.domPauseCount d.domainId
        (s.domPauseCount d.domainId + 1) } := by
    refine inv.of_flags rfl rfl rfl (fun w ran _ => ?_) fun _ pend => pend
    have other : w.domain ≠ d.domainId := by
      intro same
      simp [vcpuRunnable, same] at ran
    simpa [vcpuRunnable, Function.update_of_ne other] using ran
  exact (domainPause_rule (fun t => Awake p t ∧ ∀ cpu, t.processor (t.curr cpu) = cpu) d
    ⟨counted, home⟩ fun t v kept => ⟨kept.1.vcpuSleepNosync kept.2 v, by simpa using kept.2⟩).1

theorem Awake.vcpuWakeAll {d : Domain} (inv : Awake (fun w => p w ∨ w.domain = d.domainId) s) :
    Awake (fun w => p w ∨ w.domain = d.domainId ∧ w ∉ d.vcpuIds) (d.vcpuIds.foldl State.vcpuWake s) ∧
      (d.vcpuIds.foldl State.vcpuWake s).domains = s.domains := by
  refine List.foldl_prefix_induction (motive := fun done (t : State) =>
    Awake (fun w => p w ∨ w.domain = d.domainId ∧ w ∉ done) t ∧ t.domains = s.domains)
    ⟨inv.weaken fun w pend => pend.imp_right fun same => ⟨same, List.not_mem_nil⟩, rfl⟩ ?_
  intro done v rest _ t before
  refine ⟨(before.1.vcpuWake v).weaken fun w pend => ?_, by rw [vcpuWake_domains, before.2]⟩
  exact pend.1.imp_right fun waiting => ⟨waiting.1, by simp [waiting.2, pend.2]⟩

theorem Awake.domainUnpause (inv : Awake p s) (ids : (s.domains.map Domain.domainId).Nodup)
    {d : Domain} (dm : d ∈ s.domains) : Awake p (s.domainUnpause d) := by
  unfold State.domainUnpause
  dsimp only
  -- the lower count may let every vcpu of the domain run, until its wake
  have counted : Awake (fun w => p w ∨ w.domain = d.domainId) { s with
      domPauseCount := Function.update s.domPauseCount d.domainId
        (s.domPauseCount d.domainId - 1) } := by
    refine inv.of_flags rfl rfl rfl (fun w ran pend => ?_) fun _ pend => .inl pend
    have other : w.domain ≠ d.domainId := fun same => pend (.inr same)
    simpa [vcpuRunnable, Function.update_of_ne other] using ran
  split
  · obtain ⟨woken, same⟩ := counted.vcpuWakeAll
    refine woken.mono fun w _ pend waiting has _ => ?_
    obtain ⟨sameDomain, unlisted⟩ := pend.resolve_left waiting
    exact absurd (mem_vcpuIds_of_hasVcpu ids dm (has.congr same.symm) sameDomain) unlisted
  · -- still paused: no vcpu of the domain may run
    rename_i paused
    exact counted.settle fun w same => vcpuRunnable_of_domainPaused (by rw [same]; exact paused)

theorem Awake.setCurr (inv : Awake p s) (cpu : Nat) {next : VcpuId}
    (queued : next.isIdle = false → s.vcpuOnQ next = true) :
    Awake p { s with curr := Function.update s.curr cpu next } := by
  refine ⟨fun c notIdle => ?_, inv.runnable⟩
  by_cases here : c = cpu
  · subst here
    simp only [Function.update_self] at notIdle ⊢
    exact queued notIdle
  · simp only [Function.update_of_ne here] at notIdle ⊢
    exact inv.current c notIdle

theorem Awake.contextSaved (inv : Awake p s) (prev : VcpuId) : Awake p (s.contextSaved prev) := by
  unfold State.contextSaved
  dsimp only
  have saved : Awake p { s with isRunning := Function.update s.isRunning prev false } :=
    inv.of_generic rfl rfl rfl rfl
  split
  · exact saved.vcpuMigrate prev
  · exact saved

theorem Awake.schedule (inv : Awake p s) (linked : s.Linked) (cpu : Nat) (now : Int)
    (taskletWorkScheduled : Bool) : Awake p (s.schedule cpu now taskletWorkScheduled) := by
  have recharged := recharged_fpDoSchedule s cpu now taskletWorkScheduled
  have task := fpDoSchedule_task s cpu now taskletWorkScheduled
  unfold State.schedule
  generalize s.fpDoSchedule cpu now taskletWorkScheduled = out at recharged task ⊢
  obtain ⟨t, slice⟩ := out
  obtain ⟨fpVcpu, rfl, -⟩ := recharged
  dsimp only at task ⊢
  have switched : Awake p { s with
      fpVcpu := fpVcpu
      curr := Function.update s.curr cpu slice.task } := by
    refine (inv.of_generic (t := { s with fpVcpu := fpVcpu }) rfl rfl rfl rfl).setCurr cpu
      fun notIdle => ?_
    rcases task with idle | queued
    · rw [idle, idleVcpu_isIdle] at notIdle
      cases notIdle
    · show (s.link slice.task).isSome = true
      rw [(linked.mem_iff _ cpu).mp queued]
      rfl
  split
  · exact switched
  · refine Awake.contextSaved ?_ _
    exact switched.of_generic rfl rfl rfl rfl

theorem Awake.vcpuSetHardAffinity (inv : Awake p s) (home : ∀ cpu, s.processor (s.curr cpu) = cpu)
    (v : VcpuId) (affinity : List Nat) : Awake p (s.vcpuSetHardAffinity v affinity).1 := by
  unfold State.vcpuSetHardAffinity
  split
  · exact inv
  dsimp only
  have marked : Awake p { s.setMigrating v true with
      hardAffinity := Function.update s.hardAffinity v affinity } :=
    inv.stop (v := v) rfl rfl rfl
      (fun w other => by simp [setMigrating, vcpuRunnable, Function.update_of_ne other])
      (by simp [setMigrating, vcpuRunnable])
  exact (marked.vcpuSleepNosync home v).vcpuMigrate v

theorem Awake.fpReinsertsortVcpu (inv : Awake p s) {v : VcpuId} (notIdle : v.isIdle = false)
    (compare : FpVcpu → FpVcpu → Bool) : Awake p (s.fpReinsertsortVcpu v compare) := by
  refine inv.of_links (fun w onQ => ?_) (by simp [State.fpReinsertsortVcpu]) fun w has ran waiting =>
    .inr ⟨has.congr (by simp [State.fpReinsertsortVcpu]),
      by simpa [State.fpReinsertsortVcpu] using ran, waiting⟩
  unfold State.fpReinsertsortVcpu
  rw [vcpuOnQ, runqInsert_link _ _ _ _ notIdle]
  by_cases same : w = v
  · simp [same]
  · rw [Function.update_of_ne same, removeFromQueue_link_of_ne _ same]
    exact onQ

theorem Awake.fpSchedSetVmPrio (inv : Awake p s) (pool : Nat) (d : Domain) (prio : Int) :
    Awake p (s.fpSchedSetVmPrio pool d prio) := by
  unfold State.fpSchedSetVmPrio
  split
  · exact inv.of_generic rfl rfl rfl rfl
  split
  · exact inv.of_generic rfl rfl rfl rfl
  rename_i busy
  refine List.foldlRecOn (motive := Awake p) _ _ inv ?_
  intro t kept v listed
  exact (kept.prioHandler _ d prio).fpReinsertsortVcpu
    (notIdle_of_mem_vcpuIds (by simpa using busy) listed) _

theorem Awake.setVmPrioAll (inv : Awake p s) (pool : Nat) (skip : Nat → Bool) :
    Awake p (s.setVmPrioAll pool skip) := by
  unfold State.setVmPrioAll
  refine List.foldlRecOn (motive := Awake p) _ _ inv ?_
  intro t kept q _
  refine List.foldlRecOn (motive := Awake p) _ _ kept ?_
  intro u alsoKept d _
  split
  · exact alsoKept
  · exact alsoKept.fpSchedSetVmPrio pool d _

theorem Awake.fpAdjust (inv : Awake p s) (pool : Nat) (d : Domain) (cmd : DomctlCmd) :
    Awake p (s.fpAdjust pool d cmd).1 := by
  cases cmd with
  | getinfo => exact inv
  | putinfo op =>
      rw [fpAdjust_putinfo_eq]
      obtain ⟨fpDom, fpVcpu, stored, -, -⟩ := retimed_putDomainParams s pool d op
      have storedInv : Awake p (s.putDomainParams pool d op) := by
        rw [stored]
        exact inv.of_generic rfl rfl rfl rfl
      dsimp only
      refine Awake.setVmPrioAll ?_ pool _
      split
      · exact storedInv.fpSchedSetVmPrio pool d _
      · exact storedInv

theorem Awake.fpAdjustGlobal (inv : Awake p s) (pool : Nat) (cmd : SysctlCmd) :
    Awake p (s.fpAdjustGlobal pool cmd).1 := by
  unfold State.fpAdjustGlobal
  cases cmd with
  | getinfo =>
      dsimp only
      exact inv.setVmPrioAll pool _
  | putinfo strategy =>
      dsimp only
      unfold fpSchedSet
      split
      · exact inv.setVmPrioAll pool _
      · refine Awake.setVmPrioAll ?_ pool _
        exact inv.of_generic rfl rfl rfl rfl

theorem Awake.allocVcpu (inv : Awake p s) (safe : QueueSafe s) {domainId vcpuId processor : Nat}
    {now : Int} {d : Domain} (found : s.domainOf domainId = some d)
    (fresh : s.vcpuExists ⟨domainId, vcpuId⟩ = false) :
    Awake p (s.allocVcpu domainId vcpuId processor now) := by
  have notCurrent := safe.not_curr_of_fresh found fresh
  unfold State.allocVcpu
  dsimp only
  rw [schedInitVcpu_of_not_runnable (by simp [vcpuRunnable])]
  refine inv.unlink (v := ⟨domainId, vcpuId⟩) (by simp [vcpuRunnable]) notCurrent
    (fun w other => by simp [Function.update_of_ne other]) rfl
    fun w other has ran => ⟨?_, by simpa [vcpuRunnable, Function.update_of_ne other] using ran⟩
  rcases hasVcpu_of_listVcpu has with old | new
  · exact old
  · exact absurd new other

theorem Awake.domainCreate (inv : Awake p s) (domainId pool : Nat) :
    Awake p (s.domainCreate domainId pool) := by
  obtain ⟨fpDom, created⟩ := domainCreate_eq s domainId pool
  rw [created]
  refine inv.of_links (fun w onQ => onQ) rfl fun w has ran waiting => .inr ⟨?_, ran, waiting⟩
  obtain ⟨e, em, listed⟩ := has
  rcases List.mem_insertBefore.mp em with rfl | old
  · simp [Domain.vcpuIds] at listed
  · exact ⟨e, old, listed⟩

theorem Awake.installVcpu (inv : Awake p s) {v : VcpuId} (asleep : s.vcpuRunnable v = false)
    (notCurrent : ∀ cpu, s.curr cpu ≠ v) (record : FpVcpu) : Awake p (s.installVcpu v record) :=
  inv.unlink asleep notCurrent (fun w other => by simp [State.installVcpu, Function.update_of_ne other])
    rfl fun w _ has ran => ⟨has, ran⟩

theorem vcpuRunnable_of_listed {t : State} {d : Domain} (count : t.domPauseCount d.domainId ≠ 0)
    {v : VcpuId} (listed : v ∈ d.vcpuIds) : t.vcpuRunnable v = false :=
  vcpuRunnable_of_domainPaused (by rw [(Domain.mem_vcpuIds.mp listed).1]; exact count)

theorem Awake.removeVcpus (inv : Awake p s) (home : ∀ cpu, s.processor (s.curr cpu) = cpu)
    {d : Domain} (away : ∀ cpu, s.curr cpu ∉ d.vcpuIds) :
    Awake p (d.vcpuIds.foldl fpVcpuRemove (s.domainPause d)) ∧
      (d.vcpuIds.foldl fpVcpuRemove (s.domainPause d)).curr = s.curr ∧
      (d.vcpuIds.foldl fpVcpuRemove (s.domainPause d)).domains = s.domains ∧
      (d.vcpuIds.foldl fpVcpuRemove (s.domainPause d)).domPauseCount d.domainId ≠ 0 := by
  refine List.foldlRecOn (motive := fun t : State => Awake p t ∧ t.curr = s.curr ∧
    t.domains = s.domains ∧ t.domPauseCount d.domainId ≠ 0) _ _
    ⟨inv.domainPause home d, domainPause_curr s d, domainPause_domains s d,
      by rw [domainPause_domPauseCount]; exact Nat.succ_ne_zero _⟩ ?_
  intro t kept v listed
  obtain ⟨awake, curr, domains, count⟩ := kept
  have notCurrent : ∀ cpu, t.curr cpu ≠ v :=
    fun cpu current => away cpu (by rw [← curr, current]; exact listed)
  exact ⟨awake.removeFromQueue (vcpuRunnable_of_listed count listed) notCurrent,
    by rw [fpVcpuRemove, removeFromQueue_curr, curr],
    by rw [fpVcpuRemove, removeFromQueue_domains, domains],
    by rwa [fpVcpuRemove, removeFromQueue_domPauseCount]⟩

theorem Awake.schedMoveDomain (inv : Awake p s) (safe : QueueSafe s)
    (home : ∀ cpu, s.processor (s.curr cpu) = cpu) {d : Domain} (dm : d ∈ s.domains)
    (away : ∀ cpu, s.curr cpu ∉ d.vcpuIds) (pool : Nat) (now : Int) :
    Awake p (s.schedMoveDomain d pool now) := by
  have removed := inv.removeVcpus home away
  unfold State.schedMoveDomain
  dsimp +zetaHave only
  generalize d.vcpuIds.foldl fpVcpuRemove (s.domainPause d) = u at removed ⊢
  obtain ⟨removedAwake, uCurr, uDomains, uCount⟩ := removed
  let moved : Domain := { d with cpupool := pool }
  let relisted : State := { u.setFpDom d.domainId fpAllocDomdata with
    domains := u.domains.map fun e => if e.domainId = d.domainId then moved else e }
  have relistedAwake : Awake p relisted :=
    removedAwake.of_links (fun w onQ => onQ) rfl fun w has ran waiting =>
      .inr ⟨hasVcpu_of_relist (by rw [uDomains]; exact dm) pool has, ran, waiting⟩
  have movedListed : moved ∈ relisted.domains := by
    show moved ∈ u.domains.map _
    refine List.mem_map.mpr ⟨d, by rw [uDomains]; exact dm, ?_⟩
    simp
  have ids : (relisted.domains.map Domain.domainId).Nodup := by
    show ((u.domains.map _).map Domain.domainId).Nodup
    rw [map_domainId_relist, uDomains]
    exact safe.trapFree.ids
  -- the placement loop: each vcpu gets a fresh record and, paused, stays off the queues
  have placed := List.foldlRecOn (motive := fun acc : State × Nat => Awake p acc.1 ∧
      acc.1.curr = s.curr ∧ acc.1.domains = relisted.domains ∧
      acc.1.domPauseCount d.domainId ≠ 0) d.vcpuIds
    (fun (acc : State × Nat) v =>
      (({ acc.1 with
          processor := Function.update acc.1.processor v acc.2
          hardAffinity := Function.update acc.1.hardAffinity v (List.range acc.1.nrCpuIds) }.installVcpu
          v (fpAllocVdata (s.schedPriv d.domainId) v now)).fpInsertVcpu pool v,
        cpumaskCycle acc.1.nrCpuIds acc.2 (relisted.poolCpus pool)))
    (b := (relisted, (relisted.poolCpus pool).min?.getD relisted.nrCpuIds))
    ⟨relistedAwake, uCurr, rfl, uCount⟩ fun acc kept v listed => by
      obtain ⟨awake, curr, domains, count⟩ := kept
      let positioned : State := { acc.1 with
        processor := Function.update acc.1.processor v acc.2
        hardAffinity := Function.update acc.1.hardAffinity v (List.range acc.1.nrCpuIds) }
      have asleep : (positioned.installVcpu v (fpAllocVdata (s.schedPriv d.domainId) v now)).vcpuRunnable
          v = false := vcpuRunnable_of_listed count listed
      have notCurrent : ∀ cpu, positioned.curr cpu ≠ v :=
        fun cpu current => away cpu (by rw [← curr, show acc.1.curr cpu = v from current]; exact listed)
      dsimp only
      rw [fpInsertVcpu_of_not_runnable asleep]
      exact ⟨((awake.of_generic (t := positioned) rfl rfl rfl rfl).installVcpu
        (vcpuRunnable_of_listed count listed) notCurrent _), curr, domains, count⟩
  exact placed.1.domainUnpause (by rw [placed.2.2.1]; exact ids) (by rw [placed.2.2.1]; exact movedListed)

theorem Awake.cpupoolMoveDomain (inv : Awake p s) (safe : QueueSafe s)
    (home : ∀ cpu, s.processor (s.curr cpu) = cpu) {d : Domain} (dm : d ∈ s.domains)
    (away : ∀ cpu, s.curr cpu ∉ d.vcpuIds) (pool : Nat) (now : Int) :
    Awake p (s.cpupoolMoveDomain d pool now) := by
  unfold State.cpupoolMoveDomain
  split
  · exact inv
  · exact inv.schedMoveDomain safe home dm away pool now

end Operations

section Step

variable {s : State} {p : VcpuId → Prop}

theorem Awake.step (inv : Awake p s) (placed : Placed s) (safe : QueueSafe s) (event : Event)
    (calm : s.quiet event = true) (kept : ∀ v, event ≠ .destroyVcpu v) :
    Awake p (s.step event) := by
  cases event with
  | domainCreate domainId pool =>
      simp only [State.step]
      split
      · exact inv.domainCreate domainId pool
      · exact inv
  | allocVcpu domainId vcpuId processor now =>
      simp only [State.step]
      split
      · rename_i guard
        simp only [Bool.and_eq_true, Bool.not_eq_true'] at guard
        obtain ⟨d, found⟩ := Option.isSome_iff_exists.mp guard.1
        exact inv.allocVcpu safe found guard.2
      · exact inv
  | vcpuUp v =>
      apply withVcpu_rule (Awake p) inv
      exact fun _ => inv.vcpuUp v
  | vcpuDown v =>
      apply withVcpu_rule (Awake p) inv
      exact fun _ => inv.vcpuDown placed.current v
  | vcpuPauseNosync v =>
      apply withVcpu_rule (Awake p) inv
      exact fun _ => inv.vcpuPauseNosync placed.current v
  | vcpuUnpause v =>
      apply withVcpu_rule (Awake p) inv
      exact fun _ => inv.vcpuUnpause v
  | vcpuBlock v =>
      apply withVcpu_rule (Awake p) inv
      exact fun _ => inv.vcpuBlock v
  | vcpuUnblock v =>
      apply withVcpu_rule (Awake p) inv
      exact fun _ => inv.vcpuUnblock v
  | domainPause id =>
      apply withDomain_rule (Awake p) inv
      exact fun d _ => inv.domainPause placed.current d
  | domainUnpause id =>
      apply withDomain_rule (Awake p) inv
      exact fun d dm => inv.domainUnpause safe.trapFree.ids dm
  | setHardAffinity v affinity =>
      apply withVcpu_rule (Awake p) inv
      exact fun _ => inv.vcpuSetHardAffinity placed.current v affinity
  | schedule cpu now tasklet => exact inv.schedule safe.linked cpu now tasklet
  | adjust id cmd =>
      apply withDomain_rule (Awake p) inv
      exact fun d _ => inv.fpAdjust d.cpupool d cmd
  | adjustGlobal pool cmd =>
      simp only [State.step]
      split
      · exact inv.fpAdjustGlobal pool cmd
      · exact inv
  | moveDomain id pool now =>
      simp only [State.step]
      split
      · unfold withDomain
        cases found : s.domainOf id with
        | none => exact inv
        | some d =>
            -- the one event whose quietness matters: no vcpu of the domain runs
            have stopped : ∀ v ∈ d.vcpuIds, s.isRunning v = false := by
              simpa [quiet, found] using calm
            exact inv.cpupoolMoveDomain safe placed.current (domainOf_some found).1
              (fun cpu listed => placed.not_curr (stopped _ listed) cpu rfl) pool now
      · exact inv
  | destroyVcpu v => exact absurd rfl (kept v)

theorem Awake.run (inv : Awake p s) (placed : Placed s) (safe : QueueSafe s) {events : List Event}
    (calm : s.quietRun events = true) (kept : ∀ v, Event.destroyVcpu v ∉ events) :
    Awake p (s.run events) := by
  induction events generalizing s with
  | nil => exact inv
  | cons event rest ih =>
      simp only [quietRun, Bool.and_eq_true] at calm
      rw [run_cons]
      refine ih (inv.step placed safe event calm.1 fun v same => kept v ?_)
        (placed.step safe event calm.1) (safe.step event) calm.2
        fun v later => kept v (List.mem_cons_of_mem event later)
      rw [same]
      exact List.mem_cons_self

theorem awake_boot (nrCpuIds : Nat) (pools : List Nat) (poolCpus : Nat → List Nat)
    (cpuPool : Nat → Nat) : Awake p (State.boot nrCpuIds pools poolCpus cpuPool) := by
  refine ⟨fun cpu notIdle => ?_, fun v _ has _ _ => ?_⟩
  · simp [boot] at notIdle
  · obtain ⟨d, dm, _⟩ := has
    simp [boot] at dm

theorem Awake.mem_runq (inv : Awake (fun _ => False) s) (placed : Placed s) (safe : QueueSafe s)
    {v : VcpuId} (has : s.HasVcpu v) (ran : s.vcpuRunnable v = true) :
    v ∈ s.runq (s.processor v) := by
  have onQ := inv.runnable v (safe.table.notIdle has) has ran not_false
  obtain ⟨cpu, linkedOn⟩ := Option.isSome_iff_exists.mp onQ
  have queued := (safe.linked.mem_iff v cpu).mpr linkedOn
  rw [placed.queued v cpu queued]
  exact queued

end Step

theorem QueueSafe.slice_used_of_idle {s : State} (safe : QueueSafe s) {cpu : Nat} {now : Int}
    (idle : (s.fpDoSchedule cpu now false).2.task = idleVcpu cpu) {v : VcpuId}
    (queued : v ∈ s.runq cpu) (ran : s.vcpuRunnable v = true) :
    (((s.chargeCurrent cpu now).updateQueue now cpu).fpVcpu v).slice ≤
      (((s.chargeCurrent cpu now).updateQueue now cpu).fpVcpu v).cputime := by
  have recharged := (recharged_chargeCurrent s cpu now).trans
    (recharged_updateQueue (s.chargeCurrent cpu now) now cpu)
  rw [fpDoSchedule_eq] at idle
  dsimp only at idle
  generalize (s.chargeCurrent cpu now).updateQueue now cpu = t at recharged idle ⊢
  obtain ⟨fpVcpu, rfl, -⟩ := recharged
  split at idle
  · rename_i w found
    have listed := safe.queued w cpu (by simpa using List.mem_of_find?_eq_some found)
    have notIdle := safe.table.notIdle listed
    simp only [Bool.false_eq_true, if_false] at idle
    rw [idle, idleVcpu_isIdle] at notIdle
    cases notIdle
  · rename_i missing
    have notEligible := List.find?_eq_none.mp missing v queued
    have stillRunnable : ({ s with fpVcpu := fpVcpu } : State).vcpuRunnable v = true := ran
    simpa [eligible, stillRunnable] using notEligible

end State

/-- On any host, along any quiet run in which no vcpu is destroyed, no wake-up is
lost: every vcpu the host has allocated that may run waits on the queue of its own
processor.  So `fp_do_schedule` with no tasklet work gives a cpu its idle vcpu only
when each vcpu that may run there has used up its slice. -/
theorem runnable_vcpus_stay_queued (nrCpuIds : Nat) (pools : List Nat)
    (poolCpus : Nat → List Nat) (cpuPool : Nat → Nat) (events : List Event)
    (calm : (State.boot nrCpuIds pools poolCpus cpuPool).quietRun events = true)
    (kept : ∀ v, Event.destroyVcpu v ∉ events) :
    let s : State := (State.boot nrCpuIds pools poolCpus cpuPool).run events
    (∀ v, s.vcpuExists v = true → s.vcpuRunnable v = true → v ∈ s.runq (s.processor v)) ∧
      ∀ cpu now, (s.fpDoSchedule cpu now false).2.task = idleVcpu cpu →
        ∀ v, s.vcpuExists v = true → s.vcpuRunnable v = true → s.processor v = cpu →
          (((s.chargeCurrent cpu now).updateQueue now cpu).fpVcpu v).slice ≤
            (((s.chargeCurrent cpu now).updateQueue now cpu).fpVcpu v).cputime := by
  intro s
  have safe : s.QueueSafe := State.queueSafe_run nrCpuIds pools poolCpus cpuPool events
  have placed : s.Placed := (State.placed_boot nrCpuIds pools poolCpus cpuPool).run
    (State.queueSafe_boot nrCpuIds pools poolCpus cpuPool) calm
  have awake : s.Awake fun _ => False := (State.awake_boot nrCpuIds pools poolCpus cpuPool).run
    (State.placed_boot nrCpuIds pools poolCpus cpuPool)
    (State.queueSafe_boot nrCpuIds pools poolCpus cpuPool) calm kept
  have queued : ∀ v, s.vcpuExists v = true → s.vcpuRunnable v = true →
      v ∈ s.runq (s.processor v) :=
    fun v allocated ran => awake.mem_runq placed safe (State.hasVcpu_of_vcpuExists allocated) ran
  refine ⟨queued, fun cpu now idle v allocated ran here => ?_⟩
  have onCpu := queued v allocated ran
  rw [here] at onCpu
  exact safe.slice_used_of_idle idle onCpu ran

theorem pause_pin_move_stays_queued :
    let events : List Event := [.domainCreate 1 0, .allocVcpu 1 0 0 0, .vcpuUp ⟨1, 0⟩,
      .schedule 0 0 false, .vcpuPauseNosync ⟨1, 0⟩, .schedule 0 10 false, .vcpuUnpause ⟨1, 0⟩,
      .domainPause 1, .domainUnpause 1, .schedule 0 100 true, .setHardAffinity ⟨1, 0⟩ [0],
      .moveDomain 1 1 200]
    (State.boot 2 [0, 1] (fun p => [p]) (fun c => c)).quietRun events = true ∧
      (∀ v, Event.destroyVcpu v ∉ events) ∧
      let s : State := (State.boot 2 [0, 1] (fun p => [p]) (fun c => c)).run events
      (∀ v, s.vcpuExists v = true → s.vcpuRunnable v = true → v ∈ s.runq (s.processor v)) ∧
        ∀ cpu now, (s.fpDoSchedule cpu now false).2.task = idleVcpu cpu →
          ∀ v, s.vcpuExists v = true → s.vcpuRunnable v = true → s.processor v = cpu →
            (((s.chargeCurrent cpu now).updateQueue now cpu).fpVcpu v).slice ≤
              (((s.chargeCurrent cpu now).updateQueue now cpu).fpVcpu v).cputime :=
  ⟨by decide +kernel, by simp,
    runnable_vcpus_stay_queued 2 [0, 1] (fun p => [p]) (fun c => c) _ (by decide +kernel) (by simp)⟩

end CpsXen

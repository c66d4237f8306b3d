import CpsXen.Sched.Generic

/-!
The re-sorting pass that ends `fp_adjust` and `fp_adjust_global`, on a host whose
only FP cpupool holds no dom0.  The pass takes each vcpu off its queue and
inserts it again with the pool's compare function, after running the pool's
priority handler on its domain.  `PassInv` is what holds between two
re-insertions: every queue is sorted up to each vcpu re-inserted so far, and
every queued vcpu has been re-inserted or is still to come.  A pass starts with
nothing re-inserted, so the handler may move keys at will before the first
re-insertion, and it ends with every queued vcpu re-inserted: every queue sorted.
-/

namespace CpsXen

namespace State

def HasVcpu (s : State) (v : VcpuId) : Prop := ∃ d ∈ s.domains, v ∈ d.vcpuIds

section Lookup

variable {s : State} (ids : (s.domains.map Domain.domainId).Nodup)
include ids

theorem domainOf_of_mem {d : Domain} (dm : d ∈ s.domains) : s.domainOf d.domainId = some d := by
  cases found : s.domainOf d.domainId with
  | none => exact absurd rfl (domainOf_none found d dm)
  | some e =>
      obtain ⟨em, same⟩ := domainOf_some found
      rw [List.inj_on_of_nodup_map ids em dm same]

theorem domainOf_of_hasVcpu {v : VcpuId} (has : s.HasVcpu v) :
    ∃ d, s.domainOf v.domain = some d ∧ v ∈ d.vcpuIds := by
  obtain ⟨d, dm, listed⟩ := has
  refine ⟨d, ?_, listed⟩
  rw [(Domain.mem_vcpuIds.mp listed).1]
  exact domainOf_of_mem ids dm

theorem nodup_ids_insertBefore {created : Domain} (fresh : s.domainOf created.domainId = none)
    (p : Domain → Bool) : ((s.domains.insertBefore p created).map Domain.domainId).Nodup := by
  have freshId : created.domainId ∉ s.domains.map Domain.domainId := by
    simpa using domainOf_none fresh
  exact ((List.insertBefore_perm p created s.domains).map Domain.domainId).nodup_iff.mpr
    (List.nodup_cons.mpr ⟨freshId, ids⟩)

end Lookup

section Listing

variable (domainId vcpuId : Nat)

theorem map_domainId_listVcpu (domains : List Domain) :
    (domains.map fun e => if e.domainId = domainId then
        { e with vcpus := e.vcpus.insertBefore (fun x => decide (vcpuId < x)) vcpuId } else e).map
      Domain.domainId = domains.map Domain.domainId := by
  rw [List.map_map]
  refine List.map_congr_left fun e _ => ?_
  simp only [Function.comp_apply]
  split <;> rfl

theorem mem_vcpuIds_listVcpu {domains : List Domain} {v : VcpuId} {e : Domain}
    (em : e ∈ domains) (listed : v ∈ e.vcpuIds) :
    ∃ f ∈ domains.map (fun e => if e.domainId = domainId then
        { e with vcpus := e.vcpus.insertBefore (fun x => decide (vcpuId < x)) vcpuId } else e),
      v ∈ f.vcpuIds := by
  refine ⟨_, List.mem_map_of_mem em, ?_⟩
  rw [Domain.mem_vcpuIds] at listed ⊢
  split <;> simp [listed]

end Listing

section Relisting

variable (d : Domain) (pool : Nat)

theorem map_domainId_relist (domains : List Domain) :
    (domains.map fun e => if e.domainId = d.domainId then { d with cpupool := pool } else e).map
      Domain.domainId = domains.map Domain.domainId := by
  rw [List.map_map]
  refine List.map_congr_left fun e _ => ?_
  simp only [Function.comp_apply]
  split
  · rename_i same
    exact same.symm
  · rfl

theorem mem_vcpuIds_relist {domains : List Domain} (ids : (domains.map Domain.domainId).Nodup)
    (dm : d ∈ domains) {v : VcpuId} {e : Domain} (em : e ∈ domains) (listed : v ∈ e.vcpuIds) :
    ∃ f ∈ domains.map (fun e => if e.domainId = d.domainId then { d with cpupool := pool } else e),
      v ∈ f.vcpuIds := by
  refine ⟨_, List.mem_map_of_mem em, ?_⟩
  split
  · rename_i same
    rw [List.inj_on_of_nodup_map ids em dm same] at listed
    exact listed
  · exact listed

end Relisting

section Rules

variable (P : State → Prop) {s : State}

theorem domainPause_rule (d : Domain)
    (counted : P { s with
      domPauseCount := Function.update s.domPauseCount d.domainId (s.domPauseCount d.domainId + 1) })
    (sleep : ∀ t v, P t → P (t.vcpuSleepNosync v)) : P (s.domainPause d) := by
  unfold State.domainPause
  dsimp only
  exact List.foldlRecOn (motive := P) _ _ counted fun t kept v _ => sleep t v kept

theorem domainUnpause_rule {d : Domain} (dm : d ∈ s.domains)
    (counted : P { s with
      domPauseCount := Function.update s.domPauseCount d.domainId (s.domPauseCount d.domainId - 1) })
    (wake : ∀ t v, P t → t.HasVcpu v → P (t.vcpuWake v)) : P (s.domainUnpause d) := by
  unfold State.domainUnpause
  dsimp only
  split
  · refine (List.foldlRecOn (motive := fun t => P t ∧ t.domains = s.domains) _ _
      ⟨counted, rfl⟩ ?_).1
    intro t ⟨kept, same⟩ v listed
    exact ⟨wake t v kept ⟨d, by rw [same]; exact dm, listed⟩, by rw [vcpuWake_domains, same]⟩
  · exact counted

end Rules

/-- The host around the FP cpupool `pool`: the only cpupool, with domains of
distinct ids none of which is dom0 or the idle domain; queued and migrating vcpus
belong to a domain, and every vcpu has its domain's priority. -/
structure HostShape (pool : Nat) (s : State) : Prop where
  pools : s.pools = [pool]
  member : ∀ d ∈ s.domains, d.cpupool = pool ∧ d.domainId ≠ 0 ∧ d.isIdle = false
  ids : (s.domains.map Domain.domainId).Nodup
  queued : ∀ v cpu, v ∈ s.runq cpu → s.HasVcpu v
  migrating : ∀ v, (s.pauseFlags v).migrating = true → s.HasVcpu v
  priority : ∀ d ∈ s.domains, ∀ v ∈ d.vcpuIds,
    (s.fpVcpu v).priority = (s.fpDom d.domainId).priority

section Shape

variable {pool : Nat} {s : State}

theorem HostShape.notIdle (shape : HostShape pool s) {v : VcpuId} (has : s.HasVcpu v) :
    v.isIdle = false := by
  obtain ⟨d, member, listed⟩ := has
  have domainIdle := (shape.member d member).2.2
  rw [Domain.mem_vcpuIds] at listed
  simpa [VcpuId.isIdle, Domain.isIdle, listed.1] using domainIdle

theorem HostShape.eq_of_domainId (shape : HostShape pool s) {d e : Domain}
    (dm : d ∈ s.domains) (em : e ∈ s.domains) (same : d.domainId = e.domainId) : d = e :=
  List.inj_on_of_nodup_map shape.ids dm em same

theorem HostShape.eq_of_mem_vcpuIds (shape : HostShape pool s) {d e : Domain} {v : VcpuId}
    (dm : d ∈ s.domains) (em : e ∈ s.domains) (inD : v ∈ d.vcpuIds) (inE : v ∈ e.vcpuIds) :
    d = e := by
  rw [Domain.mem_vcpuIds] at inD inE
  exact shape.eq_of_domainId dm em (inD.1.symm.trans inE.1)

theorem HostShape.domainsIn (shape : HostShape pool s) : s.domainsIn pool = s.domains := by
  unfold State.domainsIn
  rw [List.filter_eq_self]
  intro d member
  simp [(shape.member d member).1]

theorem HostShape.prioHandler (shape : HostShape pool s) {d : Domain} (dm : d ∈ s.domains)
    (strategy : Strategy) (priority : Int) : HostShape pool (prioHandler strategy s d priority) := by
  rcases prioHandler_cases strategy s d priority with ⟨q, -, handled⟩ | trapped
  · rw [handled, setDomainPriority_eq]
    refine ⟨shape.pools, shape.member, shape.ids, shape.queued, shape.migrating, ?_⟩
    intro e em v listed
    dsimp only
    by_cases own : v ∈ d.vcpuIds
    · have same : d = e := shape.eq_of_mem_vcpuIds dm em own listed
      subst same
      simp [own]
    · have other : e.domainId ≠ d.domainId := by
        intro same
        rw [← shape.eq_of_domainId em dm same] at own
        exact own listed
      simp [own, Function.update_of_ne other, shape.priority e em v listed]
  · rw [trapped]
    exact ⟨shape.pools, shape.member, shape.ids, shape.queued, shape.migrating, shape.priority⟩

theorem HostShape.removeFromQueue (shape : HostShape pool s) (linked : s.Linked) (v : VcpuId) :
    HostShape pool (s.removeFromQueue v) := by
  refine ⟨by simpa using shape.pools, by simpa using shape.member, by simpa using shape.ids,
    ?_, by simpa [HasVcpu] using shape.migrating, by simpa using shape.priority⟩
  intro w cpu queued
  rw [linked.removeFromQueue_runq] at queued
  simpa [HasVcpu] using shape.queued w cpu (List.mem_of_mem_erase queued)

theorem HostShape.runqInsert (shape : HostShape pool s) {v : VcpuId} (has : s.HasVcpu v)
    (cpu : Nat) (compare : FpVcpu → FpVcpu → Bool) :
    HostShape pool (s.runqInsert cpu v compare) := by
  refine ⟨by simpa using shape.pools, by simpa using shape.member, by simpa using shape.ids,
    ?_, by simpa [HasVcpu] using shape.migrating, ?_⟩
  · intro w target queued
    rw [runqInsert_runq _ _ _ _ (shape.notIdle has)] at queued
    simp only [HasVcpu, runqInsert_domains]
    split at queued
    · rcases List.mem_insertBefore.mp queued with same | kept
      · exact same ▸ has
      · exact shape.queued w _ kept
    · exact shape.queued w target queued
  · intro d dm w listed
    rw [runqInsert_priority, runqInsert_fpDom]
    exact shape.priority d (by simpa using dm) w listed

theorem HostShape.reinsert (shape : HostShape pool s) (linked : s.Linked) {v : VcpuId}
    (has : s.HasVcpu v) (compare : FpVcpu → FpVcpu → Bool) :
    HostShape pool (s.fpReinsertsortVcpu v compare) :=
  (shape.removeFromQueue linked v).runqInsert (by simpa [HasVcpu] using has) _ compare

theorem HostShape.of_retimed (shape : HostShape pool s) {t : State} (retimed : Retimed s t) :
    HostShape pool t := by
  obtain ⟨fpDom, fpVcpu, rfl, vcpus, doms⟩ := retimed
  refine ⟨shape.pools, shape.member, shape.ids, shape.queued, shape.migrating, ?_⟩
  intro d dm v listed
  rw [vcpus, doms]
  exact shape.priority d dm v listed

end Shape

/-- Between two re-insertions of a pass that sorts by `strategy`: with `done` the
vcpus re-inserted so far and `todo` those still to come, every queued vcpu is one
of them, and each queue is sorted up to every re-inserted vcpu. -/
structure PassInv (pool : Nat) (strategy : Strategy) (done : VcpuId → Prop)
    (todo : List VcpuId) (s : State) : Prop where
  shape : HostShape pool s
  linked : s.Linked
  active : s.strategy pool = strategy
  covered : ∀ v cpu, v ∈ s.runq cpu → done v ∨ v ∈ todo
  ordered : ∀ cpu, (s.runq cpu).DoneSorted done fun v => strategy.key (s.fpVcpu v)

def Settled (strategy : Strategy) (s : State) (d : Domain) (priority : Int) : Prop :=
  strategy = .fp → ∀ v ∈ d.vcpuIds, (s.fpVcpu v).priority = priority

section Pass

variable {pool : Nat} {strategy : Strategy} {done : VcpuId → Prop} {todo : List VcpuId}
  {s : State}

theorem PassInv.start (shape : HostShape pool s) (linked : s.Linked)
    (active : s.strategy pool = strategy) (covered : ∀ v cpu, v ∈ s.runq cpu → v ∈ todo) :
    PassInv pool strategy (fun _ => False) todo s :=
  ⟨shape, linked, active, fun v cpu queued => .inr (covered v cpu queued),
    fun _ => List.doneSorted_of_forall_not (fun _ absurd => absurd) _ _⟩

theorem PassInv.congr_done (inv : PassInv pool strategy done todo s) {done' : VcpuId → Prop}
    (same : ∀ v, done v ↔ done' v) : PassInv pool strategy done' todo s := by
  have equal : done = done' := funext fun v => propext (same v)
  subst equal
  exact inv

theorem PassInv.prioHandler (inv : PassInv pool strategy done todo s) {d : Domain}
    (dm : d ∈ s.domains) {priority : Int}
    (stable : (∀ v, ¬done v) ∨ Settled strategy s d priority) :
    PassInv pool strategy done todo (prioHandler strategy s d priority) := by
  refine ⟨inv.shape.prioHandler dm strategy priority, ?_, by simpa using inv.active,
    by simpa using inv.covered, ?_⟩
  · exact ⟨by simpa using inv.linked.mem_iff, by simpa using inv.linked.nodup⟩
  · intro cpu
    rw [prioHandler_runq]
    rcases stable with nothing | settled
    · exact List.doneSorted_of_forall_not nothing _ _
    · exact (inv.ordered cpu).congr (fun v _ => prioHandler_key strategy s d priority settled v)
        (fun _ _ isDone => isDone)

theorem PassInv.reinsert {v : VcpuId} (inv : PassInv pool strategy done (v :: todo) s)
    (has : s.HasVcpu v) :
    PassInv pool strategy (fun w => w = v ∨ done w) todo
      (s.fpReinsertsortVcpu v strategy.compare) := by
  have notIdle := inv.shape.notIdle has
  have removed := inv.linked.removeFromQueue v
  have erased := inv.linked.removeFromQueue_runq v
  have queues := runqInsert_runq (s.removeFromQueue v) (s.processor v) v strategy.compare notIdle
  have keys : ∀ w, strategy.key
      (((s.removeFromQueue v).runqInsert (s.processor v) v strategy.compare).fpVcpu w) =
        strategy.key (s.fpVcpu w) := fun w => by
    rw [runqInsert_key, removeFromQueue_fpVcpu]
  -- what stays behind on a queue was done before or is still to come
  have survivors : ∀ w cpu, w ∈ (s.runq cpu).erase v → (w = v ∨ done w) ∨ w ∈ todo := by
    intro w cpu kept
    have other : w ≠ v := fun same => (inv.linked.nodup _).not_mem_erase (same ▸ kept)
    rcases inv.covered w _ (List.mem_of_mem_erase kept) with isDone | later
    · exact .inl (.inr isDone)
    · exact .inr ((List.mem_cons.mp later).resolve_left other)
  unfold fpReinsertsortVcpu
  refine ⟨inv.shape.reinsert inv.linked has strategy.compare,
    removed.runqInsert (removeFromQueue_link_self s v) notIdle _ _,
    by simpa using inv.active, ?_, ?_⟩
  · intro w cpu queued
    rw [queues] at queued
    split at queued
    · rcases List.mem_insertBefore.mp queued with same | kept
      · exact .inl (.inl same)
      · rw [erased] at kept
        exact survivors w _ kept
    · rw [erased] at queued
      exact survivors w _ queued
  · intro cpu
    rw [queues]
    split
    · rename_i here
      subst here
      have compareIsKey : (fun e => strategy.compare ((s.removeFromQueue v).fpVcpu v)
          ((s.removeFromQueue v).fpVcpu e)) =
            fun e => decide (strategy.key (s.fpVcpu v) ≤ strategy.key (s.fpVcpu e)) := by
        funext e
        rw [removeFromQueue_fpVcpu, Strategy.compare_eq_key]
      rw [compareIsKey, erased]
      have fresh : v ∉ (s.runq (s.processor v)).erase v :=
        (inv.linked.nodup _).not_mem_erase
      exact (((inv.ordered _).erase v).insertBefore v fresh).congr (fun w _ => keys w)
        (fun _ _ isDone => isDone)
    · rw [erased]
      refine ((inv.ordered cpu).erase v).congr (fun w _ => keys w) ?_
      intro w kept isDone
      rcases isDone with same | isDone
      · exact absurd (same ▸ kept) ((inv.linked.nodup cpu).not_mem_erase)
      · exact isDone

theorem PassInv.reinsertAll {d : Domain} {priority : Int} :
    ∀ (vs : List VcpuId) (s : State) (done : VcpuId → Prop), d ∈ s.domains →
      (∀ v ∈ vs, v ∈ d.vcpuIds) → PassInv pool strategy done (vs ++ todo) s →
      ((∀ v, ¬done v) ∨ Settled strategy s d priority) →
      PassInv pool strategy (fun w => w ∈ vs ∨ done w) todo
        (vs.foldl (fun s v =>
          (State.prioHandler (s.strategy pool) s d priority).fpReinsertsortVcpu v
            (s.strategy pool).compare) s) := by
  intro vs
  induction vs with
  | nil =>
      intro s done _ _ inv _
      exact inv.congr_done fun w => by simp
  | cons v rest ih =>
      intro s done dm listed inv stable
      rw [List.foldl_cons, inv.active]
      have handled := inv.prioHandler dm stable
      have has : (State.prioHandler strategy s d priority).HasVcpu v :=
        ⟨d, by simpa using dm, listed v List.mem_cons_self⟩
      have reinserted := handled.reinsert has
      have settled : Settled strategy
          ((State.prioHandler strategy s d priority).fpReinsertsortVcpu v strategy.compare)
          d priority := by
        intro isFp w member
        subst isFp
        simp only [fpReinsertsortVcpu, runqInsert_priority, removeFromQueue_fpVcpu,
          prioHandler_fp_fpVcpu, if_pos member]
      have next := ih _ _ (by simpa [fpReinsertsortVcpu] using dm)
        (fun w member => listed w (List.mem_cons_of_mem v member)) reinserted (.inr settled)
      exact next.congr_done fun w => by simp only [List.mem_cons, or_assoc, or_left_comm]

theorem PassInv.fpSchedSetVmPrio {d : Domain} {priority : Int}
    (inv : PassInv pool strategy done (d.vcpuIds ++ todo) s) (dm : d ∈ s.domains)
    (stable : (∀ v, ¬done v) ∨ Settled strategy s d priority) :
    PassInv pool strategy (fun w => w ∈ d.vcpuIds ∨ done w) todo
      (s.fpSchedSetVmPrio pool d priority) := by
  obtain ⟨_, notDom0, notIdle⟩ := inv.shape.member d dm
  unfold State.fpSchedSetVmPrio
  rw [if_neg notDom0, if_neg (by simp [notIdle])]
  exact PassInv.reinsertAll d.vcpuIds s done dm (fun _ member => member) inv stable

theorem PassInv.setVmPrioDomains (skip : Nat → Bool) :
    ∀ (doms : List Domain) (s : State) (done : VcpuId → Prop), (∀ d ∈ doms, d ∈ s.domains) →
      PassInv pool strategy done
        ((doms.filter fun d => !skip d.domainId).flatMap Domain.vcpuIds ++ todo) s →
      PassInv pool strategy
        (fun w => (∃ d ∈ doms, skip d.domainId = false ∧ w ∈ d.vcpuIds) ∨ done w) todo
        (doms.foldl (fun s d =>
          if skip d.domainId then s
          else s.fpSchedSetVmPrio pool d (s.fpDom d.domainId).priority) s) := by
  intro doms
  induction doms with
  | nil =>
      intro s done _ inv
      exact inv.congr_done fun w => by simp
  | cons d rest ih =>
      intro s done inside inv
      have dm := inside d List.mem_cons_self
      have restInside : ∀ e ∈ rest, e ∈ s.domains := fun e member =>
        inside e (List.mem_cons_of_mem d member)
      rw [List.foldl_cons]
      by_cases skipped : skip d.domainId
      · rw [if_pos skipped]
        rw [List.filter_cons_of_neg (by simp [skipped])] at inv
        refine (ih s done restInside inv).congr_done fun w => ?_
        constructor
        · rintro (⟨e, member, kept, listed⟩ | isDone)
          · exact .inl ⟨e, List.mem_cons_of_mem d member, kept, listed⟩
          · exact .inr isDone
        · rintro (⟨e, member, kept, listed⟩ | isDone)
          · rcases List.mem_cons.mp member with same | later
            · subst same
              simp [skipped] at kept
            · exact .inl ⟨e, later, kept, listed⟩
          · exact .inr isDone
      · have kept : skip d.domainId = false := by simpa using skipped
        rw [if_neg skipped]
        rw [List.filter_cons_of_pos (by simp [kept]), List.flatMap_cons, List.append_assoc] at inv
        have settled : Settled strategy s d (s.fpDom d.domainId).priority :=
          fun _ => inv.shape.priority d dm
        have one := inv.fpSchedSetVmPrio dm (.inr settled)
        have next := ih _ _ (by simpa using restInside) one
        refine next.congr_done fun w => ?_
        constructor
        · rintro (⟨e, member, eKept, listed⟩ | listed | isDone)
          · exact .inl ⟨e, List.mem_cons_of_mem d member, eKept, listed⟩
          · exact .inl ⟨d, List.mem_cons_self, kept, listed⟩
          · exact .inr isDone
        · rintro (⟨e, member, eKept, listed⟩ | isDone)
          · rcases List.mem_cons.mp member with same | later
            · subst same
              exact .inr (.inl listed)
            · exact .inl ⟨e, later, eKept, listed⟩
          · exact .inr (.inr isDone)

theorem PassInv.setVmPrioAll (skip : Nat → Bool)
    (inv : PassInv pool strategy done
      ((s.domains.filter fun d => !skip d.domainId).flatMap Domain.vcpuIds) s) :
    PassInv pool strategy
      (fun w => (∃ d ∈ s.domains, skip d.domainId = false ∧ w ∈ d.vcpuIds) ∨ done w) []
      (s.setVmPrioAll pool skip) := by
  unfold State.setVmPrioAll
  rw [inv.shape.pools, List.foldl_cons, List.foldl_nil, inv.shape.domainsIn]
  rw [← List.append_nil ((s.domains.filter fun d => !skip d.domainId).flatMap _)] at inv
  exact PassInv.setVmPrioDomains skip s.domains s done (fun _ member => member) inv

theorem PassInv.sorted (inv : PassInv pool strategy done [] s) (cpu : Nat) :
    (s.runq cpu).Pairwise fun a b => strategy.key (s.fpVcpu a) ≤ strategy.key (s.fpVcpu b) := by
  refine (inv.ordered cpu).sorted fun v queued => ?_
  rcases inv.covered v cpu queued with isDone | absurd
  · exact isDone
  · simp at absurd

end Pass

theorem Linked.of_retimed {s t : State} (linked : s.Linked) (retimed : Retimed s t) : t.Linked := by
  obtain ⟨_, _, rfl, _, _⟩ := retimed
  exact ⟨linked.mem_iff, linked.nodup⟩

/-- What every state of a host with one FP cpupool and no dom0 satisfies: its
shape, consistent queues, and every queue ordered by the pool's strategy. -/
structure SortedHost (pool : Nat) (s : State) : Prop where
  shape : HostShape pool s
  linked : s.Linked
  sorted : ∀ cpu, s.RunqOrdered pool cpu

section Adjust

variable {pool : Nat} {s : State}

theorem PassInv.sortedHost {strategy : Strategy} {done : VcpuId → Prop}
    (inv : PassInv pool strategy done [] s) : SortedHost pool s := by
  refine ⟨inv.shape, inv.linked, fun cpu => ?_⟩
  unfold RunqOrdered
  rw [inv.active]
  exact inv.sorted cpu

theorem sortedHost_setVmPrioAll (shape : HostShape pool s) (linked : s.Linked) :
    SortedHost pool (s.setVmPrioAll pool fun _ => false) := by
  have covered : ∀ v cpu, v ∈ s.runq cpu →
      v ∈ (s.domains.filter fun d => !(fun _ => false) d.domainId).flatMap Domain.vcpuIds := by
    intro v cpu queued
    obtain ⟨d, dm, listed⟩ := shape.queued v cpu queued
    exact List.mem_flatMap.mpr ⟨d, by simpa using dm, listed⟩
  exact ((PassInv.start shape linked rfl covered).setVmPrioAll _).sortedHost

theorem SortedHost.fpAdjustGlobal (host : SortedHost pool s) (cmd : SysctlCmd) :
    SortedHost pool (s.fpAdjustGlobal pool cmd).1 := by
  unfold State.fpAdjustGlobal
  cases cmd with
  | getinfo => exact sortedHost_setVmPrioAll host.shape host.linked
  | putinfo strategy =>
      dsimp only
      unfold fpSchedSet
      split
      · exact sortedHost_setVmPrioAll host.shape host.linked
      · -- a new strategy changes no queue, record or domain
        exact sortedHost_setVmPrioAll ⟨host.shape.pools, host.shape.member, host.shape.ids,
          host.shape.queued, host.shape.migrating, host.shape.priority⟩
          ⟨host.linked.mem_iff, host.linked.nodup⟩

theorem SortedHost.fpAdjust (host : SortedHost pool s) {d : Domain} (dm : d ∈ s.domains)
    (cmd : DomctlCmd) : SortedHost pool (s.fpAdjust pool d cmd).1 := by
  cases cmd with
  | getinfo => exact host
  | putinfo op =>
      simp only [State.fpAdjust]
      have retimed := retimed_putDomainParams s pool d op
      have shape := host.shape.of_retimed retimed
      have linked := host.linked.of_retimed retimed
      obtain ⟨_, _, stored, _, _⟩ := retimed
      set t := s.putDomainParams pool d op
      have inPool : t.pools.contains d.cpupool = true := by
        simp [shape.pools, (host.shape.member d dm).1]
      have dmt : d ∈ t.domains := by rw [stored]; exact dm
      let others := (t.domains.filter fun e => !(e.domainId == d.domainId)).flatMap Domain.vcpuIds
      have covered : ∀ v cpu, v ∈ t.runq cpu → v ∈ d.vcpuIds ++ others := by
        intro v cpu queued
        obtain ⟨e, em, listed⟩ := shape.queued v cpu queued
        by_cases same : e.domainId = d.domainId
        · rw [shape.eq_of_domainId em dmt same] at listed
          exact List.mem_append_left _ listed
        · exact List.mem_append_right _ (List.mem_flatMap.mpr ⟨e, by simp [em, same], listed⟩)
      let priority := if op.priority > 0 then op.priority else (t.fpDom d.domainId).priority
      have first : PassInv pool (t.strategy pool) (fun w => w ∈ d.vcpuIds ∨ False) others
          (t.fpSchedSetVmPrio pool d priority) :=
        (PassInv.start shape linked rfl covered).fpSchedSetVmPrio dmt (.inl fun _ absurd => absurd)
      have kept := fpSchedSetVmPrio_domains t pool d priority
      have rest : PassInv pool (t.strategy pool) (fun w => w ∈ d.vcpuIds ∨ False)
          (((t.fpSchedSetVmPrio pool d priority).domains.filter
            fun e => !(e.domainId == d.domainId)).flatMap Domain.vcpuIds)
          (t.fpSchedSetVmPrio pool d priority) := by
        rw [kept]
        exact first
      rw [if_pos inPool]
      exact (rest.setVmPrioAll _).sortedHost

end Adjust

end State

end CpsXen

import CpsXen.List.InsertBefore
import CpsXen.Sched.State

/-!
The run-queue operations of `sched_fp.c`: the list primitives on `queue_elem`,
the sorted insertion `__runq_insert` with its renumbering of `position`, the three
compare functions, and `fp_reinsertsort_vcpu`.
-/

namespace CpsXen

def runqRmCompare (left right : FpVcpu) : Bool := decide (left.period ≤ right.period)

def runqDmCompare (left right : FpVcpu) : Bool := decide (left.deadline ≤ right.deadline)

def runqFpCompare (left right : FpVcpu) : Bool := decide (left.priority ≥ right.priority)

def Strategy.compare : Strategy → FpVcpu → FpVcpu → Bool
  | .rm => runqRmCompare
  | .dm => runqDmCompare
  | .fp => runqFpCompare

def Strategy.key : Strategy → FpVcpu → Int
  | .rm => fun fpv => fpv.period
  | .dm => fun fpv => fpv.deadline
  | .fp => fun fpv => -fpv.priority

theorem Strategy.compare_eq_key (strategy : Strategy) (left right : FpVcpu) :
    strategy.compare left right = decide (strategy.key left ≤ strategy.key right) := by
  cases strategy with
  | rm => rfl
  | dm => rfl
  | fp =>
      show decide (left.priority ≥ right.priority) = decide (-left.priority ≤ -right.priority)
      rw [decide_eq_decide]
      omega

def renumber (fpVcpu : VcpuId → FpVcpu) : List VcpuId → Int → VcpuId → FpVcpu
  | [], _ => fpVcpu
  | v :: rest, i => renumber (Function.update fpVcpu v { fpVcpu v with position := i }) rest (i + 1)

theorem renumber_eq_position (fpVcpu : VcpuId → FpVcpu) (queue : List VcpuId) (i : Int)
    (v : VcpuId) : ∃ position, renumber fpVcpu queue i v = { fpVcpu v with position := position } := by
  induction queue generalizing fpVcpu i with
  | nil => exact ⟨(fpVcpu v).position, rfl⟩
  | cons head rest ih =>
      obtain ⟨position, renumbered⟩ :=
        ih (Function.update fpVcpu head { fpVcpu head with position := i }) (i + 1)
      refine ⟨position, ?_⟩
      rw [renumber, renumbered]
      by_cases same : v = head
      · subst same
        simp
      · simp [Function.update_of_ne same]

theorem renumber_of_not_mem (fpVcpu : VcpuId → FpVcpu) (queue : List VcpuId) (i : Int)
    (v : VcpuId) (absent : v ∉ queue) : renumber fpVcpu queue i v = fpVcpu v := by
  induction queue generalizing fpVcpu i with
  | nil => rfl
  | cons head rest ih =>
      have other : v ≠ head := fun same => absent (same ▸ List.mem_cons_self)
      rw [renumber, ih _ _ (fun member => absent (List.mem_cons_of_mem _ member)),
        Function.update_of_ne other]

theorem renumber_position (fpVcpu : VcpuId → FpVcpu) (queue : List VcpuId) (i : Int)
    (v : VcpuId) (distinct : queue.Nodup) (member : v ∈ queue) :
    (renumber fpVcpu queue i v).position = i + queue.idxOf v := by
  induction queue generalizing fpVcpu i with
  | nil => simp at member
  | cons head rest ih =>
      rw [List.nodup_cons] at distinct
      rw [renumber]
      by_cases same : v = head
      · subst same
        rw [renumber_of_not_mem _ _ _ _ distinct.1]
        simp
      · have later : v ∈ rest := (List.mem_cons.mp member).resolve_left same
        rw [ih _ _ distinct.2 later, List.idxOf_cons_ne _ (Ne.symm same)]
        push_cast
        omega

namespace State

def listDelInit (s : State) (v : VcpuId) : State :=
  match s.link v with
  | none => s
  | some cpu =>
      { s with runq := Function.update s.runq cpu ((s.runq cpu).erase v),
               link := Function.update s.link v none }

def runqRemove (s : State) (v : VcpuId) : State :=
  if v.isIdle then s else s.listDelInit v

def removeFromQueue (s : State) (v : VcpuId) : State :=
  if s.vcpuOnQ v then s.listDelInit v else s

def runqInsert (s : State) (cpu : Nat) (v : VcpuId) (compare : FpVcpu → FpVcpu → Bool) :
    State :=
  if v.isIdle then s
  else
    let queue := (s.runq cpu).insertBefore (fun e => compare (s.fpVcpu v) (s.fpVcpu e)) v
    { s with runq := Function.update s.runq cpu queue,
             link := Function.update s.link v (some cpu),
             fpVcpu := renumber s.fpVcpu queue 0,
             listCorrupted := s.listCorrupted || s.vcpuOnQ v }

def fpReinsertsortVcpu (s : State) (v : VcpuId) (compare : FpVcpu → FpVcpu → Bool) : State :=
  (s.removeFromQueue v).runqInsert (s.processor v) v compare

section Frame

variable (s : State) (v : VcpuId)

@[simp] theorem listDelInit_fpVcpu : (s.listDelInit v).fpVcpu = s.fpVcpu := by
  unfold listDelInit; split <;> rfl
@[simp] theorem listDelInit_fpDom : (s.listDelInit v).fpDom = s.fpDom := by
  unfold listDelInit; split <;> rfl
@[simp] theorem listDelInit_domains : (s.listDelInit v).domains = s.domains := by
  unfold listDelInit; split <;> rfl
@[simp] theorem listDelInit_pools : (s.listDelInit v).pools = s.pools := by
  unfold listDelInit; split <;> rfl
@[simp] theorem listDelInit_strategy : (s.listDelInit v).strategy = s.strategy := by
  unfold listDelInit; split <;> rfl
@[simp] theorem listDelInit_processor : (s.listDelInit v).processor = s.processor := by
  unfold listDelInit; split <;> rfl
@[simp] theorem listDelInit_pauseFlags : (s.listDelInit v).pauseFlags = s.pauseFlags := by
  unfold listDelInit; split <;> rfl
@[simp] theorem listDelInit_listCorrupted :
    (s.listDelInit v).listCorrupted = s.listCorrupted := by
  unfold listDelInit; split <;> rfl
@[simp] theorem listDelInit_divideError : (s.listDelInit v).divideError = s.divideError := by
  unfold listDelInit; split <;> rfl
@[simp] theorem listDelInit_curr : (s.listDelInit v).curr = s.curr := by
  unfold listDelInit; split <;> rfl
@[simp] theorem listDelInit_poolCpus : (s.listDelInit v).poolCpus = s.poolCpus := by
  unfold listDelInit; split <;> rfl

@[simp] theorem removeFromQueue_fpVcpu : (s.removeFromQueue v).fpVcpu = s.fpVcpu := by
  unfold removeFromQueue; split <;> simp
@[simp] theorem removeFromQueue_fpDom : (s.removeFromQueue v).fpDom = s.fpDom := by
  unfold removeFromQueue; split <;> simp
@[simp] theorem removeFromQueue_domains : (s.removeFromQueue v).domains = s.domains := by
  unfold removeFromQueue; split <;> simp
@[simp] theorem removeFromQueue_pools : (s.removeFromQueue v).pools = s.pools := by
  unfold removeFromQueue; split <;> simp
@[simp] theorem removeFromQueue_strategy : (s.removeFromQueue v).strategy = s.strategy := by
  unfold removeFromQueue; split <;> simp
@[simp] theorem removeFromQueue_processor :
    (s.removeFromQueue v).processor = s.processor := by
  unfold removeFromQueue; split <;> simp
@[simp] theorem removeFromQueue_pauseFlags :
    (s.removeFromQueue v).pauseFlags = s.pauseFlags := by
  unfold removeFromQueue; split <;> simp
@[simp] theorem removeFromQueue_listCorrupted :
    (s.removeFromQueue v).listCorrupted = s.listCorrupted := by
  unfold removeFromQueue; split <;> simp
@[simp] theorem removeFromQueue_divideError :
    (s.removeFromQueue v).divideError = s.divideError := by
  unfold removeFromQueue; split <;> simp
@[simp] theorem removeFromQueue_curr : (s.removeFromQueue v).curr = s.curr := by
  unfold removeFromQueue; split <;> simp
@[simp] theorem removeFromQueue_poolCpus : (s.removeFromQueue v).poolCpus = s.poolCpus := by
  unfold removeFromQueue; split <;> simp

variable (cpu : Nat) (compare : FpVcpu → FpVcpu → Bool)

@[simp] theorem runqInsert_fpDom : (s.runqInsert cpu v compare).fpDom = s.fpDom := by
  unfold runqInsert; split <;> rfl
@[simp] theorem runqInsert_domains : (s.runqInsert cpu v compare).domains = s.domains := by
  unfold runqInsert; split <;> rfl
@[simp] theorem runqInsert_pools : (s.runqInsert cpu v compare).pools = s.pools := by
  unfold runqInsert; split <;> rfl
@[simp] theorem runqInsert_strategy : (s.runqInsert cpu v compare).strategy = s.strategy := by
  unfold runqInsert; split <;> rfl
@[simp] theorem runqInsert_processor :
    (s.runqInsert cpu v compare).processor = s.processor := by
  unfold runqInsert; split <;> rfl
@[simp] theorem runqInsert_pauseFlags :
    (s.runqInsert cpu v compare).pauseFlags = s.pauseFlags := by
  unfold runqInsert; split <;> rfl
@[simp] theorem runqInsert_divideError :
    (s.runqInsert cpu v compare).divideError = s.divideError := by
  unfold runqInsert; split <;> rfl

theorem runqInsert_listCorrupted {s : State} {v : VcpuId} (unlinked : s.link v = none) :
    (s.runqInsert cpu v compare).listCorrupted = s.listCorrupted := by
  unfold runqInsert
  split
  · rfl
  · simp [vcpuOnQ, unlinked]

theorem runqInsert_link_of_ne {s : State} {v w : VcpuId} (other : w ≠ v) :
    (s.runqInsert cpu v compare).link w = s.link w := by
  unfold runqInsert
  split
  · rfl
  · simp [Function.update_of_ne other]

end Frame

theorem runqInsert_fpVcpu_eq (s : State) (cpu : Nat) (v : VcpuId)
    (compare : FpVcpu → FpVcpu → Bool) (w : VcpuId) :
    ∃ position, (s.runqInsert cpu v compare).fpVcpu w = { s.fpVcpu w with position := position } := by
  unfold runqInsert
  split
  · exact ⟨(s.fpVcpu w).position, rfl⟩
  · exact renumber_eq_position _ _ _ w

theorem runqInsert_key (strategy : Strategy) (s : State) (cpu : Nat) (v : VcpuId)
    (compare : FpVcpu → FpVcpu → Bool) (w : VcpuId) :
    strategy.key ((s.runqInsert cpu v compare).fpVcpu w) = strategy.key (s.fpVcpu w) := by
  obtain ⟨position, inserted⟩ := runqInsert_fpVcpu_eq s cpu v compare w
  rw [inserted]
  cases strategy <;> rfl

theorem runqInsert_priority (s : State) (cpu : Nat) (v : VcpuId)
    (compare : FpVcpu → FpVcpu → Bool) (w : VcpuId) :
    ((s.runqInsert cpu v compare).fpVcpu w).priority = (s.fpVcpu w).priority := by
  obtain ⟨position, inserted⟩ := runqInsert_fpVcpu_eq s cpu v compare w
  rw [inserted]

/-- Each `queue_elem` is on the list its link names, and no list holds an
element twice. -/
structure Linked (s : State) : Prop where
  mem_iff : ∀ v cpu, v ∈ s.runq cpu ↔ s.link v = some cpu
  nodup : ∀ cpu, (s.runq cpu).Nodup

theorem Linked.congr {s t : State} (linked : Linked s) (runq : t.runq = s.runq)
    (link : t.link = s.link) : Linked t := by
  refine ⟨fun v cpu => ?_, fun cpu => ?_⟩
  · rw [runq, link]
    exact linked.mem_iff v cpu
  · rw [runq]
    exact linked.nodup cpu

theorem Linked.not_mem_of_link_none {s : State} (linked : Linked s) {v : VcpuId}
    (unlinked : s.link v = none) (cpu : Nat) : v ∉ s.runq cpu := by
  rw [linked.mem_iff, unlinked]
  simp

theorem Linked.listDelInit_runq {s : State} (linked : Linked s) (v : VcpuId) (cpu : Nat) :
    (s.listDelInit v).runq cpu = (s.runq cpu).erase v := by
  unfold State.listDelInit
  cases linkedOn : s.link v with
  | none => rw [List.erase_of_not_mem (linked.not_mem_of_link_none linkedOn cpu)]
  | some home =>
      by_cases same : cpu = home
      · subst same
        simp
      · have absent : v ∉ s.runq cpu := by
          rw [linked.mem_iff, linkedOn]
          simpa using Ne.symm same
        simp [Function.update_of_ne same, List.erase_of_not_mem absent]

theorem listDelInit_link_self (s : State) (v : VcpuId) : (s.listDelInit v).link v = none := by
  unfold listDelInit
  split
  · assumption
  · simp

theorem listDelInit_link_of_ne (s : State) {v w : VcpuId} (other : w ≠ v) :
    (s.listDelInit v).link w = s.link w := by
  unfold listDelInit
  split <;> simp [Function.update_of_ne other]

theorem Linked.listDelInit {s : State} (linked : Linked s) (v : VcpuId) :
    Linked (s.listDelInit v) := by
  constructor
  · intro w cpu
    rw [linked.listDelInit_runq]
    by_cases same : w = v
    · subst same
      simp [listDelInit_link_self, List.Nodup.not_mem_erase (linked.nodup cpu)]
    · rw [List.mem_erase_of_ne same, listDelInit_link_of_ne s same, linked.mem_iff]
  · intro cpu
    rw [linked.listDelInit_runq]
    exact (linked.nodup cpu).erase v

theorem Linked.removeFromQueue_runq {s : State} (linked : Linked s) (v : VcpuId) (cpu : Nat) :
    (s.removeFromQueue v).runq cpu = (s.runq cpu).erase v := by
  unfold State.removeFromQueue
  split
  · exact linked.listDelInit_runq v cpu
  · rename_i offQueue
    have unlinked : s.link v = none := by simpa [vcpuOnQ] using offQueue
    rw [List.erase_of_not_mem (linked.not_mem_of_link_none unlinked cpu)]

theorem Linked.removeFromQueue {s : State} (linked : Linked s) (v : VcpuId) :
    Linked (s.removeFromQueue v) := by
  unfold State.removeFromQueue
  split
  · exact linked.listDelInit v
  · exact linked

theorem removeFromQueue_link_self (s : State) (v : VcpuId) :
    (s.removeFromQueue v).link v = none := by
  unfold State.removeFromQueue
  split
  · exact listDelInit_link_self s v
  · rename_i offQueue
    simpa [vcpuOnQ] using offQueue

theorem removeFromQueue_link_of_ne (s : State) {v w : VcpuId} (other : w ≠ v) :
    (s.removeFromQueue v).link w = s.link w := by
  unfold State.removeFromQueue
  split
  · exact listDelInit_link_of_ne s other
  · rfl

theorem runqInsert_runq (s : State) (cpu : Nat) (v : VcpuId) (compare : FpVcpu → FpVcpu → Bool)
    (notIdle : v.isIdle = false) (target : Nat) :
    (s.runqInsert cpu v compare).runq target =
      if target = cpu then
        (s.runq cpu).insertBefore (fun e => compare (s.fpVcpu v) (s.fpVcpu e)) v
      else s.runq target := by
  unfold runqInsert
  simp only [notIdle, Bool.false_eq_true, if_false]
  by_cases same : target = cpu
  · subst same
    simp
  · simp [same]

theorem runqInsert_link (s : State) (cpu : Nat) (v : VcpuId) (compare : FpVcpu → FpVcpu → Bool)
    (notIdle : v.isIdle = false) :
    (s.runqInsert cpu v compare).link = Function.update s.link v (some cpu) := by
  unfold runqInsert
  simp [notIdle]

theorem Linked.runqInsert {s : State} (linked : Linked s) {v : VcpuId}
    (unlinked : s.link v = none) (notIdle : v.isIdle = false) (cpu : Nat)
    (compare : FpVcpu → FpVcpu → Bool) : Linked (s.runqInsert cpu v compare) := by
  constructor
  · intro w target
    rw [runqInsert_runq s cpu v compare notIdle, runqInsert_link s cpu v compare notIdle]
    by_cases same : w = v
    · subst same
      by_cases here : target = cpu
      · simp [here]
      · simp [here, linked.not_mem_of_link_none unlinked target, Ne.symm here]
    · rw [Function.update_of_ne same]
      by_cases here : target = cpu
      · subst here
        simp [same, linked.mem_iff]
      · simp [here, linked.mem_iff]
  · intro target
    rw [runqInsert_runq s cpu v compare notIdle]
    split
    · exact List.nodup_insertBefore (linked.not_mem_of_link_none unlinked cpu) (linked.nodup cpu)
    · exact linked.nodup target

theorem runqInsert_sorted (strategy : Strategy) (s : State) (cpu : Nat) {v : VcpuId}
    (notIdle : v.isIdle = false) (absent : v ∉ s.runq cpu)
    (sorted : (s.runq cpu).Pairwise fun a b => strategy.key (s.fpVcpu a) ≤ strategy.key (s.fpVcpu b)) :
    let t := s.runqInsert cpu v strategy.compare
    (t.runq cpu).Pairwise fun a b => strategy.key (t.fpVcpu a) ≤ strategy.key (t.fpVcpu b) := by
  intro t
  have keys : ∀ w, strategy.key (t.fpVcpu w) = strategy.key (s.fpVcpu w) :=
    runqInsert_key strategy s cpu v _
  have compareIsKey : (fun e => strategy.compare (s.fpVcpu v) (s.fpVcpu e)) =
      fun e => decide (strategy.key (s.fpVcpu v) ≤ strategy.key (s.fpVcpu e)) :=
    funext fun e => Strategy.compare_eq_key strategy _ _
  rw [runqInsert_runq s cpu v _ notIdle, if_pos rfl, compareIsKey]
  refine (@List.sorted_insertBefore _ _ _ (fun w => strategy.key (s.fpVcpu w)) _ sorted v
    absent).imp fun {a b} ordered => ?_
  rw [keys a, keys b]
  exact ordered

theorem runqInsert_position (s : State) (cpu : Nat) {v : VcpuId} (compare : FpVcpu → FpVcpu → Bool)
    (notIdle : v.isIdle = false) (distinct : (s.runq cpu).Nodup) (absent : v ∉ s.runq cpu)
    (i : Nat) (h : i < ((s.runqInsert cpu v compare).runq cpu).length) :
    ((s.runqInsert cpu v compare).fpVcpu ((s.runqInsert cpu v compare).runq cpu)[i]).position = i := by
  have queue := runqInsert_runq s cpu v compare notIdle cpu
  rw [if_pos rfl] at queue
  have numbered : (s.runqInsert cpu v compare).fpVcpu =
      renumber s.fpVcpu ((s.runqInsert cpu v compare).runq cpu) 0 := by
    rw [queue]
    simp [runqInsert, notIdle]
  have inserted : ((s.runqInsert cpu v compare).runq cpu).Nodup := by
    rw [queue]
    exact List.nodup_insertBefore absent distinct
  rw [numbered, renumber_position _ _ _ _ inserted (List.getElem_mem h), inserted.idxOf_getElem]
  simp

/-- The run queue of `cpu` is ordered by the active strategy of `pool`: keys never
decrease from head to tail. -/
def RunqOrdered (s : State) (pool cpu : Nat) : Prop :=
  (s.runq cpu).Pairwise fun a b =>
    (s.strategy pool).key (s.fpVcpu a) ≤ (s.strategy pool).key (s.fpVcpu b)

instance (s : State) (pool cpu : Nat) : Decidable (s.RunqOrdered pool cpu) :=
  inferInstanceAs (Decidable (List.Pairwise _ _))

end State

end CpsXen

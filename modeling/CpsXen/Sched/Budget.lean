import CpsXen.Sched.Frames
import CpsXen.Sched.System

/-! The budget of a vcpu under `fp_do_schedule`.  The vcpu current on a cpu is
charged at the next decision there, for all the time since it was picked, and a
vcpu is picked whenever `cputime < slice`; the 100us the decision returns bounds
nothing.  So a vcpu can overrun its slice by the gap between two decisions on
its cpu, and by no more. -/

namespace CpsXen

def paced (gap : Int) : Int → List Int → Bool
  | _, [] => true
  | prev, t :: rest => decide (prev ≤ t ∧ t ≤ prev + gap) && paced gap t rest

namespace State

def PickedAt (s : State) (cpu : Nat) (prev : Int) : Prop :=
  (s.curr cpu).isIdle = true ∨
    ((s.fpVcpu (s.curr cpu)).cputime < (s.fpVcpu (s.curr cpu)).slice ∧
      (s.fpVcpu (s.curr cpu)).lastTimeScheduled = prev)

instance (s : State) (cpu : Nat) (prev : Int) : Decidable (s.PickedAt cpu prev) :=
  inferInstanceAs (Decidable (_ ∨ _))

/-- The bound over decisions made since `start`: every slice as it was, every
cputime at most its value in `start` or its slice (if positive) plus `gap`. -/
structure WithinGap (start : State) (gap : Int) (s : State) : Prop where
  slice : ∀ v, (s.fpVcpu v).slice = (start.fpVcpu v).slice
  cputime : ∀ v, (s.fpVcpu v).cputime ≤
    max (start.fpVcpu v).cputime (max (start.fpVcpu v).slice 0 + gap)

variable {start : State} {gap : Int}

theorem WithinGap.initial (start : State) (gap : Int) : WithinGap start gap start :=
  ⟨fun _ => rfl, fun _ => Int.le_max_left _ _⟩

theorem WithinGap.of_budget {s t : State} (within : WithinGap start gap s)
    (kept : ∀ v, (t.fpVcpu v).cputime = (s.fpVcpu v).cputime ∧
      (t.fpVcpu v).slice = (s.fpVcpu v).slice) : WithinGap start gap t :=
  ⟨fun v => (kept v).2.trans (within.slice v), fun v => (kept v).1 ▸ within.cputime v⟩

theorem WithinGap.of_reordered {s t : State} (within : WithinGap start gap s)
    (reordered : Reordered s t) : WithinGap start gap t :=
  within.of_budget fun v =>
    ⟨(reordered.vcpu v).2.2.2.1, (reordered.vcpu v).2.1⟩

theorem WithinGap.setFpVcpu {s : State} (within : WithinGap start gap s) (v : VcpuId)
    (record : FpVcpu) (sameSlice : record.slice = (s.fpVcpu v).slice)
    (bounded : record.cputime ≤ max (start.fpVcpu v).cputime (max (start.fpVcpu v).slice 0 + gap)) :
    WithinGap start gap (s.setFpVcpu v record) := by
  refine ⟨fun w => ?_, fun w => ?_⟩
  · by_cases same : w = v
    · subst same
      simpa [sameSlice] using within.slice w
    · simpa [Function.update_of_ne same] using within.slice w
  · by_cases same : w = v
    · subst same
      simpa using bounded
    · simpa [Function.update_of_ne same] using within.cputime w

theorem WithinGap.chargeCurrent {s : State} {cpu : Nat} {prev now : Int}
    (within : WithinGap start gap s) (picked : s.PickedAt cpu prev) (soon : now ≤ prev + gap) :
    WithinGap start gap (s.chargeCurrent cpu now) := by
  unfold State.chargeCurrent PickedAt at *
  dsimp only
  split
  · rename_i busy
    generalize s.curr cpu = c at busy picked ⊢
    have left := picked.resolve_left (by simpa using busy)
    have sliceKept := within.slice c
    refine within.setFpVcpu c _ rfl ?_
    -- the charge is the time since the pick, at most `gap`
    dsimp only
    omega
  · exact within

theorem WithinGap.updateQueue {s : State} (within : WithinGap start gap s) (nonneg : 0 ≤ gap)
    (now : Int) (cpu : Nat) : WithinGap start gap (s.updateQueue now cpu) := by
  unfold State.updateQueue
  refine List.foldlRecOn (motive := WithinGap start gap) _ _ within ?_
  intro t inside v _
  dsimp only
  split
  · -- replenishing sets the cputime to zero
    refine inside.setFpVcpu v _ rfl ?_
    dsimp only
    omega
  · exact inside

theorem WithinGap.fpDoSchedule {s : State} {cpu : Nat} {prev now : Int}
    (within : WithinGap start gap s) (picked : s.PickedAt cpu prev) (later : prev ≤ now)
    (soon : now ≤ prev + gap) (tasklet : Bool) :
    let r := s.fpDoSchedule cpu now tasklet
    WithinGap start gap r.1 ∧ (r.2.task.isIdle = true ∨
      ((r.1.fpVcpu r.2.task).cputime < (r.1.fpVcpu r.2.task).slice ∧
        (r.1.fpVcpu r.2.task).lastTimeScheduled = now)) := by
  have charged := (within.chargeCurrent picked soon).updateQueue (by omega) now cpu
  rw [fpDoSchedule_eq]
  dsimp only
  split
  · rename_i v found
    have pickable := List.find?_some found
    simp only [State.eligible, Bool.and_eq_true, decide_eq_true_eq] at pickable
    refine ⟨charged.setFpVcpu v _ rfl (charged.cputime v), ?_⟩
    cases tasklet
    · exact .inr ⟨by simpa using pickable.2, by simp⟩
    · exact .inl rfl
  · exact ⟨charged, .inl rfl⟩

theorem schedule_after_decision (s : State) (cpu : Nat) (now : Int) (tasklet : Bool) :
    let r := s.fpDoSchedule cpu now tasklet
    Reordered r.1 (s.schedule cpu now tasklet) ∧
      (s.schedule cpu now tasklet).curr = Function.update r.1.curr cpu r.2.task := by
  unfold schedule
  generalize s.fpDoSchedule cpu now tasklet = r
  obtain ⟨u, slice⟩ := r
  dsimp only
  split
  · exact ⟨Reordered.of_records rfl rfl, rfl⟩
  · exact ⟨reordered_contextSaved _ _, by simp⟩

theorem WithinGap.schedule {s : State} {cpu : Nat} {prev now : Int}
    (within : WithinGap start gap s) (picked : s.PickedAt cpu prev) (later : prev ≤ now)
    (soon : now ≤ prev + gap) (tasklet : Bool) :
    WithinGap start gap (s.schedule cpu now tasklet) ∧ (s.schedule cpu now tasklet).PickedAt cpu now := by
  obtain ⟨decided, handedOver⟩ := within.fpDoSchedule picked later soon tasklet
  obtain ⟨reordered, current⟩ := schedule_after_decision s cpu now tasklet
  refine ⟨decided.of_reordered reordered, ?_⟩
  have kept := reordered.vcpu (s.fpDoSchedule cpu now tasklet).2.task
  unfold PickedAt
  rw [current, Function.update_self]
  rcases handedOver with idle | ⟨left, stamped⟩
  · exact .inl idle
  · exact .inr ⟨by rw [kept.2.2.2.1, kept.2.1]; exact left, by rw [kept.2.2.2.2.2]; exact stamped⟩

theorem WithinGap.run {s : State} {cpu : Nat} {prev : Int} (within : WithinGap start gap s)
    (picked : s.PickedAt cpu prev) (decisions : List (Int × Bool))
    (pacedRun : paced gap prev (decisions.map Prod.fst) = true) :
    WithinGap start gap (s.run (decisions.map fun d => .schedule cpu d.1 d.2)) := by
  induction decisions generalizing s prev with
  | nil => exact within
  | cons decision rest ih =>
      simp only [List.map_cons, paced, Bool.and_eq_true, decide_eq_true_eq] at pacedRun
      obtain ⟨⟨later, soon⟩, restPaced⟩ := pacedRun
      obtain ⟨next, pickedNow⟩ := within.schedule picked later soon decision.2
      exact ih next pickedNow restPaced

end State

/-- On one cpu, a vcpu picked at 0 with its slice of 500us and charged at the
next decision, 600us later, holds a cputime above its slice while queued. -/
theorem budget_overrun_at_late_decision :
    let s : State := (State.boot 1 [0] (fun _ => [0]) (fun _ => 0)).run
      [.domainCreate 1 0, .allocVcpu 1 0 0 0, .vcpuUp ⟨1, 0⟩, .schedule 0 0 false,
        .schedule 0 600000 false]
    ⟨1, 0⟩ ∈ s.runq 0 ∧ (s.fpVcpu ⟨1, 0⟩).slice = 500000 ∧
      (s.fpVcpu ⟨1, 0⟩).cputime = 600000 := by
  decide +kernel

/-- Over decisions on one cpu at nondecreasing times, each at most `gap` after
the one before (the first after `prev`), starting where the cpu runs its idle
vcpu or one picked at `prev` with budget left: every slice stays, and no cputime
rises above its slice (if positive) plus `gap`, unless it already stood higher. -/
theorem budget_overrun_within_gap (s : State) (cpu : Nat) (gap prev : Int)
    (decisions : List (Int × Bool)) (picked : s.PickedAt cpu prev)
    (pacedRun : paced gap prev (decisions.map Prod.fst) = true) (v : VcpuId) :
    let t := s.run (decisions.map fun d => .schedule cpu d.1 d.2)
    (t.fpVcpu v).slice = (s.fpVcpu v).slice ∧
      (t.fpVcpu v).cputime ≤ max (s.fpVcpu v).cputime (max (s.fpVcpu v).slice 0 + gap) := by
  have within := (State.WithinGap.initial s gap).run picked decisions pacedRun
  exact ⟨within.slice v, within.cputime v⟩

theorem budget_overrun_within_gap_at_late_decision :
    let s : State := (State.boot 1 [0] (fun _ => [0]) (fun _ => 0)).run
      [.domainCreate 1 0, .allocVcpu 1 0 0 0, .vcpuUp ⟨1, 0⟩]
    s.PickedAt 0 0 ∧ paced 600000 0 [0, 600000] = true ∧
      let t := s.run [.schedule 0 0 false, .schedule 0 600000 false]
      (t.fpVcpu ⟨1, 0⟩).slice = (s.fpVcpu ⟨1, 0⟩).slice ∧
        (t.fpVcpu ⟨1, 0⟩).cputime ≤
          max (s.fpVcpu ⟨1, 0⟩).cputime (max (s.fpVcpu ⟨1, 0⟩).slice 0 + 600000) :=
  ⟨by decide +kernel, by decide,
    budget_overrun_within_gap _ 0 600000 0 [(0, false), (600000, false)] (by decide +kernel)
      (by decide) ⟨1, 0⟩⟩

end CpsXen

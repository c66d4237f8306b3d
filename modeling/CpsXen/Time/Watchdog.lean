import Mathlib

/-!
A watchdog that takes a stream of events in turn, each ready from some time on,
and waits at most a fixed timeout for each: it takes an event at the later of the
time it starts to wait and the time the event is ready, and it gives up at the
first wait that runs out.  `Within` says that no wait runs out.  Under it the
watchdog takes the whole stream, and in general it gives up only a full timeout
after the last event it took, when the next one is not ready by then.
-/

namespace Watchdog

inductive Outcome where
  | expired (time : Nat)
  | taken (time : Nat)
deriving DecidableEq, Repr

def follow (timeout : Nat) : Nat → List Nat → Outcome
  | now, [] => .taken now
  | now, time :: rest =>
      if time ≤ now + timeout then follow timeout (max now time) rest else .expired (now + timeout)

def lastTaken (now : Nat) (ready : List Nat) : Nat := ready.foldl max now

/-- Each event is ready within the timeout of the time the one before it is taken. -/
def Within (timeout : Nat) : Nat → List Nat → Prop
  | _, [] => True
  | now, time :: rest => time ≤ now + timeout ∧ Within timeout (max now time) rest

@[simp] theorem lastTaken_nil (now : Nat) : lastTaken now [] = now := rfl

@[simp] theorem lastTaken_cons (now time : Nat) (rest : List Nat) :
    lastTaken now (time :: rest) = lastTaken (max now time) rest := rfl

@[simp] theorem within_nil (timeout now : Nat) : Within timeout now [] := trivial

@[simp] theorem within_cons (timeout now time : Nat) (rest : List Nat) :
    Within timeout now (time :: rest) ↔ time ≤ now + timeout ∧ Within timeout (max now time) rest :=
  Iff.rfl

variable {timeout : Nat}

theorem follow_of_within {now : Nat} {ready : List Nat} (within : Within timeout now ready) :
    follow timeout now ready = .taken (lastTaken now ready) := by
  induction ready generalizing now with
  | nil => rfl
  | cons time rest ih =>
      rw [follow, if_pos within.1, ih within.2]
      rfl

theorem follow_eq_taken {now last : Nat} {ready : List Nat} :
    follow timeout now ready = .taken last ↔ Within timeout now ready ∧ last = lastTaken now ready := by
  constructor
  · intro taken
    induction ready generalizing now with
    | nil =>
        simp only [follow, Outcome.taken.injEq] at taken
        exact ⟨trivial, taken.symm⟩
    | cons time rest ih =>
        rw [follow] at taken
        split at taken
        · rename_i inTime
          obtain ⟨within, at_⟩ := ih taken
          exact ⟨⟨inTime, within⟩, at_⟩
        · cases taken
  · rintro ⟨within, rfl⟩
    exact follow_of_within within

theorem follow_append {now : Nat} {ready : List Nat} (within : Within timeout now ready)
    (more : List Nat) : follow timeout now (ready ++ more) = follow timeout (lastTaken now ready) more := by
  induction ready generalizing now with
  | nil => rfl
  | cons time rest ih =>
      rw [List.cons_append, follow, if_pos within.1, ih within.2]
      rfl

theorem follow_eq_expired {now expiry : Nat} {ready : List Nat} :
    follow timeout now ready = .expired expiry ↔
      ∃ taken time rest, ready = taken ++ time :: rest ∧ Within timeout now taken ∧
        expiry = lastTaken now taken + timeout ∧ expiry < time := by
  constructor
  · intro expired
    induction ready generalizing now with
    | nil => simp [follow] at expired
    | cons time rest ih =>
        rw [follow] at expired
        split at expired
        · rename_i inTime
          obtain ⟨taken, next, later, parts, within, at_, late⟩ := ih expired
          exact ⟨time :: taken, next, later, by rw [parts]; rfl, ⟨inTime, within⟩, at_, late⟩
        · rename_i late
          cases expired
          exact ⟨[], time, rest, rfl, trivial, rfl, by omega⟩
  · rintro ⟨taken, time, rest, rfl, within, rfl, late⟩
    rw [follow_append within, follow, if_neg (by omega)]

end Watchdog

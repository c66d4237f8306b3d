import CpsXen.Remus.PidFifo
import CpsXen.Remus.Failover

/-!
`main` of `cpsremus_heartbeat_rcv` from the read of the fifo on: the pids it parses
out of the fifo, the loop of `CpsXen.Remus.Failover`, and what the receiver does to
the rest of the system when the loop ends.  Inside the loop a `select` that times
out kills the process whose pid came first in the fifo, removes the fifo and returns
`1`.  After the loop the same kill and removal are followed by a call of
`libxl_device_nic_list` for the domid that came second, on the global `ctx` that
`main` never allocates; what that call does is left out, and a trace stops there.

`select` refuses a timeout with a negative part.  It then returns `-1` and leaves
`rdfs` as it was, so the loop reads standard input without any timeout.  A negative
argument therefore turns the failover on silence off: the receiver waits for input
forever, and only the end of the stream makes it leave the loop.
-/

namespace CpsXen

namespace Heartbeat

def Timeval.valid (tv : Timeval) : Bool := 0 ≤ tv.tvSec && 0 ≤ tv.tvUsec

def rcvLoopBlocking (now : Nat) : List (Nat × Char) → StreamEnd → Option LoopExit
  | (time, _) :: rest, ending => rcvLoopBlocking (max now time) rest ending
  | [], .eof time => some (.hangup (max now time))
  | [], .error time => some (.hangup (max now time))
  | [], .silent => none

inductive Effect where
  | kill (pid : Int32)
  | removeFifo
  | nicList (domid : Int32)
  | exit (status : Int)
deriving DecidableEq, Repr

def rcvMain (t : Int32) (stack : Vector Char 13) (message : List Char) (now : Nat)
    (input : Stdin) : Option (List Effect) := do
  let (remusPid, domid) ← receivePids stack message
  let tv := receiverTimeval t
  let ended :=
    if tv.valid then some (rcvLoop tv.micros.toNat now input)
    else rcvLoopBlocking now input.bytes input.ending
  let failover := [Effect.kill remusPid, .removeFifo]
  match ended with
  | some (.silence _) => pure (failover ++ [.exit 1])
  | some (.hangup _) => pure (failover ++ [.nicList domid])
  | none => pure []

theorem tmod_thousand_bounds (a : Int) : -1000 < a.tmod 1000 ∧ a.tmod 1000 < 1000 := by
  rw [Int.tmod_eq_emod]
  split <;> simp <;> omega

theorem receiverTimeval_valid_iff (t : Int32) : (receiverTimeval t).valid = true ↔ 0 ≤ t := by
  have units : receiverUnits.toInt = 1000 := by decide
  have sec : (receiverTimeval t).tvSec = t.toInt.tdiv 1000 := by
    rw [receiverTimeval, Int32.toInt_div_of_ne_right t receiverUnits (by decide), units]
  have usec : (receiverTimeval t).tvUsec = t.toInt.tmod 1000 * 1000 := by
    have bounds := tmod_thousand_bounds t.toInt
    rw [receiverTimeval, Int32.toInt_mul, Int32.toInt_mod, units]
    apply Int.bmod_eq_of_le <;> simp <;> omega
  rw [Timeval.valid, sec, usec, Int32.le_iff_toInt_le, Int.tdiv_eq_ediv, Int.tmod_eq_emod]
  simp only [Bool.and_eq_true, decide_eq_true_eq]
  split <;> simp <;> omega

theorem rcvLoop_silent (micros now : Nat) (bytes : List (Nat × Char)) :
    ∃ time, rcvLoop micros now ⟨bytes, .silent⟩ = .silence time := by
  rw [rcvLoop_eq_follow]
  cases Watchdog.follow micros now (bytes.map Prod.fst) with
  | expired time => exact ⟨time, rfl⟩
  | taken last => exact ⟨last + micros, rcvLoop_of_late fun _ ready => nomatch ready⟩

theorem rcvLoopBlocking_silent (now : Nat) (bytes : List (Nat × Char)) :
    rcvLoopBlocking now bytes .silent = none := by
  induction bytes generalizing now with
  | nil => rfl
  | cons byte rest ih => exact ih (max now byte.1)

theorem rcvLoopBlocking_of_ends {ending : StreamEnd} (ends : ending ≠ .silent) (now : Nat)
    (bytes : List (Nat × Char)) :
    ∃ time, rcvLoopBlocking now bytes ending = some (.hangup time) := by
  induction bytes generalizing now with
  | cons byte rest ih => exact ih (max now byte.1)
  | nil =>
      cases ending with
      | eof time => exact ⟨max now time, rfl⟩
      | error time => exact ⟨max now time, rfl⟩
      | silent => exact absurd rfl ends

theorem rcvMain_of_pids {t : Int32} {stack : Vector Char 13} {message : List Char}
    {remusPid domid : Int32} (pids : receivePids stack message = some (remusPid, domid))
    (now : Nat) (input : Stdin) :
    rcvMain t stack message now input =
      match (if (receiverTimeval t).valid then
          some (rcvLoop (receiverTimeval t).micros.toNat now input)
        else rcvLoopBlocking now input.bytes input.ending) with
      | some (.silence _) => some [.kill remusPid, .removeFifo, .exit 1]
      | some (.hangup _) => some [.kill remusPid, .removeFifo, .nicList domid]
      | none => some [] := by
  rw [rcvMain, pids]
  rfl

theorem rcvMain_of_silence {t : Int32} {stack : Vector Char 13} {message : List Char}
    {remusPid domid : Int32} (pids : receivePids stack message = some (remusPid, domid))
    (valid : (receiverTimeval t).valid = true) {now time : Nat} {input : Stdin}
    (silence : rcvLoop (receiverTimeval t).micros.toNat now input = .silence time) :
    rcvMain t stack message now input = some [.kill remusPid, .removeFifo, .exit 1] := by
  rw [rcvMain_of_pids pids, if_pos valid, silence]

/-- For every timeout that is not negative and every pid and domid that fit in the
fifo's read, the receiver always ends by killing the process the fifo named and
removing the fifo.  It then returns `1`, or, when its input hung up, asks libxl for
the domain's network interfaces; a primary that falls silent always gets the first. -/
theorem failover_kills_save_helper (ppid : Int32) (domid : UInt32)
    (fits : (pidsMessage ppid domid).length ≤ 12) (t : Int32) (nonneg : 0 ≤ t)
    (stack : Vector Char 13) (now : Nat) (input : Stdin) :
    ∃ last, rcvMain t stack (pidsMessage ppid domid) now input =
        some [.kill ppid, .removeFifo, last] ∧
      (last = .exit 1 ∨ last = .nicList domid.toInt32) ∧
      (input.ending = .silent → last = .exit 1) := by
  have valid := (receiverTimeval_valid_iff t).mpr nonneg
  rw [rcvMain_of_pids (receivePids_of_fits stack ppid domid fits), if_pos valid]
  obtain ⟨bytes, ending⟩ := input
  cases ended : rcvLoop (receiverTimeval t).micros.toNat now ⟨bytes, ending⟩ with
  | silence time => exact ⟨.exit 1, rfl, .inl rfl, fun _ => rfl⟩
  | hangup time =>
      refine ⟨.nicList domid.toInt32, rfl, .inr rfl, fun silent => ?_⟩
      obtain ⟨expiry, timedOut⟩ := rcvLoop_silent (receiverTimeval t).micros.toNat now bytes
      cases (silent : ending = .silent)
      rw [ended] at timedOut
      cases timedOut

theorem silent_primary_killed_at_200ms :
    (pidsMessage 4242 3).length ≤ 12 ∧ (0 : Int32) ≤ 200 ∧
      ∃ last, rcvMain 200 (Vector.replicate 13 '\x00') (pidsMessage 4242 3) 0
          ⟨senderStream 66000 0 3, .silent⟩ = some [.kill 4242, .removeFifo, last] ∧
        (last = .exit 1 ∨ last = .nicList (3 : UInt32).toInt32) ∧
        ((⟨senderStream 66000 0 3, .silent⟩ : Stdin).ending = .silent → last = .exit 1) :=
  ⟨by decide, by decide,
    failover_kills_save_helper 4242 3 (by decide) 200 (by decide) _ 0 _⟩

/-- With a negative timeout the receiver never fails over on silence: against a
silent primary it waits forever and does nothing, and otherwise it reads to the end
of the stream, however long the gaps, and only then kills the save helper, removes
the fifo and asks for the domain's network interfaces. -/
theorem negative_timeout_disables_failover (ppid : Int32) (domid : UInt32)
    (fits : (pidsMessage ppid domid).length ≤ 12) (t : Int32) (negative : t < 0)
    (stack : Vector Char 13) (now : Nat) (bytes : List (Nat × Char)) (ending : StreamEnd) :
    rcvMain t stack (pidsMessage ppid domid) now ⟨bytes, ending⟩ =
      if ending = .silent then some []
      else some [.kill ppid, .removeFifo, .nicList domid.toInt32] := by
  have refused : (receiverTimeval t).valid = false := by
    rw [← Bool.not_eq_true, receiverTimeval_valid_iff]
    exact Int32.not_le.mpr negative
  rw [rcvMain_of_pids (receivePids_of_fits stack ppid domid fits), if_neg (by simp [refused])]
  by_cases silent : ending = .silent
  · subst silent
    rw [rcvLoopBlocking_silent, if_pos rfl]
  · -- the stream ends, and `read` returns `0` or `-1` at its end
    obtain ⟨time, ended⟩ := rcvLoopBlocking_of_ends silent now bytes
    rw [ended, if_neg silent]

theorem minus_one_waits_forever :
    (pidsMessage 4242 3).length ≤ 12 ∧ (-1 : Int32) < 0 ∧
      rcvMain (-1) (Vector.replicate 13 '\x00') (pidsMessage 4242 3) 0 ⟨[(5, 'h')], .silent⟩ =
        some [] :=
  ⟨by decide, by decide, by
    rw [negative_timeout_disables_failover 4242 3 (by decide) (-1) (by decide)]
    exact if_pos rfl⟩

end Heartbeat

end CpsXen

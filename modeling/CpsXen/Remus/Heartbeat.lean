import Mathlib

/-! The heartbeat pair `xl remus` starts through `heartbeat_launcher`: the same
decimal argument reaches `cpsremus_heartbeat_send`, which reads it into an
`unsigned int` and sleeps `(t*33/100)*1000` microseconds between heartbeats,
and `cpsremus_heartbeat_rcv`, which reads it into an `int` and waits in
`select` for `t/1000` seconds and `(t%1000)*1000` microseconds before it
declares failover.  The arithmetic is C's: wrapping in the sender, truncating
in the receiver. -/

namespace CpsXen

namespace Heartbeat

def remusTimeout : Option Int32 → Int32
  | some t => t
  | none => 0

def percentage : UInt32 := 33

def senderUnits : UInt32 := 1000

def receiverUnits : Int32 := 1000

def senderPause (t : Int32) : UInt32 :=
  let timeout := t.toUInt32
  let period := timeout * percentage / 100
  period * senderUnits

structure Timeval where
  tvSec : Int
  tvUsec : Int
deriving DecidableEq, Repr

def receiverTimeval (t : Int32) : Timeval :=
  { tvSec := (t / receiverUnits).toInt, tvUsec := (t % receiverUnits * 1000).toInt }

def Timeval.micros (tv : Timeval) : Int := tv.tvSec * 1000000 + tv.tvUsec

/-- A running sender beats before the receiver's `select` gives up. -/
def BeatsInTime (t : Int32) : Prop := ((senderPause t).toNat : Int) < (receiverTimeval t).micros

instance (t : Int32) : Decidable (BeatsInTime t) := inferInstanceAs (Decidable (_ < _))

theorem senderPause_toNat {t : Int32} (nonneg : 0 ≤ t) :
    (senderPause t).toNat = t.toNatClampNeg * 33 % 2 ^ 32 / 100 * 1000 % 2 ^ 32 := by
  simp only [senderPause, UInt32.toNat_mul, UInt32.toNat_div, Int32.toNat_toUInt32_of_le nonneg]
  rfl

theorem receiverTimeval_micros {t : Int32} (nonneg : 0 ≤ t) :
    (receiverTimeval t).micros = t.toInt * 1000 := by
  have low : 0 ≤ t.toInt := Int32.le_iff_toInt_le.mp nonneg
  have units : receiverUnits.toInt = 1000 := by decide
  have sec : (t / receiverUnits).toInt = t.toInt / 1000 := by
    rw [Int32.toInt_div_of_ne_right t receiverUnits (by decide), Int.tdiv_eq_ediv_of_nonneg low,
      units]
  have usec : (t % receiverUnits * 1000).toInt = t.toInt % 1000 * 1000 := by
    rw [Int32.toInt_mul, Int32.toInt_mod, Int.tmod_eq_emod_of_nonneg low, units]
    apply Int.bmod_eq_of_le <;> simp <;> omega
  simp only [receiverTimeval, Timeval.micros, sec, usec]
  omega

end Heartbeat

/-- With the default timeout of `0` the sender does not pause and the receiver
does not wait. -/
theorem default_timeout_fails_over :
    Heartbeat.senderPause (Heartbeat.remusTimeout none) = 0 ∧
      (Heartbeat.receiverTimeval (Heartbeat.remusTimeout none)).micros = 0 ∧
      ¬Heartbeat.BeatsInTime (Heartbeat.remusTimeout none) := by
  decide

/-- For every positive timeout `xl remus` can pass, the sender's pause is shorter
than the receiver's `select` timeout, wrap-around of `t*33` and of `period*1000`
in the sender included. -/
theorem heartbeat_beats_in_time (t : Int32) (positive : 0 < t) : Heartbeat.BeatsInTime t := by
  have nonneg : 0 ≤ t := Int32.le_of_lt positive
  have above : 0 < t.toInt := by simpa using Int32.lt_iff_toInt_lt.mp positive
  unfold Heartbeat.BeatsInTime
  rw [Heartbeat.senderPause_toNat nonneg, Heartbeat.receiverTimeval_micros nonneg]
  obtain ⟨x, value⟩ := Int.eq_ofNat_of_zero_le (Int.le_of_lt above)
  have clamped : t.toNatClampNeg = x := by
    show t.toInt.toNat = x
    omega
  rw [clamped, value]
  rw [value] at above
  -- does `t*33` wrap in the sender?
  rcases Nat.lt_or_ge (x * 33) (2 ^ 32) with small | large
  · have pause : x * 33 % 2 ^ 32 / 100 * 1000 % 2 ^ 32 ≤ x * 33 / 100 * 1000 := by
      rw [Nat.mod_eq_of_lt small]
      exact Nat.mod_le _ _
    omega
  · have pause := Nat.mod_lt (x * 33 % 2 ^ 32 / 100 * 1000) (Nat.two_pow_pos 32)
    omega

theorem heartbeat_beats_in_time_at_200ms :
    (0 : Int32) < 200 ∧ Heartbeat.BeatsInTime 200 :=
  ⟨by decide, heartbeat_beats_in_time 200 (by decide)⟩

end CpsXen

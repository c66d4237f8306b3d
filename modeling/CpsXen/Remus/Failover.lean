import CpsXen.Remus.Heartbeat
import CpsXen.Time.Watchdog

/-!
The failover loop of `cpsremus_heartbeat_rcv` against the stream that `ssh` brings
it from `cpsremus_heartbeat_send`.  Each turn of the loop calls `select` on
standard input with the same timeout.  A `select` that returns `0` is the failover
inside the loop; otherwise one byte is read, and the loop goes on while `read`
returns a byte.  Time is in microseconds, and a byte, or the end of the stream, is
readable from the time it reaches the receiver.  The loop is the watchdog of
`CpsXen.Time.Watchdog` over the times the bytes become readable, followed by one
more turn for the end of the stream.  So the receiver never fails over before a
full timeout has passed without input, and against a sender whose pause is shorter
than the timeout it reads every heartbeat and fails over one timeout after the
last.
-/

namespace CpsXen

namespace Heartbeat

inductive StreamEnd where
  | eof (time : Nat)
  | error (time : Nat)
  | silent
deriving DecidableEq, Repr

/-- The receiver's standard input: the bytes still to be read, each with the time it
becomes readable, and how the stream ends. -/
structure Stdin where
  bytes : List (Nat × Char)
  ending : StreamEnd
deriving DecidableEq, Repr

namespace Stdin

def readyAt : Stdin → Option Nat
  | ⟨(time, _) :: _, _⟩ => some time
  | ⟨[], .eof time⟩ => some time
  | ⟨[], .error time⟩ => some time
  | ⟨[], .silent⟩ => none

def select (input : Stdin) (now micros : Nat) : Int × Nat :=
  match input.readyAt with
  | some time => if time ≤ now + micros then (1, max now time) else (0, now + micros)
  | none => (0, now + micros)

def read : Stdin → Int × Stdin
  | ⟨_ :: rest, ending⟩ => (1, ⟨rest, ending⟩)
  | ⟨[], .eof time⟩ => (0, ⟨[], .eof time⟩)
  | ⟨[], .error time⟩ => (-1, ⟨[], .error time⟩)
  | ⟨[], .silent⟩ => (0, ⟨[], .silent⟩)

theorem length_read {input : Stdin} (positive : 0 < input.read.1) :
    input.read.2.bytes.length < input.bytes.length := by
  obtain ⟨bytes, ending⟩ := input
  cases bytes with
  | cons byte rest => simp [read]
  | nil => cases ending <;> simp [read] at positive

end Stdin

inductive LoopExit where
  | silence (time : Nat)
  | hangup (time : Nat)
deriving DecidableEq, Repr

def rcvLoop (micros now : Nat) (input : Stdin) : LoopExit :=
  let selected := input.select now micros
  if selected.1 = 0 then .silence selected.2
  else if _reading : 0 < input.read.1 then rcvLoop micros selected.2 input.read.2
  else .hangup selected.2
termination_by input.bytes.length
decreasing_by exact Stdin.length_read ‹_›

def senderStream (pause : Nat) : Nat → Nat → List (Nat × Char)
  | _, 0 => []
  | time, beats + 1 => (time, 'h') :: (time, '\n') :: senderStream pause (time + pause) beats

section Steps

variable {micros now : Nat}

theorem rcvLoop_byte {time : Nat} {c : Char} {rest : List (Nat × Char)} {ending : StreamEnd}
    (ready : time ≤ now + micros) :
    rcvLoop micros now ⟨(time, c) :: rest, ending⟩ = rcvLoop micros (max now time) ⟨rest, ending⟩ := by
  rw [rcvLoop]
  simp [Stdin.select, Stdin.readyAt, Stdin.read, ready]

theorem rcvLoop_of_late {input : Stdin} (late : ∀ time, input.readyAt = some time → now + micros < time) :
    rcvLoop micros now input = .silence (now + micros) := by
  rw [rcvLoop]
  cases ready : input.readyAt with
  | none => simp [Stdin.select, ready]
  | some time => simp [Stdin.select, ready, not_le.mpr (late time ready)]

theorem rcvLoop_eof {time : Nat} (ready : time ≤ now + micros) :
    rcvLoop micros now ⟨[], .eof time⟩ = .hangup (max now time) := by
  rw [rcvLoop]
  simp [Stdin.select, Stdin.readyAt, Stdin.read, ready]

theorem rcvLoop_error {time : Nat} (ready : time ≤ now + micros) :
    rcvLoop micros now ⟨[], .error time⟩ = .hangup (max now time) := by
  rw [rcvLoop]
  simp [Stdin.select, Stdin.readyAt, Stdin.read, ready]

theorem rcvLoop_end_eq_silence {ending : StreamEnd} {expiry : Nat}
    (failover : rcvLoop micros now ⟨[], ending⟩ = .silence expiry) :
    expiry = now + micros ∧ ∀ time, (⟨[], ending⟩ : Stdin).readyAt = some time → expiry < time := by
  by_cases late : ∀ time, (⟨[], ending⟩ : Stdin).readyAt = some time → now + micros < time
  · rw [rcvLoop_of_late late, LoopExit.silence.injEq] at failover
    subst failover
    exact ⟨rfl, late⟩
  · -- the end is readable in time, so the loop ends on the `read` instead
    simp only [not_forall, not_lt] at late
    obtain ⟨time, ready, inTime⟩ := late
    cases ending with
    | eof close =>
        simp only [Stdin.readyAt, Option.some.injEq] at ready
        subst ready
        rw [rcvLoop_eof inTime] at failover
        cases failover
    | error close =>
        simp only [Stdin.readyAt, Option.some.injEq] at ready
        subst ready
        rw [rcvLoop_error inTime] at failover
        cases failover
    | silent => cases ready

end Steps

theorem rcvLoop_eq_follow (micros now : Nat) (input : Stdin) :
    rcvLoop micros now input =
      match Watchdog.follow micros now (input.bytes.map Prod.fst) with
      | .expired time => .silence time
      | .taken time => rcvLoop micros time ⟨[], input.ending⟩ := by
  obtain ⟨bytes, ending⟩ := input
  induction bytes generalizing now with
  | nil => rfl
  | cons byte rest ih =>
      obtain ⟨time, c⟩ := byte
      by_cases ready : time ≤ now + micros
      · rw [rcvLoop_byte ready, ih]
        simp only [List.map_cons, Watchdog.follow, if_pos ready]
      · have late : ∀ t, (⟨(time, c) :: rest, ending⟩ : Stdin).readyAt = some t → now + micros < t := by
          intro t readyAt
          simp only [Stdin.readyAt, Option.some.injEq] at readyAt
          omega
        rw [rcvLoop_of_late late]
        simp only [List.map_cons, Watchdog.follow, if_neg ready]

/-- The receiver never fails over early: a failover on a `select` timeout comes when
the bytes it read so far each came within the timeout, a full timeout after the last
of them was read (or after the loop started), and nothing more on its input became
readable before it. -/
theorem rcv_never_fails_over_early (micros now : Nat) (input : Stdin) (expiry : Nat)
    (failover : rcvLoop micros now input = .silence expiry) :
    ∃ taken rest, input.bytes = taken ++ rest ∧ Watchdog.Within micros now (taken.map Prod.fst) ∧
      expiry = Watchdog.lastTaken now (taken.map Prod.fst) + micros ∧
      ∀ time, (⟨rest, input.ending⟩ : Stdin).readyAt = some time → expiry < time := by
  rw [rcvLoop_eq_follow] at failover
  cases follows : Watchdog.follow micros now (input.bytes.map Prod.fst) with
  | expired time =>
      -- a byte came too late: the watchdog names the bytes read before it
      rw [follows, LoopExit.silence.injEq] at failover
      subst failover
      obtain ⟨taken, next, later, parts, within, at_, late⟩ := Watchdog.follow_eq_expired.mp follows
      obtain ⟨read, unread, split, readTimes, unreadTimes⟩ := List.map_eq_append_iff.mp parts
      obtain ⟨byte, after, rfl, first, -⟩ := List.map_eq_cons_iff.mp unreadTimes
      refine ⟨read, byte :: after, split, readTimes ▸ within, readTimes ▸ at_, fun t ready => ?_⟩
      simp only [Stdin.readyAt, Option.some.injEq] at ready
      rw [← ready, first]
      exact late
  | taken last =>
      -- every byte was read in time, and the end of the stream was not
      rw [follows] at failover
      obtain ⟨within, rfl⟩ := Watchdog.follow_eq_taken.mp follows
      obtain ⟨at_, late⟩ := rcvLoop_end_eq_silence failover
      exact ⟨input.bytes, [], (List.append_nil _).symm, within, at_, late⟩

theorem late_heartbeat_fails_over :
    rcvLoop 10 0 ⟨[(5, 'h'), (30, 'h')], .silent⟩ = .silence 15 ∧
      ∃ taken rest, [(5, 'h'), (30, 'h')] = taken ++ rest ∧
        Watchdog.Within 10 0 (taken.map Prod.fst) ∧
        15 = Watchdog.lastTaken 0 (taken.map Prod.fst) + 10 ∧
        ∀ time, (⟨rest, .silent⟩ : Stdin).readyAt = some time → 15 < time := by
  have failover : rcvLoop 10 0 ⟨[(5, 'h'), (30, 'h')], .silent⟩ = .silence 15 := by
    rw [rcvLoop_byte (by decide), rcvLoop_of_late (by simp [Stdin.readyAt])]
    rfl
  exact ⟨failover, rcv_never_fails_over_early 10 0 _ 15 failover⟩

section Sender

variable {micros pause : Nat}

theorem within_senderStream (short : pause ≤ micros) :
    ∀ beats {now time : Nat}, time ≤ now + micros →
      Watchdog.Within micros now ((senderStream pause time beats).map Prod.fst)
  | 0, _, _, _ => trivial
  | beats + 1, now, time, first => by
      -- both bytes of a heartbeat are readable together, and the next heartbeat
      -- comes one pause later
      refine ⟨first, by omega, within_senderStream short beats ?_⟩
      omega

theorem lastTaken_senderStream (beats : Nat) {now time : Nat} :
    Watchdog.lastTaken now ((senderStream pause time (beats + 1)).map Prod.fst) =
      max now (time + beats * pause) := by
  induction beats generalizing now time with
  | zero => simp [senderStream]
  | succ beats ih =>
      rw [senderStream, List.map_cons, List.map_cons, Watchdog.lastTaken_cons,
        Watchdog.lastTaken_cons, ih, Nat.add_mul, one_mul]
      omega

theorem rcvLoop_senderStream (short : pause ≤ micros) {loopStart firstBeat : Nat}
    (first : firstBeat ≤ loopStart + micros) (beats : Nat) (ending : StreamEnd) :
    rcvLoop micros loopStart ⟨senderStream pause firstBeat (beats + 1), ending⟩ =
      rcvLoop micros (max loopStart (firstBeat + beats * pause)) ⟨[], ending⟩ := by
  rw [rcvLoop_eq_follow, Watchdog.follow_of_within (within_senderStream short (beats + 1) first),
    lastTaken_senderStream]

end Sender

theorem BeatsInTime.short {t : Int32} (inTime : BeatsInTime t) :
    (senderPause t).toNat ≤ (receiverTimeval t).micros.toNat := by
  unfold BeatsInTime at inTime
  omega

/-- With the sender and the receiver started on the same argument `t`, and the
sender's pause shorter than the receiver's timeout, a primary whose first heartbeat
is readable within one timeout of the receiver's loop start has every heartbeat
read.  If the primary then goes silent, the receiver fails over exactly one timeout
after its last heartbeat (or after the loop start, if that is later).  If its
stream is instead closed within a timeout of that, the loop ends at the close. -/
theorem failover_one_timeout_after_last_beat (t : Int32) (inTime : BeatsInTime t)
    (loopStart firstBeat beats : Nat)
    (first : firstBeat ≤ loopStart + (receiverTimeval t).micros.toNat) :
    let micros : Nat := (receiverTimeval t).micros.toNat
    let pause : Nat := (senderPause t).toNat
    let last : Nat := max loopStart (firstBeat + beats * pause)
    rcvLoop micros loopStart ⟨senderStream pause firstBeat (beats + 1), .silent⟩ =
        .silence (last + micros) ∧
      ∀ close, last ≤ close → close ≤ last + micros →
        rcvLoop micros loopStart ⟨senderStream pause firstBeat (beats + 1), .eof close⟩ =
          .hangup close := by
  intro micros pause last
  have reads : ∀ ending, rcvLoop micros loopStart ⟨senderStream pause firstBeat (beats + 1), ending⟩ =
      rcvLoop micros last ⟨[], ending⟩ :=
    rcvLoop_senderStream inTime.short first beats
  refine ⟨?_, fun close after inTime => ?_⟩
  · rw [reads, rcvLoop_of_late (by simp [Stdin.readyAt])]
  · rw [reads, rcvLoop_eof inTime, max_eq_right after]

theorem failover_after_three_beats_at_200ms :
    BeatsInTime 200 ∧ rcvLoop 200000 0 ⟨senderStream 66000 0 3, .silent⟩ = .silence 332000 :=
  ⟨by decide, (failover_one_timeout_after_last_beat 200 (by decide) 0 0 2 (Nat.zero_le _)).1⟩

end Heartbeat

end CpsXen

import CpsXen.Remus.Receiver

/-!
How the pids get into the fifo: `run_helper` of `libxl_save_callout.c`, in the
`xl migrate-receive` that restores the domain on the backup host, and the first
lines of `main` of `cpsremus_heartbeat_rcv`, started on the same host by
`heartbeat_launcher`, run side by side.  Each makes sure the fifo exists and opens
it.  The receiver opens it for reading and blocks until a writer opens it.  The
helper opens it for writing with `O_NONBLOCK`, which fails with `ENXIO` when no
process has it open for reading; the helper then writes to `-1` and goes on.

So the pids reach the receiver exactly when it has opened the fifo before the
helper does.  Otherwise the helper's message is lost and the receiver waits in
`open` forever: it never starts to watch the heartbeat.  Whatever the order, the
receiver never reads anything but the first 12 bytes of the helper's message.
Put together with the receiver's parse and its loop, a helper that wrote has the
process it named killed one timeout after the last heartbeat of a primary that
falls silent.
-/

namespace CpsXen

namespace Heartbeat

structure Fifo where
  present : Bool
  readers : Nat
  writers : Nat
  writerOpens : Nat
  buffer : List Char
deriving DecidableEq, Repr

def Fifo.mkfifo (fifo : Fifo) : Fifo := { fifo with present := true }

inductive RcvFifo where
  | start
  | opening
  | waiting (seen : Nat)
  | reading
  | got (bytes : List Char)
deriving DecidableEq, Repr

inductive HelperFifo where
  | start
  | opening
  | writing (opened : Bool)
  | closing (opened : Bool)
  | done (opened : Bool)
deriving DecidableEq, Repr

/-- The fifo and the two processes that use it.  The fifo records whether the
path exists, the descriptors open on it for reading and for writing, how many
times a writer has opened it, and the bytes not yet read.  The receiver blocked
in `open` is at `waiting seen` until a writer opens the fifo after the first
`seen` did; `opened` says whether the helper's `fifo_fd` is a descriptor or `-1`. -/
structure Handshake where
  fifo : Fifo
  receiver : RcvFifo
  helper : HelperFifo
deriving DecidableEq, Repr

inductive Side where
  | receiver
  | helper
deriving DecidableEq, Repr

namespace Handshake

def init (present : Bool) : Handshake :=
  { fifo := { present, readers := 0, writers := 0, writerOpens := 0, buffer := [] },
    receiver := .start, helper := .start }

def receiverStep (h : Handshake) : Handshake :=
  match h.receiver with
  | .start => { h with fifo := h.fifo.mkfifo, receiver := .opening }
  | .opening =>
      if h.fifo.present then
        let fifo : Fifo := { h.fifo with readers := h.fifo.readers + 1 }
        -- with a writer there already `open` returns at once
        if 0 < h.fifo.writers then { h with fifo, receiver := .reading }
        else { h with fifo, receiver := .waiting h.fifo.writerOpens }
      else
        -- `open` fails with `ENOENT`, and so does the `read` from `-1`
        { h with receiver := .got [] }
  | .waiting seen => if h.fifo.writerOpens ≠ seen then { h with receiver := .reading } else h
  | .reading =>
      -- `read` waits while the fifo is empty and a writer has it open; `close`
      -- follows at once
      if h.fifo.buffer ≠ [] ∨ h.fifo.writers = 0 then
        { h with
          fifo := { h.fifo with readers := h.fifo.readers - 1, buffer := h.fifo.buffer.drop 12 },
          receiver := .got (h.fifo.buffer.take 12) }
      else h
  | .got _ => h

def helperStep (message : List Char) (h : Handshake) : Handshake :=
  match h.helper with
  | .start => { h with fifo := h.fifo.mkfifo, helper := .opening }
  | .opening =>
      -- `open(..., O_WRONLY|O_NONBLOCK)` fails with `ENXIO` without a reader
      if h.fifo.present ∧ 0 < h.fifo.readers then
        { h with
          fifo := { h.fifo with writers := h.fifo.writers + 1,
                                writerOpens := h.fifo.writerOpens + 1 },
          helper := .writing true }
      else { h with helper := .writing false }
  | .writing opened =>
      -- a write of at most `PIPE_BUF` bytes goes in whole; with no reader left
      -- nothing goes in (`EPIPE`), and a `-1` fails with `EBADF`
      if opened ∧ 0 < h.fifo.readers then
        { h with fifo := { h.fifo with buffer := h.fifo.buffer ++ message }, helper := .closing opened }
      else { h with helper := .closing opened }
  | .closing opened =>
      if opened then { h with fifo := { h.fifo with writers := h.fifo.writers - 1 }, helper := .done true }
      else { h with helper := .done false }
  | .done _ => h

def step (message : List Char) (h : Handshake) : Side → Handshake
  | .receiver => h.receiverStep
  | .helper => h.helperStep message

def run (message : List Char) (h : Handshake) (schedule : List Side) : Handshake :=
  schedule.foldl (step message) h

@[simp] theorem run_nil (message : List Char) (h : Handshake) : h.run message [] = h := rfl

@[simp] theorem run_cons (message : List Char) (h : Handshake) (side : Side) (rest : List Side) :
    h.run message (side :: rest) = (h.step message side).run message rest := rfl

end Handshake

def RcvFifo.inside : RcvFifo → Bool
  | .waiting _ | .reading => true
  | _ => false

def HelperFifo.opened : HelperFifo → Bool
  | .writing true | .closing true | .done true => true
  | _ => false

def HelperFifo.holding : HelperFifo → Bool
  | .writing true | .closing true => true
  | _ => false

def HelperFifo.wrote : HelperFifo → Bool
  | .closing true | .done true => true
  | _ => false

/-- Where the receiver can be while the helper is where it is. -/
def Together (message : List Char) (receiver : RcvFifo) : HelperFifo → Prop
  | .writing true => receiver = .waiting 0 ∨ receiver = .reading
  | .closing true | .done true =>
      receiver = .waiting 0 ∨ receiver = .reading ∨ receiver = .got (message.take 12)
  | _ => receiver = .start ∨ receiver = .opening ∨ receiver = .waiting 0

def fifoAt (message : List Char) (present : Bool) (receiver : RcvFifo) (helper : HelperFifo) :
    Fifo where
  present := present
  readers := if receiver.inside then 1 else 0
  writers := if helper.holding then 1 else 0
  writerOpens := if helper.opened then 1 else 0
  buffer := if helper.wrote then (match receiver with | .got _ => message.drop 12 | _ => message)
    else []

namespace Handshake

/-- Every interleaving keeps the fifo a function of where the two processes are,
and the receiver out of `open` until the helper has opened the fifo. -/
structure Inv (message : List Char) (h : Handshake) : Prop where
  fifo : ∃ present, h.fifo = fifoAt message present h.receiver h.helper ∧
    (h.receiver ≠ .start → present = true)
  together : Together message h.receiver h.helper

theorem Inv.init (message : List Char) (present : Bool) : (init present).Inv message :=
  ⟨⟨present, rfl, fun started => absurd rfl started⟩, .inl rfl⟩

theorem Inv.intro {message : List Char} {h : Handshake}
    (fifo : h.fifo = fifoAt message h.fifo.present h.receiver h.helper)
    (present : h.receiver ≠ .start → h.fifo.present = true)
    (together : Together message h.receiver h.helper) : h.Inv message :=
  ⟨⟨h.fifo.present, fifo, present⟩, together⟩

theorem Inv.of_positions {message : List Char} {P : Handshake → Prop}
    (positions : ∀ present receiver helper, (receiver ≠ .start → present = true) →
      Together message receiver helper → P ⟨fifoAt message present receiver helper, receiver, helper⟩)
    {h : Handshake} (inv : h.Inv message) : P h := by
  obtain ⟨fifo, receiver, helper⟩ := h
  obtain ⟨⟨present, same, pres⟩, together⟩ := inv
  dsimp only at same pres together
  subst same
  exact positions present receiver helper pres together

theorem Inv.of_together {message : List Char} {present : Bool} {receiver : RcvFifo}
    {helper : HelperFifo} (pres : receiver ≠ .start → present = true)
    (together : Together message receiver helper) :
    (⟨fifoAt message present receiver helper, receiver, helper⟩ : Handshake).Inv message :=
  ⟨⟨present, rfl, pres⟩, together⟩

section Steps

variable {message : List Char} {present : Bool} {receiver : RcvFifo} {helper : HelperFifo}

theorem HelperFifo.closed (closed : helper.opened = false) :
    helper.holding = false ∧ helper.wrote = false := by
  cases helper <;> (try rename_i opened; cases opened) <;>
    simp_all [HelperFifo.opened, HelperFifo.holding, HelperFifo.wrote]

theorem Together.not_opened (together : Together message receiver helper)
    (outside : receiver = .start ∨ receiver = .opening) : helper.opened = false := by
  rcases outside with rfl | rfl <;> cases helper <;> (try rename_i opened; cases opened) <;>
    simp_all [Together, HelperFifo.opened]

theorem Together.of_not_opened (closed : helper.opened = false) :
    Together message receiver helper ↔
      receiver = .start ∨ receiver = .opening ∨ receiver = .waiting 0 := by
  cases helper <;> (try rename_i opened; cases opened) <;> simp_all [Together, HelperFifo.opened]

theorem Together.seen_zero {seen : Nat} (together : Together message (.waiting seen) helper) :
    seen = 0 := by
  cases helper <;> (try rename_i opened; cases opened) <;> simp_all [Together]

theorem Together.reading_of_opened (isOpen : helper.opened = true) :
    Together message .reading helper := by
  cases helper <;> (try rename_i opened; cases opened) <;> simp_all [Together, HelperFifo.opened]

theorem Together.opened_of_reading (together : Together message .reading helper) :
    helper = .writing true ∨ helper = .closing true ∨ helper = .done true := by
  cases helper <;> (try rename_i opened; cases opened) <;> simp_all [Together]

theorem Inv.receiver_start (together : Together message .start helper) :
    (⟨fifoAt message present .start helper, .start, helper⟩ : Handshake).receiverStep.Inv
      message := by
  have closed := Together.not_opened together (.inl rfl)
  show (⟨fifoAt message true .opening helper, .opening, helper⟩ : Handshake).Inv message
  exact Inv.of_together (fun _ => rfl) ((Together.of_not_opened closed).mpr (.inr (.inl rfl)))

theorem Inv.receiver_opening (together : Together message .opening helper) :
    (⟨fifoAt message true .opening helper, .opening, helper⟩ : Handshake).receiverStep.Inv
      message := by
  have closed := Together.not_opened together (.inr rfl)
  obtain ⟨notHolding, notWrote⟩ := HelperFifo.closed closed
  have blocked : (⟨fifoAt message true .opening helper, .opening, helper⟩ : Handshake).receiverStep =
      ⟨fifoAt message true (.waiting 0) helper, .waiting 0, helper⟩ := by
    simp [receiverStep, fifoAt, RcvFifo.inside, closed, notHolding, notWrote]
  rw [blocked]
  exact Inv.of_together (fun _ => rfl) ((Together.of_not_opened closed).mpr (.inr (.inr rfl)))

theorem Inv.receiver_waiting {seen : Nat} (together : Together message (.waiting seen) helper) :
    (⟨fifoAt message true (.waiting seen) helper, .waiting seen, helper⟩ : Handshake).receiverStep.Inv
      message := by
  obtain rfl := Together.seen_zero together
  cases opened : helper.opened with
  | false =>
      have blocked : (⟨fifoAt message true (.waiting 0) helper, .waiting 0, helper⟩ :
          Handshake).receiverStep = ⟨fifoAt message true (.waiting 0) helper, .waiting 0, helper⟩ := by
        simp [receiverStep, fifoAt, opened]
      rw [blocked]
      exact Inv.of_together (fun _ => rfl) together
  | true =>
      have woken : (⟨fifoAt message true (.waiting 0) helper, .waiting 0, helper⟩ :
          Handshake).receiverStep = ⟨fifoAt message true .reading helper, .reading, helper⟩ := by
        simp [receiverStep, fifoAt, opened, RcvFifo.inside]
      rw [woken]
      exact Inv.of_together (fun _ => rfl) (Together.reading_of_opened opened)

theorem Inv.receiver_reading (together : Together message .reading helper) :
    (⟨fifoAt message true .reading helper, .reading, helper⟩ : Handshake).receiverStep.Inv
      message := by
  rcases Together.opened_of_reading together with rfl | rfl | rfl
  · have blocked : (⟨fifoAt message true .reading (.writing true), .reading, .writing true⟩ :
        Handshake).receiverStep = ⟨fifoAt message true .reading (.writing true), .reading, .writing true⟩ := by
      simp [receiverStep, fifoAt, HelperFifo.wrote, HelperFifo.holding]
    rw [blocked]
    exact Inv.of_together (fun _ => rfl) together
  · -- the helper still holds the fifo: the read returns once the message is in
    by_cases empty : message = []
    · have blocked : (⟨fifoAt message true .reading (.closing true), .reading, .closing true⟩ :
          Handshake).receiverStep =
            ⟨fifoAt message true .reading (.closing true), .reading, .closing true⟩ := by
        simp [receiverStep, fifoAt, HelperFifo.wrote, HelperFifo.holding, empty]
      rw [blocked]
      exact Inv.of_together (fun _ => rfl) together
    · have read : (⟨fifoAt message true .reading (.closing true), .reading, .closing true⟩ :
          Handshake).receiverStep = ⟨fifoAt message true (.got (message.take 12)) (.closing true),
            .got (message.take 12), .closing true⟩ := by
        simp [receiverStep, fifoAt, HelperFifo.wrote, HelperFifo.holding, HelperFifo.opened,
          RcvFifo.inside, empty]
      rw [read]
      exact Inv.of_together (fun _ => rfl) (.inr (.inr rfl))
  · -- the helper has closed: the read returns what is there
    have read : (⟨fifoAt message true .reading (.done true), .reading, .done true⟩ :
        Handshake).receiverStep = ⟨fifoAt message true (.got (message.take 12)) (.done true),
          .got (message.take 12), .done true⟩ := by
      simp [receiverStep, fifoAt, HelperFifo.wrote, HelperFifo.holding, HelperFifo.opened,
        RcvFifo.inside]
    rw [read]
    exact Inv.of_together (fun _ => rfl) (.inr (.inr rfl))

theorem Inv.helper_start (together : Together message receiver .start) :
    (helperStep message ⟨fifoAt message present receiver .start, receiver, .start⟩).Inv message := by
  show (⟨fifoAt message true receiver .opening, receiver, .opening⟩ : Handshake).Inv message
  exact Inv.of_together (fun _ => rfl) together

theorem Inv.helper_opening (pres : receiver ≠ .start → present = true)
    (together : Together message receiver .opening) :
    (helperStep message ⟨fifoAt message present receiver .opening, receiver, .opening⟩).Inv
      message := by
  rcases together with rfl | rfl | rfl
  · have failed : helperStep message ⟨fifoAt message present .start .opening, .start, .opening⟩ =
        ⟨fifoAt message present .start (.writing false), .start, .writing false⟩ := by
      simp [helperStep, fifoAt, RcvFifo.inside, HelperFifo.opened, HelperFifo.holding,
        HelperFifo.wrote]
    rw [failed]
    exact Inv.of_together pres (.inl rfl)
  · have failed : helperStep message ⟨fifoAt message present .opening .opening, .opening, .opening⟩ =
        ⟨fifoAt message present .opening (.writing false), .opening, .writing false⟩ := by
      simp [helperStep, fifoAt, RcvFifo.inside, HelperFifo.opened, HelperFifo.holding,
        HelperFifo.wrote]
    rw [failed]
    exact Inv.of_together pres (.inr (.inl rfl))
  · -- the receiver waits in `open`, so the fifo exists and has a reader
    obtain rfl := pres (by simp)
    have opened : helperStep message ⟨fifoAt message true (.waiting 0) .opening, .waiting 0, .opening⟩ =
        ⟨fifoAt message true (.waiting 0) (.writing true), .waiting 0, .writing true⟩ := by
      simp [helperStep, fifoAt, RcvFifo.inside, HelperFifo.opened, HelperFifo.holding,
        HelperFifo.wrote]
    rw [opened]
    exact Inv.of_together pres (.inl rfl)

theorem Inv.helper_writing {opened : Bool} (pres : receiver ≠ .start → present = true)
    (together : Together message receiver (.writing opened)) :
    (helperStep message ⟨fifoAt message present receiver (.writing opened), receiver,
      .writing opened⟩).Inv message := by
  cases opened with
  | false =>
      show (⟨fifoAt message present receiver (.closing false), receiver, .closing false⟩ :
        Handshake).Inv message
      exact Inv.of_together pres together
  | true =>
      rcases together with rfl | rfl
      · have wrote : helperStep message ⟨fifoAt message present (.waiting 0) (.writing true),
            .waiting 0, .writing true⟩ =
              ⟨fifoAt message present (.waiting 0) (.closing true), .waiting 0, .closing true⟩ := by
          simp [helperStep, fifoAt, RcvFifo.inside, HelperFifo.opened, HelperFifo.holding,
            HelperFifo.wrote]
        rw [wrote]
        exact Inv.of_together pres (.inl rfl)
      · have wrote : helperStep message ⟨fifoAt message present .reading (.writing true),
            .reading, .writing true⟩ =
              ⟨fifoAt message present .reading (.closing true), .reading, .closing true⟩ := by
          simp [helperStep, fifoAt, RcvFifo.inside, HelperFifo.opened, HelperFifo.holding,
            HelperFifo.wrote]
        rw [wrote]
        exact Inv.of_together pres (.inr (.inl rfl))

theorem Inv.helper_closing {opened : Bool} (pres : receiver ≠ .start → present = true)
    (together : Together message receiver (.closing opened)) :
    (helperStep message ⟨fifoAt message present receiver (.closing opened), receiver,
      .closing opened⟩).Inv message := by
  cases opened with
  | false =>
      show (⟨fifoAt message present receiver (.done false), receiver, .done false⟩ :
        Handshake).Inv message
      exact Inv.of_together pres together
  | true =>
      have closed : helperStep message ⟨fifoAt message present receiver (.closing true), receiver,
          .closing true⟩ = ⟨fifoAt message present receiver (.done true), receiver, .done true⟩ := by
        simp [helperStep, fifoAt, HelperFifo.opened, HelperFifo.holding, HelperFifo.wrote]
      rw [closed]
      exact Inv.of_together pres together

end Steps

theorem Inv.receiverStep {message : List Char} {h : Handshake} (inv : h.Inv message) :
    h.receiverStep.Inv message := by
  refine inv.of_positions (P := fun h => h.receiverStep.Inv message) ?_
  intro present receiver helper pres together
  -- the helper stays where it is; one case for each place of the receiver
  cases receiver with
  | start => exact Inv.receiver_start together
  | opening =>
      obtain rfl := pres (by simp)
      exact Inv.receiver_opening together
  | waiting seen =>
      obtain rfl := pres (by simp)
      exact Inv.receiver_waiting together
  | reading =>
      obtain rfl := pres (by simp)
      exact Inv.receiver_reading together
  | got bytes => exact Inv.of_together pres together

theorem Inv.helperStep {message : List Char} {h : Handshake} (inv : h.Inv message) :
    (h.helperStep message).Inv message := by
  refine inv.of_positions (P := fun h => (h.helperStep message).Inv message) ?_
  intro present receiver helper pres together
  -- the receiver stays where it is; one case for each place of the helper
  cases helper with
  | start => exact Inv.helper_start together
  | opening => exact Inv.helper_opening pres together
  | writing opened => exact Inv.helper_writing pres together
  | closing opened => exact Inv.helper_closing pres together
  | done opened => exact Inv.of_together pres together

theorem Inv.step {message : List Char} {h : Handshake} (inv : h.Inv message) (side : Side) :
    (h.step message side).Inv message := by
  cases side with
  | receiver => exact inv.receiverStep
  | helper => exact inv.helperStep

theorem Inv.run {message : List Char} {h : Handshake} (inv : h.Inv message) (schedule : List Side) :
    (h.run message schedule).Inv message := by
  induction schedule generalizing h with
  | nil => exact inv
  | cons side rest ih => exact ih (inv.step side)

theorem receiverStep_helper (h : Handshake) : h.receiverStep.helper = h.helper := by
  unfold receiverStep
  split <;> (repeat' split) <;> rfl

theorem run_helper_of_done {message : List Char} {h : Handshake} {opened : Bool}
    (done : h.helper = .done opened) (more : List Side) : (h.run message more).helper = .done opened := by
  induction more generalizing h with
  | nil => exact done
  | cons side rest ih =>
      apply ih
      cases side with
      | receiver => rw [step, receiverStep_helper, done]
      | helper =>
          rw [step, helperStep, done]
          exact done

theorem Inv.helper_open {message : List Char} {h : Handshake} (inv : h.Inv message)
    (opening : h.helper = .opening) : (h.helperStep message).helper = .writing h.receiver.inside := by
  obtain ⟨⟨present, fifo, pres⟩, -⟩ := inv
  have readers : h.fifo.readers = if h.receiver.inside then 1 else 0 := by rw [fifo]; rfl
  have made : h.receiver.inside = true → h.fifo.present = true := by
    intro inside
    rw [fifo]
    exact pres fun started => by rw [started] at inside; cases inside
  unfold Handshake.helperStep
  rw [opening]
  by_cases inside : h.receiver.inside = true
  · rw [if_pos ⟨made inside, by simp [readers, inside]⟩, inside]
  · rw [if_neg (by simp [readers, inside]), Bool.eq_false_iff.mpr inside]

theorem Inv.got {message : List Char} {h : Handshake} (inv : h.Inv message) {bytes : List Char}
    (got : h.receiver = .got bytes) : bytes = message.take 12 := by
  have together := inv.together
  rw [got] at together
  generalize h.helper = helper at together
  cases helper <;> (try rename_i opened; cases opened) <;> simp [Together] at together
  all_goals exact together

theorem Inv.got_of_written {message : List Char} {h : Handshake} (inv : h.Inv message)
    (written : h.helper = .done true) :
    (h.run message [.receiver, .receiver]).receiver = .got (message.take 12) := by
  revert written
  refine inv.of_positions (P := fun h => h.helper = .done true →
    (h.run message [.receiver, .receiver]).receiver = .got (message.take 12)) ?_
  rintro present receiver helper - together rfl
  rcases together with rfl | rfl | rfl <;>
    simp [Handshake.step, Handshake.receiverStep, fifoAt, RcvFifo.inside, HelperFifo.opened,
      HelperFifo.holding, HelperFifo.wrote]

end Handshake

/-- Whatever the interleaving of the receiver's first lines and the helper's fifo
code: the helper's `open` succeeds exactly when the receiver is inside its own; the
receiver reads nothing but the first 12 bytes of the helper's message; a helper
whose `open` failed leaves the receiver waiting forever; and a helper that wrote
has the receiver read its message within two more steps of the receiver. -/
theorem pids_reach_receiver_opened_first (present : Bool) (message : List Char)
    (schedule : List Side) :
    let h : Handshake := (Handshake.init present).run message schedule
    (h.helper = .opening → (h.step message .helper).helper = .writing h.receiver.inside) ∧
      (∀ bytes, h.receiver = .got bytes → bytes = message.take 12) ∧
      (h.helper = .done false → ∀ more bytes, (h.run message more).receiver ≠ .got bytes) ∧
      (h.helper = .done true →
        (h.run message [.receiver, .receiver]).receiver = .got (message.take 12)) := by
  intro h
  have inv : h.Inv message := (Handshake.Inv.init message present).run schedule
  refine ⟨inv.helper_open, fun _ got => inv.got got, fun failed more bytes got => ?_,
    inv.got_of_written⟩
  -- a receiver that read would have needed the helper's `open` to succeed
  have later := inv.run more
  have together := later.together
  rw [Handshake.run_helper_of_done failed, got] at together
  simp [Together] at together

theorem fifo_order_decides_delivery :
    let first : Handshake := (Handshake.init false).run (pidsMessage 4242 3)
      [.receiver, .receiver, .helper, .helper, .helper, .helper]
    let late : Handshake := (Handshake.init false).run (pidsMessage 4242 3)
      [.helper, .helper, .helper, .helper, .receiver, .receiver]
    first.helper = .done true ∧
      (first.run (pidsMessage 4242 3) [.receiver, .receiver]).receiver =
        .got ((pidsMessage 4242 3).take 12) ∧
      late.helper = .done false ∧
      ∀ more bytes, (late.run (pidsMessage 4242 3) more).receiver ≠ .got bytes := by
  intro first late
  have written : first.helper = .done true := by decide
  have failed : late.helper = .done false := by decide
  exact ⟨written, (pids_reach_receiver_opened_first false (pidsMessage 4242 3) _).2.2.2 written,
    failed, (pids_reach_receiver_opened_first false (pidsMessage 4242 3) _).2.2.1 failed⟩

/-- End to end: the helper has written its pids into the fifo, the receiver takes
them in, and a primary whose heartbeats come in time then falls silent.  The
receiver kills exactly the process the helper named, removes the fifo and returns
`1`, and its loop gives up one timeout after the last heartbeat (or after its own
start, if that is later). -/
theorem silent_primary_fails_over_end_to_end (ppid : Int32) (domid : UInt32)
    (fits : (pidsMessage ppid domid).length ≤ 12) (present : Bool) (schedule : List Side)
    (written : ((Handshake.init present).run (pidsMessage ppid domid) schedule).helper = .done true)
    (t : Int32) (nonneg : 0 ≤ t) (inTime : BeatsInTime t) (stack : Vector Char 13)
    (loopStart firstBeat beats : Nat)
    (first : firstBeat ≤ loopStart + (receiverTimeval t).micros.toNat) :
    let micros : Nat := (receiverTimeval t).micros.toNat
    let primary : Stdin := ⟨senderStream (senderPause t).toNat firstBeat (beats + 1), .silent⟩
    let h : Handshake := ((Handshake.init present).run (pidsMessage ppid domid) schedule).run
      (pidsMessage ppid domid) [.receiver, .receiver]
    ∃ bytes, h.receiver = .got bytes ∧
      rcvMain t stack bytes loopStart primary = some [.kill ppid, .removeFifo, .exit 1] ∧
      rcvLoop micros loopStart primary =
        .silence (max loopStart (firstBeat + beats * (senderPause t).toNat) + micros) := by
  intro micros primary h
  have inv := (Handshake.Inv.init (pidsMessage ppid domid) present).run schedule
  have got : h.receiver = .got (pidsMessage ppid domid) := by
    rw [inv.got_of_written written, List.take_of_length_le fits]
  have silence : rcvLoop micros loopStart primary =
      .silence (max loopStart (firstBeat + beats * (senderPause t).toNat) + micros) := by
    rw [rcvLoop_senderStream inTime.short first, rcvLoop_of_late (by simp [Stdin.readyAt])]
  exact ⟨_, got, rcvMain_of_silence (receivePids_of_fits stack ppid domid fits)
    ((receiverTimeval_valid_iff t).mpr nonneg) silence, silence⟩

theorem fifo_then_three_beats_fail_over :
    (pidsMessage 4242 3).length ≤ 12 ∧
      ((Handshake.init false).run (pidsMessage 4242 3)
        [.receiver, .receiver, .helper, .helper, .helper, .helper]).helper = .done true ∧
      (0 : Int32) ≤ 200 ∧ BeatsInTime 200 ∧ 0 ≤ 0 + (receiverTimeval 200).micros.toNat ∧
      ∃ bytes, (((Handshake.init false).run (pidsMessage 4242 3)
          [.receiver, .receiver, .helper, .helper, .helper, .helper]).run (pidsMessage 4242 3)
          [.receiver, .receiver]).receiver = .got bytes ∧
        rcvMain 200 (Vector.replicate 13 '\x00') bytes 0
            ⟨senderStream (senderPause 200).toNat 0 3, .silent⟩ =
          some [.kill 4242, .removeFifo, .exit 1] ∧
        rcvLoop (receiverTimeval 200).micros.toNat 0
            ⟨senderStream (senderPause 200).toNat 0 3, .silent⟩ =
          .silence (max 0 (0 + 2 * (senderPause 200).toNat) + (receiverTimeval 200).micros.toNat) :=
  ⟨by decide, by decide, by decide, by decide, Nat.zero_le _,
    silent_primary_fails_over_end_to_end 4242 3 (by decide) false
      [.receiver, .receiver, .helper, .helper, .helper, .helper] (by decide) 200 (by decide)
      (by decide) (Vector.replicate 13 '\x00') 0 0 2 (Nat.zero_le _)⟩

end Heartbeat

end CpsXen

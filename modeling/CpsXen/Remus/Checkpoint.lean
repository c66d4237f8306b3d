import Mathlib

/-! The conversation between the save helper running `xc_domain_save` and libxl
in a Remus checkpoint loop.  In each iteration the helper calls back for
`suspend`, `postcopy` and `checkpoint`, and blocks until libxl answers with
`libxl__xc_domain_saverestore_async_callback_done`.  libxl answers suspend and
postcopy when its own work is done.  It answers checkpoint from a one-shot timer
in periodic mode, and in event-driven mode (`xl remus -E`) from a xenstore watch
on the guest's state path, which `remus_devices_commit_cb` registers once,
guarded by a function-static counter, and which answers on every delivery.

Only the success paths are modelled: every callback's work succeeds and every
reply carries success. -/

namespace CpsXen

namespace Remus

inductive Callback where
  | suspend
  | postcopy
  | checkpoint
deriving DecidableEq, Repr

def Callback.following : Callback → Callback
  | .suspend => .postcopy
  | .postcopy => .checkpoint
  | .checkpoint => .suspend

/-- libxl's side of the conversation, with what xenstored owes it: the mode
(`remus->event_driven`, `remus->polling`), the callback the helper issues next,
the callbacks issued and the replies sent, the callback whose work is under way,
the function-static `count` of `remus_devices_commit_cb`, the watch events
xenstored still owes, whether `rs.checkpoint_timeout` is registered, and the
value at `dss->statepath`. -/
structure Session where
  eventDriven : Bool
  polling : Bool
  next : Callback
  requests : Nat
  replies : Nat
  busy : Option Callback
  count : Nat
  queued : Nat
  timerArmed : Bool
  haState : Int
deriving DecidableEq, Repr

/-- What happens next: the helper, libxl, the guest, xenstored or the clock. -/
inductive Event where
  | request
  | complete
  | write (value : Int)
  | deliver
  | timeout
deriving DecidableEq, Repr

namespace Session

def start (eventDriven polling : Bool) : Session :=
  { eventDriven, polling, next := .suspend, requests := 0, replies := 0, busy := none, count := 0,
    queued := 0, timerArmed := false, haState := 0 }

def callbackDone (s : Session) : Session := { s with replies := s.replies + 1 }

def devicesCommitCb (s : Session) : Session :=
  if s.eventDriven then
    if s.count = 0 then { s with count := s.count + 1, queued := s.queued + 1 } else s
  else { s with timerArmed := true }

def remusNextCheckpoint (s : Session) : Session :=
  if s.polling then
    if s.haState > 0 then s.callbackDone else { s with timerArmed := true }
  else s.callbackDone

def cpsremusNextCheckpoint (s : Session) : Session := s.callbackDone

def xsWrite (s : Session) (value : Int) : Session :=
  { s with haState := value, queued := if s.count = 0 then s.queued else s.queued + 1 }

def step (s : Session) : Event → Session
  | .request =>
      if s.requests ≤ s.replies then
        { s with requests := s.requests + 1, busy := some s.next, next := s.next.following }
      else s
  | .complete =>
      match s.busy with
      | none => s
      -- `remus_devices_postsuspend_cb` and `remus_devices_preresume_cb` reply
      | some .suspend => { s with busy := none }.callbackDone
      | some .postcopy => { s with busy := none }.callbackDone
      | some .checkpoint => { s with busy := none }.devicesCommitCb
  | .write value => s.xsWrite value
  | .deliver =>
      if 0 < s.queued then { s with queued := s.queued - 1 }.cpsremusNextCheckpoint else s
  | .timeout =>
      if s.timerArmed then { s with timerArmed := false }.remusNextCheckpoint else s

def run (s : Session) (events : List Event) : Session := events.foldl step s

/-! ### The periodic path answers each callback once -/

/-- In periodic mode libxl holds at most one callback, and exactly one way to
answer it: the work it started for it, or the armed timer. -/
def PeriodicInv (s : Session) : Prop :=
  s.eventDriven = false ∧ s.count = 0 ∧ s.queued = 0 ∧
    ((s.busy = none ∧ s.timerArmed = false ∧ s.replies = s.requests) ∨
      (s.busy ≠ none ∧ s.timerArmed = false ∧ s.replies + 1 = s.requests) ∨
      (s.busy = none ∧ s.timerArmed = true ∧ s.replies + 1 = s.requests))

theorem PeriodicInv.start (polling : Bool) : (Session.start false polling).PeriodicInv := by
  simp [PeriodicInv, Session.start]

section Periodic

variable {s : Session} (inv : s.PeriodicInv)
include inv

theorem PeriodicInv.of_answered (answered : s.requests ≤ s.replies) :
    s.timerArmed = false ∧ s.replies = s.requests := by
  obtain ⟨-, -, -, ⟨-, unarmed, level⟩ | ⟨-, -, owing⟩ | ⟨-, -, owing⟩⟩ := inv
  · exact ⟨unarmed, level⟩
  · omega
  · omega

theorem PeriodicInv.of_busy {c : Callback} (working : s.busy = some c) :
    s.timerArmed = false ∧ s.replies + 1 = s.requests := by
  obtain ⟨-, -, -, ⟨idle, -, -⟩ | ⟨-, unarmed, owing⟩ | ⟨idle, -, -⟩⟩ := inv
  · simp [idle] at working
  · exact ⟨unarmed, owing⟩
  · simp [idle] at working

theorem PeriodicInv.of_armed (armed : s.timerArmed = true) :
    s.busy = none ∧ s.replies + 1 = s.requests := by
  obtain ⟨-, -, -, ⟨-, unarmed, -⟩ | ⟨-, unarmed, -⟩ | ⟨idle, -, owing⟩⟩ := inv
  · simp [unarmed] at armed
  · simp [unarmed] at armed
  · exact ⟨idle, owing⟩

theorem PeriodicInv.step (event : Event) : (s.step event).PeriodicInv := by
  have ⟨periodic, unwatched, owed, _⟩ := inv
  cases event with
  | request =>
      simp only [Session.step]
      split
      · rename_i answered
        obtain ⟨unarmed, level⟩ := inv.of_answered answered
        exact ⟨periodic, unwatched, owed, .inr (.inl ⟨by simp, unarmed, by simp [level]⟩)⟩
      · exact inv
  | complete =>
      simp only [Session.step]
      split
      · exact inv
      · rename_i working
        obtain ⟨unarmed, owing⟩ := inv.of_busy working
        exact ⟨periodic, unwatched, owed, .inl ⟨rfl, unarmed, by simp [callbackDone, owing]⟩⟩
      · rename_i working
        obtain ⟨unarmed, owing⟩ := inv.of_busy working
        exact ⟨periodic, unwatched, owed, .inl ⟨rfl, unarmed, by simp [callbackDone, owing]⟩⟩
      -- a committed checkpoint arms the timer
      · rename_i working
        obtain ⟨-, owing⟩ := inv.of_busy working
        simp only [devicesCommitCb, periodic, Bool.false_eq_true, if_false]
        exact ⟨rfl, unwatched, owed, .inr (.inr ⟨rfl, rfl, owing⟩)⟩
  | write value =>
      simp only [Session.step, xsWrite, unwatched, if_true]
      exact ⟨periodic, rfl, owed, inv.2.2.2⟩
  | deliver =>
      simp only [Session.step, owed, Nat.lt_irrefl, if_false]
      exact inv
  | timeout =>
      simp only [Session.step]
      split
      · rename_i armed
        obtain ⟨idle, owing⟩ := inv.of_armed armed
        simp only [remusNextCheckpoint]
        split
        · split
          · exact ⟨periodic, unwatched, owed, .inl ⟨idle, rfl, by simp [callbackDone, owing]⟩⟩
          -- polling found no new state and re-arms the timer
          · exact ⟨periodic, unwatched, owed, .inr (.inr ⟨idle, rfl, owing⟩)⟩
        · exact ⟨periodic, unwatched, owed, .inl ⟨idle, rfl, by simp [callbackDone, owing]⟩⟩
      · exact inv

end Periodic

theorem PeriodicInv.run {s : Session} (inv : s.PeriodicInv) (events : List Event) :
    (s.run events).PeriodicInv := by
  induction events generalizing s with
  | nil => exact inv
  | cons event rest ih => exact ih (inv.step event)

end Session

/-- With periodic checkpoints, polling or not, libxl never sends more replies
than the helper has issued callbacks, and at most one callback waits. -/
theorem periodic_replies_match_callbacks (polling : Bool) (events : List Event) :
    let s : Session := (Session.start false polling).run events
    s.replies ≤ s.requests ∧ s.requests ≤ s.replies + 1 := by
  obtain ⟨-, -, -, outstanding⟩ := (Session.PeriodicInv.start polling).run events
  rcases outstanding with ⟨-, -, replied⟩ | ⟨-, -, replied⟩ | ⟨-, -, replied⟩ <;> omega

/-- Event-driven: the first checkpoint is answered by the event that registering
the watch delivers, before the guest wrote anything; a later guest write then
makes libxl reply while no callback is outstanding. -/
theorem event_driven_stray_reply :
    let answered : Session := (Session.start true false).run
      [.request, .complete, .request, .complete, .request, .complete, .deliver]
    let s := answered.run [.write 1, .deliver]
    answered.requests = 3 ∧ answered.replies = 3 ∧ answered.haState = 0 ∧
      s.requests = 3 ∧ s.replies = 4 := by
  decide

end Remus

end CpsXen

import CpsXen.Text.Decimal

/-!
The fifo `/tmp/cpsremus_fifo`, which tells `cpsremus_heartbeat_rcv` whom to kill on
failover.  `run_helper` in `libxl_save_callout.c` writes `"%i#%i"` of its parent's
pid and of the domid, with the terminating NUL, in one `write`.  The receiver reads
at most 12 bytes of it, in one `read`, into `char pids[13]` on its stack.  It cuts
the text at the `#` in `parse_pids` and reads both halves with `atoi`.  A write
this short reaches a pipe whole, so the read returns the first 12 bytes of the
message, or all of it.  The rest of the array keeps what the stack held.
-/

namespace CpsXen

namespace Heartbeat

open Decimal

def pidsMessage (ppid : Int32) (domid : UInt32) : List Char :=
  formatInt ppid.toInt ++ '#' :: formatInt domid.toInt32.toInt ++ ['\x00']

def readPids (stack : Vector Char 13) (message : List Char) : List Char :=
  message.take 12 ++ stack.toList.drop (min 12 message.length)

def parsePids (pids : List Char) : Option (List Char × Nat) :=
  match pids.findIdx? (fun c => c = '#' || c = '\x00') with
  | some i => some (pids.set i '\x00', i + 1)
  | none => none

def decodePids (pids : List Char) : Option (Int32 × Int32) := do
  let (cut, second) ← parsePids pids
  let remusPid ← atoi cut
  let domid ← atoi (cut.drop second)
  pure (Int32.ofInt remusPid, Int32.ofInt domid)

def receivePids (stack : Vector Char 13) (message : List Char) : Option (Int32 × Int32) :=
  decodePids (readPids stack message)

theorem length_pidsMessage (ppid : Int32) (domid : UInt32) :
    (pidsMessage ppid domid).length =
      (formatInt ppid.toInt).length + (formatInt domid.toInt32.toInt).length + 2 := by
  simp only [pidsMessage, List.length_append, List.length_cons, List.length_nil]
  omega

theorem toInt_toInt32_of_lt (domid : UInt32) (small : domid.toNat < 2 ^ 31) :
    domid.toInt32.toInt = domid.toNat := by
  rw [Int32.toInt, UInt32.toBitVec_toInt32, BitVec.toInt_eq_toNat_of_lt]
  · rfl
  · show 2 * domid.toNat < 2 ^ 32
    omega

theorem readPids_of_fits (stack : Vector Char 13) {message : List Char}
    (fits : message.length ≤ 12) :
    readPids stack message = message ++ stack.toList.drop message.length := by
  rw [readPids, List.take_of_length_le fits, Nat.min_eq_right fits]

theorem parsePids_formatInt (n : Int) (rest : List Char) :
    parsePids (formatInt n ++ '#' :: rest) =
      some (formatInt n ++ '\x00' :: rest, (formatInt n).length + 1) := by
  have printed : (formatInt n).findIdx? (fun c => c = '#' || c = '\x00') = none := by
    refine List.findIdx?_eq_none_iff.mpr fun c member => ?_
    rcases mem_formatInt member with digit | rfl
    · simp only [Bool.or_eq_false_iff, decide_eq_false_iff_not]
      exact ⟨ne_of_isDigit digit (by decide), ne_of_isDigit digit (by decide)⟩
    · decide
  rw [parsePids, List.findIdx?_append, printed, List.findIdx?_cons]
  simp

theorem decodePids_formatInt (a b : Int) (rest : List Char) :
    decodePids (formatInt a ++ '#' :: (formatInt b ++ '\x00' :: rest)) =
      some (Int32.ofInt a, Int32.ofInt b) := by
  have second : (formatInt a ++ '\x00' :: (formatInt b ++ '\x00' :: rest)).drop
      ((formatInt a).length + 1) = formatInt b ++ '\x00' :: rest := by
    simp
  simp only [decodePids, parsePids_formatInt, Option.bind_eq_bind, Option.bind_some,
    atoi_formatInt_append a (c := '\x00') (by decide), second,
    atoi_formatInt_append b (c := '\x00') (by decide)]
  rfl

theorem receivePids_of_fits (stack : Vector Char 13) (ppid : Int32) (domid : UInt32)
    (fits : (pidsMessage ppid domid).length ≤ 12) :
    receivePids stack (pidsMessage ppid domid) = some (ppid, domid.toInt32) := by
  rw [receivePids, readPids_of_fits stack fits]
  simp only [pidsMessage, List.append_assoc, List.cons_append]
  rw [decodePids_formatInt, Int32.ofInt_toInt, Int32.ofInt_toInt]

theorem receivePids_six_digit_pid :
    receivePids (Vector.replicate 13 '5') (pidsMessage 100000 32751) = none := by
  decide

/-- With pid_max at most 99999 every pid and domid round-trip through the fifo, and
with any larger pid_max some do not. -/
theorem fifo_pids_round_trip_iff (pidMax : Int) :
    (∀ ppid : Int32, 1 ≤ ppid.toInt → ppid.toInt ≤ pidMax → ∀ domid : UInt32,
      domid.toNat < 32752 → ∀ stack : Vector Char 13,
        receivePids stack (pidsMessage ppid domid) = some (ppid, domid.toInt32)) ↔
      pidMax < 100000 := by
  constructor
  · intro roundTrip
    by_contra large
    have inRange : (100000 : Int32).toInt ≤ pidMax := by
      rw [show (100000 : Int32).toInt = 100000 by decide]
      omega
    have sixDigits := roundTrip 100000 (by decide) inRange 32751 (by decide) (Vector.replicate 13 '5')
    rw [receivePids_six_digit_pid] at sixDigits
    contradiction
  · intro small ppid positive below domid valid stack
    apply receivePids_of_fits
    have pidWidth := (length_formatInt_le_iff ppid.toInt.toNat (k := 5) (by decide)).mpr
      (by rw [show 10 ^ 5 = 100000 by rfl]; omega)
    have domidWidth := (length_formatInt_le_iff domid.toNat (k := 5) (by decide)).mpr
      (by rw [show 10 ^ 5 = 100000 by rfl]; omega)
    rw [Int.toNat_of_nonneg (by omega)] at pidWidth
    have printed := toInt_toInt32_of_lt domid (by rw [show 2 ^ 31 = 2147483648 by rfl]; omega)
    rw [length_pidsMessage, printed]
    omega

theorem fifo_pids_round_trip_default :
    ∀ ppid : Int32, 1 ≤ ppid.toInt → ppid.toInt ≤ 32768 → ∀ domid : UInt32,
      domid.toNat < 32752 → ∀ stack : Vector Char 13,
        receivePids stack (pidsMessage ppid domid) = some (ppid, domid.toInt32) :=
  (fifo_pids_round_trip_iff 32768).mpr (by decide)

/-- A seven-digit pid, possible once pid_max is raised towards its limit of
4194304, leaves the last digit of the domid out of the read. -/
theorem fifo_pids_truncated_domid :
    receivePids (Vector.replicate 13 '\x00') (pidsMessage 4194303 32751) =
      some (4194303, 3275) := by
  decide

end Heartbeat

end CpsXen

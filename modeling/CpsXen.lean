import CpsXen.List.InsertBefore
import CpsXen.Time.Watchdog
import CpsXen.Sched.System
import CpsXen.Sched.Order
import CpsXen.Sched.Migration
import CpsXen.Sched.Frames
import CpsXen.Sched.Adjust
import CpsXen.Sched.Division
import CpsXen.Sched.Budget
import CpsXen.Sched.Integrity
import CpsXen.Sched.Agreement
import CpsXen.Sched.Exclusive
import CpsXen.Sched.Wakeup
import CpsXen.Remus.Heartbeat
import CpsXen.Remus.Checkpoint
import CpsXen.Remus.PidFifo
import CpsXen.Remus.Failover
import CpsXen.Remus.Receiver
import CpsXen.Remus.Handshake
import CpsXen.Libxl.SchedParams
import CpsXen.Xl.SchedFp

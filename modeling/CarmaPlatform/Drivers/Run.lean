import CarmaPlatform.Drivers.Spin
/-!
# Drivers controller — runs of calls

A node drives its `DriverManager` with `update_driver_status` on each
driver report and `handle_spin` on each timer tick, in any interleaving. A
run threads the state through the calls and collects what the spins return.

`handleSpin_outcome` says what one spin can do, and two run lemmas follow
from it: once `starting_up_` is clear it stays clear, and a run whose spins
report every driver ready ends with it clear. So a failure after a
DRIVERS_READY is never reported as start-up (`no_startingUp_after_driversReady`).

Every manager a node can hold stamps all its entries `0`, because
`update_driver_status` never reads its `current_time`; so once the clock
passes `driver_timeout`, every ROS 1 driver reads down (`reachable_ros1_stale`).
-/

namespace CarmaPlatform

namespace SubsystemControllers

/-- A call a node makes on its `DriverManager`; a spin carries the lifecycle
manager's answers for its duration. -/
inductive Call
  | updateDriverStatus (msg : DriverStatus) (currentTime : Int)
  | handleSpin (nodeState : String → UInt8) (truck car : Bool) (timeNow startUpTimestamp startupDuration : Int)

namespace DriverManager

/-- One call: the new state, and what a spin returns. -/
def call (dm : DriverManager) : Call → DriverManager × List (Option SystemAlert)
  | .updateDriverStatus msg t => (dm.updateDriverStatus msg t, [])
  | .handleSpin nodeState truck car t s d =>
    let r := dm.handleSpin nodeState truck car t s d
    (r.2, [r.1])

/-- A run of calls: the final state, and what the spins returned, in order. -/
def run (dm : DriverManager) : List Call → DriverManager × List (Option SystemAlert)
  | [] => (dm, [])
  | c :: cs =>
    let r := dm.call c
    let r' := r.1.run cs
    (r'.1, r.2 ++ r'.2)

@[simp] theorem run_nil (dm : DriverManager) : dm.run [] = (dm, []) := rfl

theorem run_cons (dm : DriverManager) (c : Call) (cs : List Call) :
    dm.run (c :: cs) = (((dm.call c).1.run cs).1, (dm.call c).2 ++ ((dm.call c).1.run cs).2) := rfl

/-- The managers a node can hold: one the constructor builds, and whatever a
call leaves. -/
inductive Reachable : DriverManager → Prop
  | create (criticalDriverNames lidarGpsEntries cameraEntries baseManagedRos2Nodes : List String)
      (driverTimeout : Int) (startingUp : Bool) :
      Reachable (create criticalDriverNames lidarGpsEntries cameraEntries baseManagedRos2Nodes driverTimeout startingUp)
  | call {dm : DriverManager} (c : Call) : Reachable dm → Reachable (dm.call c).1

/-- A clear `starting_up_` stays clear through a call, and the call reports
no start-up. -/
theorem call_startingUp_false {dm : DriverManager} (h : dm.startingUp = false) (c : Call) :
    (dm.call c).1.startingUp = false ∧ ∀ a, some a ∈ (dm.call c).2 → a.type ≠ .notReady := by
  cases c with
  | updateDriverStatus msg t => exact ⟨h, by simp [call]⟩
  | handleSpin nodeState truck car t s d =>
    simp only [call, List.mem_singleton]
    rcases @handleSpin_outcome dm nodeState t s d truck car with
      ⟨h1, h2⟩ | ⟨-, h2, -⟩ | ⟨h1, h2⟩
    · rw [h1, h2]; exact ⟨rfl, by rintro a ⟨⟩; decide⟩
    · simp [h] at h2
    · exact ⟨by rw [h2]; exact h, fun a ha => (h1 a ha.symm).1⟩

/-- A call whose spin reports every driver ready leaves `starting_up_` clear. -/
theorem call_driversReady {dm : DriverManager} {c : Call} {a : SystemAlert}
    (ha : some a ∈ (dm.call c).2) (hr : a.type = .driversReady) : (dm.call c).1.startingUp = false := by
  cases c with
  | updateDriverStatus msg t => simp [call] at ha
  | handleSpin nodeState truck car t s d =>
    simp only [call, List.mem_singleton] at ha ⊢
    rcases @handleSpin_outcome dm nodeState t s d truck car with
      ⟨-, h2⟩ | ⟨h1, -⟩ | ⟨h1, -⟩
    · rw [h2]
    · rw [h1] at ha; cases ha; exact absurd hr (by decide)
    · exact absurd hr (h1 a ha.symm).2

/-- **`starting_up_` is never set back**: once clear, it stays clear through
any run, and no spin of the run reports start-up. -/
theorem run_startingUp_false (calls : List Call) :
    ∀ dm : DriverManager, dm.startingUp = false →
      (dm.run calls).1.startingUp = false ∧ ∀ a, some a ∈ (dm.run calls).2 → a.type ≠ .notReady := by
  induction calls with
  | nil => exact fun dm h => ⟨h, by simp⟩
  | cons c cs ih =>
    intro dm h
    obtain ⟨h1, h2⟩ := call_startingUp_false h c
    obtain ⟨h3, h4⟩ := ih _ h1
    refine ⟨h3, fun a ha => ?_⟩
    rcases List.mem_append.1 ha with ha | ha
    · exact h2 a ha
    · exact h4 a ha

/-- A run one of whose spins reported every driver ready ends with
`starting_up_` clear. -/
theorem run_driversReady (calls : List Call) :
    ∀ (dm : DriverManager) (a : SystemAlert), some a ∈ (dm.run calls).2 → a.type = .driversReady →
      (dm.run calls).1.startingUp = false := by
  induction calls with
  | nil => simp
  | cons c cs ih =>
    intro dm a ha hr
    rw [run_cons] at ha ⊢
    rcases List.mem_append.1 ha with ha | ha
    · exact (run_startingUp_false cs _ (call_driversReady ha hr)).1
    · exact ih _ a ha hr

/-- **No return to start-up after DRIVERS_READY.** After calls `pre` in
which some spin reported every driver ready, no spin of any later calls
`post` reports start-up, and `starting_up_` stays clear from there on. -/
theorem no_startingUp_after_driversReady (dm : DriverManager) (pre post : List Call)
    (hready : ∃ a, some a ∈ (dm.run pre).2 ∧ a.type = .driversReady) :
    (dm.run pre).1.startingUp = false ∧ ((dm.run pre).1.run post).1.startingUp = false ∧
      ∀ a, some a ∈ ((dm.run pre).1.run post).2 → a.type ≠ .notReady := by
  obtain ⟨a, ha, hr⟩ := hready
  have h := run_driversReady pre dm a ha hr
  exact ⟨h, run_startingUp_false post _ h⟩

/-- A spin of `sscCameraTruck` with every driver active, at the start of
its start-up window. -/
def allActiveSpin : Call := .handleSpin (fun _ => primaryStateActive) true false 0 0 10

/-- A lifecycle manager that reports the camera active and the SSC inactive. -/
def sscInactiveCameraActive (n : String) : UInt8 := if n = "camera" then primaryStateActive else 2

/-- A later spin, still inside the start-up window, with the SSC down. -/
def sscDownSpin : Call := .handleSpin sscInactiveCameraActive true false 5 0 10

/-- After a spin with every driver ready, a spin inside the start-up window
with the SSC down shuts down for the SSC instead of reporting start-up. -/
theorem sscCameraTruck_no_startingUp :
    ((sscCameraTruck.run [allActiveSpin]).1.run [sscDownSpin]).2 = [some ⟨.shutdown, "SSC Failed"⟩] ∧
    (∃ a, some a ∈ (sscCameraTruck.run [allActiveSpin]).2 ∧ a.type = .driversReady) ∧
    ((sscCameraTruck.run [allActiveSpin]).1.startingUp = false ∧
      ((sscCameraTruck.run [allActiveSpin]).1.run [sscDownSpin]).1.startingUp = false ∧
      ∀ a, some a ∈ ((sscCameraTruck.run [allActiveSpin]).1.run [sscDownSpin]).2 → a.type ≠ .notReady) :=
  have h : ∃ a, some a ∈ (sscCameraTruck.run [allActiveSpin]).2 ∧ a.type = .driversReady :=
    ⟨driversReadyAlert, by decide, rfl⟩
  ⟨by decide, h, no_startingUp_after_driversReady sscCameraTruck _ _ h⟩

/-! ## Freshness of ROS 1 reports -/

/-- Every stored entry is stamped `0`. -/
def StampedZero (dm : DriverManager) : Prop := ∀ e ∈ dm.em.getEntries, e.timestamp = 0

theorem create_stampedZero (criticalDriverNames lidarGpsEntries cameraEntries baseManagedRos2Nodes : List String)
    (driverTimeout : Int) (startingUp : Bool) :
    (create criticalDriverNames lidarGpsEntries cameraEntries baseManagedRos2Nodes driverTimeout startingUp).StampedZero :=
  List.foldlRecOn (motive := fun em : EntryManager => ∀ e ∈ em.getEntries, e.timestamp = 0) _ _ _
    (fun _ h => by cases h) fun _ h _ _ => timestamp_mem_updateEntryList h rfl

/-- A call keeps every entry stamped `0`: a report is stored with the stamp
`0`, and a spin leaves the entries alone. -/
theorem call_stampedZero {dm : DriverManager} (h : dm.StampedZero) (c : Call) : (dm.call c).1.StampedZero := by
  cases c with
  | updateDriverStatus msg t => exact timestamp_mem_updateEntryList h rfl
  | handleSpin nodeState truck car t s d =>
    rcases @handleSpin_outcome dm nodeState t s d truck car with ⟨-, h2⟩ | ⟨-, -, h2⟩ | ⟨-, h2⟩ <;>
      simp only [call, h2] <;> exact h

theorem Reachable.stampedZero {dm : DriverManager} (hdm : Reachable dm) : dm.StampedZero := by
  induction hdm with
  | create => exact create_stampedZero _ _ _ _ _ _
  | call c _ ih => exact call_stampedZero ih c

/-- **Every ROS 1 driver reads down once the clock passes `driver_timeout`.**
In every manager a node can hold, every entry is stamped `0`. So at any
check time past `driver_timeout`, `evaluate_sensor` writes `0` for every
ROS 1 entry, however recently its driver reported. -/
theorem reachable_ros1_stale {dm : DriverManager} (hdm : Reachable dm) (nodeState : String → UInt8)
    {currentTime : Int} (hlate : dm.driverTimeout < currentTime) :
    dm.StampedZero ∧ ∀ e ∈ dm.em.getEntries, e.isRos1 = true → dm.entryFlag nodeState currentTime e = 0 := by
  refine ⟨hdm.stampedZero, fun e he hr => ?_⟩
  simp only [entryFlag, evaluateSensor, hr, hdm.stampedZero e he, Int.sub_zero, if_true]
  exact if_pos (.inr hlate)

/-- A car whose one critical driver, `ssc`, reports over ROS 1. -/
def ros1SscCar : DriverManager := create ["ssc"] [] [] [] 500 true

/-- `ssc` reports OPERATIONAL at time `1000`. -/
def sscReport : Call := .updateDriverStatus ⟨"ssc", DriverStatus.operational⟩ 1000

theorem ros1SscCar_report_stale :
    (ros1SscCar.call sscReport).1.driverTimeout < 1000 ∧
    ((ros1SscCar.call sscReport).1.StampedZero ∧ ∀ e ∈ (ros1SscCar.call sscReport).1.em.getEntries, e.isRos1 = true →
      (ros1SscCar.call sscReport).1.entryFlag (fun _ => 0) 1000 e = 0) :=
  ⟨by decide, reachable_ros1_stale (.call sscReport (.create ..)) _ (by decide)⟩

/-- After `sscReport`, both producers are asked at that same time `1000`,
well within `driver_timeout`: the entry reads stale, and both report the SSC
failed. -/
theorem ros1SscCar_fresh_report_judged_stale :
    (∃ e, entryNamed "ssc" (ros1SscCar.run [sscReport]).1.em.getEntries = some e ∧
      (ros1SscCar.run [sscReport]).1.entryFlag (fun _ => 0) 1000 e = 0) ∧
    (ros1SscCar.run [sscReport]).1.areCriticalDriversOperationalTruck (fun _ => 0) 1000 = some "s_0" ∧
    (ros1SscCar.run [sscReport]).1.areCriticalDriversOperationalCar (fun _ => 0) 1000 = some "s_0" := by
  decide

end DriverManager

end SubsystemControllers

end CarmaPlatform

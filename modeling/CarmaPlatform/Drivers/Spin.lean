import CarmaPlatform.Drivers.Scan
/-!
# Drivers controller — `handle_spin`

Whatever status a producer returns is one the matching branch of
`handle_spin` tests for, so the FATAL "Unknown problem" alert is never sent
(`producers_tested_by_handleSpin`). A call changes nothing but
`starting_up_`, and it clears that flag only when it reports every driver
ready (`handleSpin_outcome`).

Composed with the producers, `handle_spin` is a table over the three
verdicts (`handleSpin_eq_spin`). The truck branch's camera case sets its
alert and does not return it, so `handle_spin` has no result in exactly that
case (`handleSpin_fst_eq_none_iff`); and since the producers force LIDAR and
GPS up, none of the LIDAR and GPS alerts is ever sent
(`handleSpin_alert_cases`).
-/

namespace CarmaPlatform

namespace SubsystemControllers

/-- The status strings the truck branch of `handle_spin` tests for, in its
order. -/
def truckStatusesTested : List String :=
  ["s_1_l1_1_l2_1_g_1_c_1", "s_1_l1_1_l2_1_g_1_c_0", "s_1_l1_0_l2_1_g_1", "s_1_l1_1_l2_0_g_1",
    "s_1_l1_0_l2_1_g_0", "s_1_l1_1_l2_0_g_0", "s_1_l1_1_l2_1_g_0", "s_1_l1_0_l2_0_g_1",
    "s_1_l1_0_l2_0_g_0", "s_0"]

/-- The status strings the car branch tests for. -/
def carStatusesTested : List String :=
  ["s_1_l_1_g_1_c_1", "s_1_l_1_g_1_c_0", "s_1_l_1_g_0", "s_1_l_0_g_1", "s_1_l_0_g_0",
    "s_1_l_0_g_1_c_0", "s_1_l_1_g_0_c_0", "s_0"]

/-- **The truck decision chain is exhaustive on bits**: whatever bits the
five flags hold, it returns, and with a string the truck branch tests for. -/
theorem truckStatus_tested {ssc lidar1 lidar2 gps camera : Int} (h1 : IsBit ssc) (h2 : IsBit lidar1)
    (h3 : IsBit lidar2) (h4 : IsBit gps) (h5 : IsBit camera) :
    ∃ s, truckStatus ssc lidar1 lidar2 gps camera = some s ∧ s ∈ truckStatusesTested := by
  rcases h1 with rfl | rfl <;> rcases h2 with rfl | rfl <;> rcases h3 with rfl | rfl <;>
    rcases h4 with rfl | rfl <;> rcases h5 with rfl | rfl <;> exact ⟨_, rfl, by decide⟩

/-- **And so is the car's.** -/
theorem carStatus_tested {ssc lidar gps camera : Int} (h1 : IsBit ssc) (h2 : IsBit lidar)
    (h3 : IsBit gps) (h4 : IsBit camera) :
    ∃ s, carStatus ssc lidar gps camera = some s ∧ s ∈ carStatusesTested := by
  rcases h1 with rfl | rfl <;> rcases h2 with rfl | rfl <;> rcases h3 with rfl | rfl <;>
    rcases h4 with rfl | rfl <;> exact ⟨_, rfl, by decide⟩

namespace DriverManager

variable (dm : DriverManager) (nodeState : String → UInt8) (currentTime : Int)

theorem areCriticalDriversOperationalTruck_tested :
    ∃ s, dm.areCriticalDriversOperationalTruck nodeState currentTime = some s ∧ s ∈ truckStatusesTested := by
  have h := dm.truckFlags_allBits_take nodeState currentTime dm.em.getEntries.length
  rw [List.take_length] at h
  exact truckStatus_tested h.1 (.inr rfl) (.inr rfl) (.inr rfl) h.2.2.2.2

theorem areCriticalDriversOperationalCar_tested :
    ∃ s, dm.areCriticalDriversOperationalCar nodeState currentTime = some s ∧ s ∈ carStatusesTested := by
  have h := dm.carFlags_allBits_take nodeState currentTime dm.em.getEntries.length
  rw [List.take_length] at h
  exact carStatus_tested h.1 (.inr rfl) (.inr rfl) h.2.2.2

variable {dm} (timeNow startUpTimestamp startupDuration : Int)

theorem handleSpinTruck_ne_unknown {status : String} (h : status ∈ truckStatusesTested) :
    (dm.handleSpinTruck status timeNow startUpTimestamp startupDuration).1 ≠ some unknownProblemAlert := by
  unfold handleSpinTruck
  repeat' first
    | apply iteInduction (motive := fun r : Option SystemAlert × DriverManager => r.1 ≠ some unknownProblemAlert)
    | intro
  all_goals simp_all [truckStatusesTested, unknownProblemAlert, driversReadyAlert, startingUpAlert]

theorem handleSpinCar_ne_unknown {status : String} (h : status ∈ carStatusesTested) :
    (dm.handleSpinCar status timeNow startUpTimestamp startupDuration).1 ≠ some unknownProblemAlert := by
  unfold handleSpinCar
  repeat' first
    | apply iteInduction (motive := fun r : Option SystemAlert × DriverManager => r.1 ≠ some unknownProblemAlert)
    | intro
  all_goals simp_all [carStatusesTested, unknownProblemAlert, driversReadyAlert, startingUpAlert]

end DriverManager

open DriverManager in
/-- **The producers and `handle_spin` agree.** Throughout either loop every
flag is a bit; each producer returns, with a string the matching branch of
`handle_spin` tests for; and so no call of `handle_spin` returns the FATAL
"Unknown problem" alert. -/
theorem producers_tested_by_handleSpin (dm : DriverManager) (nodeState : String → UInt8)
    (currentTime : Int) (truck car : Bool) (timeNow startUpTimestamp startupDuration : Int) :
    (∀ n, ((dm.em.getEntries.take n).foldl (dm.truckStep nodeState currentTime) {}).AllBits ∧
      ((dm.em.getEntries.take n).foldl (dm.carStep nodeState currentTime) {}).AllBits) ∧
    (∃ s, dm.areCriticalDriversOperationalTruck nodeState currentTime = some s ∧ s ∈ truckStatusesTested) ∧
    (∃ s, dm.areCriticalDriversOperationalCar nodeState currentTime = some s ∧ s ∈ carStatusesTested) ∧
    (dm.handleSpin nodeState truck car timeNow startUpTimestamp startupDuration).1 ≠
      some unknownProblemAlert := by
  refine ⟨fun n => ⟨truckFlags_allBits_take .., carFlags_allBits_take ..⟩,
    areCriticalDriversOperationalTruck_tested .., areCriticalDriversOperationalCar_tested .., ?_⟩
  obtain ⟨st, hst, hmt⟩ := dm.areCriticalDriversOperationalTruck_tested nodeState timeNow
  obtain ⟨sc, hsc, hmc⟩ := dm.areCriticalDriversOperationalCar_tested nodeState timeNow
  unfold handleSpin
  split_ifs
  · rw [hst]; exact handleSpinTruck_ne_unknown _ _ _ hmt
  · rw [hsc]; exact handleSpinCar_ne_unknown _ _ _ hmc
  · simp [unknownProblemAlert]

/-! ## What a call does to the state -/

/-- What one call of `handle_spin` can do: report every driver ready and
clear `starting_up_`; report start-up, which needs `starting_up_`; or
return anything else, or nothing, and leave the state alone. -/
def SpinOutcome (dm : DriverManager) (r : Option SystemAlert × DriverManager) : Prop :=
  (r.1 = some driversReadyAlert ∧ r.2 = { dm with startingUp := false }) ∨
  (r.1 = some startingUpAlert ∧ dm.startingUp = true ∧ r.2 = dm) ∨
  ((∀ a, r.1 = some a → a.type ≠ .notReady ∧ a.type ≠ .driversReady) ∧ r.2 = dm)

namespace DriverManager

variable {dm : DriverManager} (nodeState : String → UInt8) (timeNow startUpTimestamp startupDuration : Int)

theorem handleSpinTruck_outcome (status : String) :
    SpinOutcome dm (dm.handleSpinTruck status timeNow startUpTimestamp startupDuration) := by
  unfold handleSpinTruck
  repeat' first | apply iteInduction | intro
  all_goals first
    | exact .inl ⟨rfl, rfl⟩
    | exact .inr (.inl ⟨rfl, ‹_ ∧ _›.1, rfl⟩)
    | exact .inr (.inr ⟨fun a ha => by cases ha <;> decide, rfl⟩)

theorem handleSpinCar_outcome (status : String) :
    SpinOutcome dm (dm.handleSpinCar status timeNow startUpTimestamp startupDuration) := by
  unfold handleSpinCar
  repeat' first | apply iteInduction | intro
  all_goals first
    | exact .inl ⟨rfl, rfl⟩
    | exact .inr (.inl ⟨rfl, ‹_ ∧ _›.1, rfl⟩)
    | exact .inr (.inr ⟨fun a ha => by cases ha; decide, rfl⟩)

/-- **Everything `handle_spin` can do**, said once. -/
theorem handleSpin_outcome (truck car : Bool) :
    SpinOutcome dm (dm.handleSpin nodeState truck car timeNow startUpTimestamp startupDuration) := by
  unfold handleSpin
  split_ifs
  · rw [areCriticalDriversOperationalTruck_eq]; exact handleSpinTruck_outcome ..
  · rw [areCriticalDriversOperationalCar_eq]; exact handleSpinCar_outcome ..
  · exact .inr (.inr ⟨by simp, rfl⟩)

end DriverManager

/-! ## `handle_spin` on verdicts -/

/-- The alert a failed verdict raises once the start-up window is past:
SHUTDOWN for a failed SSC; for a failed camera, SHUTDOWN on a car, and no
result on a truck, whose branch sets the alert without returning it. -/
def Verdict.failedAlert (truck : Bool) : Verdict → Option SystemAlert
  | .sscFailed => some ⟨.shutdown, "SSC Failed"⟩
  | .cameraFailed => if truck then none else some ⟨.shutdown, "Camera Failed"⟩
  | .ready => none

/-- **`handle_spin` on a verdict.** Every driver ready clears `starting_up_`;
otherwise, inside the start-up window, it reports start-up; otherwise it
raises the verdict's failure alert. -/
def Verdict.spin (v : Verdict) (dm : DriverManager) (truck inWindow : Bool) : Option SystemAlert × DriverManager :=
  match v with
  | .ready => (some driversReadyAlert, { dm with startingUp := false })
  | v => if inWindow then (some startingUpAlert, dm) else (v.failedAlert truck, dm)

/-- The alerts of the verdict table. -/
theorem Verdict.spin_alert {v : Verdict} {dm : DriverManager} {truck inWindow : Bool} {a : SystemAlert}
    (h : (v.spin dm truck inWindow).1 = some a) :
    a = driversReadyAlert ∨ a = startingUpAlert ∨ a = ⟨.shutdown, "SSC Failed"⟩ ∨
      a = ⟨.shutdown, "Camera Failed"⟩ := by
  cases v <;> cases inWindow <;> cases truck <;> simp [Verdict.spin, Verdict.failedAlert] at h <;> simp [← h]

namespace DriverManager

variable {dm : DriverManager} (nodeState : String → UInt8) (timeNow startUpTimestamp startupDuration : Int)

/-- Whether `handle_spin` reports start-up before it reads the status. -/
def inStartUpWindow (dm : DriverManager) (timeNow startUpTimestamp startupDuration : Int) : Bool :=
  dm.startingUp && decide (timeNow - startUpTimestamp ≤ startupDuration)

theorem inStartUpWindow_eq_true :
    dm.inStartUpWindow timeNow startUpTimestamp startupDuration = true ↔
      dm.startingUp = true ∧ timeNow - startUpTimestamp ≤ startupDuration := by
  simp [inStartUpWindow]

/-- **`handle_spin` refines the verdict table.** Composed with the
producers, it is the table on the truck's verdict, or the car's, or the
FATAL for neither flag. -/
theorem handleSpin_eq_spin (truck car : Bool) :
    dm.handleSpin nodeState truck car timeNow startUpTimestamp startupDuration =
      if truck then
        (dm.truckVerdict nodeState timeNow).spin dm true (dm.inStartUpWindow timeNow startUpTimestamp startupDuration)
      else if car then
        (dm.carVerdict nodeState timeNow).spin dm false (dm.inStartUpWindow timeNow startUpTimestamp startupDuration)
      else (some ⟨.fatal, "Need to set either truck or car flag"⟩, dm) := by
  unfold handleSpin
  cases truck with
  | true =>
    rw [areCriticalDriversOperationalTruck_eq]
    cases dm.truckVerdict nodeState timeNow <;>
      simp [handleSpinTruck, Verdict.truckCode, Verdict.spin, Verdict.failedAlert, inStartUpWindow]
  | false =>
    cases car with
    | true =>
      rw [areCriticalDriversOperationalCar_eq]
      cases dm.carVerdict nodeState timeNow <;>
        simp [handleSpinCar, Verdict.carCode, Verdict.spin, Verdict.failedAlert, inStartUpWindow]
    | false => rfl

/-! ## Where `handle_spin` falls off its end -/

/-- **`handle_spin` has no result exactly on the truck's camera case**:
truck set, the truck verdict "camera failed", and the start-up window not
applying. Every other call reaches a `return`. -/
theorem handleSpin_fst_eq_none_iff (truck car : Bool) :
    (dm.handleSpin nodeState truck car timeNow startUpTimestamp startupDuration).1 = none ↔
      truck = true ∧ dm.truckVerdict nodeState timeNow = .cameraFailed ∧
        ¬ (dm.startingUp = true ∧ timeNow - startUpTimestamp ≤ startupDuration) := by
  rw [handleSpin_eq_spin, ← inStartUpWindow_eq_true]
  cases truck
  · cases car
    · simp
    · cases dm.carVerdict nodeState timeNow <;> cases dm.inStartUpWindow timeNow startUpTimestamp startupDuration <;>
        simp [Verdict.spin, Verdict.failedAlert]
  · cases dm.truckVerdict nodeState timeNow <;> cases dm.inStartUpWindow timeNow startUpTimestamp startupDuration <;>
      simp [Verdict.spin, Verdict.failedAlert]

/-- A truck starting up with two ROS 2 drivers, its SSC `ssc` and its camera
`camera`. -/
def sscCameraTruck : DriverManager := create ["ssc"] [] ["camera"] ["ssc", "camera"] 1000 true

/-- A lifecycle manager that reports the SSC active and the camera inactive. -/
def sscActiveCameraInactive (n : String) : UInt8 := if n = "ssc" then primaryStateActive else 2

/-- Past its start-up window, the truck's spin with the camera down reaches
the end of `handle_spin` without a `return`. -/
theorem cameraDownTruck_handleSpin_falls_off :
    (sscCameraTruck.handleSpin sscActiveCameraInactive true false 100 0 10).1 = none := by
  decide

/-! ## The LIDAR and GPS alerts are never sent -/

/-- **The LIDAR and GPS branches of `handle_spin` are dead.** The producers
force LIDAR and GPS up, so `handle_spin` sends no CAUTION and no WARNING,
and no SHUTDOWN for a failed LIDAR or GPS: every alert it sends is
DRIVERS_READY, the start-up NOT_READY, SHUTDOWN for a failed SSC or a failed
camera, or the FATAL for neither flag. -/
theorem handleSpin_alert_cases (truck car : Bool) {a : SystemAlert}
    (h : (dm.handleSpin nodeState truck car timeNow startUpTimestamp startupDuration).1 = some a) :
    a = driversReadyAlert ∨ a = startingUpAlert ∨ a = ⟨.shutdown, "SSC Failed"⟩ ∨
      a = ⟨.shutdown, "Camera Failed"⟩ ∨ a = ⟨.fatal, "Need to set either truck or car flag"⟩ := by
  rw [handleSpin_eq_spin] at h
  split_ifs at h
  · exact (Verdict.spin_alert h).imp_right fun h => h.imp_right fun h => h.imp_right .inl
  · exact (Verdict.spin_alert h).imp_right fun h => h.imp_right fun h => h.imp_right .inl
  · cases h
    simp

/-- The same manager run as a car: its spin shuts down for the camera. -/
theorem cameraDownTruck_car_alert :
    (sscCameraTruck.handleSpin sscActiveCameraInactive false true 100 0 10).1 =
        some ⟨.shutdown, "Camera Failed"⟩ ∧
      ((⟨.shutdown, "Camera Failed"⟩ : SystemAlert) = driversReadyAlert ∨
        (⟨.shutdown, "Camera Failed"⟩ : SystemAlert) = startingUpAlert ∨
        (⟨.shutdown, "Camera Failed"⟩ : SystemAlert) = ⟨.shutdown, "SSC Failed"⟩ ∨
        (⟨.shutdown, "Camera Failed"⟩ : SystemAlert) = ⟨.shutdown, "Camera Failed"⟩ ∨
        (⟨.shutdown, "Camera Failed"⟩ : SystemAlert) = ⟨.fatal, "Need to set either truck or car flag"⟩) :=
  have h : (sscCameraTruck.handleSpin sscActiveCameraInactive false true 100 0 10).1 =
      some ⟨.shutdown, "Camera Failed"⟩ := by decide
  ⟨h, handleSpin_alert_cases sscActiveCameraInactive 100 0 10 false true h⟩

end DriverManager

end SubsystemControllers

end CarmaPlatform

import CarmaPlatform.Drivers.Entry
/-!
# Drivers controller — the driver manager

`DriverManager` (driver_manager.cpp): the constructor, `update_driver_status`,
`evaluate_sensor`, the two status producers
`are_critical_drivers_operational_truck` and `_car`, and `handle_spin`, which
reads a producer's status string and answers with a `SystemAlert`.

The lifecycle manager is an external service. Every operation that asks it
takes its answers as the argument `nodeState`, so what is proved holds for
every answer it can give. C++ `long` arithmetic is exact on `Int` here, since
signed overflow is undefined there. A producer, or `handle_spin`, that
reaches the end of its body without a `return` has no defined result, and
the model says so with `none`.
-/

namespace CarmaPlatform

namespace SubsystemControllers

/-- The fields of `carma_driver_msgs/DriverStatus` that the manager reads. -/
structure DriverStatus where
  name : String
  status : UInt8
  deriving DecidableEq, Repr

/-- `DriverStatus::OPERATIONAL`. -/
def DriverStatus.operational : UInt8 := 1

/-- `DriverStatus::DEGRADED`. -/
def DriverStatus.degraded : UInt8 := 2

/-- `lifecycle_msgs::msg::State::PRIMARY_STATE_ACTIVE`. -/
def primaryStateActive : UInt8 := 3

/-- The alert types of `carma_msgs/SystemAlert` that `handle_spin` sends. -/
inductive AlertType
  | caution
  | warning
  | fatal
  | notReady
  | driversReady
  | shutdown
  deriving DecidableEq, Repr

/-- `carma_msgs/SystemAlert`. -/
structure SystemAlert where
  type : AlertType
  description : String
  deriving DecidableEq, Repr

/-- The state of a `DriverManager` that its operations read or write. The
critical, LIDAR/GPS and camera name sets are read only through `em`; the two
node callbacks are never called here. -/
structure DriverManager where
  ros2Drivers : List String
  driverTimeout : Int
  em : EntryManager
  startingUp : Bool
  deriving DecidableEq, Repr

namespace DriverManager

/-- The entry the constructor makes for a ROS 2 driver. -/
def ros2DriverStatus (p : String) : Entry := ⟨false, false, p, 0, false⟩

/-- `DriverManager::DriverManager`. The initial value of `starting_up_` is
set in driver_manager.hpp, which is not among the sources, and is taken as a
parameter. -/
def create (criticalDriverNames lidarGpsEntries cameraEntries baseManagedRos2Nodes : List String)
    (driverTimeout : Int) (startingUp : Bool) : DriverManager where
  ros2Drivers := baseManagedRos2Nodes
  driverTimeout := driverTimeout
  em := baseManagedRos2Nodes.foldl (fun em p => em.updateEntry (ros2DriverStatus p))
    (EntryManager.create criticalDriverNames lidarGpsEntries cameraEntries)
  startingUp := startingUp

/-- The entry `update_driver_status` hands to the entry manager. -/
def driverStatusEntry (msg : DriverStatus) : Entry :=
  ⟨msg.status = DriverStatus.operational ∨ msg.status = DriverStatus.degraded, true, msg.name, 0, true⟩

/-- `update_driver_status`. The entry is stamped `0`; `current_time` is not read. -/
def updateDriverStatus (dm : DriverManager) (msg : DriverStatus) (_currentTime : Int) : DriverManager :=
  { dm with em := dm.em.updateEntry (driverStatusEntry msg) }

end DriverManager

/-- `evaluate_sensor`: the value it writes to the flag it is handed. A ROS 1
driver counts when available and heard from within `driver_timeout`, a ROS 2
driver when the lifecycle manager reports it active. -/
def evaluateSensor (nodeState : String → UInt8) (available : Bool)
    (currentTime timestamp driverTimeout : Int) (sourceNode : String) (isRos1 : Bool) : Int :=
  if isRos1 then
    if !available ∨ currentTime - timestamp > driverTimeout then 0 else 1
  else if nodeState sourceNode = primaryStateActive then 1 else 0

/-- The five flags of `are_critical_drivers_operational_truck`, all `0` at
the start. -/
structure TruckFlags where
  ssc : Int := 0
  lidar1 : Int := 0
  lidar2 : Int := 0
  gps : Int := 0
  camera : Int := 0
  deriving DecidableEq, Repr

/-- The four flags of `are_critical_drivers_operational_car`. -/
structure CarFlags where
  ssc : Int := 0
  lidar : Int := 0
  gps : Int := 0
  camera : Int := 0
  deriving DecidableEq, Repr

namespace DriverManager

variable (dm : DriverManager) (nodeState : String → UInt8) (currentTime : Int)

/-- The flag `evaluate_sensor` gives entry `i`, as both producers call it. -/
def entryFlag (i : Entry) : Int :=
  evaluateSensor nodeState i.available currentTime i.timestamp dm.driverTimeout i.name i.isRos1

/-- The body of the truck producer's loop, on entry `i`. -/
def truckStep (f : TruckFlags) (i : Entry) : TruckFlags :=
  let flag := dm.entryFlag nodeState currentTime i
  let f := if dm.em.isEntryRequired i.name then { f with ssc := flag } else f
  if dm.em.isLidarGpsEntryRequired i.name = 0 then { f with lidar1 := flag }
  else if dm.em.isLidarGpsEntryRequired i.name = 1 then { f with lidar2 := flag }
  else if dm.em.isLidarGpsEntryRequired i.name = 2 then { f with gps := flag }
  else if dm.em.isCameraEntryRequired i.name = 0 then { f with camera := flag }
  else f

/-- The body of the car producer's loop, on entry `i`. -/
def carStep (f : CarFlags) (i : Entry) : CarFlags :=
  let flag := dm.entryFlag nodeState currentTime i
  let f := if dm.em.isEntryRequired i.name then { f with ssc := flag } else f
  if dm.em.isLidarGpsEntryRequired i.name = 0 then { f with lidar := flag }
  else if dm.em.isLidarGpsEntryRequired i.name = 1 then { f with gps := flag }
  else if dm.em.isCameraEntryRequired i.name = 0 then { f with camera := flag }
  else f

end DriverManager

/-- The decision chain of the truck producer; `none` where control reaches
the end of the function. -/
def truckStatus (ssc lidar1 lidar2 gps camera : Int) : Option String :=
  if ssc = 0 then some "s_0"
  else if lidar1 = 0 ∧ lidar2 = 0 ∧ gps = 0 then some "s_1_l1_0_l2_0_g_0"
  else if lidar1 = 0 ∧ lidar2 = 0 ∧ gps = 1 then some "s_1_l1_0_l2_0_g_1"
  else if lidar1 = 0 ∧ lidar2 = 1 ∧ gps = 0 then some "s_1_l1_0_l2_1_g_0"
  else if lidar1 = 0 ∧ lidar2 = 1 ∧ gps = 1 then some "s_1_l1_0_l2_1_g_1"
  else if lidar1 = 1 ∧ lidar2 = 0 ∧ gps = 0 then some "s_1_l1_1_l2_0_g_0"
  else if lidar1 = 1 ∧ lidar2 = 0 ∧ gps = 1 then some "s_1_l1_1_l2_0_g_1"
  else if lidar1 = 1 ∧ lidar2 = 1 ∧ gps = 0 then some "s_1_l1_1_l2_1_g_0"
  else if camera = 0 ∧ lidar1 = 1 ∧ lidar2 = 1 ∧ gps = 1 then some "s_1_l1_1_l2_1_g_1_c_0"
  else if lidar1 = 1 ∧ lidar2 = 1 ∧ gps = 1 ∧ camera = 1 then some "s_1_l1_1_l2_1_g_1_c_1"
  else none

/-- The decision chain of the car producer. -/
def carStatus (ssc lidar gps camera : Int) : Option String :=
  if ssc = 1 then
    if lidar = 0 ∧ gps = 0 then some "s_1_l_0_g_0"
    else if lidar = 0 ∧ gps = 1 ∧ camera = 1 then some "s_1_l_0_g_1"
    else if lidar = 1 ∧ gps = 0 ∧ camera = 1 then some "s_1_l_1_g_0"
    else if camera = 0 ∧ lidar = 1 ∧ gps = 1 then some "s_1_l_1_g_1_c_0"
    else if camera = 0 ∧ lidar = 0 ∧ gps = 1 then some "s_1_l_0_g_1_c_0"
    else if camera = 0 ∧ lidar = 1 ∧ gps = 0 then some "s_1_l_1_g_0_c_0"
    else if lidar = 1 ∧ gps = 1 ∧ camera = 1 then some "s_1_l_1_g_1_c_1"
    else none
  else some "s_0"

namespace DriverManager

variable (dm : DriverManager) (nodeState : String → UInt8) (currentTime : Int)

/-- `are_critical_drivers_operational_truck`: the loop over the entries, then
the manual disable of LIDAR and GPS failure detection, then the decision. -/
def areCriticalDriversOperationalTruck : Option String :=
  let f := dm.em.getEntries.foldl (dm.truckStep nodeState currentTime) {}
  let f := { f with lidar1 := 1, lidar2 := 1, gps := 1 }
  truckStatus f.ssc f.lidar1 f.lidar2 f.gps f.camera

/-- `are_critical_drivers_operational_car`. -/
def areCriticalDriversOperationalCar : Option String :=
  let f := dm.em.getEntries.foldl (dm.carStep nodeState currentTime) {}
  let f := { f with lidar := 1, gps := 1 }
  carStatus f.ssc f.lidar f.gps f.camera

end DriverManager

/-! ## `handle_spin` -/

/-- The alert for a status with every essential driver up. -/
def driversReadyAlert : SystemAlert := ⟨.driversReady, "All essential drivers are ready"⟩

/-- The alert inside the start-up window. -/
def startingUpAlert : SystemAlert := ⟨.notReady, "System is starting up..."⟩

/-- The alert for a status string no branch recognises. -/
def unknownProblemAlert : SystemAlert :=
  ⟨.fatal, "Unknown problem assessing essential driver availability"⟩

namespace DriverManager

variable (dm : DriverManager)

/-- The truck branch of `handle_spin` on the producer's status: the alert it
returns and the new state. The camera branch sets an alert and does not
return it, so control reaches the end of the function: `none`. -/
def handleSpinTruck (status : String) (timeNow startUpTimestamp startupDuration : Int) :
    Option SystemAlert × DriverManager :=
  if status = "s_1_l1_1_l2_1_g_1_c_1" then (some driversReadyAlert, { dm with startingUp := false })
  else if dm.startingUp ∧ timeNow - startUpTimestamp ≤ startupDuration then (some startingUpAlert, dm)
  else if status = "s_1_l1_1_l2_1_g_1_c_0" then (none, dm)
  else if status = "s_1_l1_0_l2_1_g_1" ∨ status = "s_1_l1_1_l2_0_g_1" then
    (some ⟨.caution, "One LIDAR Failed"⟩, dm)
  else if status = "s_1_l1_0_l2_1_g_0" ∨ status = "s_1_l1_1_l2_0_g_0" then
    (some ⟨.caution, "One Lidar and GPS Failed"⟩, dm)
  else if status = "s_1_l1_1_l2_1_g_0" then (some ⟨.caution, "GPS Failed"⟩, dm)
  else if status = "s_1_l1_0_l2_0_g_1" then (some ⟨.warning, "Both LIDARS Failed"⟩, dm)
  else if status = "s_1_l1_0_l2_0_g_0" then (some ⟨.shutdown, "LIDARS and GPS Failed"⟩, dm)
  else if status = "s_0" then (some ⟨.shutdown, "SSC Failed"⟩, dm)
  else (some unknownProblemAlert, dm)

/-- The car branch of `handle_spin` on the producer's status. -/
def handleSpinCar (status : String) (timeNow startUpTimestamp startupDuration : Int) :
    Option SystemAlert × DriverManager :=
  if status = "s_1_l_1_g_1_c_1" then (some driversReadyAlert, { dm with startingUp := false })
  else if dm.startingUp ∧ timeNow - startUpTimestamp ≤ startupDuration then (some startingUpAlert, dm)
  else if status = "s_1_l_1_g_1_c_0" then (some ⟨.shutdown, "Camera Failed"⟩, dm)
  else if status = "s_1_l_1_g_0" then (some ⟨.caution, "GPS Failed"⟩, dm)
  else if status = "s_1_l_0_g_1" then (some ⟨.warning, "LIDAR Failed"⟩, dm)
  else if status = "s_1_l_0_g_0" then (some ⟨.shutdown, "LIDAR, GPS Failed"⟩, dm)
  else if status = "s_1_l_0_g_1_c_0" then (some ⟨.shutdown, "LIDAR, Camera Failed"⟩, dm)
  else if status = "s_1_l_1_g_0_c_0" then (some ⟨.shutdown, " GPS, Camera Failed"⟩, dm)
  else if status = "s_0" then (some ⟨.shutdown, "SSC Failed"⟩, dm)
  else (some unknownProblemAlert, dm)

/-- `handle_spin`. A producer that reaches its end leaves `status` undefined,
and so the call: `none`. -/
def handleSpin (nodeState : String → UInt8) (truck car : Bool) (timeNow startUpTimestamp startupDuration : Int) :
    Option SystemAlert × DriverManager :=
  if truck then
    match dm.areCriticalDriversOperationalTruck nodeState timeNow with
    | some status => dm.handleSpinTruck status timeNow startUpTimestamp startupDuration
    | none => (none, dm)
  else if car then
    match dm.areCriticalDriversOperationalCar nodeState timeNow with
    | some status => dm.handleSpinCar status timeNow startUpTimestamp startupDuration
    | none => (none, dm)
  else (some ⟨.fatal, "Need to set either truck or car flag"⟩, dm)

end DriverManager

end SubsystemControllers

end CarmaPlatform

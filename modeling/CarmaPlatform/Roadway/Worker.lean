import Mathlib.Algebra.Group.Basic
/-!
# Roadway — the environment worker

`EnvironmentWorker` (EnvironmentWorker.java) keeps the frames of the host
vehicle: `earth → map`, which it moves to the vehicle on the first fix and
then every `MAP_UPDATE_PERIOD`, and `map → odom`, which it corrects for
odometry drift on every fix. It publishes these frames together with
`odom → base_link`.

Transforms are exact rigid transforms: any group `Tf`, with `multiply` as
`*`, `invert` as `⁻¹` and `Transform.identity()` as `1`. Coordinates and the
heading are a scalar type `R`, `double` in the code: the worker only stores
and passes them on, and only the geometry computes with them. What the worker
reads from its libraries is gathered in `Geometry`, and what it asks
`IEnvironmentManager` during one callback is gathered in `EnvAnswers`, so
that every result below holds for every answer. A null dereference is the
error `NullPointerException` naming the null field. Under Java's semantics
the mutations made before the throw would stay; the results here show that
no callback throws, so the states reached are the same.
-/

namespace CarmaPlatform

namespace Roadway

/-- `Location`: latitude, longitude and altitude. -/
structure Location (R : Type) where
  latitude : R
  longitude : R
  altitude : R
  deriving Repr

/-- `Point3D`. -/
structure Point3D (R : Type) where
  x : R
  y : R
  z : R
  deriving Repr

/-- `cav_msgs/HeadingStamped`: the heading, in degrees east of north. -/
structure HeadingStamped (R : Type) where
  heading : R

/-- `sensor_msgs/NavSatFix`. -/
structure NavSatFix (R : Type) where
  latitude : R
  longitude : R
  altitude : R

/-- `nav_msgs/Odometry`: the child frame, and the pose as the transform
`Transform.fromPoseMessage` makes of it. -/
structure Odometry (Tf : Type) where
  childFrameId : String
  pose : Tf

/-- The alert types of `cav_msgs/SystemAlert`. -/
inductive AlertType
  | caution
  | warning
  | fatal
  | notReady
  | driversReady
  | shutdown
  deriving DecidableEq, Repr

/-- `cav_msgs/SystemAlert`: the type is all the handler reads. -/
structure SystemAlert where
  type : AlertType

/-- What the worker reads from `GeodesicCartesianConverter` and the
rosjava geometry library. -/
structure Geometry (R Tf : Type) where
  /-- `ecefToNEDFromLocaton`, never null. -/
  ecefToNEDFromLocaton : Location R → Tf
  /-- `geodesic2Cartesian`. -/
  geodesic2Cartesian : Location R → Tf → Point3D R
  /-- The vehicle's pose in the map: translation `hostInMap`, rotation about
  `z` by the heading in degrees. -/
  hostPose : Point3D R → R → Tf
  /-- Whether a component of a transform's translation or rotation is NaN. -/
  hasNaN : Tf → Bool

/-- What `IEnvironmentManager` answers during one callback: the
`base_link → pinpoint` transform if `getTransform` is asked, and the clock at
the two `getTime` calls of `updateMapAndOdomTFs` (nanoseconds). -/
structure EnvAnswers (Tf : Type) where
  transform : Option Tf
  timeAtCheck : Int
  timeAtStore : Int

/-- A `TransformStamped` the worker builds: parent and child frame, sequence
number and transform. The header stamp is left out, since nothing reads it. -/
structure TransformStamped (Tf : Type) where
  parentFrame : String
  childFrame : String
  seq : UInt32
  transform : Tf

/-- What a callback does outside the worker: publish one `TFMessage`, or
shut the node down. -/
inductive Effect (Tf : Type)
  | publishTF (tfList : List (TransformStamped Tf))
  | shutdown

/-- A `NullPointerException`, naming the field that was null. -/
structure NullPointerException where
  field : String
  deriving DecidableEq, Repr

/-- The frame ids. `positionSensorFrame` is left out: the look-up that names
it is the answer `EnvAnswers.transform`. -/
def earthFrame : String := "earth"
def mapFrame : String := "map"
def odomFrame : String := "odom"
def baseLinkFrame : String := "base_link"

/-- `MAP_UPDATE_PERIOD`, five seconds. -/
def mapUpdatePeriod : Int := 5000000000

/-- The fields of an `EnvironmentWorker`. Java's `int tfSequenceCount` wraps
like `UInt32`. -/
structure EnvironmentWorker (R Tf : Type) where
  headingReceived : Bool
  nabSatFixReceived : Bool
  hostVehicleLocation : Option (Location R)
  hostVehicleHeading : R
  mapToOdom : Tf
  earthToMap : Option Tf
  baseToPositionSensor : Option Tf
  odomToBaseLink : Tf
  prevMapTime : Option Int
  tfSequenceCount : UInt32

/-- What a callback ends in: the new worker and what it did, or the
exception it threw. -/
abbrev Outcome (R Tf : Type) := Except NullPointerException (EnvironmentWorker R Tf × List (Effect Tf))

namespace EnvironmentWorker

variable {R Tf : Type} [Group Tf] (g : Geometry R Tf)

/-- The worker as constructed: the field initialisers. -/
def create [OfNat R 0] : EnvironmentWorker R Tf :=
  ⟨false, false, none, 0, 1, none, none, 1, none, 0⟩

/-- `buildTFStamped`, numbered with the current `tfSequenceCount`. -/
def buildTFStamped (w : EnvironmentWorker R Tf) (tf : Tf) (parentFrame childFrame : String) :
    TransformStamped Tf :=
  ⟨parentFrame, childFrame, w.tfSequenceCount, tf⟩

/-- `publishTF`: one `TFMessage`, after which the count moves on. -/
def publishTF (w : EnvironmentWorker R Tf) (tfList : List (TransformStamped Tf)) :
    EnvironmentWorker R Tf × List (Effect Tf) :=
  ({ w with tfSequenceCount := w.tfSequenceCount + 1 }, [.publishTF tfList])

/-- The look-up both `updateMapAndOdomTFs` and `handleOdometryMsg` begin
with: a known `base_link → pinpoint` transform, or one asked for now; `none`
when the request fails and the callback returns. -/
def lookUpBaseToPositionSensor (env : EnvAnswers Tf) (w : EnvironmentWorker R Tf) :
    Option (EnvironmentWorker R Tf) :=
  match w.baseToPositionSensor with
  | some _ => some w
  | none => env.transform.map fun t => { w with baseToPositionSensor := some t }

/-- Whether the map frame is due to move: on the first fix, and once more
than `MAP_UPDATE_PERIOD` has passed since it last moved. -/
def mapDue (env : EnvAnswers Tf) (w : EnvironmentWorker R Tf) : Bool :=
  match w.prevMapTime with
  | none => true
  | some prev => decide (env.timeAtCheck - prev > mapUpdatePeriod)

/-- The map update of `updateMapAndOdomTFs`: a due map frame moves to the
vehicle, and its `earth → map` transform joins the messages to publish. -/
def updateMapFrame (env : EnvAnswers Tf) (w : EnvironmentWorker R Tf) :
    Except NullPointerException (EnvironmentWorker R Tf × List (TransformStamped Tf)) :=
  if mapDue env w then
    match w.hostVehicleLocation with
    | none => .error ⟨"hostVehicleLocation"⟩
    | some loc =>
      let earthToMap := g.ecefToNEDFromLocaton loc
      .ok ({ w with earthToMap := some earthToMap, prevMapTime := some env.timeAtStore },
        [buildTFStamped w earthToMap earthFrame mapFrame])
  else .ok (w, [])

/-- How `updateMapAndOdomTFs` gets to the computation of `hostInMap`: it
returns first (`none`), throws, or reaches it with this worker and these
messages. -/
def beforeHostInMap (env : EnvAnswers Tf) (w : EnvironmentWorker R Tf) :
    Except NullPointerException (Option (EnvironmentWorker R Tf × List (TransformStamped Tf))) :=
  if !w.nabSatFixReceived || !w.headingReceived then .ok none
  else
    match lookUpBaseToPositionSensor env w with
    | none => .ok none
    | some w => (updateMapFrame g env w).map some

/-- The drift correction `T_p_r = inv(inv(T_m_r) * T_m_o * T_o_b * T_b_p)`,
as the code groups it. -/
def driftCorrection (T_m_r T_m_o T_o_b T_b_p : Tf) : Tf :=
  (T_m_r⁻¹ * (T_m_o * (T_o_b * T_b_p)))⁻¹

/-- The vehicle's pose in the map from the fix and the heading, `T_m_r`. -/
def hostInMapPose (earthToMap : Tf) (loc : Location R) (heading : R) : Tf :=
  g.hostPose (g.geodesic2Cartesian loc earthToMap⁻¹) heading

/-- The rest of `updateMapAndOdomTFs`, from `hostInMap` on: correct
`mapToOdom` and publish, unless the result has a NaN. -/
def correctMapToOdom (w : EnvironmentWorker R Tf) (tfStampedMsgs : List (TransformStamped Tf)) :
    Outcome R Tf :=
  match w.earthToMap, w.hostVehicleLocation, w.baseToPositionSensor with
  | none, _, _ => .error ⟨"earthToMap"⟩
  | some _, none, _ => .error ⟨"hostVehicleLocation"⟩
  | some _, some _, none => .error ⟨"baseToPositionSensor"⟩
  | some earthToMap, some loc, some T_b_p =>
    let T_m_r := hostInMapPose g earthToMap loc w.hostVehicleHeading
    let T_p_r := driftCorrection T_m_r w.mapToOdom w.odomToBaseLink T_b_p
    if g.hasNaN (w.mapToOdom * T_p_r) then .ok (w, [])
    else
      let w := { w with mapToOdom := w.mapToOdom * T_p_r }
      .ok (publishTF w (tfStampedMsgs ++ [buildTFStamped w w.mapToOdom mapFrame odomFrame]))

/-- `updateMapAndOdomTFs`. -/
def updateMapAndOdomTFs (env : EnvAnswers Tf) (w : EnvironmentWorker R Tf) : Outcome R Tf :=
  match beforeHostInMap g env w with
  | .error e => .error e
  | .ok none => .ok (w, [])
  | .ok (some (w', tfStampedMsgs)) => correctMapToOdom g w' tfStampedMsgs

/-- `handleHeadingMsg`. -/
def handleHeadingMsg (heading : HeadingStamped R) (w : EnvironmentWorker R Tf) : Outcome R Tf :=
  .ok ({ w with hostVehicleHeading := heading.heading, headingReceived := true }, [])

/-- The assignments `handleNavSatFixMsg` makes before it updates the frames. -/
def receiveFix (navSatFix : NavSatFix R) (w : EnvironmentWorker R Tf) : EnvironmentWorker R Tf :=
  { w with
    hostVehicleLocation := some ⟨navSatFix.latitude, navSatFix.longitude, navSatFix.altitude⟩
    nabSatFixReceived := true }

/-- `handleNavSatFixMsg`. -/
def handleNavSatFixMsg (env : EnvAnswers Tf) (navSatFix : NavSatFix R) (w : EnvironmentWorker R Tf) :
    Outcome R Tf :=
  updateMapAndOdomTFs g env (receiveFix navSatFix w)

/-- `handleOdometryMsg`. -/
def handleOdometryMsg (env : EnvAnswers Tf) (odometry : Odometry Tf) (w : EnvironmentWorker R Tf) :
    Outcome R Tf :=
  match lookUpBaseToPositionSensor env w with
  | none => .ok (w, [])
  | some w =>
    if odometry.childFrameId = baseLinkFrame then
      let w := { w with odomToBaseLink := odometry.pose }
      .ok (publishTF w [buildTFStamped w w.odomToBaseLink odomFrame baseLinkFrame])
    else
      match w.baseToPositionSensor with
      | none => .error ⟨"baseToPositionSensor"⟩
      | some T_b_p =>
        let w := { w with odomToBaseLink := odometry.pose * T_b_p⁻¹ }
        .ok (publishTF w [buildTFStamped w w.odomToBaseLink odomFrame baseLinkFrame])

/-- `handleSystemAlertMsg`: SHUTDOWN and FATAL shut the node down. -/
def handleSystemAlertMsg (alert : SystemAlert) (w : EnvironmentWorker R Tf) : Outcome R Tf :=
  match alert.type with
  | .shutdown | .fatal => .ok (w, [.shutdown])
  | _ => .ok (w, [])

end EnvironmentWorker

/-- A message the node hands its worker, with the environment manager's
answers during the callback. The other handlers of the class do nothing. -/
inductive Event (R Tf : Type)
  | heading (msg : HeadingStamped R)
  | navSatFix (env : EnvAnswers Tf) (msg : NavSatFix R)
  | odometry (env : EnvAnswers Tf) (msg : Odometry Tf)
  | systemAlert (msg : SystemAlert)

namespace EnvironmentWorker

variable {R Tf : Type} [Group Tf] (g : Geometry R Tf)

/-- One callback. -/
def handle (w : EnvironmentWorker R Tf) : Event R Tf → Outcome R Tf
  | .heading msg => handleHeadingMsg msg w
  | .navSatFix env msg => handleNavSatFixMsg g env msg w
  | .odometry env msg => handleOdometryMsg env msg w
  | .systemAlert msg => handleSystemAlertMsg msg w

/-- A run of callbacks, stopping at the first exception. -/
def run (w : EnvironmentWorker R Tf) : List (Event R Tf) → Outcome R Tf
  | [] => .ok (w, [])
  | e :: es =>
    match handle g w e with
    | .error x => .error x
    | .ok (w', effects) =>
      match run w' es with
      | .error x => .error x
      | .ok (w'', effects') => .ok (w'', effects ++ effects')

/-- The workers a node can hold: the constructed one, and whatever a
callback leaves. -/
inductive Reachable [OfNat R 0] : EnvironmentWorker R Tf → Prop
  | create : Reachable create
  | step {w w' : EnvironmentWorker R Tf} {effects : List (Effect Tf)} (e : Event R Tf) :
      Reachable w → handle g w e = .ok (w', effects) → Reachable w'

end EnvironmentWorker

end Roadway

end CarmaPlatform

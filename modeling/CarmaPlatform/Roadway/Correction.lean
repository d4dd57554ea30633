import CarmaPlatform.Roadway.Invariant
import Mathlib.Tactic.Group
/-!
# Roadway — where the drift correction puts the position sensor

`updateMapAndOdomTFs` computes `T_p_r`, the motion from where odometry puts
the position sensor to where the fix and the heading put it, and applies it
as `mapToOdom := mapToOdom * T_p_r`. The published chain
`map → odom → base_link → pinpoint` then puts the sensor at the pose `T_m_r`
of the fix exactly when `T_p_r` commutes with the odometry pose
`odomToBaseLink * baseToPositionSensor` (`correctMapToOdom_sensorInMap`).
Multiplying on the right applies `T_p_r` in the `odom` frame, although
`T_p_r` is expressed in the sensor's frame. The two agree on a first fix at
the map origin, and part on a later fix once the vehicle has turned
(`secondFix_sensor_off_fix`).
-/

namespace CarmaPlatform

namespace Roadway

namespace EnvironmentWorker

variable {R Tf : Type} [Group Tf]

/-- The pose the published chain `map → odom → base_link → pinpoint` gives
the position sensor. -/
def sensorInMap (w : EnvironmentWorker R Tf) : Option Tf :=
  w.baseToPositionSensor.map fun T_b_p => w.mapToOdom * (w.odomToBaseLink * T_b_p)

/-- The pose `T_m_r` the fix and the heading give the position sensor, once
the worker has a map frame and a fix. -/
def fixPose (g : Geometry R Tf) (w : EnvironmentWorker R Tf) : Option Tf :=
  w.earthToMap.bind fun e => w.hostVehicleLocation.map fun loc => hostInMapPose g e loc w.hostVehicleHeading

theorem driftCorrection_eq (T_m_r T_m_o T_o_b T_b_p : Tf) :
    driftCorrection T_m_r T_m_o T_o_b T_b_p = (T_o_b * T_b_p)⁻¹ * T_m_o⁻¹ * T_m_r := by
  simp [driftCorrection, mul_assoc]

/-- **The corrected chain reaches the fix exactly when the correction
commutes with the odometry pose.** -/
theorem chain_eq_iff_commute (T_m_r T_m_o T_o_b T_b_p : Tf) :
    T_m_o * driftCorrection T_m_r T_m_o T_o_b T_b_p * (T_o_b * T_b_p) = T_m_r ↔
      Commute (T_o_b * T_b_p) (driftCorrection T_m_r T_m_o T_o_b T_b_p) := by
  have hC : T_o_b * T_b_p * driftCorrection T_m_r T_m_o T_o_b T_b_p = T_m_o⁻¹ * T_m_r := by
    rw [driftCorrection_eq]; group
  rw [Commute, SemiconjBy, hC, mul_assoc, eq_comm (b := _ * (T_o_b * T_b_p)), eq_inv_mul_iff_mul_eq]

variable {g : Geometry R Tf} {w w' : EnvironmentWorker R Tf} {tfs : List (TransformStamped Tf)}
  {effects : List (Effect Tf)}

/-- An accepted correction: the three transforms at `hostInMap`, and
`mapToOdom` moved by `T_p_r`. -/
theorem correctMapToOdom_accepted (h : correctMapToOdom g w tfs = .ok (w', effects)) (hpub : effects ≠ []) :
    ∃ e loc T_b_p, w.earthToMap = some e ∧ w.hostVehicleLocation = some loc ∧
      w.baseToPositionSensor = some T_b_p ∧
      w' = { w with
        mapToOdom := w.mapToOdom *
          driftCorrection (hostInMapPose g e loc w.hostVehicleHeading) w.mapToOdom w.odomToBaseLink T_b_p
        tfSequenceCount := w.tfSequenceCount + 1 } := by
  rcases correctMapToOdom_spec h with ⟨-, rfl⟩ | ⟨e, loc, T_b_p, he, hl, hb, hw, -⟩
  · exact absurd rfl hpub
  · exact ⟨e, loc, T_b_p, he, hl, hb, hw⟩

/-- **Where an accepted correction puts the position sensor.** The chain
puts it at the pose `T_m_r` of the fix and heading exactly when `T_p_r`
commutes with the odometry pose `odomToBaseLink * baseToPositionSensor`. -/
theorem correctMapToOdom_sensorInMap (h : correctMapToOdom g w tfs = .ok (w', effects))
    (hpub : effects ≠ []) :
    ∃ e loc T_b_p, w.earthToMap = some e ∧ w.hostVehicleLocation = some loc ∧
      w.baseToPositionSensor = some T_b_p ∧
      (sensorInMap w' = some (hostInMapPose g e loc w.hostVehicleHeading) ↔
        Commute (w.odomToBaseLink * T_b_p)
          (driftCorrection (hostInMapPose g e loc w.hostVehicleHeading) w.mapToOdom w.odomToBaseLink T_b_p)) := by
  obtain ⟨e, loc, T_b_p, he, hl, hb, rfl⟩ := correctMapToOdom_accepted h hpub
  refine ⟨e, loc, T_b_p, he, hl, hb, ?_⟩
  rw [← chain_eq_iff_commute]
  simp [sensorInMap, hb, mul_assoc]

theorem driftCorrection_eq_one_iff (T_m_r T_m_o T_o_b T_b_p : Tf) :
    driftCorrection T_m_r T_m_o T_o_b T_b_p = 1 ↔ T_m_o * (T_o_b * T_b_p) = T_m_r := by
  rw [driftCorrection, inv_eq_one, inv_mul_eq_one, eq_comm]

/-- **An accepted correction moves `map → odom` exactly when the chain is off
the fix.** Its fixed points are the workers whose chain already puts the
position sensor at the pose of the fix and heading: a fix repeated with no
odometry between moves `map → odom` again unless the first correction
commuted with the odometry pose. -/
theorem correctMapToOdom_mapToOdom_eq_iff (h : correctMapToOdom g w tfs = .ok (w', effects))
    (hpub : effects ≠ []) :
    ∃ e loc, w.earthToMap = some e ∧ w.hostVehicleLocation = some loc ∧
      (w'.mapToOdom = w.mapToOdom ↔ sensorInMap w = some (hostInMapPose g e loc w.hostVehicleHeading)) := by
  obtain ⟨e, loc, T_b_p, he, hl, hb, rfl⟩ := correctMapToOdom_accepted h hpub
  refine ⟨e, loc, he, hl, ?_⟩
  rw [sensorInMap, hb, Option.map_some', Option.some_inj, ← driftCorrection_eq_one_iff]
  exact mul_right_eq_self

end EnvironmentWorker

open EnvironmentWorker Motion

/-- A second fix, one metre north of the first and within `MAP_UPDATE_PERIOD`
of it, so that the map frame stays where the first fix put it. -/
def northFix : Event ℤ Motion := .navSatFix sensorOnBase ⟨1, 0, 0⟩

/-- On the first fix of `turnedVehicle`, `T_m_r` is the identity, the map
origin facing north, and the corrected chain puts the sensor there. On the
second fix, one metre north, `T_m_r` is the translation by `(1, 0)`; its
correction is accepted and published, and the chain puts the sensor at
`(0, -1)`, one metre west of the origin. -/
theorem secondFix_sensor_off_fix :
    (create.run flatGeometry turnedVehicle).map (fun r => (fixPose flatGeometry r.1, sensorInMap r.1)) =
      .ok (some 1, some 1) ∧
    (create.run flatGeometry (turnedVehicle ++ [northFix])).map
        (fun r => (fixPose flatGeometry r.1, sensorInMap r.1, r.2.length)) =
      .ok (some (shift 1 0), some (shift 0 (-1)), 3) ∧
    shift 0 (-1) ≠ shift 1 0 :=
  ⟨rfl, rfl, by decide⟩

/-- The worker at `hostInMap` on `northFix`, after `turnedVehicle`. -/
def turnedAtFix : EnvironmentWorker ℤ Motion := { firstFixWorker with hostVehicleLocation := some ⟨1, 0, 0⟩ }

theorem turnedAtFix_sensorInMap :
    ∃ w' effects, correctMapToOdom flatGeometry turnedAtFix [] = .ok (w', effects) ∧ effects ≠ [] ∧
      ∃ e loc T_b_p, turnedAtFix.earthToMap = some e ∧ turnedAtFix.hostVehicleLocation = some loc ∧
        turnedAtFix.baseToPositionSensor = some T_b_p ∧
        (sensorInMap w' = some (hostInMapPose flatGeometry e loc turnedAtFix.hostVehicleHeading) ↔
          Commute (turnedAtFix.odomToBaseLink * T_b_p)
            (driftCorrection (hostInMapPose flatGeometry e loc turnedAtFix.hostVehicleHeading)
              turnedAtFix.mapToOdom turnedAtFix.odomToBaseLink T_b_p)) :=
  ⟨_, _, rfl, List.cons_ne_nil _ _,
    @correctMapToOdom_sensorInMap _ _ _ flatGeometry turnedAtFix _ [] _ rfl (List.cons_ne_nil _ _)⟩

theorem turnedAtFix_mapToOdom_eq_iff :
    ∃ w' effects, correctMapToOdom flatGeometry turnedAtFix [] = .ok (w', effects) ∧ effects ≠ [] ∧
      ∃ e loc, turnedAtFix.earthToMap = some e ∧ turnedAtFix.hostVehicleLocation = some loc ∧
        (w'.mapToOdom = turnedAtFix.mapToOdom ↔
          sensorInMap turnedAtFix = some (hostInMapPose flatGeometry e loc turnedAtFix.hostVehicleHeading)) :=
  ⟨_, _, rfl, List.cons_ne_nil _ _,
    @correctMapToOdom_mapToOdom_eq_iff _ _ _ flatGeometry turnedAtFix _ [] _ rfl (List.cons_ne_nil _ _)⟩

end Roadway

end CarmaPlatform

import CarmaPlatform.Roadway.Worker
import CarmaPlatform.Roadway.Motion
/-!
# Roadway — the worker never dereferences a null field

The fields a callback can find null are `hostVehicleLocation`,
`earthToMap` and `baseToPositionSensor`. Each handler guards
`baseToPositionSensor` itself, by the look-up it begins with. The other two
are covered by an invariant of every reachable worker (`Inv`): a map time
comes with a map frame, and a received fix comes with a location. One lemma
per step says what the step changes and what it builds to publish; from
these, every callback keeps `Inv` (`handle_inv`), and no callback from a
worker with `Inv` throws (`handle_ok`).

The worked runs of this and the later modules use `flatGeometry`, an exact
flat earth in whole metres, in which the map frame of a first fix is the
vehicle's own position; and a first fix with a NaN latitude shows what the
NaN branch leaves behind.
-/

namespace CarmaPlatform

namespace Roadway

namespace EnvironmentWorker

variable {R Tf : Type}

/-- **The worker's invariant.** -/
structure Inv (w : EnvironmentWorker R Tf) : Prop where
  earthToMap_of_prevMapTime : w.prevMapTime ≠ none → w.earthToMap ≠ none
  location_of_fix : w.nabSatFixReceived = true → w.hostVehicleLocation ≠ none

/-- A worker whose four invariant fields are another's keeps its invariant. -/
theorem Inv.of_eq {w w' : EnvironmentWorker R Tf} (hi : Inv w) (h1 : w'.prevMapTime = w.prevMapTime)
    (h2 : w'.earthToMap = w.earthToMap) (h3 : w'.nabSatFixReceived = w.nabSatFixReceived)
    (h4 : w'.hostVehicleLocation = w.hostVehicleLocation) : Inv w' :=
  ⟨by rw [h1, h2]; exact hi.1, by rw [h3, h4]; exact hi.2⟩

/-! ## One lemma per step -/

variable {g : Geometry R Tf} {env : EnvAnswers Tf} {w w' : EnvironmentWorker R Tf}

/-- The look-up sets `baseToPositionSensor`, and nothing else. -/
theorem lookUpBaseToPositionSensor_spec (h : lookUpBaseToPositionSensor env w = some w') :
    ∃ t, w' = { w with baseToPositionSensor := some t } := by
  unfold lookUpBaseToPositionSensor at h
  cases hb : w.baseToPositionSensor with
  | some t =>
    rw [hb] at h
    cases h
    exact ⟨t, by rw [← hb]⟩
  | none =>
    rw [hb] at h
    obtain ⟨t, -, rfl⟩ := Option.map_eq_some'.1 h
    exact ⟨t, rfl⟩

/-- The map update moves the map frame when due, with the message for it,
and does nothing else. -/
theorem updateMapFrame_spec {tfs : List (TransformStamped Tf)}
    (h : updateMapFrame g env w = .ok (w', tfs)) :
    (mapDue env w = false ∧ w' = w ∧ tfs = []) ∨
    (∃ loc, w.hostVehicleLocation = some loc ∧
      w' = { w with earthToMap := some (g.ecefToNEDFromLocaton loc), prevMapTime := some env.timeAtStore } ∧
      tfs = [buildTFStamped w (g.ecefToNEDFromLocaton loc) earthFrame mapFrame]) := by
  unfold updateMapFrame at h
  split at h
  · split at h
    · cases h
    · rename_i loc hloc
      cases h
      exact .inr ⟨loc, hloc, rfl, rfl⟩
  · next hdue =>
    cases h
    exact .inl ⟨by simpa using hdue, rfl, rfl⟩

/-- With a location, the map update does not throw. -/
theorem updateMapFrame_ok (hloc : w.hostVehicleLocation ≠ none) :
    ∃ r, updateMapFrame g env w = .ok r := by
  unfold updateMapFrame
  split
  · obtain ⟨loc, hl⟩ := Option.ne_none_iff_exists'.1 hloc
    rw [hl]
    exact ⟨_, rfl⟩
  · exact ⟨_, rfl⟩

/-- The part of `updateMapAndOdomTFs` before `hostInMap`: it runs only after
a fix, sets `baseToPositionSensor`, and moves the map frame, with the message
for it, unless a map time says it is not due. -/
theorem beforeHostInMap_spec {r : EnvironmentWorker R Tf × List (TransformStamped Tf)}
    (h : beforeHostInMap g env w = .ok (some r)) :
    w.nabSatFixReceived = true ∧ ∃ t,
      (w.prevMapTime ≠ none ∧ r.1 = { w with baseToPositionSensor := some t } ∧ r.2 = []) ∨
      (∃ loc, w.hostVehicleLocation = some loc ∧
        r.1 = { w with
          baseToPositionSensor := some t
          earthToMap := some (g.ecefToNEDFromLocaton loc)
          prevMapTime := some env.timeAtStore } ∧
        r.2 = [buildTFStamped w (g.ecefToNEDFromLocaton loc) earthFrame mapFrame]) := by
  unfold beforeHostInMap at h
  split at h
  · cases h
  · next hrecv =>
    split at h
    · cases h
    · next w₁ hw₁ =>
      obtain ⟨t, rfl⟩ := lookUpBaseToPositionSensor_spec hw₁
      cases hr : updateMapFrame g env { w with baseToPositionSensor := some t } <;> rw [hr] at h <;> cases h
      refine ⟨by simp at hrecv; exact hrecv.1, t, ?_⟩
      rcases updateMapFrame_spec hr with ⟨hdue, heq, htfs⟩ | ⟨loc, hl, heq, htfs⟩
      · exact .inl ⟨fun hp => by simp [mapDue, hp] at hdue, heq, htfs⟩
      · exact .inr ⟨loc, hl, heq, htfs⟩

/-- The map update keeps the invariant. -/
theorem beforeHostInMap_inv (hi : Inv w) {r : EnvironmentWorker R Tf × List (TransformStamped Tf)}
    (h : beforeHostInMap g env w = .ok (some r)) : Inv r.1 := by
  obtain ⟨-, t, ⟨-, heq, -⟩ | ⟨loc, -, heq, -⟩⟩ := beforeHostInMap_spec h <;> rw [heq]
  · exact hi.of_eq rfl rfl rfl rfl
  · exact ⟨fun _ => by simp, hi.2⟩

/-- **At the computation of `hostInMap`** the three fields it reads are set. -/
theorem beforeHostInMap_fields (hi : Inv w) {r : EnvironmentWorker R Tf × List (TransformStamped Tf)}
    (h : beforeHostInMap g env w = .ok (some r)) :
    r.1.hostVehicleLocation ≠ none ∧ r.1.earthToMap ≠ none ∧ r.1.baseToPositionSensor ≠ none := by
  have hi' := beforeHostInMap_inv hi h
  obtain ⟨hrecv, t, ⟨hp, heq, -⟩ | ⟨loc, -, heq, -⟩⟩ := beforeHostInMap_spec h <;>
    refine ⟨hi'.2 (by rw [heq]; exact hrecv), ?_, by rw [heq]; simp⟩
  · exact hi'.1 (by rw [heq]; exact hp)
  · rw [heq]; simp

/-- With a location, the part before `hostInMap` does not throw. -/
theorem beforeHostInMap_ok (hloc : w.hostVehicleLocation ≠ none) :
    ∃ r, beforeHostInMap g env w = .ok r := by
  unfold beforeHostInMap
  split
  · exact ⟨_, rfl⟩
  · split
    · exact ⟨_, rfl⟩
    · next w₁ hw₁ =>
      obtain ⟨t, rfl⟩ := lookUpBaseToPositionSensor_spec hw₁
      obtain ⟨r, hr⟩ := @updateMapFrame_ok _ _ g env { w with baseToPositionSensor := some t } hloc
      exact ⟨_, by rw [hr]; rfl⟩

/-- A fix is received with its location. -/
theorem receiveFix_inv (hi : Inv w) (msg : NavSatFix R) : Inv (receiveFix msg w) :=
  ⟨hi.1, fun _ => by simp [receiveFix]⟩

variable [Group Tf]

theorem inv_create [OfNat R 0] : Inv (create : EnvironmentWorker R Tf) :=
  ⟨fun h => absurd rfl h, fun h => by cases h⟩

/-- The correction is rejected and changes nothing; or it finds the three
transforms at `hostInMap`, moves `mapToOdom` by `T_p_r`, and publishes the
messages it was handed with the new `map → odom`, which moves the sequence
count. -/
theorem correctMapToOdom_spec {tfs : List (TransformStamped Tf)} {effects : List (Effect Tf)}
    (h : correctMapToOdom g w tfs = .ok (w', effects)) :
    (w' = w ∧ effects = []) ∨ ∃ e loc T_b_p, w.earthToMap = some e ∧ w.hostVehicleLocation = some loc ∧
      w.baseToPositionSensor = some T_b_p ∧
      w' = { w with
        mapToOdom := w.mapToOdom *
          driftCorrection (hostInMapPose g e loc w.hostVehicleHeading) w.mapToOdom w.odomToBaseLink T_b_p
        tfSequenceCount := w.tfSequenceCount + 1 } ∧
      effects = [.publishTF (tfs ++ [buildTFStamped w w'.mapToOdom mapFrame odomFrame])] := by
  unfold correctMapToOdom at h
  split at h
  · cases h
  · cases h
  · cases h
  · next e loc T_b_p he hl hb =>
    dsimp only at h
    split at h <;> cases h
    · exact .inl ⟨rfl, rfl⟩
    · exact .inr ⟨e, loc, T_b_p, he, hl, hb, rfl, rfl⟩

/-- And so the rest of `updateMapAndOdomTFs` does not throw. -/
theorem correctMapToOdom_ok {tfs : List (TransformStamped Tf)} (h1 : w.hostVehicleLocation ≠ none)
    (h2 : w.earthToMap ≠ none) (h3 : w.baseToPositionSensor ≠ none) :
    ∃ r, correctMapToOdom g w tfs = .ok r := by
  obtain ⟨loc, hl⟩ := Option.ne_none_iff_exists'.1 h1
  obtain ⟨e, he⟩ := Option.ne_none_iff_exists'.1 h2
  obtain ⟨t, ht⟩ := Option.ne_none_iff_exists'.1 h3
  unfold correctMapToOdom
  rw [hl, he, ht]
  dsimp only
  split <;> exact ⟨_, rfl⟩

/-- What `updateMapAndOdomTFs` leaves when it does not throw: the worker it
started from, having published nothing; or the worker it reached `hostInMap`
with, corrected and published or left as it was. -/
theorem updateMapAndOdomTFs_spec {effects : List (Effect Tf)}
    (h : updateMapAndOdomTFs g env w = .ok (w', effects)) :
    (w' = w ∧ effects = []) ∨ ∃ r, beforeHostInMap g env w = .ok (some r) ∧
      ((w' = r.1 ∧ effects = []) ∨ ∃ m,
        w' = { r.1 with mapToOdom := m, tfSequenceCount := r.1.tfSequenceCount + 1 } ∧
          effects = [.publishTF (r.2 ++ [buildTFStamped r.1 m mapFrame odomFrame])]) := by
  unfold updateMapAndOdomTFs at h
  split at h
  · cases h
  · cases h
    exact .inl ⟨rfl, rfl⟩
  · next w₁ tfs hb =>
    refine .inr ⟨(w₁, tfs), hb, (correctMapToOdom_spec h).imp_right ?_⟩
    rintro ⟨-, -, -, -, -, -, rfl, rfl⟩
    exact ⟨_, rfl, rfl⟩

theorem updateMapAndOdomTFs_inv (hi : Inv w) {effects : List (Effect Tf)}
    (h : updateMapAndOdomTFs g env w = .ok (w', effects)) : Inv w' := by
  rcases updateMapAndOdomTFs_spec h with ⟨rfl, -⟩ | ⟨r, hb, ⟨rfl, -⟩ | ⟨m, rfl, -⟩⟩
  · exact hi
  · exact beforeHostInMap_inv hi hb
  · exact (beforeHostInMap_inv hi hb).of_eq rfl rfl rfl rfl

theorem updateMapAndOdomTFs_ok (hi : Inv w) (hloc : w.hostVehicleLocation ≠ none) :
    ∃ r, updateMapAndOdomTFs g env w = .ok r := by
  obtain ⟨r, hr⟩ := @beforeHostInMap_ok _ _ g env w hloc
  unfold updateMapAndOdomTFs
  rw [hr]
  rcases r with _ | ⟨w₁, tfs⟩
  · exact ⟨_, rfl⟩
  · obtain ⟨h1, h2, h3⟩ := beforeHostInMap_fields hi hr
    exact correctMapToOdom_ok h1 h2 h3

variable {odometry : Odometry Tf}

/-- **What `handleOdometryMsg` returns.** The worker as it was, with nothing
published; or the worker with `baseToPositionSensor` and `odomToBaseLink`
set, and one message published. It never throws: its look-up has set the
transform it inverts. -/
theorem handleOdometryMsg_eq (env : EnvAnswers Tf) (odometry : Odometry Tf) (w : EnvironmentWorker R Tf) :
    handleOdometryMsg env odometry w = .ok (w, []) ∨ ∃ t m,
      handleOdometryMsg env odometry w = .ok ({ w with
        baseToPositionSensor := some t
        odomToBaseLink := m
        tfSequenceCount := w.tfSequenceCount + 1 }, [.publishTF [buildTFStamped w m odomFrame baseLinkFrame]]) := by
  unfold handleOdometryMsg
  split
  · exact .inl rfl
  · next w₁ hw₁ =>
    obtain ⟨t, rfl⟩ := lookUpBaseToPositionSensor_spec hw₁
    dsimp only
    split <;> exact .inr ⟨t, _, rfl⟩

theorem handleOdometryMsg_spec {effects : List (Effect Tf)}
    (h : handleOdometryMsg env odometry w = .ok (w', effects)) :
    (w' = w ∧ effects = []) ∨ ∃ t m,
      w' = { w with
        baseToPositionSensor := some t
        odomToBaseLink := m
        tfSequenceCount := w.tfSequenceCount + 1 } ∧
      effects = [.publishTF [buildTFStamped w m odomFrame baseLinkFrame]] := by
  rcases handleOdometryMsg_eq env odometry w with h' | ⟨t, m, h'⟩ <;> rw [h'] at h <;> cases h
  · exact .inl ⟨rfl, rfl⟩
  · exact .inr ⟨t, m, rfl, rfl⟩

theorem handleOdometryMsg_ok : ∃ r, handleOdometryMsg env odometry w = .ok r := by
  rcases handleOdometryMsg_eq env odometry w with h | ⟨_, _, h⟩ <;>
    exact ⟨_, h⟩

/-! ## Every callback -/

variable (g)

/-- **Every callback keeps the invariant.** -/
theorem handle_inv (hi : Inv w) (e : Event R Tf) {effects : List (Effect Tf)}
    (h : handle g w e = .ok (w', effects)) : Inv w' := by
  cases e with
  | heading msg => cases h; exact hi.of_eq rfl rfl rfl rfl
  | navSatFix env msg => exact updateMapAndOdomTFs_inv (receiveFix_inv hi msg) h
  | odometry env msg =>
    rcases handleOdometryMsg_spec h with ⟨rfl, -⟩ | ⟨t, m, rfl, -⟩
    · exact hi
    · exact hi.of_eq rfl rfl rfl rfl
  | systemAlert msg =>
    simp only [handle, handleSystemAlertMsg] at h
    split at h <;> cases h <;> exact hi

/-- **No callback from a worker with the invariant throws**, whatever the
environment manager answers. -/
theorem handle_ok (hi : Inv w) (e : Event R Tf) : ∃ r, handle g w e = .ok r := by
  cases e with
  | heading msg => exact ⟨_, rfl⟩
  | navSatFix env msg =>
    exact updateMapAndOdomTFs_ok (receiveFix_inv hi msg) (by simp [receiveFix])
  | odometry env msg => exact handleOdometryMsg_ok
  | systemAlert msg =>
    simp only [handle, handleSystemAlertMsg]
    split <;> exact ⟨_, rfl⟩

theorem Reachable.inv [OfNat R 0] (hw : Reachable g w) : Inv w := by
  induction hw with
  | create => exact inv_create
  | step e _ h ih => exact handle_inv g ih e h

/-- **The worker never dereferences a null field.** Every reachable worker
holds `Inv`. So whenever `updateMapAndOdomTFs` reaches `hostInMap` (line
262), `hostVehicleLocation`, `earthToMap` and `baseToPositionSensor` are
set; whenever `handleOdometryMsg` passes its look-up on the way to
`T_b_p.invert()`, `baseToPositionSensor` is set; and no callback throws,
whatever the messages and the environment manager's answers. -/
theorem reachable_null_safe [OfNat R 0] (hw : Reachable g w) :
    Inv w ∧
    (∀ env msg r, beforeHostInMap g env (receiveFix msg w) = .ok (some r) →
      r.1.hostVehicleLocation ≠ none ∧ r.1.earthToMap ≠ none ∧ r.1.baseToPositionSensor ≠ none) ∧
    (∀ env w', lookUpBaseToPositionSensor env w = some w' → w'.baseToPositionSensor ≠ none) ∧
    ∀ e, ∃ r, handle g w e = .ok r := by
  have hi := hw.inv
  refine ⟨hi, fun env msg r h => beforeHostInMap_fields (receiveFix_inv hi msg) h, fun env w' h => ?_,
    handle_ok g hi⟩
  obtain ⟨t, rfl⟩ := lookUpBaseToPositionSensor_spec h
  simp

end EnvironmentWorker

open EnvironmentWorker Motion

/-! ## A flat earth in whole metres -/

/-- A geometry for worked runs: a flat earth in whole metres, where a
location's latitude and longitude are its metres north and east of the
origin and its altitude plays no part. The NED frame at a location is the
translation to it; `geodesic2Cartesian` gives a location's coordinates in
the frame whose transform it is handed; the pose of `hostInMap` and a
heading is the translation to the point, then the heading's rotation about
`z`; and exact motions are never NaN. -/
def flatGeometry : Geometry ℤ Motion where
  ecefToNEDFromLocaton loc := shift loc.latitude loc.longitude
  geodesic2Cartesian loc T :=
    let p := T * shift loc.latitude loc.longitude
    ⟨p.x, p.y, 0⟩
  hostPose p heading := shift p.x p.y * headingTurn heading
  hasNaN _ := false

/-- The environment manager's answers: the position sensor sits on
`base_link`, and the clock reads `0`. -/
def sensorOnBase : EnvAnswers Motion := ⟨some 1, 0, 0⟩

/-- A heading north; odometry with `base_link` a quarter turn round in
`odom`; then a first fix, at the origin. -/
def turnedVehicle : List (Event ℤ Motion) :=
  [.heading ⟨0⟩, .odometry sensorOnBase ⟨baseLinkFrame, quarterTurn⟩, .navSatFix sensorOnBase ⟨0, 0, 0⟩]

/-- The worker `turnedVehicle` leaves: the map frame at the first fix, and
`map → odom` the inverse quarter turn, which puts the sensor there. -/
def firstFixWorker : EnvironmentWorker ℤ Motion :=
  { (create : EnvironmentWorker ℤ Motion) with
    headingReceived := true
    nabSatFixReceived := true
    hostVehicleLocation := some ⟨0, 0, 0⟩
    mapToOdom := quarterTurn⁻¹
    earthToMap := some (shift 0 0)
    baseToPositionSensor := some 1
    odomToBaseLink := quarterTurn
    prevMapTime := some 0
    tfSequenceCount := 2 }

theorem reachable_firstFixWorker : Reachable flatGeometry firstFixWorker :=
  .step (.navSatFix sensorOnBase ⟨0, 0, 0⟩)
    (.step (.odometry sensorOnBase ⟨baseLinkFrame, quarterTurn⟩) (.step (.heading ⟨0⟩) .create rfl) rfl) rfl

/-- A worker with a heading, a fix, a map frame and the sensor's transform:
its next fix reaches `hostInMap`, with all three fields set. -/
theorem firstFixWorker_null_safe :
    Reachable flatGeometry firstFixWorker ∧
    (∃ r, beforeHostInMap flatGeometry sensorOnBase (receiveFix ⟨1, 0, 0⟩ firstFixWorker) = .ok (some r)) ∧
    (Inv firstFixWorker ∧
      (∀ env msg r, beforeHostInMap flatGeometry env (receiveFix msg firstFixWorker) = .ok (some r) →
        r.1.hostVehicleLocation ≠ none ∧ r.1.earthToMap ≠ none ∧ r.1.baseToPositionSensor ≠ none) ∧
      (∀ env w', lookUpBaseToPositionSensor env firstFixWorker = some w' → w'.baseToPositionSensor ≠ none) ∧
      ∀ e, ∃ r, handle flatGeometry firstFixWorker e = .ok r) :=
  ⟨reachable_firstFixWorker, ⟨_, rfl⟩, reachable_null_safe flatGeometry reachable_firstFixWorker⟩

/-! ## A rejected correction -/

/-- A geometry for a first fix whose latitude is NaN. The NaN reaches
`hostInMap`, `T_m_r` and `tempResult`, so the NaN test fires; nothing else
the geometry computes is read on the way to the `return` of the NaN branch,
and it is the identity here. -/
def nanGeometry : Geometry Float Motion := ⟨fun _ => 1, fun _ _ => ⟨0, 0, 0⟩, fun _ _ => 1, fun _ => true⟩

/-- A heading, then a first fix with a NaN latitude, whose correction is
rejected: before the fix there is no map frame and no map time; after it
both are set, and no transform has been published. -/
theorem rejected_first_fix_moves_unpublished_map :
    (create.run nanGeometry [.heading ⟨0⟩]).map (fun r => (r.1.earthToMap, r.1.prevMapTime)) =
      .ok (none, none) ∧
    (create.run nanGeometry [.heading ⟨0⟩, .navSatFix sensorOnBase ⟨0 / 0, 0, 0⟩]).map
      (fun r => (r.1.earthToMap, r.1.prevMapTime, r.2.length)) = .ok (some 1, some 0, 0) :=
  ⟨rfl, rfl⟩

end Roadway

end CarmaPlatform

import CarmaPlatform.Roadway.Correction
import Mathlib.Data.UInt
/-!
# Roadway — runs of callbacks, and what they publish

`run` feeds the worker one callback after another and stops at the first
exception. `run_cons_eq_ok` peels the first callback off a run that does not
throw, so every fact about one callback lifts to runs by induction on the
events.

From a reachable worker every run reaches its end without a throw, and ends
in a reachable worker (`reachable_run_ok`). Each `TFMessage` the worker
publishes moves `tfSequenceCount` by one, and nothing else moves it, so over
every run the count moves by the number of messages published, wrapping at
`2³²` (`run_tfSequenceCount`). And every transform a callback publishes is
the one the worker holds after it, numbered with the count it started from
(`handle_publishes_held`); the converse fails where a rejected correction
moves the map frame without publishing it.
-/

namespace CarmaPlatform

namespace Roadway

namespace EnvironmentWorker

variable {R Tf : Type} [Group Tf] (g : Geometry R Tf) {w w' : EnvironmentWorker R Tf}
  {effects : List (Effect Tf)}

/-- A run that does not throw is its first callback, then the rest. -/
theorem run_cons_eq_ok {e : Event R Tf} {es : List (Event R Tf)} {r : EnvironmentWorker R Tf × List (Effect Tf)} :
    w.run g (e :: es) = .ok r ↔ ∃ w₁ eff₁ w₂ eff₂, handle g w e = .ok (w₁, eff₁) ∧
      w₁.run g es = .ok (w₂, eff₂) ∧ r = (w₂, eff₁ ++ eff₂) := by
  constructor
  · intro h
    simp only [run] at h
    split at h
    · cases h
    · next w₁ eff₁ h₁ =>
      split at h
      · cases h
      · next w₂ eff₂ h₂ => cases h; exact ⟨w₁, eff₁, w₂, eff₂, h₁, h₂, rfl⟩
  · rintro ⟨w₁, eff₁, w₂, eff₂, h₁, h₂, rfl⟩
    simp only [run, h₁, h₂]

/-- **From a reachable worker every run of callbacks reaches its end**,
whatever the messages and the environment manager's answers, and it ends in
a reachable worker. -/
theorem reachable_run_ok [OfNat R 0] (hw : Reachable g w) (es : List (Event R Tf)) :
    ∃ w' effects, w.run g es = .ok (w', effects) ∧ Reachable g w' := by
  induction es generalizing w with
  | nil => exact ⟨w, [], rfl, hw⟩
  | cons e es ih =>
    obtain ⟨⟨w₁, eff₁⟩, h₁⟩ := handle_ok g hw.inv e
    obtain ⟨w₂, eff₂, h₂, hw₂⟩ := ih (.step e hw h₁)
    exact ⟨w₂, eff₁ ++ eff₂, (run_cons_eq_ok g).2 ⟨w₁, eff₁, w₂, eff₂, h₁, h₂, rfl⟩, hw₂⟩

end EnvironmentWorker

open EnvironmentWorker in
/-- The run of `turnedVehicle` from the constructed worker reaches its end. -/
theorem turnedVehicle_run_ok :
    ∃ w' effects, create.run flatGeometry turnedVehicle = .ok (w', effects) ∧ Reachable flatGeometry w' :=
  reachable_run_ok flatGeometry .create turnedVehicle

/-! ## The sequence count -/

namespace EnvironmentWorker

variable {R Tf : Type} {g : Geometry R Tf} {env : EnvAnswers Tf} {w w' : EnvironmentWorker R Tf}
  {effects : List (Effect Tf)}

/-- The number of `TFMessage`s among some effects, wrapping at `2³²` as the
count does. -/
def publishCount : List (Effect Tf) → UInt32
  | [] => 0
  | .publishTF _ :: effects => publishCount effects + 1
  | .shutdown :: effects => publishCount effects

@[simp] theorem publishCount_nil : publishCount ([] : List (Effect Tf)) = 0 := rfl

@[simp] theorem publishCount_publishTF (tfList : List (TransformStamped Tf)) (effects : List (Effect Tf)) :
    publishCount (.publishTF tfList :: effects) = publishCount effects + 1 := rfl

@[simp] theorem publishCount_shutdown (effects : List (Effect Tf)) :
    publishCount (.shutdown :: effects) = publishCount effects := rfl

theorem publishCount_append (l₁ l₂ : List (Effect Tf)) :
    publishCount (l₁ ++ l₂) = publishCount l₁ + publishCount l₂ := by
  induction l₁ with
  | nil => simp
  | cons e l ih => cases e <;> simp [ih, add_right_comm]

/-- The part before `hostInMap` publishes nothing, so leaves the count. -/
theorem beforeHostInMap_tfSequenceCount {r : EnvironmentWorker R Tf × List (TransformStamped Tf)}
    (h : beforeHostInMap g env w = .ok (some r)) : r.1.tfSequenceCount = w.tfSequenceCount := by
  obtain ⟨-, t, ⟨-, heq, -⟩ | ⟨loc, -, heq, -⟩⟩ := beforeHostInMap_spec h <;> rw [heq]

variable [Group Tf] (g)

/-- **A callback moves the count by the messages it publishes.** -/
theorem handle_tfSequenceCount {e : Event R Tf} (h : handle g w e = .ok (w', effects)) :
    w'.tfSequenceCount = w.tfSequenceCount + publishCount effects := by
  cases e with
  | heading msg => cases h; simp
  | navSatFix env msg =>
    rcases updateMapAndOdomTFs_spec h with ⟨rfl, rfl⟩ | ⟨r, hb, ⟨rfl, rfl⟩ | ⟨m, rfl, rfl⟩⟩
    · simp [receiveFix]
    · simp [beforeHostInMap_tfSequenceCount hb, receiveFix]
    · simp [beforeHostInMap_tfSequenceCount hb, receiveFix]
  | odometry env msg => rcases handleOdometryMsg_spec h with ⟨rfl, rfl⟩ | ⟨t, m, rfl, rfl⟩ <;> simp
  | systemAlert msg =>
    simp only [handle, handleSystemAlertMsg] at h
    split at h <;> cases h <;> simp

/-- **Over every run the count moves by the number of messages published**,
one per `TFMessage`, wrapping at `2³²`. -/
theorem run_tfSequenceCount (es : List (Event R Tf)) :
    ∀ {w w' : EnvironmentWorker R Tf} {effects : List (Effect Tf)}, w.run g es = .ok (w', effects) →
      w'.tfSequenceCount = w.tfSequenceCount + publishCount effects := by
  induction es with
  | nil => intro w w' effects h; cases h; simp
  | cons e es ih =>
    intro w w' effects h
    obtain ⟨w₁, eff₁, w₂, eff₂, h₁, h₂, heq⟩ := (run_cons_eq_ok g).1 h
    cases heq
    rw [ih h₂, handle_tfSequenceCount g h₁, publishCount_append, add_assoc]

end EnvironmentWorker

/-! ## What a callback publishes -/

namespace EnvironmentWorker

variable {R Tf : Type} {g : Geometry R Tf} {env : EnvAnswers Tf} {w w' : EnvironmentWorker R Tf}
  {effects : List (Effect Tf)}

/-- The transform a worker holds for a pair of frames, of the three it
publishes. -/
def heldTransform (w : EnvironmentWorker R Tf) (parentFrame childFrame : String) : Option Tf :=
  if parentFrame = earthFrame ∧ childFrame = mapFrame then w.earthToMap
  else if parentFrame = mapFrame ∧ childFrame = odomFrame then some w.mapToOdom
  else if parentFrame = odomFrame ∧ childFrame = baseLinkFrame then some w.odomToBaseLink
  else none

@[simp] theorem heldTransform_earth_map (w : EnvironmentWorker R Tf) :
    heldTransform w earthFrame mapFrame = w.earthToMap := rfl

@[simp] theorem heldTransform_map_odom (w : EnvironmentWorker R Tf) :
    heldTransform w mapFrame odomFrame = some w.mapToOdom := rfl

@[simp] theorem heldTransform_odom_baseLink (w : EnvironmentWorker R Tf) :
    heldTransform w odomFrame baseLinkFrame = some w.odomToBaseLink := rfl

/-- The messages built before `hostInMap` are the `earth → map` frame the
worker then holds, numbered with the count it started from. -/
theorem beforeHostInMap_messages {r : EnvironmentWorker R Tf × List (TransformStamped Tf)}
    (h : beforeHostInMap g env w = .ok (some r)) : ∀ ts ∈ r.2, ts.seq = w.tfSequenceCount ∧
      ts.parentFrame = earthFrame ∧ ts.childFrame = mapFrame ∧ r.1.earthToMap = some ts.transform := by
  obtain ⟨-, t, ⟨-, -, h2⟩ | ⟨loc, -, h1, h2⟩⟩ := beforeHostInMap_spec h <;> rw [h2] <;> intro ts hts
  · cases hts
  · obtain rfl := List.mem_singleton.1 hts
    rw [h1]
    exact ⟨rfl, rfl, rfl, rfl⟩

variable [Group Tf] (g)

/-- **Every transform a callback publishes is one the worker then holds.**
Each message of the `TFMessage` a callback publishes carries the sequence
count the callback started from, and the transform the worker holds after
the callback for the message's pair of frames. -/
theorem handle_publishes_held (e : Event R Tf) (h : handle g w e = .ok (w', effects)) :
    ∀ tfList, .publishTF tfList ∈ effects → ∀ ts ∈ tfList,
      ts.seq = w.tfSequenceCount ∧ heldTransform w' ts.parentFrame ts.childFrame = some ts.transform := by
  intro tfList hpub ts hts
  cases e with
  | heading msg => cases h; cases hpub
  | navSatFix env msg =>
    rcases updateMapAndOdomTFs_spec h with ⟨-, rfl⟩ | ⟨r, hb, ⟨-, rfl⟩ | ⟨m, rfl, rfl⟩⟩
    · cases hpub
    · cases hpub
    · obtain rfl : tfList = _ := by simpa using hpub
      rcases List.mem_append.1 hts with hts | hts
      · obtain ⟨hs, hp, hc, he⟩ := beforeHostInMap_messages hb ts hts
        rw [hp, hc]
        exact ⟨hs, he⟩
      · obtain rfl := List.mem_singleton.1 hts
        have hs := beforeHostInMap_tfSequenceCount hb
        exact ⟨hs, rfl⟩
  | odometry env msg =>
    rcases handleOdometryMsg_spec h with ⟨-, rfl⟩ | ⟨t, m, rfl, rfl⟩
    · cases hpub
    · obtain rfl : tfList = _ := by simpa using hpub
      obtain rfl := List.mem_singleton.1 hts
      exact ⟨rfl, rfl⟩
  | systemAlert msg =>
    simp only [handle, handleSystemAlertMsg] at h
    split at h <;> cases h <;> simp at hpub

end EnvironmentWorker

open EnvironmentWorker

/-- The constructed worker once a heading has arrived. -/
def headedWorker : EnvironmentWorker ℤ Motion := { create with headingReceived := true }

/-- Its first fix, with the map frame due, publishes the new `earth → map`
and `map → odom`. -/
theorem headedWorker_firstFix_publishes_held :
    ∃ w' effects, headedWorker.handle flatGeometry (.navSatFix sensorOnBase ⟨0, 0, 0⟩) = .ok (w', effects) ∧
      ∀ tfList, .publishTF tfList ∈ effects → ∀ ts ∈ tfList,
        ts.seq = headedWorker.tfSequenceCount ∧ heldTransform w' ts.parentFrame ts.childFrame = some ts.transform :=
  ⟨_, _, rfl, handle_publishes_held flatGeometry (.navSatFix sensorOnBase ⟨0, 0, 0⟩) rfl⟩

/-- The run of `turnedVehicle` publishes two messages, and counts them. -/
theorem turnedVehicle_tfSequenceCount :
    ∃ w' effects, create.run flatGeometry turnedVehicle = .ok (w', effects) ∧
      w'.tfSequenceCount = (create : EnvironmentWorker ℤ Motion).tfSequenceCount + publishCount effects :=
  ⟨_, _, rfl, run_tfSequenceCount flatGeometry turnedVehicle rfl⟩

end Roadway

end CarmaPlatform

import CarmaPlatform.Roadway.Publish
/-!
# Roadway — what a run keeps, how it numbers, what it shows

Facts about whole runs of callbacks, each proved for one callback and
lifted to runs by `run_induction`, the induction that follows `run`.

What the worker learns it keeps: the received flags are never reset, the
`base_link → pinpoint` transform is looked up once and never replaced, and
the map frame, the map time and the location never return to null
(`run_extends`). The `TFMessage`s of a run are numbered consecutively from
the count it starts with, one number per message, shared by all of the
message's transforms (`run_numberedFrom`). And the `map → odom` and
`odom → base_link` transforms the worker holds are always the last ones it
published, or the ones it started with when it published none
(`run_lastPublished`). The `earth → map` transform is the last one
published too, but only where the NaN test never fires
(`run_earthToMap_lastPublished`): a rejected correction moves the map frame
without publishing it.
-/

namespace CarmaPlatform

namespace Roadway

namespace EnvironmentWorker

variable {R Tf : Type} {g : Geometry R Tf} {env : EnvAnswers Tf} {w w' w₁ w₂ w₃ : EnvironmentWorker R Tf}
  {effects : List (Effect Tf)}

section Induction

variable [Group Tf] (g)

/-- **Induction over a run that does not throw**, following the recursion of
`run`: a relation between a worker, what it publishes and the worker it ends
in holds of every such run if it holds of the empty run and survives putting
one callback in front. -/
theorem run_induction (P : EnvironmentWorker R Tf → List (Effect Tf) → EnvironmentWorker R Tf → Prop)
    (nil : ∀ w, P w [] w)
    (cons : ∀ {w₁ w₂ w₃ : EnvironmentWorker R Tf} {e : Event R Tf} {eff₁ eff₂ : List (Effect Tf)},
      handle g w₁ e = .ok (w₂, eff₁) → P w₂ eff₂ w₃ → P w₁ (eff₁ ++ eff₂) w₃)
    (es : List (Event R Tf)) :
    ∀ {w w' : EnvironmentWorker R Tf} {effects : List (Effect Tf)}, w.run g es = .ok (w', effects) → P w effects w' := by
  induction es with
  | nil => intro w w' effects h; cases h; exact nil w
  | cons e es ih =>
    intro w w' effects h
    obtain ⟨w₁, eff₁, w₂, eff₂, h₁, h₂, heq⟩ := (run_cons_eq_ok g).1 h
    cases heq
    exact cons h₁ (ih h₂)

end Induction

/-! ## What a worker keeps -/

/-- **What a worker keeps from `w` to `w'`.** -/
structure Extends (w w' : EnvironmentWorker R Tf) : Prop where
  /-- A heading once received stays received. -/
  headingReceived : w.headingReceived = true → w'.headingReceived = true
  /-- A fix once received stays received. -/
  nabSatFixReceived : w.nabSatFixReceived = true → w'.nabSatFixReceived = true
  /-- `base_link → pinpoint`, once looked up, is never replaced. -/
  baseToPositionSensor : ∀ t, w.baseToPositionSensor = some t → w'.baseToPositionSensor = some t
  /-- The map frame, once set, stays set. -/
  earthToMap : w.earthToMap ≠ none → w'.earthToMap ≠ none
  /-- So does the map time. -/
  prevMapTime : w.prevMapTime ≠ none → w'.prevMapTime ≠ none
  /-- And the location. -/
  hostVehicleLocation : w.hostVehicleLocation ≠ none → w'.hostVehicleLocation ≠ none

theorem Extends.refl (w : EnvironmentWorker R Tf) : Extends w w :=
  ⟨id, id, fun _ => id, id, id, id⟩

theorem Extends.trans (h₁ : Extends w₁ w₂) (h₂ : Extends w₂ w₃) : Extends w₁ w₃ :=
  ⟨h₂.1 ∘ h₁.1, h₂.2 ∘ h₁.2, fun t => h₂.3 t ∘ h₁.3 t, h₂.4 ∘ h₁.4, h₂.5 ∘ h₁.5, h₂.6 ∘ h₁.6⟩

/-- A worker whose six kept fields are another's extends it. -/
theorem Extends.of_eq (h1 : w'.headingReceived = w.headingReceived)
    (h2 : w'.nabSatFixReceived = w.nabSatFixReceived) (h3 : w'.baseToPositionSensor = w.baseToPositionSensor)
    (h4 : w'.earthToMap = w.earthToMap) (h5 : w'.prevMapTime = w.prevMapTime)
    (h6 : w'.hostVehicleLocation = w.hostVehicleLocation) : Extends w w' :=
  ⟨by rw [h1]; exact id, by rw [h2]; exact id, by rw [h3]; exact fun _ => id, by rw [h4]; exact id,
    by rw [h5]; exact id, by rw [h6]; exact id⟩

/-- The look-up sets `baseToPositionSensor` only where it was null. -/
theorem lookUpBaseToPositionSensor_extends (h : lookUpBaseToPositionSensor env w = some w') : Extends w w' := by
  unfold lookUpBaseToPositionSensor at h
  split at h
  · cases h
    exact .refl w
  · next hb =>
    obtain ⟨t, -, rfl⟩ := Option.map_eq_some'.1 h
    exact ⟨id, id, fun _ h => absurd (h.symm.trans hb) (Option.some_ne_none _), id, id, id⟩

theorem updateMapFrame_extends {tfs : List (TransformStamped Tf)} (h : updateMapFrame g env w = .ok (w', tfs)) :
    Extends w w' := by
  rcases updateMapFrame_spec h with ⟨-, rfl, -⟩ | ⟨loc, -, rfl, -⟩
  · exact .refl _
  · exact ⟨id, id, fun _ => id, fun _ => by simp, fun _ => by simp, id⟩

theorem beforeHostInMap_extends {r : EnvironmentWorker R Tf × List (TransformStamped Tf)}
    (h : beforeHostInMap g env w = .ok (some r)) : Extends w r.1 := by
  unfold beforeHostInMap at h
  split at h
  · cases h
  · split at h
    · cases h
    · next w₁ hw₁ =>
      cases hr : updateMapFrame g env w₁ <;> rw [hr] at h <;> cases h
      exact (lookUpBaseToPositionSensor_extends hw₁).trans (updateMapFrame_extends hr)

variable [Group Tf]

theorem updateMapAndOdomTFs_extends (h : updateMapAndOdomTFs g env w = .ok (w', effects)) : Extends w w' := by
  rcases updateMapAndOdomTFs_spec h with ⟨rfl, -⟩ | ⟨r, hb, ⟨rfl, -⟩ | ⟨m, rfl, -⟩⟩
  · exact .refl _
  · exact beforeHostInMap_extends hb
  · exact (beforeHostInMap_extends hb).trans (.of_eq rfl rfl rfl rfl rfl rfl)

theorem handleOdometryMsg_extends {odometry : Odometry Tf} (h : handleOdometryMsg env odometry w = .ok (w', effects)) :
    Extends w w' := by
  unfold handleOdometryMsg at h
  split at h
  · cases h
    exact .refl w
  · next w₁ hw₁ =>
    refine (lookUpBaseToPositionSensor_extends hw₁).trans ?_
    dsimp only at h
    split at h <;> (try split at h) <;> cases h
    all_goals exact .of_eq rfl rfl rfl rfl rfl rfl

variable (g)

/-- Every callback keeps what the worker has learned. -/
theorem handle_extends {e : Event R Tf} (h : handle g w e = .ok (w', effects)) : Extends w w' := by
  cases e with
  | heading msg =>
    cases h
    exact ⟨fun _ => rfl, id, fun _ => id, id, id, id⟩
  | navSatFix env msg =>
    have hfix : Extends w (receiveFix msg w) := ⟨id, fun _ => rfl, fun _ => id, id, id, fun _ => Option.some_ne_none _⟩
    exact hfix.trans (updateMapAndOdomTFs_extends h)
  | odometry env msg => exact handleOdometryMsg_extends h
  | systemAlert msg =>
    simp only [handle, handleSystemAlertMsg] at h
    split at h <;> cases h <;> exact .refl w

/-- **A run never forgets what the worker has learned.** After any run that
does not throw, the heading and fix flags that were set are still set,
`base_link → pinpoint` is the transform looked up before, if any, and the
map frame, the map time and the location that were set are still set. -/
theorem run_extends (es : List (Event R Tf)) :
    ∀ {w w' : EnvironmentWorker R Tf} {effects : List (Effect Tf)}, w.run g es = .ok (w', effects) → Extends w w' :=
  run_induction g (fun w _ w' => Extends w w') Extends.refl (fun h₁ h₂ => (handle_extends g h₁).trans h₂) es

end EnvironmentWorker

open EnvironmentWorker in
/-- From a worker with a heading, a fix, a map frame and the sensor's
transform, a second fix and then odometry whose look-up would answer a
different sensor transform keep all of them. -/
theorem firstFixWorker_extends :
    ∃ w' effects,
      firstFixWorker.run flatGeometry [northFix, .odometry ⟨some Motion.quarterTurn, 0, 0⟩ ⟨baseLinkFrame, 1⟩] =
        .ok (w', effects) ∧ Extends firstFixWorker w' :=
  ⟨_, _, rfl, run_extends flatGeometry [northFix, .odometry ⟨some Motion.quarterTurn, 0, 0⟩ ⟨baseLinkFrame, 1⟩] rfl⟩

/-! ## How a run numbers its messages -/

/-- The transforms a callback's effect publishes. -/
def Effect.messages {Tf : Type} : Effect Tf → List (TransformStamped Tf)
  | .publishTF tfList => tfList
  | .shutdown => []

namespace EnvironmentWorker

variable {R Tf : Type} {g : Geometry R Tf} {env : EnvAnswers Tf} {w w' : EnvironmentWorker R Tf}
  {effects : List (Effect Tf)}

/-- The `TFMessage`s among `effects` are numbered `n`, `n + 1`, … in order,
and every transform of a message carries its message's number. -/
def NumberedFrom : UInt32 → List (Effect Tf) → Prop
  | _, [] => True
  | n, .publishTF tfList :: effects => (∀ ts ∈ tfList, ts.seq = n) ∧ NumberedFrom (n + 1) effects
  | n, .shutdown :: effects => NumberedFrom n effects

instance decNumberedFrom : ∀ (n : UInt32) (effects : List (Effect Tf)), Decidable (NumberedFrom n effects)
  | _, [] => isTrue trivial
  | n, .publishTF tfList :: effects =>
    have := decNumberedFrom (n + 1) effects
    inferInstanceAs (Decidable ((∀ ts ∈ tfList, ts.seq = n) ∧ NumberedFrom (n + 1) effects))
  | n, .shutdown :: effects => decNumberedFrom n effects

@[simp] theorem numberedFrom_nil (n : UInt32) : NumberedFrom n ([] : List (Effect Tf)) := trivial

@[simp] theorem numberedFrom_publishTF (n : UInt32) (tfList : List (TransformStamped Tf)) (effects : List (Effect Tf)) :
    NumberedFrom n (.publishTF tfList :: effects) ↔ (∀ ts ∈ tfList, ts.seq = n) ∧ NumberedFrom (n + 1) effects :=
  .rfl

@[simp] theorem numberedFrom_shutdown (n : UInt32) (effects : List (Effect Tf)) :
    NumberedFrom n (.shutdown :: effects) ↔ NumberedFrom n effects := .rfl

/-- Effects numbered from `n` continue, after their messages, from `n` plus
their count. -/
theorem numberedFrom_append (l₁ l₂ : List (Effect Tf)) :
    ∀ n, NumberedFrom n (l₁ ++ l₂) ↔ NumberedFrom n l₁ ∧ NumberedFrom (n + publishCount l₁) l₂ := by
  induction l₁ with
  | nil => intro n; simp
  | cons e l ih =>
    intro n
    cases e with
    | publishTF tfList =>
      rw [List.cons_append, numberedFrom_publishTF, numberedFrom_publishTF, ih, publishCount_publishTF,
        add_comm (publishCount l) 1, ← add_assoc, and_assoc]
    | shutdown => rw [List.cons_append, numberedFrom_shutdown, numberedFrom_shutdown, ih, publishCount_shutdown]

variable [Group Tf] (g)

/-- A callback publishes at most one message, numbered with the count it
started from. -/
theorem handle_numberedFrom {e : Event R Tf} (h : handle g w e = .ok (w', effects)) :
    NumberedFrom w.tfSequenceCount effects := by
  cases e with
  | heading msg => cases h; trivial
  | navSatFix env msg =>
    rcases updateMapAndOdomTFs_spec h with ⟨-, rfl⟩ | ⟨r, hb, ⟨-, rfl⟩ | ⟨m, -, rfl⟩⟩
    · trivial
    · trivial
    · refine ⟨fun ts hts => ?_, trivial⟩
      rcases List.mem_append.1 hts with hts | hts
      · exact (beforeHostInMap_messages hb ts hts).1
      · obtain rfl := List.mem_singleton.1 hts
        have hs := beforeHostInMap_tfSequenceCount hb
        exact hs
  | odometry env msg =>
    rcases handleOdometryMsg_spec h with ⟨-, rfl⟩ | ⟨t, m, -, rfl⟩
    · trivial
    · exact ⟨fun ts hts => by rw [List.mem_singleton.1 hts]; rfl, trivial⟩
  | systemAlert msg =>
    simp only [handle, handleSystemAlertMsg] at h
    split at h <;> cases h <;> trivial

/-- **The messages of a run are numbered consecutively.** Over any run that
does not throw, the `TFMessage`s published are numbered `n`, `n + 1`, … from
the count `n` the run started with, wrapping at `2³²`, and every transform
of a message carries its message's number. -/
theorem run_numberedFrom (es : List (Event R Tf)) :
    ∀ {w w' : EnvironmentWorker R Tf} {effects : List (Effect Tf)}, w.run g es = .ok (w', effects) →
      NumberedFrom w.tfSequenceCount effects := by
  refine run_induction g (fun w effects _ => NumberedFrom w.tfSequenceCount effects) (fun _ => trivial) ?_ es
  intro w₁ w₂ w₃ e eff₁ eff₂ h₁ h₂
  rw [numberedFrom_append, ← handle_tfSequenceCount g h₁]
  exact ⟨handle_numberedFrom g h₁, h₂⟩

end EnvironmentWorker

open EnvironmentWorker in
/-- The two messages of the run of `turnedVehicle` are numbered `0` and `1`. -/
theorem turnedVehicle_numberedFrom :
    ∃ w' effects, create.run flatGeometry turnedVehicle = .ok (w', effects) ∧
      NumberedFrom (create : EnvironmentWorker ℤ Motion).tfSequenceCount effects :=
  ⟨_, _, rfl, run_numberedFrom flatGeometry turnedVehicle rfl⟩

/-! ## What a run shows -/

namespace EnvironmentWorker

variable {R Tf : Type} {g : Geometry R Tf} {env : EnvAnswers Tf} {w w' : EnvironmentWorker R Tf}
  {effects : List (Effect Tf)}

/-- The transform last published among `effects` for a pair of frames, if
any: what a listener to `/tf` holds for that pair after them. -/
def lastPublished (parentFrame childFrame : String) (effects : List (Effect Tf)) : Option Tf :=
  (((effects.flatMap Effect.messages).filter fun ts =>
    ts.parentFrame == parentFrame && ts.childFrame == childFrame).getLast?).map TransformStamped.transform

/-- What later effects publish hides what earlier ones did. -/
theorem lastPublished_append (parentFrame childFrame : String) (l₁ l₂ : List (Effect Tf)) :
    lastPublished parentFrame childFrame (l₁ ++ l₂) =
      (lastPublished parentFrame childFrame l₂).or (lastPublished parentFrame childFrame l₁) := by
  simp only [lastPublished, List.flatMap_append, List.filter_append, List.getLast?_append]
  cases List.getLast? _ <;> rfl

theorem lastPublished_append_getD (parentFrame childFrame : String) (l₁ l₂ : List (Effect Tf)) (x : Tf) :
    (lastPublished parentFrame childFrame (l₁ ++ l₂)).getD x =
      (lastPublished parentFrame childFrame l₂).getD ((lastPublished parentFrame childFrame l₁).getD x) := by
  rw [lastPublished_append]
  cases lastPublished parentFrame childFrame l₂ <;> rfl

/-- The part before `hostInMap` leaves `map → odom` and `odom → base_link`. -/
theorem beforeHostInMap_frame {r : EnvironmentWorker R Tf × List (TransformStamped Tf)}
    (h : beforeHostInMap g env w = .ok (some r)) :
    r.1.mapToOdom = w.mapToOdom ∧ r.1.odomToBaseLink = w.odomToBaseLink := by
  obtain ⟨-, t, ⟨-, heq, -⟩ | ⟨loc, -, heq, -⟩⟩ := beforeHostInMap_spec h <;> rw [heq] <;> exact ⟨rfl, rfl⟩

variable [Group Tf] (g)

/-- A callback publishes the `map → odom` and `odom → base_link` transforms
it leaves the worker holding, or leaves them as they were. -/
theorem handle_lastPublished {e : Event R Tf} (h : handle g w e = .ok (w', effects)) :
    (lastPublished mapFrame odomFrame effects).getD w.mapToOdom = w'.mapToOdom ∧
      (lastPublished odomFrame baseLinkFrame effects).getD w.odomToBaseLink = w'.odomToBaseLink := by
  cases e with
  | heading msg => cases h; exact ⟨rfl, rfl⟩
  | navSatFix env msg =>
    rcases updateMapAndOdomTFs_spec h with ⟨rfl, rfl⟩ | ⟨r, hb, ⟨rfl, rfl⟩ | ⟨m, rfl, rfl⟩⟩
    · exact ⟨rfl, rfl⟩
    · obtain ⟨h1, h2⟩ := beforeHostInMap_frame hb
      exact ⟨h1.symm, h2.symm⟩
    · obtain ⟨-, h2⟩ := beforeHostInMap_frame hb
      obtain ⟨-, t, ⟨-, -, hr⟩ | ⟨loc, -, -, hr⟩⟩ := beforeHostInMap_spec hb <;>
        simp [lastPublished, hr, h2, Effect.messages, buildTFStamped, receiveFix, earthFrame, mapFrame, odomFrame, baseLinkFrame]
  | odometry env msg =>
    rcases handleOdometryMsg_spec h with ⟨rfl, rfl⟩ | ⟨t, m, rfl, rfl⟩
    · exact ⟨rfl, rfl⟩
    · exact ⟨rfl, rfl⟩
  | systemAlert msg =>
    simp only [handle, handleSystemAlertMsg] at h
    split at h <;> cases h <;> exact ⟨rfl, rfl⟩

/-- **The `/tf` listener's `map → odom` and `odom → base_link` are the
worker's.** After any run that does not throw, the last `map → odom` and
`odom → base_link` transforms the run published are the ones the worker
holds, and where the run published none the worker holds the one it
started with. -/
theorem run_lastPublished (es : List (Event R Tf)) :
    ∀ {w w' : EnvironmentWorker R Tf} {effects : List (Effect Tf)}, w.run g es = .ok (w', effects) →
      (lastPublished mapFrame odomFrame effects).getD w.mapToOdom = w'.mapToOdom ∧
        (lastPublished odomFrame baseLinkFrame effects).getD w.odomToBaseLink = w'.odomToBaseLink := by
  refine run_induction g (fun w effects w' => (lastPublished mapFrame odomFrame effects).getD w.mapToOdom = w'.mapToOdom ∧
    (lastPublished odomFrame baseLinkFrame effects).getD w.odomToBaseLink = w'.odomToBaseLink)
    (fun _ => ⟨rfl, rfl⟩) ?_ es
  intro w₁ w₂ w₃ e eff₁ eff₂ h₁ ⟨hm₂, ho₂⟩
  obtain ⟨hm₁, ho₁⟩ := handle_lastPublished g h₁
  rw [lastPublished_append_getD, lastPublished_append_getD, hm₁, ho₁]
  exact ⟨hm₂, ho₂⟩

end EnvironmentWorker

open EnvironmentWorker in
/-- The run of `turnedVehicle` ends holding the `map → odom` and
`odom → base_link` it last published. -/
theorem turnedVehicle_lastPublished :
    ∃ w' effects, create.run flatGeometry turnedVehicle = .ok (w', effects) ∧
      (lastPublished mapFrame odomFrame effects).getD (create : EnvironmentWorker ℤ Motion).mapToOdom = w'.mapToOdom ∧
        (lastPublished odomFrame baseLinkFrame effects).getD (create : EnvironmentWorker ℤ Motion).odomToBaseLink =
          w'.odomToBaseLink :=
  ⟨_, _, rfl, run_lastPublished flatGeometry turnedVehicle rfl⟩

/-! ## The map frame, where no correction is rejected -/

namespace EnvironmentWorker

variable {R Tf : Type} [Group Tf] {g : Geometry R Tf} {env : EnvAnswers Tf} {w w' : EnvironmentWorker R Tf}
  {effects : List (Effect Tf)}

/-- Where the NaN test never fires, every correction that does not throw is
published. -/
theorem correctMapToOdom_publishes (hg : ∀ T, g.hasNaN T = false) {tfs : List (TransformStamped Tf)}
    (h : correctMapToOdom g w tfs = .ok (w', effects)) : effects ≠ [] := by
  unfold correctMapToOdom at h
  split at h <;> (try simp only [hg, Bool.false_eq_true, if_false, publishTF] at h) <;> cases h
  exact List.cons_ne_nil _ _

/-- A fix moves the map frame only to the `earth → map` it publishes. -/
theorem updateMapAndOdomTFs_earthToMap (hg : ∀ T, g.hasNaN T = false)
    (h : updateMapAndOdomTFs g env w = .ok (w', effects)) :
    w'.earthToMap = (lastPublished earthFrame mapFrame effects).or w.earthToMap := by
  unfold updateMapAndOdomTFs at h
  split at h
  · cases h
  · cases h
    rfl
  · next w₁ tfs hb =>
    rcases correctMapToOdom_spec h with ⟨-, rfl⟩ | ⟨e, loc, T_b_p, -, -, -, rfl, rfl⟩
    · exact absurd rfl (correctMapToOdom_publishes hg h)
    · obtain ⟨-, t, ⟨-, h1, h2⟩ | ⟨loc', -, h1, h2⟩⟩ := beforeHostInMap_spec hb <;> dsimp only at h1 h2 <;>
        subst h1 h2 <;> simp [lastPublished, Effect.messages, buildTFStamped, earthFrame, mapFrame, odomFrame]

variable (g)

/-- Where the NaN test never fires, a callback moves the map frame only to
the `earth → map` it publishes. -/
theorem handle_earthToMap (hg : ∀ T, g.hasNaN T = false) {e : Event R Tf} (h : handle g w e = .ok (w', effects)) :
    w'.earthToMap = (lastPublished earthFrame mapFrame effects).or w.earthToMap := by
  cases e with
  | heading msg => cases h; rfl
  | navSatFix env msg =>
    have hmap := updateMapAndOdomTFs_earthToMap hg (show updateMapAndOdomTFs g env (receiveFix msg w) = _ from h)
    exact hmap
  | odometry env msg =>
    rcases handleOdometryMsg_spec h with ⟨rfl, rfl⟩ | ⟨t, m, rfl, rfl⟩ <;> rfl
  | systemAlert msg =>
    simp only [handle, handleSystemAlertMsg] at h
    split at h <;> cases h <;> rfl

/-- **Where no correction is rejected, the `/tf` listener's `earth → map` is
the worker's.** For a geometry whose NaN test never fires, after any run
that does not throw the worker holds the last `earth → map` the run
published, or the map frame it started with where the run published none.
The NaN test is the only way the two part: a rejected correction moves the
map frame without publishing it. -/
theorem run_earthToMap_lastPublished (hg : ∀ T, g.hasNaN T = false) (es : List (Event R Tf)) :
    ∀ {w w' : EnvironmentWorker R Tf} {effects : List (Effect Tf)}, w.run g es = .ok (w', effects) →
      w'.earthToMap = (lastPublished earthFrame mapFrame effects).or w.earthToMap := by
  refine run_induction g (fun w effects w' => w'.earthToMap = (lastPublished earthFrame mapFrame effects).or w.earthToMap)
    (fun _ => rfl) ?_ es
  intro w₁ w₂ w₃ e eff₁ eff₂ h₁ h₂
  rw [h₂, handle_earthToMap g hg h₁, lastPublished_append, Option.or_assoc]

end EnvironmentWorker

open EnvironmentWorker in
/-- The geometry of `turnedVehicle` never finds a NaN, and its run ends
holding the `earth → map` it last published. -/
theorem turnedVehicle_earthToMap_lastPublished :
    (∀ T, flatGeometry.hasNaN T = false) ∧
      ∃ w' effects, create.run flatGeometry turnedVehicle = .ok (w', effects) ∧
        w'.earthToMap = (lastPublished earthFrame mapFrame effects).or (create : EnvironmentWorker ℤ Motion).earthToMap :=
  ⟨fun _ => rfl, _, _, rfl, run_earthToMap_lastPublished flatGeometry (fun _ => rfl) turnedVehicle rfl⟩

end Roadway

end CarmaPlatform

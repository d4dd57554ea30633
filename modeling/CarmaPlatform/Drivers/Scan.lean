import CarmaPlatform.Drivers.Manager
/-!
# Drivers controller — the producers' scan, and what they return

Each producer keeps one flag per slot (the SSC, each LIDAR, the GPS, the
camera) and overwrites the flag with `evaluate_sensor` at every entry the
slot reads. Two facts carry everything here. `evaluate_sensor` writes `0` or
`1`, so every flag is a bit after every step of the loop
(`truckFlags_allBits_take`), and a flag ends holding what the **last** entry
of its slot wrote (`foldl_lastWrite`).

With LIDAR and GPS forced up after the loop, each producer is then one
equation over an enumeration of verdicts, which is what the status strings
encode: the SSC slot is down, the camera slot is down, or everything is
ready (`areCriticalDriversOperationalTruck_eq`, `areCriticalDriversOperationalCar_eq`).
-/

namespace CarmaPlatform

namespace SubsystemControllers

/-- A value `evaluate_sensor` can leave in a flag. -/
def IsBit (x : Int) : Prop := x = 0 ∨ x = 1

theorem evaluateSensor_isBit (nodeState : String → UInt8) (available : Bool)
    (currentTime timestamp driverTimeout : Int) (sourceNode : String) (isRos1 : Bool) :
    IsBit (evaluateSensor nodeState available currentTime timestamp driverTimeout sourceNode isRos1) := by
  unfold evaluateSensor IsBit
  split_ifs <;> simp

/-- Every flag of the truck producer is a bit. -/
def TruckFlags.AllBits (f : TruckFlags) : Prop :=
  IsBit f.ssc ∧ IsBit f.lidar1 ∧ IsBit f.lidar2 ∧ IsBit f.gps ∧ IsBit f.camera

/-- Every flag of the car producer is a bit. -/
def CarFlags.AllBits (f : CarFlags) : Prop :=
  IsBit f.ssc ∧ IsBit f.lidar ∧ IsBit f.gps ∧ IsBit f.camera

/-- **A flag a loop overwrites ends with what the last entry of its slot
wrote**, or with its start value when no entry belongs to the slot. -/
theorem foldl_lastWrite {σ α : Type} (get : σ → Int) (step : σ → α → σ) (p : α → Bool)
    (g : α → Int) (h : ∀ f i, get (step f i) = if p i then g i else get f) (l : List α) (init : σ) :
    get (l.foldl step init) = (((l.filter p).getLast?).map g).getD (get init) := by
  induction l using List.reverseRecOn with
  | nil => rfl
  | append_singleton l i ih =>
    rw [List.foldl_append, List.foldl_cons, List.foldl_nil, h, ih, List.filter_append]
    by_cases hp : p i <;> simp [hp]

namespace DriverManager

variable (dm : DriverManager) (nodeState : String → UInt8) (currentTime : Int)

/-- **An entry is operational** at `currentTime`: a ROS 1 driver that is
available and was stamped within `driver_timeout`, or a ROS 2 driver the
lifecycle manager reports active. -/
def Operational (e : Entry) : Prop :=
  if e.isRos1 then e.available = true ∧ currentTime - e.timestamp ≤ dm.driverTimeout
  else nodeState e.name = primaryStateActive

instance (e : Entry) : Decidable (dm.Operational nodeState currentTime e) :=
  inferInstanceAs (Decidable (if e.isRos1 then _ else _))

/-- `evaluate_sensor` writes `1` exactly for an operational entry. -/
theorem entryFlag_eq (e : Entry) :
    dm.entryFlag nodeState currentTime e = if dm.Operational nodeState currentTime e then 1 else 0 := by
  obtain ⟨available, -, name, timestamp, isRos1⟩ := e
  unfold entryFlag evaluateSensor Operational
  cases isRos1 <;> cases available <;>
    simp only [Bool.not_true, Bool.not_false, Bool.false_eq_true, true_or, false_or, true_and, false_and,
      if_true, if_false, gt_iff_lt, ← Int.not_le, ite_not]

theorem entryFlag_isBit (e : Entry) : IsBit (dm.entryFlag nodeState currentTime e) :=
  evaluateSensor_isBit ..

/-! ## Every flag is a bit, throughout the loop -/

theorem truckStep_allBits {f : TruckFlags} (hf : f.AllBits) (i : Entry) :
    (dm.truckStep nodeState currentTime f i).AllBits := by
  have hb := dm.entryFlag_isBit nodeState currentTime i
  obtain ⟨h1, h2, h3, h4, h5⟩ := hf
  unfold truckStep
  by_cases h : dm.em.isEntryRequired i.name <;> simp only [h, ite_true, ite_false, Bool.false_eq_true] <;>
    repeat' first | apply iteInduction (motive := TruckFlags.AllBits) | intro
  all_goals exact ⟨by assumption, by assumption, by assumption, by assumption, by assumption⟩

theorem carStep_allBits {f : CarFlags} (hf : f.AllBits) (i : Entry) :
    (dm.carStep nodeState currentTime f i).AllBits := by
  have hb := dm.entryFlag_isBit nodeState currentTime i
  obtain ⟨h1, h2, h3, h4⟩ := hf
  unfold carStep
  by_cases h : dm.em.isEntryRequired i.name <;> simp only [h, ite_true, ite_false, Bool.false_eq_true] <;>
    repeat' first | apply iteInduction (motive := CarFlags.AllBits) | intro
  all_goals exact ⟨by assumption, by assumption, by assumption, by assumption⟩

/-- **The truck loop keeps every flag a bit**, after any number of entries. -/
theorem truckFlags_allBits_take (n : ℕ) :
    ((dm.em.getEntries.take n).foldl (dm.truckStep nodeState currentTime) {}).AllBits :=
  List.foldlRecOn (motive := TruckFlags.AllBits) _ _ _ (by simp [TruckFlags.AllBits, IsBit])
    fun _ hf i _ => dm.truckStep_allBits nodeState currentTime hf i

/-- **The car loop keeps every flag a bit.** -/
theorem carFlags_allBits_take (n : ℕ) :
    ((dm.em.getEntries.take n).foldl (dm.carStep nodeState currentTime) {}).AllBits :=
  List.foldlRecOn (motive := CarFlags.AllBits) _ _ _ (by simp [CarFlags.AllBits, IsBit])
    fun _ hf i _ => dm.carStep_allBits nodeState currentTime hf i

/-! ## Each flag is the last write of its slot -/

/-- The entries the SSC flag reads: the critical drivers. -/
def criticalSlot (i : Entry) : Bool := dm.em.isEntryRequired i.name

/-- The entries the truck loop reads into `camera`: camera entries that are
not among the first three LIDAR and GPS entries. -/
def truckCameraSlot (i : Entry) : Bool :=
  dm.em.isLidarGpsEntryRequired i.name ≠ 0 ∧ dm.em.isLidarGpsEntryRequired i.name ≠ 1 ∧
    dm.em.isLidarGpsEntryRequired i.name ≠ 2 ∧ dm.em.isCameraEntryRequired i.name = 0

/-- The entries the car loop reads into `camera`. -/
def carCameraSlot (i : Entry) : Bool :=
  dm.em.isLidarGpsEntryRequired i.name ≠ 0 ∧ dm.em.isLidarGpsEntryRequired i.name ≠ 1 ∧
    dm.em.isCameraEntryRequired i.name = 0

theorem truckStep_ssc (f : TruckFlags) (i : Entry) :
    (dm.truckStep nodeState currentTime f i).ssc =
      if dm.criticalSlot i then dm.entryFlag nodeState currentTime i else f.ssc := by
  unfold truckStep criticalSlot
  repeat' first | apply iteInduction (motive := fun r : TruckFlags => r.ssc = _) | intro
  all_goals first | exact (if_pos ‹_›).symm | exact (if_neg ‹_›).symm

theorem truckStep_camera (f : TruckFlags) (i : Entry) :
    (dm.truckStep nodeState currentTime f i).camera =
      if dm.truckCameraSlot i then dm.entryFlag nodeState currentTime i else f.camera := by
  unfold truckStep truckCameraSlot
  have hc : (if dm.em.isEntryRequired i.name then { f with ssc := dm.entryFlag nodeState currentTime i }
      else f).camera = f.camera := by split <;> rfl
  repeat' first | apply iteInduction (motive := fun r : TruckFlags => r.camera = _) | intro
  all_goals simp_all

theorem carStep_ssc (f : CarFlags) (i : Entry) :
    (dm.carStep nodeState currentTime f i).ssc =
      if dm.criticalSlot i then dm.entryFlag nodeState currentTime i else f.ssc := by
  unfold carStep criticalSlot
  repeat' first | apply iteInduction (motive := fun r : CarFlags => r.ssc = _) | intro
  all_goals first | exact (if_pos ‹_›).symm | exact (if_neg ‹_›).symm

theorem carStep_camera (f : CarFlags) (i : Entry) :
    (dm.carStep nodeState currentTime f i).camera =
      if dm.carCameraSlot i then dm.entryFlag nodeState currentTime i else f.camera := by
  unfold carStep carCameraSlot
  have hc : (if dm.em.isEntryRequired i.name then { f with ssc := dm.entryFlag nodeState currentTime i }
      else f).camera = f.camera := by split <;> rfl
  repeat' first | apply iteInduction (motive := fun r : CarFlags => r.camera = _) | intro
  all_goals simp_all

/-- Whether a slot reads up: the last entry it reads is operational. A slot
that reads no entry keeps its `0`. -/
def slotUp (slot : Entry → Bool) : Bool :=
  match (dm.em.getEntries.filter slot).getLast? with
  | some e => decide (dm.Operational nodeState currentTime e)
  | none => false

theorem lastFlag_eq (slot : Entry → Bool) :
    (((dm.em.getEntries.filter slot).getLast?).map (dm.entryFlag nodeState currentTime)).getD 0 =
      if dm.slotUp nodeState currentTime slot then 1 else 0 := by
  unfold slotUp
  cases (dm.em.getEntries.filter slot).getLast? <;> simp [entryFlag_eq]

end DriverManager

/-! ## The producers, as verdicts -/

/-- What a producer's status says once LIDAR and GPS are forced up. -/
inductive Verdict
  | sscFailed
  | cameraFailed
  | ready
  deriving DecidableEq, Repr

/-- The verdict from the SSC slot and the camera slot, in the producers'
order of checks. -/
def Verdict.of (sscUp cameraUp : Bool) : Verdict :=
  if !sscUp then .sscFailed else if !cameraUp then .cameraFailed else .ready

/-- The truck producer's string for a verdict. -/
def Verdict.truckCode : Verdict → String
  | .sscFailed => "s_0"
  | .cameraFailed => "s_1_l1_1_l2_1_g_1_c_0"
  | .ready => "s_1_l1_1_l2_1_g_1_c_1"

/-- The car producer's string for a verdict. -/
def Verdict.carCode : Verdict → String
  | .sscFailed => "s_0"
  | .cameraFailed => "s_1_l_1_g_1_c_0"
  | .ready => "s_1_l_1_g_1_c_1"

theorem truckStatus_of (a b : Bool) :
    truckStatus (if a then 1 else 0) 1 1 1 (if b then 1 else 0) = some (Verdict.of a b).truckCode := by
  cases a <;> cases b <;> rfl

theorem carStatus_of (a b : Bool) :
    carStatus (if a then 1 else 0) 1 1 (if b then 1 else 0) = some (Verdict.of a b).carCode := by
  cases a <;> cases b <;> rfl

theorem Verdict.truckCode_eq_s_0 (v : Verdict) : v.truckCode = "s_0" ↔ v = .sscFailed := by
  cases v <;> decide

theorem Verdict.carCode_eq_s_0 (v : Verdict) : v.carCode = "s_0" ↔ v = .sscFailed := by
  cases v <;> decide

theorem Verdict.of_eq_sscFailed (a b : Bool) : Verdict.of a b = .sscFailed ↔ a = false := by
  cases a <;> cases b <;> decide

namespace DriverManager

variable (dm : DriverManager) (nodeState : String → UInt8) (currentTime : Int)

/-- The truck verdict: the SSC slot, then the truck's camera slot. -/
def truckVerdict : Verdict :=
  Verdict.of (dm.slotUp nodeState currentTime dm.criticalSlot) (dm.slotUp nodeState currentTime dm.truckCameraSlot)

/-- The car verdict. -/
def carVerdict : Verdict :=
  Verdict.of (dm.slotUp nodeState currentTime dm.criticalSlot) (dm.slotUp nodeState currentTime dm.carCameraSlot)

/-- **The truck producer, in one equation.** It always returns, and its
string encodes the truck verdict. -/
theorem areCriticalDriversOperationalTruck_eq :
    dm.areCriticalDriversOperationalTruck nodeState currentTime =
      some (dm.truckVerdict nodeState currentTime).truckCode := by
  have hs := foldl_lastWrite TruckFlags.ssc _ _ _ (dm.truckStep_ssc nodeState currentTime) dm.em.getEntries {}
  have hc := foldl_lastWrite TruckFlags.camera _ _ _ (dm.truckStep_camera nodeState currentTime) dm.em.getEntries {}
  rw [lastFlag_eq] at hs hc
  simp only [areCriticalDriversOperationalTruck, hs, hc, truckStatus_of, truckVerdict]

/-- **The car producer, in one equation.** -/
theorem areCriticalDriversOperationalCar_eq :
    dm.areCriticalDriversOperationalCar nodeState currentTime =
      some (dm.carVerdict nodeState currentTime).carCode := by
  have hs := foldl_lastWrite CarFlags.ssc _ _ _ (dm.carStep_ssc nodeState currentTime) dm.em.getEntries {}
  have hc := foldl_lastWrite CarFlags.camera _ _ _ (dm.carStep_camera nodeState currentTime) dm.em.getEntries {}
  rw [lastFlag_eq] at hs hc
  simp only [areCriticalDriversOperationalCar, hs, hc, carStatus_of, carVerdict]

/-! ## The SSC verdict is the last critical entry's -/

/-- The last critical entry in list order. -/
def lastCritical : Option Entry := (dm.em.getEntries.filter dm.criticalSlot).getLast?

theorem slotUp_criticalSlot_eq_false :
    dm.slotUp nodeState currentTime dm.criticalSlot = false ↔
      dm.lastCritical = none ∨ ∃ e, dm.lastCritical = some e ∧ ¬ dm.Operational nodeState currentTime e := by
  unfold slotUp lastCritical
  cases (dm.em.getEntries.filter dm.criticalSlot).getLast? <;> simp

/-- **Both producers report the SSC failed exactly when there is no critical
entry, or the last critical entry in list order is not operational.** Each
critical entry overwrites the one `ssc` flag, so earlier critical entries do
not count. -/
theorem areCriticalDriversOperational_s_0_iff_lastCritical :
    (dm.areCriticalDriversOperationalTruck nodeState currentTime = some "s_0" ↔
      dm.lastCritical = none ∨ ∃ e, dm.lastCritical = some e ∧ ¬ dm.Operational nodeState currentTime e) ∧
    (dm.areCriticalDriversOperationalCar nodeState currentTime = some "s_0" ↔
      dm.lastCritical = none ∨ ∃ e, dm.lastCritical = some e ∧ ¬ dm.Operational nodeState currentTime e) := by
  simp only [areCriticalDriversOperationalTruck_eq, areCriticalDriversOperationalCar_eq, Option.some.injEq,
    Verdict.truckCode_eq_s_0, Verdict.carCode_eq_s_0, truckVerdict, carVerdict, Verdict.of_eq_sscFailed,
    slotUp_criticalSlot_eq_false, and_self]

/-- A truck starting up with two critical ROS 2 drivers and a camera,
registered `ssc_a`, `ssc_b`, `camera`. -/
def twoCritical : DriverManager := create ["ssc_a", "ssc_b"] [] ["camera"] ["ssc_a", "ssc_b", "camera"] 1000 true

/-- The same drivers, registered `ssc_b`, `ssc_a`, `camera`. -/
def twoCriticalReversed : DriverManager :=
  create ["ssc_a", "ssc_b"] [] ["camera"] ["ssc_b", "ssc_a", "camera"] 1000 true

/-- A lifecycle manager that reports every driver active but `ssc_a`. -/
def sscADown (n : String) : UInt8 := if n = "ssc_a" then 2 else primaryStateActive

/-- With `ssc_a` down and registered before a healthy `ssc_b`, `handle_spin`
reports every essential driver ready and ends start-up, for the truck and
for the car. Registered the other way round, the same drivers are reported
as an SSC failure. -/
theorem twoCritical_failed_first_driversReady :
    (∃ e ∈ twoCritical.em.getEntries, twoCritical.criticalSlot e ∧ ¬ twoCritical.Operational sscADown 100 e) ∧
    (twoCritical.handleSpin sscADown true false 100 0 10).1 = some driversReadyAlert ∧
    (twoCritical.handleSpin sscADown true false 100 0 10).2.startingUp = false ∧
    (twoCritical.handleSpin sscADown false true 100 0 10).1 = some driversReadyAlert ∧
    (twoCriticalReversed.handleSpin sscADown true false 100 0 10).1 = some ⟨.shutdown, "SSC Failed"⟩ := by
  decide

end DriverManager

end SubsystemControllers

end CarmaPlatform

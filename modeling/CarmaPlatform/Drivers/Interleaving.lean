import CarmaPlatform.Drivers.Run
/-!
# Drivers controller — reports and spins in any interleaving

A node interleaves `update_driver_status` and `handle_spin` as driver
reports and timer ticks arrive. Two facts say what an interleaving can
change. A spin never touches the entry store, `ros2_drivers_` or
`driver_timeout_`, so dropping every spin from a run changes nothing but
`starting_up_` (`run_filter_isReport`): what the producers return after a
run depends on its reports alone, not on where the spins fell among them.
And `starting_up_` is cleared by a spin that reports every driver ready, and
by nothing else (`run_startingUp_eq_false_iff`).
-/

namespace CarmaPlatform

namespace SubsystemControllers

/-- Whether a call is a driver report. -/
def Call.isReport : Call → Bool
  | .updateDriverStatus .. => true
  | .handleSpin .. => false

namespace DriverManager

/-- A spin leaves everything but `starting_up_` as it was. -/
theorem handleSpin_snd_eq (dm : DriverManager) (nodeState : String → UInt8) (truck car : Bool)
    (timeNow startUpTimestamp startupDuration : Int) :
    (dm.handleSpin nodeState truck car timeNow startUpTimestamp startupDuration).2 =
      { dm with startingUp := (dm.handleSpin nodeState truck car timeNow startUpTimestamp startupDuration).2.startingUp } := by
  rcases @handleSpin_outcome dm nodeState timeNow startUpTimestamp startupDuration truck car with
    ⟨-, h⟩ | ⟨-, -, h⟩ | ⟨-, h⟩ <;> rw [h]

/-- The reports of a run, run from any value of `starting_up_`, leave the
manager the whole run leaves, with that value of `starting_up_`. -/
theorem run_filter_isReport_with (calls : List Call) :
    ∀ (dm : DriverManager) (x : Bool),
      ({ dm with startingUp := x }.run (calls.filter Call.isReport)).1 = { (dm.run calls).1 with startingUp := x } := by
  induction calls with
  | nil => intro dm x; rfl
  | cons c cs ih =>
    intro dm x
    cases c with
    | updateDriverStatus msg t => exact ih (dm.updateDriverStatus msg t) x
    | handleSpin nodeState truck car t s d =>
      have hx : ({ (dm.handleSpin nodeState truck car t s d).2 with startingUp := x } : DriverManager) =
          { dm with startingUp := x } := by
        rw [handleSpin_snd_eq]
      rw [← hx]
      exact ih _ x

/-- **Dropping the spins from a run changes nothing but `starting_up_`.**
A spin never touches the entry store, `ros2_drivers_` or `driver_timeout_`.
So after any interleaving of reports and spins the manager is the one its
reports alone leave, apart from `starting_up_`, and both producers return
what they would return after the reports alone. -/
theorem run_filter_isReport (dm : DriverManager) (calls : List Call) :
    (dm.run (calls.filter Call.isReport)).1 = { (dm.run calls).1 with startingUp := dm.startingUp } ∧
      ∀ nodeState currentTime,
        (dm.run (calls.filter Call.isReport)).1.areCriticalDriversOperationalTruck nodeState currentTime =
          (dm.run calls).1.areCriticalDriversOperationalTruck nodeState currentTime ∧
        (dm.run (calls.filter Call.isReport)).1.areCriticalDriversOperationalCar nodeState currentTime =
          (dm.run calls).1.areCriticalDriversOperationalCar nodeState currentTime := by
  have h := run_filter_isReport_with calls dm dm.startingUp
  exact ⟨h, fun nodeState currentTime => by rw [h]; exact ⟨rfl, rfl⟩⟩

/-- A call clears `starting_up_` only by reporting every driver ready. -/
theorem call_startingUp_cleared {dm : DriverManager} (c : Call) (h : (dm.call c).1.startingUp = false) :
    dm.startingUp = false ∨ some driversReadyAlert ∈ (dm.call c).2 := by
  cases c with
  | updateDriverStatus msg t => exact .inl h
  | handleSpin nodeState truck car t s d =>
    simp only [call, List.mem_singleton] at h ⊢
    rcases @handleSpin_outcome dm nodeState t s d truck car with ⟨h1, -⟩ | ⟨-, -, h2⟩ | ⟨-, h2⟩
    · exact .inr h1.symm
    all_goals rw [h2] at h; exact .inl h

/-- **`starting_up_` is cleared by DRIVERS_READY and by nothing else.** After
any run it is clear exactly when it was clear before, or some spin of the
run reported every driver ready. -/
theorem run_startingUp_eq_false_iff (dm : DriverManager) (calls : List Call) :
    (dm.run calls).1.startingUp = false ↔ dm.startingUp = false ∨ some driversReadyAlert ∈ (dm.run calls).2 := by
  constructor
  · induction calls generalizing dm with
    | nil => exact .inl
    | cons c cs ih =>
      intro h
      rw [run_cons] at h ⊢
      rcases ih _ h with h | h
      · exact (call_startingUp_cleared c h).imp_right (List.mem_append_left _)
      · exact .inr (List.mem_append_right _ h)
  · rintro (h | h)
    · exact (run_startingUp_false calls dm h).1
    · exact run_driversReady calls dm _ h rfl

end DriverManager

end SubsystemControllers

end CarmaPlatform

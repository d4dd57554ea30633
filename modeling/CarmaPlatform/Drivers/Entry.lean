import Mathlib.Data.List.Basic
/-!
# Drivers controller — driver entries

The records `DriverManager` keeps about each driver, and the store that
holds them. `Entry` and `EntryManager` live in entry_manager.cpp, which is
not among the sources: the store is modelled from what `DriverManager`
asks of it. It keeps one entry per driver name, in the order the names
first arrived; an update rewrites the availability, activity and timestamp
of the entry of its name, or appends a new entry.

What later proofs need of an update is said once here: every stored entry
is an old one, the update merged into an old one, or the update itself
(`mem_updateEntryList`).
-/

namespace CarmaPlatform

namespace SubsystemControllers

/-- A driver's record (`Entry`). The `module_` field is left out: every
entry built here has it empty, and nothing reads it. -/
structure Entry where
  available : Bool
  active : Bool
  name : String
  timestamp : Int
  isRos1 : Bool
  deriving DecidableEq, Repr

/-- Modelled from the spec: `EntryManager` (entry_manager.cpp, not among
the sources). It holds the three name lists it is built from and the
entries in arrival order. -/
structure EntryManager where
  requiredEntries : List String
  lidarGpsEntries : List String
  cameraEntries : List String
  entryList : List Entry
  deriving DecidableEq, Repr

/-- Modelled from the spec: the entry list after `update_entry entry`. The
entry of the same name keeps its name and ROS version and takes the new
availability, activity and timestamp; an unknown name is appended. -/
def updateEntryList (entry : Entry) : List Entry → List Entry
  | [] => [entry]
  | e :: es =>
    if e.name = entry.name then
      { e with available := entry.available, active := entry.active, timestamp := entry.timestamp } :: es
    else e :: updateEntryList entry es

namespace EntryManager

/-- Modelled from the spec: `EntryManager(required, lidar_gps, camera)`
starts with no entries. -/
def create (required_entries lidar_gps_entries camera_entries : List String) : EntryManager :=
  ⟨required_entries, lidar_gps_entries, camera_entries, []⟩

/-- Modelled from the spec: `update_entry`. -/
def updateEntry (em : EntryManager) (entry : Entry) : EntryManager :=
  { em with entryList := updateEntryList entry em.entryList }

/-- Modelled from the spec: `get_entries` returns a copy of the stored list. -/
def getEntries (em : EntryManager) : List Entry := em.entryList

/-- Modelled from the spec: `is_entry_required`, membership in the
critical driver names. -/
def isEntryRequired (em : EntryManager) (name : String) : Bool :=
  em.requiredEntries.contains name

/-- Modelled from the spec: `is_lidar_gps_entry_required`, the position of
the name among the LIDAR and GPS entries, or `-1`. -/
def isLidarGpsEntryRequired (em : EntryManager) (name : String) : Int :=
  match em.lidarGpsEntries.indexOf? name with
  | some i => i
  | none => -1

/-- Modelled from the spec: `is_camera_entry_required`, `0` for a camera
entry and `-1` otherwise. -/
def isCameraEntryRequired (em : EntryManager) (name : String) : Int :=
  if em.cameraEntries.contains name then 0 else -1

@[simp] theorem updateEntry_entryList (em : EntryManager) (entry : Entry) :
    (em.updateEntry entry).entryList = updateEntryList entry em.entryList := rfl

@[simp] theorem updateEntry_requiredEntries (em : EntryManager) (entry : Entry) :
    (em.updateEntry entry).requiredEntries = em.requiredEntries := rfl

@[simp] theorem getEntries_eq (em : EntryManager) : em.getEntries = em.entryList := rfl

end EntryManager

/-! ## What an update does to the list -/

/-- The entry a list holds under a name: the first one, as every lookup of
`EntryManager` finds it. -/
def entryNamed (n : String) (l : List Entry) : Option Entry :=
  l.find? fun e => e.name = n

/-- **Every entry after an update** is an old one, the update merged into an
old one, or the update itself. -/
theorem mem_updateEntryList {entry e' : Entry} {l : List Entry} (h : e' ∈ updateEntryList entry l) :
    e' ∈ l ∨ e' = entry ∨
      ∃ e ∈ l, e' = { e with available := entry.available, active := entry.active, timestamp := entry.timestamp } := by
  induction l with
  | nil => exact .inr (.inl (List.mem_singleton.1 h))
  | cons e es ih =>
    simp only [updateEntryList] at h
    split at h
    · rcases List.mem_cons.1 h with rfl | h
      · exact .inr (.inr ⟨e, List.mem_cons_self _ _, rfl⟩)
      · exact .inl (List.mem_cons_of_mem _ h)
    · rcases List.mem_cons.1 h with rfl | h
      · exact .inl (List.mem_cons_self _ _)
      · rcases ih h with h | h | ⟨x, hx, rfl⟩
        · exact .inl (List.mem_cons_of_mem _ h)
        · exact .inr (.inl h)
        · exact .inr (.inr ⟨x, List.mem_cons_of_mem _ hx, rfl⟩)

/-- An update stamps no entry but with its own timestamp. -/
theorem timestamp_mem_updateEntryList {entry : Entry} {l : List Entry} {t : Int}
    (hl : ∀ e ∈ l, e.timestamp = t) (he : entry.timestamp = t) : ∀ e ∈ updateEntryList entry l, e.timestamp = t := by
  intro e' h
  rcases mem_updateEntryList h with h | rfl | ⟨e, -, rfl⟩
  · exact hl e' h
  · exact he
  · exact he

end SubsystemControllers

end CarmaPlatform

import Mathlib

/-!
# `android::CameraMetadata`

The class is not part of the repository; what the device relies on is its documented locking.
`getAndLock` locks the object, also an empty one; an assignment to a locked object is ignored;
`unlock` with the object's own buffer unlocks it.
-/

namespace QCamx

/-- The entries of a `camera_metadata_t`: a tag and its data. -/
abbrev Metadata := List (ℕ × List ℤ)

/-- `android::CameraMetadata`; an empty object has no buffer. -/
structure CameraMetadata where
  buffer : Option Metadata := none
  locked : Bool := false
  deriving DecidableEq, Repr

namespace CameraMetadata

variable (m : CameraMetadata)

/-- The buffer, and the object locked. -/
def getAndLock : Option Metadata × CameraMetadata := (m.buffer, { m with locked := true })

/-- Unlock with the buffer that `getAndLock` gave out. -/
def unlock (buffer : Metadata) : CameraMetadata :=
  if m.locked ∧ m.buffer = some buffer then { m with locked := false } else m

/-- The copy constructor. -/
def copy : CameraMetadata := ⟨m.buffer, false⟩

/-- `operator=`. -/
def assign (other : CameraMetadata) : CameraMetadata :=
  if m.locked then m else { m with buffer := other.buffer }

/-- `update`, on the data of one tag. -/
def update (tag : ℕ) (data : List ℤ) : CameraMetadata :=
  if m.locked then m
  else { m with buffer := some ((tag, data) :: (m.buffer.getD []).filter (·.1 ≠ tag)) }

/-- `clear`. -/
def clear : CameraMetadata := if m.locked then m else { m with buffer := none }

end CameraMetadata

end QCamx

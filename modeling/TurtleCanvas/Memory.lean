/-!
# Memory

A canvas and an image are each one block of memory.  How large a block can be is up to the machine
that the program runs on.

* `Memory` : the memory of a machine.
-/

namespace TurtleCanvas

/-- The memory of a machine. -/
class Memory where
  /-- The greatest number of bytes of a block. -/
  room : Nat
  /-- An address has at most 48 bits. -/
  room_le : room ≤ 0x1000000000000

end TurtleCanvas

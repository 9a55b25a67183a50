import Chip8.Extent
/-!
# The call stack

A fixed run of 16-bit slots beside main memory. The pointer starts at the
highest slot and moves down on a push, up on a pop, so that it names the
slot which the next push fills; the slots above it are in use. Popped slots
keep their value until a later push reaches them. `Stack.items` is the view
as a list, oldest entry first.
-/

namespace Chip8

/-- The call stack. The pointer is one below the lowest slot when the stack
is full. A negative size gives a stack without slots. -/
structure Stack where
  size : Int
  slots : Array UInt16
  pointer : Int
  deriving DecidableEq, Repr

namespace Stack

/-- The stack of `size` slots with nothing on it. -/
def empty (size : Int) : Stack :=
  ⟨size, Array.replicate size.toNat 0, size - 1⟩

/-- The stack of `size` slots with nothing on it, if there can be one. -/
def create [HostMemory] (size : Int) : Except Fault Stack := do
  Extent.check Extent.room size
  return empty size

/-- The entries on the stack, oldest first. -/
def items (stack : Stack) : List UInt16 :=
  (stack.slots.toList.drop (stack.pointer + 1).toNat).reverse

/-- An empty stack has no entries. -/
theorem items_empty (size : Int) : (empty size).items = [] := by
  simp only [items, empty, List.reverse_eq_nil_iff, List.drop_eq_nil_iff, Array.length_toList,
    Array.size_replicate]
  omega

/-- Puts the low 16 bits of a number on the stack. -/
def push (item : Int) : Operation Stack Unit := fun stack =>
  if stack.pointer < 0 then .error .stackOverflow stack
  else .ok () { stack with
    slots := stack.slots.setIfInBounds stack.pointer.toNat (UInt16.ofInt item)
    pointer := stack.pointer - 1 }

/-- Takes the newest entry off the stack. -/
def pop : Operation Stack UInt16 := fun stack =>
  if stack.pointer ≥ stack.size - 1 then .error .stackUnderflow stack
  else
    let pointer := stack.pointer + 1
    .ok (stack.slots.getD pointer.toNat 0) { stack with pointer := pointer }

/-- Takes everything off the stack and fills every slot with zero. -/
def clear (stack : Stack) : Stack := empty stack.size

end Stack
end Chip8

import Chip8.Registers
import Chip8.Proofs.Operation
/-!
# Calls and returns of the register file

The call stack through its view: on a sound stack a push appends to the
items, a pop takes the last item away, and each is refused at its own end
(`Stack.items_pushed`, `Stack.items_popped`). A call and a return of the
register file are a push and a pop with a jump; refused, they leave the
registers as they were.
-/

namespace Chip8
namespace Stack

/-- The stack has as many slots as its size says, and its pointer names one of
them or the place below the lowest. -/
structure Sound (stack : Stack) : Prop where
  size_slots : (stack.slots.size : Int) = stack.size
  pointer_ge : -1 ≤ stack.pointer
  pointer_lt : stack.pointer < stack.size

/-- The stack after a push that is not refused. -/
def pushed (item : Int) (stack : Stack) : Stack :=
  { stack with
    slots := stack.slots.setIfInBounds stack.pointer.toNat (UInt16.ofInt item)
    pointer := stack.pointer - 1 }

/-- The stack after a pop that is not refused. -/
def popped (stack : Stack) : Stack := { stack with pointer := stack.pointer + 1 }

/-- The entry that the next pop takes. -/
def newest (stack : Stack) : UInt16 := stack.slots.getD (stack.pointer + 1).toNat 0

variable {stack : Stack} {item : Int}

theorem sound_empty (size : Nat) : (empty size).Sound :=
  ⟨by simp [empty], by simp only [empty]; omega, by simp only [empty]; omega⟩

/-- The pointer counts the items from the top slot down. -/
theorem Sound.length_items (sound : stack.Sound) :
    (stack.items.length : Int) = stack.size - 1 - stack.pointer := by
  obtain ⟨size, low, high⟩ := sound
  rw [items, List.length_reverse, List.length_drop, Array.length_toList]
  omega

theorem Sound.length_items_le (sound : stack.Sound) : (stack.items.length : Int) ≤ stack.size := by
  have := sound.length_items
  have := sound.pointer_ge
  omega

/-! ## Push -/

theorem Sound.push_of_lt (sound : stack.Sound) (room : (stack.items.length : Int) < stack.size) :
    push item stack = .ok () (stack.pushed item) := by
  have := sound.length_items
  rw [push, if_neg (by omega)]
  rfl

theorem Sound.push_of_full (sound : stack.Sound) (full : (stack.items.length : Int) = stack.size) :
    push item stack = .error .stackOverflow stack := by
  have := sound.length_items
  rw [push, if_pos (by omega)]

theorem Sound.pushed (sound : stack.Sound) (room : (stack.items.length : Int) < stack.size) :
    (stack.pushed item).Sound := by
  have := sound.length_items
  obtain ⟨size, low, high⟩ := sound
  exact ⟨by rw [Stack.pushed, Array.size_setIfInBounds, size],
    by simp only [Stack.pushed]; omega, by simp only [Stack.pushed]; omega⟩

/-- **A push appends** the low 16 bits of the item. -/
theorem items_pushed (sound : stack.Sound) (room : (stack.items.length : Int) < stack.size) :
    (stack.pushed item).items = stack.items ++ [UInt16.ofInt item] := by
  have count := sound.length_items
  obtain ⟨size, low, high⟩ := sound
  have slot : stack.pointer.toNat < stack.slots.toList.length := by
    rw [Array.length_toList]
    omega
  have below : (stack.pointer - 1 + 1).toNat = stack.pointer.toNat := by omega
  have above : (stack.pointer + 1).toNat = stack.pointer.toNat + 1 := by omega
  -- the slot filled is the lowest one in use, and comes last in the view
  rw [items, items, pushed, below, above, Array.toList_setIfInBounds,
    List.drop_eq_getElem_cons (by rwa [List.length_set]), List.getElem_set_self,
    List.drop_set_of_lt (by omega), List.reverse_cons]

/-! ## Pop -/

theorem Sound.pop_of_pos (sound : stack.Sound) (some : 0 < stack.items.length) :
    pop stack = .ok stack.newest stack.popped := by
  have := sound.length_items
  rw [pop, if_neg (by omega)]
  rfl

theorem Sound.pop_of_empty (sound : stack.Sound) (none : stack.items.length = 0) :
    pop stack = .error .stackUnderflow stack := by
  have := sound.length_items
  rw [pop, if_pos (by omega)]

theorem Sound.popped (sound : stack.Sound) (some : 0 < stack.items.length) :
    stack.popped.Sound := by
  have := sound.length_items
  obtain ⟨size, low, high⟩ := sound
  exact ⟨size, by simp only [Stack.popped]; omega, by simp only [Stack.popped]; omega⟩

/-- **A pop takes the newest entry away**, and leaves those below it. -/
theorem items_popped (sound : stack.Sound) (some : 0 < stack.items.length) :
    stack.items = stack.popped.items ++ [stack.newest] := by
  have count := sound.length_items
  obtain ⟨size, low, high⟩ := sound
  have slot : (stack.pointer + 1).toNat < stack.slots.toList.length := by
    rw [Array.length_toList]
    omega
  have above : (stack.pointer + 1 + 1).toNat = (stack.pointer + 1).toNat + 1 := by omega
  have entry : stack.newest = stack.slots.toList[(stack.pointer + 1).toNat] := by
    rw [newest, Array.getD_eq_getD_getElem?, ← Array.getElem?_toList,
      List.getElem?_eq_getElem slot, Option.getD_some]
  rw [items, items, popped, above, entry, List.drop_eq_getElem_cons slot, List.reverse_cons]

end Stack

namespace Registers

variable {registers : Registers} {target : Int}

/-! ## The next address -/

theorem next_eq (address : Int) :
    next address = if address + 2 ≥ 4096 then 0x200 else address + 2 := rfl

/-- The next address lies in memory, wherever the program counter was. -/
theorem next_bounds {address : Int} (nonneg : 0 ≤ address) :
    0 ≤ next address ∧ next address ≤ 0xFFF := by
  rw [next_eq]
  omega

/-- An address loses nothing in a slot of the stack. -/
theorem toNat_ofInt_address {address : Int} (nonneg : 0 ≤ address) (le : address ≤ 0xFFF) :
    ((UInt16.ofInt address).toNat : Int) = address := by
  have low : (address % 2 ^ 16).toNat % 2 ^ 16 = address.toNat := by omega
  rw [UInt16.ofInt, UInt16.toNat_ofNat', low, Int.toNat_of_nonneg nonneg]

/-! ## Calls and returns -/

theorem call_of_lt (sound : registers.stack.Sound)
    (room : (registers.stack.items.length : Int) < registers.stack.size) :
    call target registers =
      .ok () { registers with pc := target, stack := registers.stack.pushed registers.pc } := by
  have push : onStack (Stack.push registers.pc) registers =
      .ok () { registers with stack := registers.stack.pushed registers.pc } := by
    rw [onStack, sound.push_of_lt room]
  change (onStack (Stack.push registers.pc) >>= fun _ => modify (jump target)) registers = _
  rw [Operation.bind_of_ok push]
  rfl

theorem call_of_full (sound : registers.stack.Sound)
    (full : (registers.stack.items.length : Int) = registers.stack.size) :
    call target registers = .error .stackOverflow registers := by
  have push : onStack (Stack.push registers.pc) registers = .error .stackOverflow registers := by
    rw [onStack, sound.push_of_full full]
  change (onStack (Stack.push registers.pc) >>= fun _ => modify (jump target)) registers = _
  rw [Operation.bind_of_error push]

theorem ret_of_pos (sound : registers.stack.Sound) (some : 0 < registers.stack.items.length) :
    ret registers =
      .ok () { registers with
        pc := registers.stack.newest.toNat, stack := registers.stack.popped } := by
  have pop : onStack Stack.pop registers =
      .ok registers.stack.newest { registers with stack := registers.stack.popped } := by
    rw [onStack, sound.pop_of_pos some]
  rw [ret, Operation.bind_of_ok pop]
  rfl

theorem ret_of_empty (sound : registers.stack.Sound) (none : registers.stack.items.length = 0) :
    ret registers = .error .stackUnderflow registers := by
  have pop : onStack Stack.pop registers = .error .stackUnderflow registers := by
    rw [onStack, sound.pop_of_empty none]
  rw [ret, Operation.bind_of_error pop]

end Registers
end Chip8

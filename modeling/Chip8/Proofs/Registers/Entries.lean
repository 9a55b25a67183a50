import Chip8.Proofs.Registers.Calls
import Mathlib.Data.List.Induction
/-!
# The call stack as a bounded list

Seen from outside, the call stack is a list of the numbers pushed on it, oldest first, that
holds as many as the stack has slots (`Reads`). The slots above the pointer, the stale ones
below it and the pointer itself are of no account: whatever is asked of the stack, the list
answers the same (`agree_serve`), refusals included, and so it is of any calls made one
after another (`behaves_as_list`).
-/

namespace Chip8
namespace Stack

open Operation

/-- What is asked of a call stack. -/
inductive Call where
  | push (item : Int)
  | pop
  | clear
  deriving DecidableEq, Repr

/-- What a call stack does on a call. A pop gives a number, and the others give none. -/
def serve : Call → Operation Stack (Option Int)
  | .push item => do
    push item
    return none
  | .pop => return some (← pop).toNat
  | .clear => do
    modify clear
    return none

/-- **The same calls of a list** with room for `size` numbers, the newest last. -/
def serveList (size : Nat) : Call → Operation (List Int) (Option Int)
  | .push item => fun list =>
    if list.length = size then .error .stackOverflow list
    else .ok none (list ++ [item % 0x10000])
  | .pop => fun list =>
    match list.getLast? with
    | none => .error .stackUnderflow list
    | some newest => .ok (some newest) list.dropLast
  | .clear => fun _ => .ok none []

/-- The numbers on a stack, oldest first. -/
def entries (stack : Stack) : List Int := stack.items.map fun entry => (entry.toNat : Int)

variable {size : Nat} {stack : Stack} {list : List Int} {item newest : Int}

/-! ## The list -/

theorem serveList_push_of_full (full : list.length = size) :
    serveList size (.push item) list = .error .stackOverflow list :=
  if_pos full

theorem serveList_push_of_lt (room : list.length < size) :
    serveList size (.push item) list = .ok none (list ++ [item % 0x10000]) :=
  if_neg (Nat.ne_of_lt room)

theorem serveList_pop_concat (older : List Int) :
    serveList size .pop (older ++ [newest]) = .ok (some newest) older := by
  change (match (older ++ [newest]).getLast? with
    | none => EStateM.Result.error Fault.stackUnderflow (older ++ [newest])
    | some newest' => .ok (some newest') (older ++ [newest]).dropLast) = _
  rw [List.getLast?_append, List.dropLast_concat]
  rfl

/-- As many pushes as there is room for are granted, and append. -/
theorem serveList_pushes (items : List Int) (room : list.length + items.length ≤ size) :
    outcomes (serveList size) (items.map .push) list =
        List.replicate items.length (.ok none) ∧
      afterAll (serveList size) (items.map .push) list =
        list ++ items.map (· % 0x10000) := by
  induction items generalizing list with
  | nil => exact ⟨rfl, (List.append_nil list).symm⟩
  | cons item items ih =>
    rw [List.length_cons] at room
    have granted := @serveList_push_of_lt size list item (by omega)
    obtain ⟨came, stands⟩ := @ih (list ++ [item % 0x10000]) (by
      rw [List.length_append, List.length_singleton]
      omega)
    constructor
    · rw [List.map_cons, outcomes, granted, left, came]
      rfl
    · rw [List.map_cons, afterAll, List.foldl_cons, granted]
      refine stands.trans ?_
      rw [List.append_assoc]
      rfl

/-- As many pops as there are numbers give them all, the newest first. -/
theorem serveList_pops (list : List Int) :
    outcomes (serveList size) (List.replicate list.length .pop) list =
      list.reverse.map fun number => .ok (some number) := by
  induction list using List.reverseRecOn with
  | nil => rfl
  | append_singleton older newest ih =>
    rw [List.length_append, List.length_singleton, List.replicate_succ, outcomes,
      serveList_pop_concat, left, ih, List.reverse_append]
    rfl

/-- So a list that is filled and emptied again gives its numbers back in reverse order. -/
theorem serveList_refill (items : List Int) (fits : items.length = size) :
    outcomes (serveList size) (.clear :: items.map .push ++ List.replicate size .pop) list =
      List.replicate (size + 1) (.ok none) ++
        items.reverse.map fun item => .ok (some (item % 0x10000)) := by
  obtain ⟨came, stands⟩ := @serveList_pushes size [] items (by
    rw [fits]
    exact Nat.le_of_eq (Nat.zero_add size))
  have emptied := @serveList_pops size (items.map (· % 0x10000))
  rw [List.length_map, fits] at emptied
  rw [List.cons_append, outcomes]
  change _ :: outcomes (serveList size) (items.map .push ++ List.replicate size .pop) [] = _
  rw [outcomes_append, came, stands, List.nil_append, emptied, fits, List.replicate_succ,
    List.cons_append, ← List.map_reverse, List.map_map]
  rfl

/-! ## The stack -/

/-- **The stack reads as the list**: it has `size` slots, and those in use hold the list. -/
structure Reads (size : Nat) (stack : Stack) (list : List Int) : Prop where
  sound : stack.Sound
  size_eq : stack.size = size
  entries_eq : stack.entries = list

theorem reads_empty (size : Nat) : Reads size (empty size) [] where
  sound := sound_empty size
  size_eq := rfl
  entries_eq := by rw [entries, items_empty, List.map_nil]

theorem Reads.length_eq (reads : Reads size stack list) : stack.items.length = list.length := by
  rw [← reads.entries_eq, entries, List.length_map]

theorem Reads.length_le (reads : Reads size stack list) : list.length ≤ size := by
  have within := reads.sound.length_items_le
  rw [reads.length_eq, reads.size_eq] at within
  omega

/-- The pointer counts the numbers from the highest slot down. -/
theorem Reads.pointer_eq (reads : Reads size stack list) :
    stack.pointer = size - 1 - list.length := by
  have count := reads.sound.length_items
  rw [reads.length_eq, reads.size_eq] at count
  omega

/-- A stack that is cleared is as good as new. -/
theorem Reads.clear_eq (reads : Reads size stack list) : stack.clear = empty size := by
  rw [clear, reads.size_eq]

/-- A slot keeps the low sixteen bits of a number. -/
theorem toNat_ofInt_slot (item : Int) : ((UInt16.ofInt item).toNat : Int) = item % 0x10000 := by
  rw [UInt16.ofInt, UInt16.toNat_ofNat']
  omega

theorem entries_pushed (sound : stack.Sound) (room : (stack.items.length : Int) < stack.size) :
    (stack.pushed item).entries = stack.entries ++ [item % 0x10000] := by
  rw [entries, items_pushed sound room, List.map_append, List.map_singleton, toNat_ofInt_slot]
  rfl

theorem entries_popped (sound : stack.Sound) (some : 0 < stack.items.length) :
    stack.entries = stack.popped.entries ++ [(stack.newest.toNat : Int)] := by
  rw [entries, items_popped sound some, List.map_append]
  rfl

theorem agree_push (item : Int) :
    Agree (Reads size) (serve (.push item)) (serveList size (.push item)) := by
  intro stack list reads
  have count := reads.length_eq
  have slots := reads.size_eq
  rcases Nat.lt_or_eq_of_le reads.length_le with room | full
  · have below : (stack.items.length : Int) < stack.size := by omega
    rw [serve, bind_of_ok (reads.sound.push_of_lt below), serveList_push_of_lt room]
    refine .ok none ⟨reads.sound.pushed below, slots, ?_⟩
    rw [entries_pushed reads.sound below, reads.entries_eq]
  · rw [serve, bind_of_error (reads.sound.push_of_full (by omega)), serveList_push_of_full full]
    exact .error _ reads

theorem agree_pop : Agree (Reads size) (serve .pop) (serveList size .pop) := by
  intro stack list reads
  have count := reads.length_eq
  rw [serve]
  cases list using List.reverseRecOn with
  | nil =>
    rw [bind_of_error (reads.sound.pop_of_empty count)]
    exact .error _ reads
  | append_singleton older newest =>
    have some : 0 < stack.items.length := by
      rw [count, List.length_append]
      exact Nat.succ_pos _
    -- what the stack gives is the last of the list
    have parted := (entries_popped reads.sound some).symm.trans reads.entries_eq
    obtain ⟨below, last⟩ := List.append_inj' parted rfl
    injection last with last
    rw [bind_of_ok (reads.sound.pop_of_pos some), serveList_pop_concat, ← last]
    exact .ok _ ⟨reads.sound.popped some, reads.size_eq, below⟩

/-- **The list answers for the stack**, whatever the call. -/
theorem agree_serve (call : Call) : Agree (Reads size) (serve call) (serveList size call) := by
  cases call with
  | push item => exact agree_push item
  | pop => exact agree_pop
  | clear =>
    intro stack list reads
    refine .ok none ?_
    rw [reads.clear_eq]
    exact reads_empty size

/-- A call that is refused changes nothing. -/
theorem eq_of_refused {call : Call} {fault : Fault} {left : Stack}
    (refused : serve call stack = .error fault left) : left = stack := by
  cases call with
  | push item =>
    rcases error_of_bind refused with failed | ⟨value, middle, -, failed⟩
    · rw [push] at failed
      split at failed
      · injection failed with _ same
        exact same.symm
      · cases failed
    · cases failed
  | pop =>
    rcases error_of_bind refused with failed | ⟨value, middle, -, failed⟩
    · rw [pop] at failed
      split at failed
      · injection failed with _ same
        exact same.symm
      · cases failed
    · cases failed
  | clear => cases refused

/-- There is a stack of any size that there is room for, with nothing on it. -/
theorem create_eq_ok_iff [HostMemory] :
    create size = .ok stack ↔ size ≤ Extent.room ∧ stack = empty size := by
  rcases Nat.lt_or_ge Extent.room size with large | room
  · obtain ⟨fault, refused, -⟩ := Extent.check_of_gt large
    rw [create, refused]
    exact ⟨nofun, fun ⟨room, _⟩ => absurd room (Nat.not_le.2 large)⟩
  · rw [create, Extent.check_of_room room]
    constructor
    · intro made
      injection made with same
      exact ⟨room, same.symm⟩
    · rintro ⟨-, rfl⟩
      rfl

/-- **The call stack behaves as a bounded list.** A stack is made of any size that there is
room for, with nothing on it. Whatever is then pushed on it, popped and cleared away, each
call has the result or the refusal that it has of a list with that bound: a push appends the
low sixteen bits of its number, and is refused exactly when the list is full; a pop takes
the last number away, and is refused exactly when there is none; a clear leaves nothing. The
numbers on the stack are the list, and the pointer counts them down from the highest slot.
A call that is refused changes nothing, and a clear fills every slot with zero. So after a
clear as many numbers as there are slots can be pushed, and come back in reverse order. -/
theorem behaves_as_list [HostMemory] (size : Nat) :
    (∀ stack, create size = .ok stack ↔ size ≤ Extent.room ∧ stack = empty size) ∧
    ∀ calls : List Call,
      let stack := afterAll serve calls (empty size)
      let list := afterAll (serveList size) calls []
      outcomes serve calls (empty size) = outcomes (serveList size) calls [] ∧
      stack.entries = list ∧ list.length ≤ size ∧ stack.pointer = size - 1 - list.length ∧
      (∀ call fault left, serve call stack = .error fault left → left = stack) ∧
      stack.clear.slots = Array.replicate size 0 ∧
      ∀ items : List Int, items.length = size →
        outcomes serve (.clear :: items.map .push ++ List.replicate size .pop) stack =
          List.replicate (size + 1) (.ok none) ++
            items.reverse.map fun item => .ok (some (item % 0x10000)) := by
  refine ⟨fun stack => create_eq_ok_iff, fun calls => ?_⟩
  obtain ⟨same, reads⟩ := Agree.calls agree_serve calls (reads_empty size)
  refine ⟨same, reads.entries_eq, reads.length_le, reads.pointer_eq,
    fun call fault left => eq_of_refused, ?_, fun items fits => ?_⟩
  · rw [reads.clear_eq]
    rfl
  · -- what is asked of the stack from here on is answered by the list, too
    rw [(Agree.calls agree_serve _ reads).1]
    exact serveList_refill items fits

/-- A stack of two slots that is full refuses a third number, and is refilled after a
clear. -/
theorem behaves_as_list_of_two :
    letI := HostMemory.usual
    ∃ stack, create 2 = .ok stack ∧
      let full := afterAll serve [.push 0x12345, .pop, .push (-1), .push 6] stack
      full.entries = [0xFFFF, 6] ∧ serve (.push 7) full = .error .stackOverflow full ∧
      outcomes serve [.clear, .push 1, .push (-2), .pop, .pop] full =
        [.ok none, .ok none, .ok none, .ok (some 0xFFFE), .ok (some 1)] := by
  let _ := HostMemory.usual
  obtain ⟨made, behaves⟩ := behaves_as_list 2
  obtain ⟨-, entries, -, -, unchanged, -, refills⟩ :=
    behaves [.push 0x12345, .pop, .push (-1), .push 6]
  refine ⟨empty 2, (made _).2 ⟨by decide, rfl⟩, entries, ?_, refills [1, -2] rfl⟩
  obtain ⟨left, refused⟩ : ∃ left, serve (.push 7)
      (afterAll serve [.push 0x12345, .pop, .push (-1), .push 6] (empty 2)) =
        .error .stackOverflow left := ⟨_, rfl⟩
  have same := unchanged _ _ _ refused
  exact refused.trans (congrArg _ same)

end Stack
end Chip8

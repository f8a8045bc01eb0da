/-! The descriptors of a process. A descriptor is a number that refers to an open file; new ones
take the lowest number that is free, and those marked so do not survive the start of another
program. -/
namespace LineShell

/-- What a descriptor refers to. -/
structure Descriptor (α : Type) where
  file : α
  closeOnExec : Bool := false
  deriving DecidableEq, Repr

/-- The descriptors of a process by their numbers. -/
structure DescriptorTable (α : Type) where
  slots : List (Option (Descriptor α)) := []
  deriving DecidableEq, Repr

namespace DescriptorTable

variable {α : Type}

/-- What a number refers to, if it is open. -/
def get? (table : DescriptorTable α) (number : Nat) : Option (Descriptor α) :=
  table.slots[number]?.join

/-- The file a number refers to, if it is open. -/
def file? (table : DescriptorTable α) (number : Nat) : Option α :=
  (table.get? number).map Descriptor.file

/-- The slots with one of them replaced, after as many free ones as are needed. -/
def put : List (Option (Descriptor α)) → Nat → Option (Descriptor α) →
    List (Option (Descriptor α))
  | [], 0, entry => [entry]
  | [], number + 1, entry => none :: put [] number entry
  | _ :: rest, 0, entry => entry :: rest
  | slot :: rest, number + 1, entry => slot :: put rest number entry

/-- The table with a number that refers to something else, or to nothing. -/
def set (table : DescriptorTable α) (number : Nat) (entry : Option (Descriptor α)) :
    DescriptorTable α :=
  ⟨put table.slots number entry⟩

/-- The lowest number that is free. -/
def lowestFree (table : DescriptorTable α) : Nat :=
  table.slots.findIdx (·.isNone)

/-- A new descriptor for a file. -/
def add (table : DescriptorTable α) (entry : Descriptor α) : Nat × DescriptorTable α :=
  (table.lowestFree, table.set table.lowestFree (some entry))

/-- The table without a number. A number that is not open changes nothing. -/
def close (table : DescriptorTable α) (number : Nat) : DescriptorTable α :=
  match table.get? number with
  | some _ => table.set number none
  | none => table

/-- Lets the second number refer to the file of the first. The copy survives the start of another
program; a number that is copied to itself stays as it is. -/
def duplicate? (table : DescriptorTable α) (source target : Nat) : Option (DescriptorTable α) :=
  (table.get? source).map fun entry =>
    if source == target then table else table.set target (some { entry with closeOnExec := false })

/-- Marks a number so that it does not survive the start of another program. -/
def markCloseOnExec? (table : DescriptorTable α) (number : Nat) : Option (DescriptorTable α) :=
  (table.get? number).map fun entry =>
    table.set number (some { entry with closeOnExec := true })

/-- What is left of the table in a program that is started. -/
def afterExec (table : DescriptorTable α) : DescriptorTable α :=
  ⟨table.slots.map fun slot => slot.filter fun entry => !entry.closeOnExec⟩

/-! What each operation does to a number. -/

private theorem getElem?_put (slots : List (Option (Descriptor α))) (number other : Nat)
    (entry : Option (Descriptor α)) :
    (put slots number entry)[other]?.join =
      if other = number then entry else slots[other]?.join := by
  induction slots generalizing number other with
  | nil =>
    induction number generalizing other with
    | zero => cases other <;> simp [put]
    | succ number ih => cases other <;> simp [put, ih]
  | cons slot rest ih => cases number <;> cases other <;> simp [put, ih]

@[simp] theorem get?_set (table : DescriptorTable α) (number other : Nat)
    (entry : Option (Descriptor α)) :
    (table.set number entry).get? other = if other = number then entry else table.get? other :=
  getElem?_put table.slots number other entry

theorem get?_lowestFree (table : DescriptorTable α) : table.get? table.lowestFree = none := by
  rw [get?, lowestFree]
  cases found : table.slots[table.slots.findIdx (·.isNone)]? with
  | none => rfl
  | some slot => simpa using List.findIdx_of_getElem?_eq_some found

/-- Every number below the lowest free one is open. -/
theorem isSome_of_lt_lowestFree {table : DescriptorTable α} {number : Nat}
    (below : number < table.lowestFree) : (table.get? number).isSome := by
  have inside : number < table.slots.length := Nat.lt_of_lt_of_le below List.findIdx_le_length
  have taken := List.not_of_lt_findIdx below
  rw [get?, List.getElem?_eq_getElem inside]
  cases slot : table.slots[number] with
  | none => simp [slot] at taken
  | some entry => rfl

@[simp] theorem get?_close (table : DescriptorTable α) (number other : Nat) :
    (table.close number).get? other = if other = number then none else table.get? other := by
  cases found : table.get? number with
  | none =>
    simp only [close, found]
    split
    · simp_all
    · rfl
  | some entry => simp [close, found]

/-- A copy stands where it was asked for, without the mark, and every other number is as before. -/
theorem get?_duplicate? {table after : DescriptorTable α} {source target : Nat}
    (copied : table.duplicate? source target = some after) (different : source ≠ target) :
    ∃ entry, table.get? source = some entry ∧ ∀ number, after.get? number =
      if number = target then some { entry with closeOnExec := false } else table.get? number := by
  obtain ⟨entry, found, rfl⟩ := Option.map_eq_some_iff.mp copied
  exact ⟨entry, found, fun number => by simp [different]⟩

theorem eq_of_duplicate?_self {table after : DescriptorTable α} {number : Nat}
    (copied : table.duplicate? number number = some after) : after = table := by
  obtain ⟨entry, -, same⟩ := Option.map_eq_some_iff.mp copied
  rw [← same, if_pos (beq_self_eq_true number)]

theorem get?_markCloseOnExec? {table after : DescriptorTable α} {number : Nat}
    (marked : table.markCloseOnExec? number = some after) :
    ∃ entry, table.get? number = some entry ∧ ∀ other, after.get? other =
      if other = number then some { entry with closeOnExec := true } else table.get? other := by
  obtain ⟨entry, found, rfl⟩ := Option.map_eq_some_iff.mp marked
  exact ⟨entry, found, fun other => by simp⟩

@[simp] theorem get?_afterExec (table : DescriptorTable α) (number : Nat) :
    table.afterExec.get? number =
      (table.get? number).filter fun entry => !entry.closeOnExec := by
  rw [afterExec, get?, get?, List.getElem?_map]
  cases table.slots[number]? with
  | none => rfl
  | some slot => rfl

/-- The numbers that are open, in ascending order. -/
def numbers (table : DescriptorTable α) : List Nat :=
  (List.range table.slots.length).filter fun n => (table.get? n).isSome

/-- The files that are open, once for each number. -/
def files (table : DescriptorTable α) : List α :=
  table.slots.filterMap fun slot => slot.map Descriptor.file

end DescriptorTable

end LineShell

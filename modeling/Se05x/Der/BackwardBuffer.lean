import Se05x.Der.Element

/-!
# Buffers written from the end

A fixed memory block with a cursor that moves toward its start, the writers that move
it, and the relation that ties the cursor to a separately kept running length.
-/

set_option autoImplicit false

namespace Der

/-- A memory block and the offset of the first written byte. -/
structure Buffer where
  memory : Bytes
  cursor : Nat
  within : cursor ≤ memory.length

namespace Buffer

/-- The cursor starts one past the last byte of the block. -/
def ofMemory (memory : Bytes) : Buffer := ⟨memory, memory.length, Nat.le_refl _⟩

def zeroed (size : Nat) : Buffer := ofMemory (List.replicate size 0)

def written (buffer : Buffer) : Bytes := buffer.memory.drop buffer.cursor

/-- The bytes from the cursor on, as many as a caller asks for. -/
def slice (buffer : Buffer) (count : Nat) : Bytes := buffer.written.take count

/-- Move the cursor back by the size of the bytes and copy them there. -/
def copyBefore (buffer : Buffer) (bytes : Bytes) : Buffer where
  memory := buffer.memory.take (buffer.cursor - bytes.length) ++ (bytes ++ buffer.written)
  cursor := buffer.cursor - bytes.length
  within := by
    have inside := buffer.within
    simp only [List.length_append, List.length_take]
    omega

theorem written_length (buffer : Buffer) :
    buffer.written.length = buffer.memory.length - buffer.cursor := by
  simp [written]

@[simp] theorem ofMemory_written (memory : Bytes) : (ofMemory memory).written = [] := by
  simp [ofMemory, written]

@[simp] theorem zeroed_written (size : Nat) : (zeroed size).written = [] := by
  simp [zeroed]

@[simp] theorem zeroed_memory_length (size : Nat) : (zeroed size).memory.length = size := by
  simp [zeroed, ofMemory]

end Buffer

/-- `after` is `before` with the bytes put in front of what was written. Memory below the
new cursor is not described. -/
structure Prepended (before after : Buffer) (bytes : Bytes) : Prop where
  size : after.memory.length = before.memory.length
  written : after.written = bytes ++ before.written

theorem Buffer.copyBefore_prepended {buffer : Buffer} {bytes : Bytes}
    (room : bytes.length ≤ buffer.cursor) : Prepended buffer (buffer.copyBefore bytes) bytes := by
  have inside := buffer.within
  constructor
  · simp only [copyBefore, List.length_append, List.length_take, buffer.written_length]
    omega
  · have kept : (buffer.memory.take (buffer.cursor - bytes.length)).length =
        buffer.cursor - bytes.length := by
      rw [List.length_take]; omega
    simp only [Buffer.written, copyBefore]
    rw [List.drop_append_of_le_length (by omega), List.drop_of_length_le (by omega)]
    simp

/-- A writer reports the bytes it prepended, or a negative error, beside the buffer it leaves. -/
abbrev Writer := Buffer → Int × Buffer

/-- Each call prepends `der` and returns its length, or fails with a negative value. -/
def Writer.Prepends (write : Writer) (der : Bytes) : Prop :=
  ∀ before, (write before).1 < 0 ∨
    (write before).1 = der.length ∧ Prepended before (write before).2 der

/-- A call fails exactly when the bytes do not fit in front of the cursor. -/
def Writer.FailsOnlyFull (write : Writer) (der : Bytes) : Prop :=
  ∀ before, (write before).1 < 0 ↔ before.cursor < der.length

/-- The writer that prepends whatever fits. -/
def Writer.prepending (der : Bytes) (full : Int) : Writer := fun before =>
  if der.length ≤ before.cursor then (der.length, before.copyBefore der) else (full, before)

theorem Writer.prepending_prepends {der : Bytes} {full : Int} (negative : full < 0) :
    (Writer.prepending der full).Prepends der := by
  intro before
  by_cases room : der.length ≤ before.cursor
  · right
    simp [Writer.prepending, room, Buffer.copyBefore_prepended]
  · left
    simpa [Writer.prepending, room] using negative

theorem Writer.prepending_failsOnlyFull {der : Bytes} {full : Int} (negative : full < 0) :
    (Writer.prepending der full).FailsOnlyFull der := by
  intro before
  by_cases room : der.length ≤ before.cursor
  · simp only [Writer.prepending, room, ↓reduceIte]
    omega
  · simp only [Writer.prepending, room, ↓reduceIte, negative, true_iff]
    omega

/-- The running length kept beside a buffer of the given size is that of the bytes written
in front of `base`. -/
structure Tracks (size : Nat) (base : Bytes) (buffer : Buffer) (length : Int) (bytes : Bytes) :
    Prop where
  size : buffer.memory.length = size
  written : buffer.written = bytes ++ base
  length : length = bytes.length

namespace Tracks

variable {size : Nat} {base : Bytes} {buffer : Buffer} {length : Int} {bytes : Bytes}

theorem zeroed (size : Nat) : Tracks size [] (Buffer.zeroed size) 0 [] :=
  ⟨Buffer.zeroed_memory_length size, Buffer.zeroed_written size, rfl⟩

/-- The distance from the cursor to the end of the block is the running length. -/
theorem cursor (tracks : Tracks size base buffer length bytes) :
    buffer.cursor + (bytes.length + base.length) = size := by
  have inside := buffer.within
  have count := buffer.written_length
  rw [tracks.written, List.length_append] at count
  have total := tracks.size
  omega

theorem toNat_length (tracks : Tracks size base buffer length bytes) :
    length.toNat = bytes.length := by
  simp [tracks.length]

theorem length_le (tracks : Tracks size base buffer length bytes) :
    bytes.length + base.length ≤ size := by
  have position := tracks.cursor
  omega

theorem prepended (tracks : Tracks size base buffer length bytes) {after : Buffer} {der : Bytes}
    (moved : Prepended buffer after der) :
    Tracks size base after (length + der.length) (der ++ bytes) where
  size := moved.size.trans tracks.size
  written := by rw [moved.written, tracks.written, List.append_assoc]
  length := by rw [tracks.length, List.length_append]; omega

theorem write (tracks : Tracks size base buffer length bytes) {writer : Writer} {der : Bytes}
    (prepends : writer.Prepends der) (succeeded : ¬ (writer buffer).1 < 0) :
    Tracks size base (writer buffer).2 (length + (writer buffer).1) (der ++ bytes) := by
  rcases prepends buffer with failed | ⟨count, moved⟩
  · exact absurd failed succeeded
  · rw [count]
    exact tracks.prepended moved

theorem copy (tracks : Tracks size base buffer length bytes) {der : Bytes}
    (room : ¬ buffer.cursor < der.length) :
    Tracks size base (buffer.copyBefore der) (length + der.length) (der ++ bytes) :=
  tracks.prepended (Buffer.copyBefore_prepended (by omega))

/-- A helper that keeps a length of its own starts from what is already there. -/
theorem restart (tracks : Tracks size base buffer length bytes) :
    Tracks size (bytes ++ base) buffer 0 [] :=
  ⟨tracks.size, by simpa using tracks.written, rfl⟩

/-- The helper's length is added once to the caller's. -/
theorem join (tracks : Tracks size base buffer length bytes) {after : Buffer} {more : Int}
    {der : Bytes} (helper : Tracks size (bytes ++ base) after more der) :
    Tracks size base after (length + more) (der ++ bytes) where
  size := helper.size
  written := by rw [helper.written, List.append_assoc]
  length := by rw [tracks.length, helper.length, List.length_append]; omega

/-- The slice of the running length is exactly what was written. -/
theorem slice (tracks : Tracks size base buffer length bytes) :
    buffer.slice length.toNat = bytes := by
  simp [Buffer.slice, tracks.written, tracks.length]

theorem write_fails_iff (tracks : Tracks size base buffer length bytes) {writer : Writer}
    {der : Bytes} (full : writer.FailsOnlyFull der) :
    (writer buffer).1 < 0 ↔ size < der.length + (bytes.length + base.length) := by
  have position := tracks.cursor
  rw [full buffer]
  omega

end Tracks

end Der

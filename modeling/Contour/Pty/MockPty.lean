import Mathlib.Data.Fintype.Basic
import Mathlib.Algebra.Order.Ring.Nat

/-!
# Contour.Pty.MockPty

The test pty of `terminal/pty/MockPty.cpp`. The terminal reads the application's output from
`outputBuffer_` at `outputReadOffset_`, and what it writes to the application lands in
`inputBuffer_`. The output buffer is filled by the tests through `MockPty.h`, which is not under
`src/`, so the results below hold from every state, over every run of the calls the `.cpp`
defines. A `char` is a `UInt8`; a `size_t` is a `Nat` below `2^64`, with the subtraction and the
addition of `read` taken modulo `2^64` (`sizeSub`). Once the offset has passed the end of the
buffer, that subtraction wraps and `read` forms a view outside the buffer: undefined behaviour,
which the model returns as `none`.

* `run_outputReadOffset_le`: from an offset within the buffer, every run keeps it within, so the
  subtraction never wraps.
* `run_reads`: from there, the bytes that a run's reads return are the unread output from the
  offset on, in order, cut at the total that the reads asked for: nothing is skipped and nothing
  read twice.
* `run_inputBuffer`: the input buffer receives every write, in order.
* `write_eq_length_iff`: `write` returns the byte count iff it fits an `int`.
-/

namespace Contour

/-- `vtpty::PageSize`; both counts are a boxed `int`. -/
structure PageSize where
  lines : Int
  columns : Int
  deriving DecidableEq, Repr

/-- The state of a `MockPty` that `MockPty.cpp` reads and writes. -/
structure MockPty where
  pageSize : PageSize
  outputBuffer : List UInt8 := []
  outputReadOffset : Nat := 0
  inputBuffer : List UInt8 := []
  closed : Bool := false
  deriving DecidableEq, Repr

/-- `static_cast<int>` of a `size_t`: the value modulo `2^32`, read as a signed 32-bit number. -/
def castInt (n : Nat) : Int :=
  if n % 2 ^ 32 < 2 ^ 31 then (n % 2 ^ 32 : Nat) else (n % 2 ^ 32 : Nat) - 2 ^ 32

/-- The `size_t` difference `a - b` of two values below `2^64`. -/
def sizeSub (a b : Nat) : Nat := if b ≤ a then a - b else a + 2 ^ 64 - b

namespace MockPty

def init (size : PageSize) : MockPty where
  pageSize := size

/-- Both `read` overloads: the view of the next `n` bytes from the read offset, `n` being the
`size_t` difference `outputBuffer_.size() - outputReadOffset_` capped at `limit`, and the offset
moved past them. The result is always engaged; a view that does not lie inside the buffer reads
outside it, and is `none`. -/
def readChunk (pty : MockPty) (limit : Nat) : Option (List UInt8) × MockPty :=
  let n := min (sizeSub pty.outputBuffer.length pty.outputReadOffset) limit
  (if pty.outputReadOffset + n ≤ pty.outputBuffer.length then
      some ((pty.outputBuffer.drop pty.outputReadOffset).take n)
    else none,
    { pty with outputReadOffset := (pty.outputReadOffset + n) % 2 ^ 64 })

/-- `read(size_t _size, milliseconds)`. -/
def read (pty : MockPty) (size : Nat) : Option (List UInt8) × MockPty := readChunk pty size

/-- `read(crispy::BufferObject& storage, milliseconds)`: the limit is what `storage` has room
for; the chunk is what `writeAtEnd` copies into it. -/
def readStorage (pty : MockPty) (bytesAvailable : Nat) : Option (List UInt8) × MockPty :=
  readChunk pty bytesAvailable

def write (pty : MockPty) (buf : List UInt8) : Int × MockPty :=
  (castInt buf.length, { pty with inputBuffer := pty.inputBuffer ++ buf })

def resizeScreen (pty : MockPty) (cells : PageSize) : MockPty := { pty with pageSize := cells }

def close (pty : MockPty) : MockPty := { pty with closed := true }

def isClosed (pty : MockPty) : Bool := pty.closed

end MockPty

/-- A call of `MockPty.cpp` on the pty. -/
inductive PtyCall where
  | read (size : Nat)
  | readStorage (bytesAvailable : Nat)
  | write (buf : List UInt8)
  | resizeScreen (cells : PageSize)
  | close
  deriving DecidableEq, Repr

namespace PtyCall

/-- The most bytes the call reads. -/
def readLimit : PtyCall → Nat
  | .read size => size
  | .readStorage bytesAvailable => bytesAvailable
  | _ => 0

/-- The bytes the call writes to the application. -/
def written : PtyCall → List UInt8
  | .write buf => buf
  | _ => []

end PtyCall

namespace MockPty

/-- One call: the bytes it read (none for the calls that do not read), and the new state. -/
def step (pty : MockPty) : PtyCall → Option (List UInt8) × MockPty
  | .read size => pty.read size
  | .readStorage bytesAvailable => pty.readStorage bytesAvailable
  | .write buf => (some [], (pty.write buf).2)
  | .resizeScreen cells => (some [], pty.resizeScreen cells)
  | .close => (some [], pty.close)

/-- A run of calls: everything the reads returned, in order (`none` once one read outside the
buffer), and the final state. -/
def run (pty : MockPty) : List PtyCall → Option (List UInt8) × MockPty
  | [] => (some [], pty)
  | c :: cs =>
    let (out, pty') := pty.step c
    let (outs, pty'') := run pty' cs
    (out.bind fun bytes => outs.map (bytes ++ ·), pty'')

/-! ## One call -/

theorem sizeSub_of_le {a b : Nat} (h : b ≤ a) : sizeSub a b = a - b := if_pos h

theorem take_min_length {α : Type} (l : List α) (n : Nat) : l.take (min l.length n) = l.take n := by
  rcases le_total l.length n with h | h
  · rw [min_eq_left h, List.take_length, List.take_of_length_le h]
  · rw [min_eq_right h]

theorem take_append_take_drop {α : Type} (l : List α) (n k : Nat) :
    l.take n ++ (l.drop (min l.length n)).take k = l.take (n + k) := by
  rcases le_total l.length n with h | h
  · rw [min_eq_left h, List.drop_length, List.take_nil, List.append_nil,
      List.take_of_length_le h, List.take_of_length_le (by omega)]
  · rw [min_eq_right h, List.take_add]

section InRange

variable (pty : MockPty) (h : pty.outputReadOffset ≤ pty.outputBuffer.length) (c : PtyCall)

@[simp] theorem step_outputBuffer : (pty.step c).2.outputBuffer = pty.outputBuffer := by
  cases c <;> rfl

include h

theorem step_outputReadOffset_le :
    (pty.step c).2.outputReadOffset ≤ (pty.step c).2.outputBuffer.length := by
  rw [step_outputBuffer]
  cases c <;> simp only [step, read, readStorage, readChunk, write, resizeScreen, close,
    sizeSub_of_le h] <;> omega

theorem step_outputReadOffset (hlen : pty.outputBuffer.length < 2 ^ 64) :
    (pty.step c).2.outputReadOffset =
      pty.outputReadOffset + min (pty.outputBuffer.length - pty.outputReadOffset) c.readLimit := by
  cases c <;> simp only [step, read, readStorage, readChunk, write, resizeScreen, close,
    sizeSub_of_le h, PtyCall.readLimit] <;> omega

theorem step_reads :
    (pty.step c).1 = some ((pty.outputBuffer.drop pty.outputReadOffset).take c.readLimit) := by
  have ht := take_min_length (pty.outputBuffer.drop pty.outputReadOffset) c.readLimit
  rw [List.length_drop] at ht
  have hin : pty.outputReadOffset +
      min (pty.outputBuffer.length - pty.outputReadOffset) c.readLimit ≤ pty.outputBuffer.length := by
    omega
  cases c with
  | read size | readStorage size =>
    simp only [step, read, readStorage, readChunk, sizeSub_of_le h]
    exact (if_pos hin).trans (congrArg some ht)
  | write | resizeScreen | close => rfl

end InRange

theorem step_inputBuffer (pty : MockPty) (c : PtyCall) :
    (pty.step c).2.inputBuffer = pty.inputBuffer ++ c.written := by
  cases c <;> simp [step, read, readStorage, readChunk, write, resizeScreen, close, PtyCall.written]

/-- `write` returns the number of bytes it took iff that number fits an `int`. -/
theorem write_eq_length_iff (pty : MockPty) (buf : List UInt8) :
    (pty.write buf).1 = buf.length ↔ buf.length < 2 ^ 31 := by
  unfold write castInt
  split <;> omega

/-! ## Runs -/

theorem run_cons (pty : MockPty) (c : PtyCall) (cs : List PtyCall) :
    pty.run (c :: cs) =
      ((pty.step c).1.bind fun bytes => ((pty.step c).2.run cs).1.map (bytes ++ ·),
        ((pty.step c).2.run cs).2) :=
  rfl

@[simp] theorem run_outputBuffer (pty : MockPty) (cs : List PtyCall) :
    (pty.run cs).2.outputBuffer = pty.outputBuffer := by
  induction cs generalizing pty with
  | nil => rfl
  | cons c cs ih => rw [run_cons, ih, step_outputBuffer]

/-- From a state whose read offset is within the output buffer, every run keeps it within. -/
theorem run_outputReadOffset_le (pty : MockPty) (h : pty.outputReadOffset ≤ pty.outputBuffer.length)
    (cs : List PtyCall) :
    (pty.run cs).2.outputReadOffset ≤ (pty.run cs).2.outputBuffer.length := by
  induction cs generalizing pty with
  | nil => exact h
  | cons c cs ih => exact ih _ (step_outputReadOffset_le pty h c)

theorem run_outputReadOffset_le_echo :
    let pty : MockPty :=
      { pageSize := ⟨10, 40⟩, outputBuffer := [0x61, 0x62, 0x63], outputReadOffset := 1 }
    pty.outputReadOffset ≤ pty.outputBuffer.length ∧
      (pty.run [.read 5, .write [0x0A]]).2.outputReadOffset ≤
        (pty.run [.read 5, .write [0x0A]]).2.outputBuffer.length := by
  intro pty
  exact ⟨by show 1 ≤ 3; decide, run_outputReadOffset_le pty (by show 1 ≤ 3; decide) _⟩

/-- From an offset within an output buffer shorter than `2^64`, the reads of a run return the
unread output in order, as much of it as they asked for. -/
theorem run_reads (pty : MockPty) (h : pty.outputReadOffset ≤ pty.outputBuffer.length)
    (hlen : pty.outputBuffer.length < 2 ^ 64) (cs : List PtyCall) :
    (pty.run cs).1 =
      some ((pty.outputBuffer.drop pty.outputReadOffset).take (cs.map PtyCall.readLimit).sum) := by
  induction cs generalizing pty with
  | nil => rfl
  | cons c cs ih =>
    have hlen' : (pty.step c).2.outputBuffer.length < 2 ^ 64 := by rwa [step_outputBuffer]
    rw [run_cons, step_reads pty h, Option.some_bind, ih _ (step_outputReadOffset_le pty h c) hlen',
      Option.map_some', step_outputBuffer, step_outputReadOffset pty h c hlen, List.map_cons,
      List.sum_cons, ← List.drop_drop, ← List.length_drop, take_append_take_drop]

theorem run_reads_echo :
    let pty : MockPty :=
      { pageSize := ⟨10, 40⟩, outputBuffer := [0x61, 0x62, 0x63], outputReadOffset := 1 }
    let cs : List PtyCall := [.read 1, .write [0x0A], .readStorage 4]
    pty.outputReadOffset ≤ pty.outputBuffer.length ∧ pty.outputBuffer.length < 2 ^ 64 ∧
      (pty.run cs).1 =
        some ((pty.outputBuffer.drop pty.outputReadOffset).take (cs.map PtyCall.readLimit).sum) := by
  intro pty cs
  exact ⟨by show 1 ≤ 3; decide, by show 3 < 2 ^ 64; decide,
    run_reads pty (by show 1 ≤ 3; decide) (by show 3 < 2 ^ 64; decide) cs⟩

/-- The input buffer receives every write of a run, in order. -/
theorem run_inputBuffer (pty : MockPty) (cs : List PtyCall) :
    (pty.run cs).2.inputBuffer = pty.inputBuffer ++ cs.flatMap PtyCall.written := by
  induction cs generalizing pty with
  | nil => simp [run]
  | cons c cs ih => rw [run_cons, ih, step_inputBuffer, List.flatMap_cons, List.append_assoc]

end MockPty

end Contour

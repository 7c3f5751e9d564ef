import Mathlib.Data.List.Basic

/-!
# Contour.Sequencer.Osc

The OSC payload buffer of `vtbackend/Sequencer.cpp`. Between `startOSC` and `dispatchOSC` the
parser hands every payload byte to `putOSC`, which appends it to the intermediate-character
buffer of the sequence only while that stays shorter than `Sequence::MaxOscLength - 1`. The
constant is declared outside `src/`, so it is the parameter `maxOscLength`; a C++ `char` is a
`UInt8`.

`putOSC_foldl`: from any buffer, a payload appends its prefix that fills the buffer up to
`maxOscLength - 1` bytes. `putOSC_truncates`: from an empty buffer the result is the first
`min |w| (maxOscLength - 1)` bytes of the payload `w`, so the buffer never reaches the bound.

`collect` pushes the intermediate characters of ESC, CSI and DCS sequences into the same buffer
with no bound; `putOSC_eq_collect_take` says that this bound is the only difference.
-/

namespace Contour

/-- The categories `Sequencer` gives a sequence. -/
inductive FunctionCategory where
  | ESC
  | CSI
  | OSC
  | DCS
  deriving DecidableEq, Repr

/-- The part of `Sequence` that the OSC collection reads and writes. -/
structure Sequence where
  category : FunctionCategory
  intermediateCharacters : List UInt8
  deriving DecidableEq, Repr

namespace Sequencer

def startOSC (seq : Sequence) : Sequence := { seq with category := .OSC }

def putOSC (maxOscLength : Nat) (seq : Sequence) (ch : UInt8) : Sequence :=
  if seq.intermediateCharacters.length + 1 < maxOscLength then
    { seq with intermediateCharacters := seq.intermediateCharacters ++ [ch] }
  else seq

def collect (seq : Sequence) (ch : UInt8) : Sequence :=
  { seq with intermediateCharacters := seq.intermediateCharacters ++ [ch] }

/-- A payload delivered byte by byte fills the buffer up to `maxOscLength - 1` bytes, in order,
and the rest is dropped. -/
theorem putOSC_foldl (maxOscLength : Nat) (w : List UInt8) (seq : Sequence) :
    (w.foldl (putOSC maxOscLength) seq).intermediateCharacters =
      seq.intermediateCharacters ++
        w.take (maxOscLength - 1 - seq.intermediateCharacters.length) := by
  induction w generalizing seq with
  | nil => simp
  | cons ch w ih =>
    rw [List.foldl_cons, ih]
    unfold putOSC
    split
    · have hk : maxOscLength - 1 - seq.intermediateCharacters.length =
          maxOscLength - 1 - (seq.intermediateCharacters.length + 1) + 1 := by omega
      simp only [List.length_append, List.length_singleton, hk, List.take_succ_cons,
        List.append_assoc, List.singleton_append]
    · have hz : maxOscLength - 1 - seq.intermediateCharacters.length = 0 := by omega
      simp only [hz, List.take_zero]

/-- Assuming `MaxOscLength ≥ 1`, an OSC payload collected from an empty buffer is cut to its first
`MaxOscLength - 1` bytes. -/
theorem putOSC_truncates (maxOscLength : Nat) (hmax : 1 ≤ maxOscLength) (seq : Sequence)
    (hempty : seq.intermediateCharacters = []) (w : List UInt8) :
    let buf := (w.foldl (putOSC maxOscLength) seq).intermediateCharacters
    buf = w.take (min w.length (maxOscLength - 1)) ∧ buf.length < maxOscLength := by
  have hbuf := putOSC_foldl maxOscLength w seq
  rw [hempty, List.nil_append, List.length_nil, Nat.sub_zero] at hbuf
  refine ⟨by rw [hbuf, Nat.min_comm, ← List.take_take, List.take_length], ?_⟩
  rw [hbuf, List.length_take]
  omega

theorem putOSC_truncates_three :
    let seq : Sequence := startOSC ⟨.CSI, []⟩
    let w : List UInt8 := [0x33, 0x3B, 0x78, 0x79]
    1 ≤ 3 ∧ seq.intermediateCharacters = [] ∧
      (w.foldl (putOSC 3) seq).intermediateCharacters = w.take (min w.length (3 - 1)) ∧
      (w.foldl (putOSC 3) seq).intermediateCharacters.length < 3 :=
  ⟨by decide, rfl, putOSC_truncates 3 (by decide) _ rfl _⟩

theorem collect_foldl (w : List UInt8) (seq : Sequence) :
    (w.foldl collect seq).intermediateCharacters = seq.intermediateCharacters ++ w := by
  induction w generalizing seq with
  | nil => simp
  | cons ch w ih => simp [ih, collect]

/-- From any buffer, the bytes `putOSC` keeps are those `collect` would keep, cut at
`MaxOscLength - 1` (or at what the buffer already held). -/
theorem putOSC_eq_collect_take (maxOscLength : Nat) (w : List UInt8) (seq : Sequence) :
    (w.foldl (putOSC maxOscLength) seq).intermediateCharacters =
      (w.foldl collect seq).intermediateCharacters.take
        (max (maxOscLength - 1) seq.intermediateCharacters.length) := by
  rw [putOSC_foldl, collect_foldl, List.take_append_eq_append_take,
    List.take_of_length_le (le_max_right _ _)]
  congr 2
  omega

end Sequencer

end Contour

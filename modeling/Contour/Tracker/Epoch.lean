import Contour.Tracker.Invariants
import Mathlib.Data.List.DropRight

/-!
# Contour.Tracker.Epoch

What one enable epoch records, stated from the event log alone, and proved to be what the
tracker computes.

The log `E` of shell events after an enable is cut at every `promptStart` (`segments`). A segment
stands for a block (`segmentBlock`): the command line of its last `commandOutputStart`, the exit
code of its last `commandFinished`, finished iff it has one. The archive of the log is the list of
finished blocks of the segments that a `promptStart` closed (`archivedRef`); the current block is
that of the open segment, once anything happened (`currentRef`).

`epoch_refines`: from a disabled tracker, `setEnabled(true)` followed by `E` leaves the last
`maxBlocks` blocks of the archive of `E` and its current block. The proof is a simulation: the
abstraction `epochState` of a log commutes with every shell event (`handle_epochState`).

An enable on a tracker that is already enabled draws a new token and keeps both block fields
(`reenable_keeps_history`); `setEnabled_true_run` says what enabling does from every reachable
state.
-/

namespace Contour

namespace Event

def isPromptStart : Event → Bool
  | .promptStart => true
  | _ => false

def commandLine? : Event → Option (Option String)
  | .commandOutputStart c => some c
  | _ => none

def exitCode? : Event → Option Int
  | .commandFinished x => some x
  | _ => none

end Event

/-! ## Cutting a log after its last element -/

section Split

variable {α : Type} (p : α → Bool)

theorem splitOnP_go_concat_pos {x : α} (h : p x = true) :
    ∀ xs acc : List α, List.splitOnP.go p (xs ++ [x]) acc = List.splitOnP.go p xs acc ++ [[]]
  | [], acc => by simp [List.splitOnP.go, h]
  | a :: t, acc => by
    cases ha : p a <;> simp [List.splitOnP.go, ha, splitOnP_go_concat_pos h t]

theorem splitOnP_go_concat_neg {x : α} (h : p x = false) :
    ∀ xs acc : List α, ∃ init last, List.splitOnP.go p xs acc = init ++ [last] ∧
      List.splitOnP.go p (xs ++ [x]) acc = init ++ [last ++ [x]]
  | [], acc => ⟨[], acc.reverse, by simp [List.splitOnP.go, h]⟩
  | a :: t, acc => by
    cases ha : p a
    · simpa [List.splitOnP.go, ha] using splitOnP_go_concat_neg h t (a :: acc)
    · obtain ⟨init, last, h1, h2⟩ := splitOnP_go_concat_neg h t []
      exact ⟨acc.reverse :: init, last, by simp [List.splitOnP.go, ha, h1, h2]⟩

/-- A separator at the end closes the open segment and opens an empty one. -/
theorem splitOnP_concat_pos (x : α) (h : p x = true) (xs : List α) :
    ((xs ++ [x]).splitOnP p).dropLast = xs.splitOnP p ∧
      ((xs ++ [x]).splitOnP p).getLastD [] = [] := by
  simp [List.splitOnP, splitOnP_go_concat_pos p h]

/-- Any other element at the end extends the open segment. -/
theorem splitOnP_concat_neg (x : α) (h : p x = false) (xs : List α) :
    ((xs ++ [x]).splitOnP p).dropLast = (xs.splitOnP p).dropLast ∧
      ((xs ++ [x]).splitOnP p).getLastD [] = (xs.splitOnP p).getLastD [] ++ [x] := by
  obtain ⟨init, last, h1, h2⟩ := splitOnP_go_concat_neg p h xs []
  simp [List.splitOnP, h1, h2]

theorem splitOnP_eq_concat (xs : List α) :
    xs.splitOnP p = (xs.splitOnP p).dropLast ++ [(xs.splitOnP p).getLastD []] := by
  have hne := List.splitOnP_ne_nil p xs
  rw [List.getLastD_eq_getLast?, List.getLast?_eq_getLast _ hne, Option.getD_some,
    List.dropLast_append_getLast hne]

end Split

/-! ## The reference: blocks read off the log -/

def segments (E : List Event) : List (List Event) := E.splitOnP Event.isPromptStart

/-- The block a segment of the log stands for. -/
def segmentBlock (seg : List Event) : CommandBlockInfo where
  commandLine := (seg.filterMap Event.commandLine?).getLastD none
  exitCode := (seg.filterMap Event.exitCode?).getLastD (-1)
  finished := seg.any fun e => e.exitCode?.isSome

/-- The finished blocks of the closed segments, oldest first. -/
def archivedRef (E : List Event) : List CommandBlockInfo :=
  ((segments E).dropLast.map segmentBlock).filter fun b => b.finished

/-- The block of the open segment, once the log is not empty. -/
def currentRef (E : List Event) : Option CommandBlockInfo :=
  if E = [] then none else some (segmentBlock ((segments E).getLastD []))

theorem segments_concat_promptStart (E : List Event) :
    (segments (E ++ [.promptStart])).dropLast = segments E ∧
      (segments (E ++ [.promptStart])).getLastD [] = [] :=
  splitOnP_concat_pos _ _ rfl E

@[simp] theorem segmentBlock_nil : segmentBlock [] = {} := rfl

theorem segmentBlock_concat_commandOutputStart (seg : List Event) (c : Option String) :
    segmentBlock (seg ++ [.commandOutputStart c]) = { segmentBlock seg with commandLine := c } := by
  simp [segmentBlock, Event.commandLine?, Event.exitCode?]

theorem segmentBlock_concat_commandFinished (seg : List Event) (x : Int) :
    segmentBlock (seg ++ [.commandFinished x]) =
      { segmentBlock seg with exitCode := x, finished := true } := by
  simp [segmentBlock, Event.commandLine?, Event.exitCode?]

theorem archivedRef_concat_promptStart (E : List Event) :
    archivedRef (E ++ [.promptStart]) =
      archivedRef E ++ [segmentBlock ((segments E).getLastD [])].filter fun b => b.finished := by
  have hsplit := splitOnP_eq_concat Event.isPromptStart E
  unfold archivedRef
  rw [(segments_concat_promptStart E).1]
  conv_lhs => rw [segments, hsplit]
  simp only [List.map_append, List.filter_append, List.map_singleton]
  rfl

theorem archivedRef_concat_of_ne (E : List Event) (e : Event) (he : e.isPromptStart = false) :
    archivedRef (E ++ [e]) = archivedRef E := by
  unfold archivedRef segments
  rw [(splitOnP_concat_neg _ e he E).1]

theorem lastSegment_concat_of_ne (E : List Event) (e : Event) (he : e.isPromptStart = false) :
    (segments (E ++ [e])).getLastD [] = (segments E).getLastD [] ++ [e] :=
  (splitOnP_concat_neg _ e he E).2

theorem currentRef_getD (E : List Event) :
    (currentRef E).getD {} = segmentBlock ((segments E).getLastD []) := by
  unfold currentRef
  split
  · subst_vars; rfl
  · rfl

theorem currentRef_concat (E : List Event) (e : Event) :
    currentRef (E ++ [e]) = some (segmentBlock ((segments (E ++ [e])).getLastD [])) := by
  simp [currentRef]

/-- `push_back` then `pop_front` on the last `m` blocks keeps the last `m` of the longer list. -/
theorem pushBounded_rtake (m : Nat) (R : List CommandBlockInfo) (b : CommandBlockInfo) :
    pushBounded m (R.rtake m) b = (R ++ [b]).rtake m := by
  simp only [pushBounded, List.rtake, List.length_append, List.length_drop, List.length_singleton]
  split
  · rw [← List.drop_append_of_le_length (by omega), List.tail_drop]
    congr 1; omega
  · rw [← List.drop_append_of_le_length (by omega)]
    congr 1; omega

/-! ## The simulation -/

/-- The tracker that an epoch with cap `m`, token `t` and log `E` should be. -/
def epochState (m : Nat) (t : Token) (E : List Event) : SemanticBlockTracker where
  enabled := true
  token := some t
  completedBlocks := (archivedRef E).rtake m
  currentBlock := currentRef E
  maxBlocks := m

namespace SemanticBlockTracker

theorem handle_epochState (m : Nat) (t : Token) (E : List Event) (e : Event) :
    (epochState m t E).handle e = epochState m t (E ++ [e]) := by
  cases e with
  | promptStart =>
    rw [handle, promptStart_of_enabled rfl, rotated_eq_getD]
    simp only [epochState, currentRef_getD, currentRef_concat, archivedRef_concat_promptStart,
      (segments_concat_promptStart E).2, segmentBlock_nil]
    cases h : (segmentBlock ((segments E).getLastD [])).finished <;>
      simp only [h, List.filter_cons, List.filter_nil, Bool.false_eq_true, ↓reduceIte,
        List.append_nil, pushBounded_rtake]
  | commandOutputStart c =>
    rw [handle, commandOutputStart_of_enabled rfl]
    simp only [epochState, currentRef_getD, currentRef_concat,
      archivedRef_concat_of_ne E (.commandOutputStart c) rfl,
      lastSegment_concat_of_ne E (.commandOutputStart c) rfl,
      segmentBlock_concat_commandOutputStart]
  | commandFinished x =>
    rw [handle, commandFinished_of_enabled rfl]
    simp only [epochState, currentRef_getD, currentRef_concat,
      archivedRef_concat_of_ne E (.commandFinished x) rfl,
      lastSegment_concat_of_ne E (.commandFinished x) rfl, segmentBlock_concat_commandFinished]

theorem run_epochState (m : Nat) (t : Token) (E : List Event) :
    ((init m).setEnabled true t).run (E.map .event) = epochState m t E := by
  induction E using List.reverseRecOn with
  | nil => simp [epochState, archivedRef, currentRef, segments, init]
  | append_singleton E e ih =>
    rw [List.map_append, List.map_singleton, run_concat, ih, apply_event, handle_epochState]

/-- Within one enable epoch the tracker is the reference read off its event log: the last
`maxBlocks` archived blocks, and the block of the open segment. -/
theorem epoch_refines {m : Nat} {s₀ : SemanticBlockTracker}
    (hoff : s₀ = init m ∨ ∃ (s : SemanticBlockTracker) (t' : Token),
      s.maxBlocks = m ∧ s₀ = s.setEnabled false t') (t : Token)
    (E : List Event) :
    let s := (s₀.setEnabled true t).run (E.map .event)
    s.completedBlocks = (archivedRef E).rtake m ∧ s.currentBlock = currentRef E := by
  obtain rfl : s₀ = init m := by
    rcases hoff with rfl | ⟨s, t', rfl, rfl⟩
    · rfl
    · exact setEnabled_false s t'
  simp only [run_epochState]
  exact ⟨rfl, rfl⟩

theorem epoch_refines_after_disable :
    let s₀ := ((init 1).setEnabled true ⟨9, 9, 9, 9⟩).setEnabled false ⟨0, 0, 0, 0⟩
    let E := [Event.promptStart, .commandOutputStart (some "cmd1"), .commandFinished 0,
      .promptStart, .commandFinished 1, .commandOutputStart (some "cmd2"), .promptStart]
    let s := (s₀.setEnabled true ⟨1, 2, 3, 4⟩).run (E.map .event)
    (s₀ = init 1 ∨ ∃ (s : SemanticBlockTracker) (t' : Token),
      s.maxBlocks = 1 ∧ s₀ = s.setEnabled false t') ∧
      s.completedBlocks = (archivedRef E).rtake 1 ∧ s.currentBlock = currentRef E :=
  ⟨.inr ⟨_, _, rfl, rfl⟩, epoch_refines (.inr ⟨_, _, rfl, rfl⟩) _ _⟩

/-! ## Enabling an enabled tracker -/

/-- Enabling from any reachable tracker sets the flag and the token and keeps both block fields;
they are empty when the tracker was disabled. -/
theorem setEnabled_true_run (m : Nat) (ops : List Op) (t : Token) :
    let s := (init m).run ops
    let s' := s.setEnabled true t
    s'.isEnabled = true ∧ s'.token = some t ∧ s'.currentBlock = s.currentBlock ∧
      s'.completedBlocks = s.completedBlocks ∧
      (s.isEnabled = false → s'.currentBlock = none ∧ s'.completedBlocks = []) :=
  ⟨rfl, rfl, rfl, rfl, ((gated_init m).run ops).blank⟩

/-- A second DECSM 2034 draws a new token, and the command archived under the first one is
readable with it. -/
theorem reenable_keeps_history :
    let s := (init 100).run [.setEnabled true ⟨1, 2, 3, 4⟩, .event .promptStart,
      .event (.commandOutputStart (some "ls")), .event (.commandFinished 0), .event .promptStart]
    let s' := s.setEnabled true ⟨5, 6, 7, 8⟩
    s.isEnabled = true ∧ s'.validateToken ⟨5, 6, 7, 8⟩ = true ∧
      s'.completedBlocks = [{ commandLine := some "ls", exitCode := 0, finished := true }] ∧
      s'.currentBlock = some {} := by
  decide

end SemanticBlockTracker

end Contour

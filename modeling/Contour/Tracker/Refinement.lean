import Contour.Tracker.Epoch

/-!
# Contour.Tracker.Refinement

What the tracker is for, as a machine of its own, and the proof that every run of the C++ model
is an image of it.

A `Session` is off, or on with the token of the last enable and the log of shell events since the
tracker was last switched on from off. A disable forgets everything; an enable on an enabled
tracker only replaces the token (what the code does, see `reenable_keeps_history`).
`Session.concretize` sends a session to the tracker that shows its log: `init` when off,
`epochState` when on.

* `concretize_apply`: one call on the session is the same call on the tracker.
* `run_refines`: every run from the constructor, with any cap, draws and interleaving, ends in
  the image of the session's run.

The rest are laws of the tracker over all states and runs: a second OSC 133;D with the same exit
code changes nothing (`commandFinished_idem`), C and D of one command may come in either order
(`commandOutputStart_commandFinished_comm`), nothing before a disable can be observed after it
(`run_disable_forgets`), and a shell that completes its commands keeps the last `maxBlocks` of
them (`completedCommands_history`).
-/

namespace Contour

inductive Session where
  | off
  | on (t : Token) (log : List Event)
  deriving DecidableEq, Repr

namespace Session

def apply : Session → Op → Session
  | _, .setEnabled false _ => .off
  | .off, .setEnabled true t => .on t []
  | .on _ log, .setEnabled true t => .on t log
  | .off, .event _ => .off
  | .on t log, .event e => .on t (log ++ [e])

def run (a : Session) (ops : List Op) : Session := ops.foldl apply a

def concretize (m : Nat) : Session → SemanticBlockTracker
  | .off => SemanticBlockTracker.init m
  | .on t log => epochState m t log

@[simp] theorem run_concat (a : Session) (ops : List Op) (op : Op) :
    a.run (ops ++ [op]) = (a.run ops).apply op := by
  simp [run]

theorem concretize_apply (m : Nat) (a : Session) (op : Op) :
    (a.apply op).concretize m = (a.concretize m).apply op := by
  rcases op with ⟨_ | _, t⟩ | e <;> rcases a with _ | ⟨t', log⟩
  · rfl
  · rfl
  · exact (SemanticBlockTracker.run_epochState m t []).symm
  · rfl
  · exact (SemanticBlockTracker.handle_of_disabled rfl e).symm
  · exact (SemanticBlockTracker.handle_epochState m t' log e).symm

/-- The C++ tracker refines the session machine over every run from the constructor. -/
theorem run_refines (m : Nat) (ops : List Op) :
    (SemanticBlockTracker.init m).run ops = (Session.off.run ops).concretize m := by
  induction ops using List.reverseRecOn with
  | nil => rfl
  | append_singleton ops op ih =>
    rw [SemanticBlockTracker.run_concat, ih, run_concat, concretize_apply]

end Session

namespace SemanticBlockTracker

/-! ## Laws of the shell events -/

theorem commandFinished_idem (s : SemanticBlockTracker) (x : Int) :
    (s.commandFinished x).commandFinished x = s.commandFinished x := by
  cases hs : s.enabled <;> simp [commandFinished, hs]

theorem commandOutputStart_commandFinished_comm (s : SemanticBlockTracker) (c : Option String)
    (x : Int) :
    (s.commandOutputStart c).commandFinished x = (s.commandFinished x).commandOutputStart c := by
  cases hs : s.enabled <;> simp [commandFinished, commandOutputStart, hs]

/-- Whatever happened before a disable has no effect on any later state. -/
theorem run_disable_forgets (m : Nat) (ops ops' : List Op) (t : Token) :
    (init m).run (ops ++ .setEnabled false t :: ops') = (init m).run ops' := by
  rw [← List.singleton_append, run_append, run_append, run_singleton, apply_setEnabled,
    setEnabled_false, maxBlocks_run]
  rfl

/-! ## A shell that completes its commands -/

/-- The events of one command as the shell reports it: OSC 133;A, C and D. -/
def commandCycle (c : Option String) (x : Int) : List Event :=
  [.promptStart, .commandOutputStart c, .commandFinished x]

/-- Every command of `cmds` run to completion, then a new prompt. -/
def completedCommands (cmds : List (Option String × Int)) : List Event :=
  cmds.flatMap (fun cx => commandCycle cx.1 cx.2) ++ [.promptStart]

theorem archivedRef_commandCycle (E : List Event) (c : Option String) (x : Int) :
    archivedRef (E ++ commandCycle c x ++ [.promptStart]) =
      archivedRef (E ++ [.promptStart]) ++
        [{ commandLine := c, exitCode := x, finished := true }] := by
  have hE : E ++ commandCycle c x =
      E ++ [.promptStart] ++ [.commandOutputStart c] ++ [.commandFinished x] := by
    simp [commandCycle]
  rw [hE, archivedRef_concat_promptStart, archivedRef_concat_of_ne _ (.commandFinished x) rfl,
    archivedRef_concat_of_ne _ (.commandOutputStart c) rfl,
    lastSegment_concat_of_ne _ (.commandFinished x) rfl,
    lastSegment_concat_of_ne _ (.commandOutputStart c) rfl, (segments_concat_promptStart E).2]
  rfl

theorem archivedRef_completedCommands (cmds : List (Option String × Int)) :
    archivedRef (completedCommands cmds) =
      cmds.map fun cx => { commandLine := cx.1, exitCode := cx.2, finished := true } := by
  induction cmds using List.reverseRecOn with
  | nil => rfl
  | append_singleton cmds cx ih =>
    rw [completedCommands, List.flatMap_append, List.flatMap_singleton,
      archivedRef_commandCycle, ← completedCommands, ih, List.map_append, List.map_singleton]

/-- After a shell completed the commands `cmds` in an epoch, the history is the last `maxBlocks`
of them, oldest first. -/
theorem completedCommands_history (m : Nat) (t : Token) (cmds : List (Option String × Int)) :
    (((init m).setEnabled true t).run ((completedCommands cmds).map .event)).completedBlocks =
      (cmds.map fun cx => { commandLine := cx.1, exitCode := cx.2, finished := true }).rtake m := by
  rw [run_epochState, ← archivedRef_completedCommands]
  rfl

end SemanticBlockTracker

end Contour

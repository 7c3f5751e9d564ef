import Mathlib.Data.List.Basic

/-!
# Contour.Tracker.Basic

The semantic block tracker of `vtbackend/SemanticBlockTracker.{h,cpp}`: the state behind DEC mode
2034, one in-progress `CommandBlockInfo` and a bounded deque of completed ones, oldest first.

Every public member function is a function of the state. `generateToken` reads
`std::random_device`, so `setEnabled` takes the token it draws as an argument (`drawn`, read only
when enabling): a run quantifies over every draw. `generateToken` itself is a function of the
four `rd()` results; the adequacy lemma `generateToken_surjective` says that the draws quantified
over are exactly the tokens it can return. The deque is a list; `push_back` appends and
`pop_front` is `List.tail`. `size_t` is `Nat` (only compared), the C++ `int` exit code is `Int`
(only stored).

`run` feeds a tracker any sequence of calls (`Op`); `Event` is the part of `Op` that
`Screen::processShellIntegration` sends for OSC 133;A, C and D.
-/

namespace Contour

/-- `SemanticBlockTracker::Token`, the `std::array<uint16_t, 4>` in parameter order. -/
structure Token where
  t1 : UInt16
  t2 : UInt16
  t3 : UInt16
  t4 : UInt16
  deriving DecidableEq, Repr

/-- `SemanticBlockTracker::generateToken`, given the four successive results of `rd()`;
`static_cast<uint16_t>` keeps the low 16 bits of each. -/
def generateToken (r1 r2 r3 r4 : UInt32) : Token :=
  ⟨r1.toUInt16, r2.toUInt16, r3.toUInt16, r4.toUInt16⟩

theorem toUInt16_toUInt32 (t : UInt16) : t.toUInt32.toUInt16 = t :=
  UInt16.toNat.inj (UInt16.toNat_ofNat_of_lt t.toBitVec.isLt)

/-- Every token is what `generateToken` returns for some four results of `rd()`. -/
theorem generateToken_surjective (t : Token) :
    ∃ r1 r2 r3 r4, generateToken r1 r2 r3 r4 = t :=
  ⟨t.t1.toUInt32, t.t2.toUInt32, t.t3.toUInt32, t.t4.toUInt32, by
    simp only [generateToken, toUInt16_toUInt32]⟩

/-- Metadata of one command, with the defaults of the C++ member initialisers. -/
structure CommandBlockInfo where
  commandLine : Option String := none
  exitCode : Int := -1
  finished : Bool := false
  deriving DecidableEq, Repr

structure SemanticBlockTracker where
  enabled : Bool := false
  token : Option Token := none
  completedBlocks : List CommandBlockInfo := []
  currentBlock : Option CommandBlockInfo := none
  maxBlocks : Nat
  deriving DecidableEq, Repr

/-- The shell-integration calls: OSC 133;A, OSC 133;C and OSC 133;D. -/
inductive Event where
  | promptStart
  | commandOutputStart (commandLine : Option String)
  | commandFinished (exitCode : Int)
  deriving DecidableEq, Repr

/-- Every mutating call. `drawn` is what `generateToken` returns if `enabled` asks for one. -/
inductive Op where
  | setEnabled (enabled : Bool) (drawn : Token)
  | event (e : Event)
  deriving DecidableEq, Repr

/-- `push_back` of a block followed by the `pop_front` that restores the cap. -/
def pushBounded (maxBlocks : Nat) (blocks : List CommandBlockInfo) (b : CommandBlockInfo) :
    List CommandBlockInfo :=
  let pushed := blocks ++ [b]
  if pushed.length > maxBlocks then pushed.tail else pushed

namespace SemanticBlockTracker

/-- The constructor `SemanticBlockTracker(size_t maxBlocks = 100)`. -/
def init (maxBlocks : Nat) : SemanticBlockTracker := { maxBlocks }

def setEnabled (s : SemanticBlockTracker) (enabled : Bool) (drawn : Token) :
    SemanticBlockTracker :=
  if enabled then { s with enabled := true, token := some drawn }
  else { s with enabled := false, token := none, completedBlocks := [], currentBlock := none }

def isEnabled (s : SemanticBlockTracker) : Bool := s.enabled

def validateToken (s : SemanticBlockTracker) (candidate : Token) : Bool :=
  match s.token with
  | some t => t == candidate
  | none => false

/-- The deque after `promptStart` moved the current block out: only a finished block is kept. -/
def rotated (s : SemanticBlockTracker) : List CommandBlockInfo :=
  match s.currentBlock with
  | some b => if b.finished then pushBounded s.maxBlocks s.completedBlocks b else s.completedBlocks
  | none => s.completedBlocks

def promptStart (s : SemanticBlockTracker) : SemanticBlockTracker :=
  if !s.enabled then s
  else { s with completedBlocks := s.rotated, currentBlock := some {} }

def commandOutputStart (s : SemanticBlockTracker) (commandLine : Option String) :
    SemanticBlockTracker :=
  if !s.enabled then s
  else { s with currentBlock := some { s.currentBlock.getD {} with commandLine } }

def commandFinished (s : SemanticBlockTracker) (exitCode : Int) : SemanticBlockTracker :=
  if !s.enabled then s
  else { s with currentBlock := some { s.currentBlock.getD {} with exitCode, finished := true } }

def handle (s : SemanticBlockTracker) : Event → SemanticBlockTracker
  | .promptStart => s.promptStart
  | .commandOutputStart c => s.commandOutputStart c
  | .commandFinished x => s.commandFinished x

def apply (s : SemanticBlockTracker) : Op → SemanticBlockTracker
  | .setEnabled b t => s.setEnabled b t
  | .event e => s.handle e

/-- The tracker after the calls `ops`, in order. -/
def run (s : SemanticBlockTracker) (ops : List Op) : SemanticBlockTracker :=
  ops.foldl apply s

/-! ## Spec lemmas -/

@[simp] theorem isEnabled_eq (s : SemanticBlockTracker) : s.isEnabled = s.enabled := rfl

@[simp] theorem run_nil (s : SemanticBlockTracker) : s.run [] = s := rfl

@[simp] theorem run_concat (s : SemanticBlockTracker) (ops : List Op) (op : Op) :
    s.run (ops ++ [op]) = (s.run ops).apply op := by
  simp [run]

@[simp] theorem run_singleton (s : SemanticBlockTracker) (op : Op) : s.run [op] = s.apply op := rfl

theorem run_append (s : SemanticBlockTracker) (ops ops' : List Op) :
    s.run (ops ++ ops') = (s.run ops).run ops' := by
  simp [run]

@[simp] theorem apply_setEnabled (s : SemanticBlockTracker) (b : Bool) (t : Token) :
    s.apply (.setEnabled b t) = s.setEnabled b t := rfl

@[simp] theorem apply_event (s : SemanticBlockTracker) (e : Event) :
    s.apply (.event e) = s.handle e := rfl

theorem validateToken_iff (s : SemanticBlockTracker) (t : Token) :
    s.validateToken t = true ↔ s.token = some t := by
  unfold validateToken
  split <;> simp_all

@[simp] theorem setEnabled_true (s : SemanticBlockTracker) (t : Token) :
    s.setEnabled true t = { s with enabled := true, token := some t } := rfl

/-- Disabling forgets everything but the cap: it gives back the constructed tracker. -/
@[simp] theorem setEnabled_false (s : SemanticBlockTracker) (t : Token) :
    s.setEnabled false t = init s.maxBlocks := rfl

theorem handle_of_disabled {s : SemanticBlockTracker} (h : s.enabled = false) (e : Event) :
    s.handle e = s := by
  cases e <;> simp [handle, promptStart, commandOutputStart, commandFinished, h]

section Enabled

variable {s : SemanticBlockTracker} (h : s.enabled = true)
include h

theorem promptStart_of_enabled :
    s.promptStart = { s with completedBlocks := s.rotated, currentBlock := some {} } := by
  simp [promptStart, h]

theorem commandOutputStart_of_enabled (c : Option String) :
    s.commandOutputStart c =
      { s with currentBlock := some { s.currentBlock.getD {} with commandLine := c } } := by
  simp [commandOutputStart, h]

theorem commandFinished_of_enabled (x : Int) :
    s.commandFinished x =
      { s with
        currentBlock := some { s.currentBlock.getD {} with exitCode := x, finished := true } } := by
  simp [commandFinished, h]

end Enabled

/-- A missing current block acts as the unfinished default block. -/
theorem rotated_eq_getD (s : SemanticBlockTracker) :
    s.rotated =
      if (s.currentBlock.getD {}).finished then
        pushBounded s.maxBlocks s.completedBlocks (s.currentBlock.getD {})
      else s.completedBlocks := by
  unfold rotated
  cases s.currentBlock <;> rfl

/-- Shell events touch only the two block fields. -/
theorem handle_frame (s : SemanticBlockTracker) (e : Event) :
    (s.handle e).enabled = s.enabled ∧ (s.handle e).token = s.token ∧
      (s.handle e).maxBlocks = s.maxBlocks := by
  cases hs : s.enabled
  · simp [handle_of_disabled hs, hs]
  · cases e <;>
      simp [handle, promptStart_of_enabled hs, commandOutputStart_of_enabled hs,
        commandFinished_of_enabled hs, hs]

@[simp] theorem maxBlocks_apply (s : SemanticBlockTracker) (op : Op) :
    (s.apply op).maxBlocks = s.maxBlocks := by
  cases op with
  | setEnabled b t => cases b <;> rfl
  | event e => exact (handle_frame s e).2.2

@[simp] theorem maxBlocks_run (s : SemanticBlockTracker) (ops : List Op) :
    (s.run ops).maxBlocks = s.maxBlocks := by
  induction ops using List.reverseRecOn <;> simp_all

end SemanticBlockTracker

end Contour

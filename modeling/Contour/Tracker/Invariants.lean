import Contour.Tracker.Basic

/-!
# Contour.Tracker.Invariants

The two invariants of the tracker's state (spec §3), over every run from the constructor, with
any cap, any draws and any interleaving of mode changes and shell events:

* `Gated`: the enabled flag and the token agree, and a disabled tracker holds no blocks. Then a
  shell event on a disabled tracker changes nothing (`gating_invariant`).
* `Bounded`: every archived block is finished and there are at most `maxBlocks` of them
  (`history_bounded`).

Each is proved for `init` and kept by `apply`; the run lemmas follow by induction on the calls.
`validateToken_run` reads the token law off the calls directly: the stored token is the one
drawn by the last `setEnabled` call if that call enabled, and nothing otherwise.
-/

namespace Contour

/-- The `setEnabled` argument and draw of a call, if it is a `setEnabled` call. -/
def Op.setEnabled? : Op → Option (Bool × Token)
  | .setEnabled b t => some (b, t)
  | .event _ => none

namespace SemanticBlockTracker

/-! ## What each call does to the history -/

theorem completedBlocks_handle (s : SemanticBlockTracker) (e : Event) :
    (s.handle e).completedBlocks = s.completedBlocks ∨
      (s.handle e).completedBlocks = s.rotated := by
  cases hs : s.enabled
  · simp [handle_of_disabled hs]
  · cases e <;>
      simp [handle, promptStart_of_enabled hs, commandOutputStart_of_enabled hs,
        commandFinished_of_enabled hs]

theorem pushBounded_length_le {m : Nat} {blocks : List CommandBlockInfo}
    (h : blocks.length ≤ m) (b : CommandBlockInfo) : (pushBounded m blocks b).length ≤ m := by
  simp only [pushBounded]
  split <;> simp_all

theorem finished_of_mem_pushBounded {m : Nat} {blocks : List CommandBlockInfo}
    {b c : CommandBlockInfo} (hc : c ∈ pushBounded m blocks b) : c ∈ blocks ∨ c = b := by
  simp only [pushBounded] at hc
  split at hc
  · simpa using List.mem_of_mem_tail hc
  · simpa using hc

/-! ## Mode gating -/

/-- Spec §3, tracker invariants 1 and 2. -/
structure Gated (s : SemanticBlockTracker) : Prop where
  token_isSome : s.enabled = true ↔ s.token.isSome
  blank : s.enabled = false → s.currentBlock = none ∧ s.completedBlocks = []

theorem gated_init (m : Nat) : Gated (init m) := ⟨by simp [init], fun _ => ⟨rfl, rfl⟩⟩

theorem Gated.apply {s : SemanticBlockTracker} (h : Gated s) (op : Op) : Gated (s.apply op) := by
  cases op with
  | setEnabled b t =>
    cases b
    · simpa using gated_init s.maxBlocks
    · exact ⟨by simp, by simp⟩
  | event e =>
    rw [apply_event]
    obtain ⟨he, ht, -⟩ := handle_frame s e
    refine ⟨by rw [he, ht]; exact h.token_isSome, fun hoff => ?_⟩
    rw [he] at hoff
    rw [handle_of_disabled hoff]
    exact h.blank hoff

theorem Gated.run {s : SemanticBlockTracker} (h : Gated s) (ops : List Op) : Gated (s.run ops) := by
  induction ops using List.reverseRecOn with
  | nil => exact h
  | append_singleton ops op ih => simpa using ih.apply op

/-- Mode gating over every run: `isEnabled()` agrees with `token().has_value()`, and a disabled
tracker holds no blocks and ignores every shell event. -/
theorem gating_invariant (m : Nat) (ops : List Op) :
    let s := (init m).run ops
    (s.isEnabled = true ↔ s.token.isSome) ∧
      (s.isEnabled = false →
        s.currentBlock = none ∧ s.completedBlocks = [] ∧ ∀ e : Event, s.handle e = s) := by
  have h := (gated_init m).run ops
  refine ⟨h.token_isSome, fun hoff => ⟨(h.blank hoff).1, (h.blank hoff).2, ?_⟩⟩
  exact handle_of_disabled hoff

/-! ## Bounded history -/

/-- Spec §3, the invariant on `completed` and tracker invariant 4. -/
structure Bounded (s : SemanticBlockTracker) : Prop where
  finished : ∀ b ∈ s.completedBlocks, b.finished = true
  length_le : s.completedBlocks.length ≤ s.maxBlocks

theorem bounded_init (m : Nat) : Bounded (init m) := ⟨by simp [init], by simp [init]⟩

theorem Bounded.rotated {s : SemanticBlockTracker} (h : Bounded s) :
    (∀ b ∈ s.rotated, b.finished = true) ∧ s.rotated.length ≤ s.maxBlocks := by
  rw [rotated_eq_getD]
  split
  · refine ⟨fun c hc => ?_, pushBounded_length_le h.length_le _⟩
    rcases finished_of_mem_pushBounded hc with hc | rfl
    · exact h.finished c hc
    · assumption
  · exact ⟨h.finished, h.length_le⟩

theorem Bounded.apply {s : SemanticBlockTracker} (h : Bounded s) (op : Op) :
    Bounded (s.apply op) := by
  cases op with
  | setEnabled b t =>
    cases b
    · simpa using bounded_init s.maxBlocks
    · exact ⟨h.finished, h.length_le⟩
  | event e =>
    rw [apply_event]
    have hm := (handle_frame s e).2.2
    rcases completedBlocks_handle s e with he | he
    · exact ⟨by rw [he]; exact h.finished, by rw [he, hm]; exact h.length_le⟩
    · exact ⟨by rw [he]; exact h.rotated.1, by rw [he, hm]; exact h.rotated.2⟩

theorem Bounded.run {s : SemanticBlockTracker} (h : Bounded s) (ops : List Op) :
    Bounded (s.run ops) := by
  induction ops using List.reverseRecOn with
  | nil => exact h
  | append_singleton ops op ih => simpa using ih.apply op

/-- The archive over every run: only finished blocks, never more than the cap. -/
theorem history_bounded (m : Nat) (ops : List Op) :
    let s := (init m).run ops
    (∀ b ∈ s.completedBlocks, b.finished = true) ∧ s.completedBlocks.length ≤ m := by
  have h := (bounded_init m).run ops
  exact ⟨h.finished, by simpa [init] using h.length_le⟩

/-! ## Tokens -/

theorem token_apply (s : SemanticBlockTracker) (op : Op) :
    (s.apply op).token =
      match op.setEnabled? with
      | some (b, t) => if b then some t else none
      | none => s.token := by
  cases op with
  | setEnabled b t => cases b <;> rfl
  | event e => exact (handle_frame s e).2.1

/-- `validateToken(t)` after any run holds exactly when the last `setEnabled` call enabled and
drew `t`. -/
theorem validateToken_run (m : Nat) (ops : List Op) (t : Token) :
    ((init m).run ops).validateToken t = true ↔
      (ops.filterMap Op.setEnabled?).getLast? = some (true, t) := by
  rw [validateToken_iff]
  induction ops using List.reverseRecOn with
  | nil => simp [init]
  | append_singleton ops op ih =>
    rw [run_concat, token_apply, List.filterMap_append]
    cases op with
    | setEnabled b t' => cases b <;> simp [Op.setEnabled?, eq_comm]
    | event e => simpa [Op.setEnabled?] using ih

end SemanticBlockTracker

end Contour

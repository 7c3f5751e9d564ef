import Mathlib.Data.Fintype.Basic
import Mathlib.Tactic.DeriveFintype

/-!
# Contour.Config.InputMapping

The lookup of `contour/Config.h` that turns a key, character, mouse or gamepad event into the
actions bound to it. `apply` walks the mappings in order and returns the binding of the first
one whose modifier is the event's, whose input matches the event's, and whose mode constraints
the terminal's mode byte satisfies (`helper.testMatchMode`).

`MatchModes`, its flags and `InputBinding` are declared in `terminal/InputBinding.h`, which is
not under `src/`: a `MatchModes` is what `status` reads off it, the bit of each flag in the mode
byte is the parameter `bit`, and the modifier, the matcher and the binding are type parameters.
The input comparison `_input == mapping.input` is the parameter `inputEq`, since for gamepad axes
it is a range test and not an equality.

`testMatchMode_iff` is the spec of the helper that the laws below are derived from: the mode
byte passes iff every flag meets its constraint (the fall-through from `Disabled` to `Any` in the
switch is harmless).

* `apply_eq_some_iff`, `apply_eq_none_iff`: `apply` is a first match; `apply_append`: mappings
  appended after others never override them.
* `apply_modeFlagMask`: only the bits of the four flags of the mode byte are read.
* `apply_erase_shadowed`: a mapping covered by an earlier one is dead; deleting it changes no
  lookup.
* `apply_swap_exclusive`: two mappings that disagree on a flag may be listed in either order.
-/

namespace Contour

namespace Config

/-- `MatchModes::Flag`. -/
inductive Flag where
  | AlternateScreen
  | AppCursor
  | AppKeypad
  | Select
  deriving DecidableEq, Repr, Fintype

/-- `MatchModes::Status`. -/
inductive Status where
  | Enabled
  | Disabled
  | Any
  deriving DecidableEq, Repr

/-- A `MatchModes`, as `status` reads it. -/
structure MatchModes where
  status : Flag → Status

/-- `terminal::InputBinding<Matcher, ActionList>`. -/
structure InputBinding (M Mod B : Type) where
  modes : MatchModes
  modifier : Mod
  input : M
  binding : B

/-- Every mode byte that `b` admits, `a` admits: `a` leaves each flag free or constrains it as
`b` does. -/
def MatchModes.covers (a b : MatchModes) : Prop :=
  ∀ f, a.status f = .Any ∨ a.status f = b.status f

/-- Some flag must be set for one and clear for the other. -/
def MatchModes.exclusive (a b : MatchModes) : Prop :=
  ∃ f, a.status f = .Enabled ∧ b.status f = .Disabled ∨ a.status f = .Disabled ∧ b.status f = .Enabled

instance (a b : MatchModes) : Decidable (a.covers b) := by unfold MatchModes.covers; infer_instance

instance (a b : MatchModes) : Decidable (a.exclusive b) := by
  unfold MatchModes.exclusive; infer_instance

section Lookup

variable (bit : Flag → UInt8)

namespace helper

/-- The overload of `testMatchMode` that tests one flag. -/
def testMatchModeFlag (actualModeFlags : UInt8) (expected : MatchModes) (testFlag : Flag) :
    Bool :=
  match expected.status testFlag with
  | .Enabled => if actualModeFlags &&& bit testFlag = 0 then false else true
  | .Disabled => if actualModeFlags &&& bit testFlag ≠ 0 then false else true
  | .Any => true

def testMatchMode (actualModeFlags : UInt8) (expected : MatchModes) : Bool :=
  testMatchModeFlag bit actualModeFlags expected .AlternateScreen &&
    testMatchModeFlag bit actualModeFlags expected .AppCursor &&
    testMatchModeFlag bit actualModeFlags expected .AppKeypad &&
    testMatchModeFlag bit actualModeFlags expected .Select

end helper

variable {M I Mod B : Type} [DecidableEq Mod] (inputEq : I → M → Bool)

/-- The condition of the loop of `apply`. -/
def InputBinding.accepts (input : I) (modifier : Mod) (actualModeFlags : UInt8)
    (mapping : InputBinding M Mod B) : Bool :=
  mapping.modifier == modifier && inputEq input mapping.input &&
    helper.testMatchMode bit actualModeFlags mapping.modes

def apply (mappings : List (InputBinding M Mod B)) (input : I) (modifier : Mod)
    (actualModeFlags : UInt8) : Option B :=
  match mappings with
  | [] => none
  | mapping :: mappings =>
    if mapping.accepts bit inputEq input modifier actualModeFlags then some mapping.binding
    else apply mappings input modifier actualModeFlags

/-- The bits of all four flags. -/
def modeFlagMask : UInt8 :=
  bit .AlternateScreen ||| bit .AppCursor ||| bit .AppKeypad ||| bit .Select

/-! ## Mode matching -/

theorem testMatchModeFlag_iff (a : UInt8) (e : MatchModes) (f : Flag) :
    helper.testMatchModeFlag bit a e f = true ↔
      (e.status f = .Enabled → a &&& bit f ≠ 0) ∧ (e.status f = .Disabled → a &&& bit f = 0) := by
  unfold helper.testMatchModeFlag
  split <;> simp_all

theorem testMatchMode_eq_true (a : UInt8) (e : MatchModes) :
    helper.testMatchMode bit a e = true ↔ ∀ f, helper.testMatchModeFlag bit a e f = true := by
  simp only [helper.testMatchMode, Bool.and_eq_true]
  exact ⟨fun h f => by cases f <;> simp_all, fun h => ⟨⟨⟨h _, h _⟩, h _⟩, h _⟩⟩

/-- The mode byte passes iff every flag that must be set is set and every flag that must be
clear is clear. -/
theorem testMatchMode_iff (a : UInt8) (e : MatchModes) :
    helper.testMatchMode bit a e = true ↔
      ∀ f, (e.status f = .Enabled → a &&& bit f ≠ 0) ∧ (e.status f = .Disabled → a &&& bit f = 0) := by
  simp only [testMatchMode_eq_true, testMatchModeFlag_iff]

theorem testMatchModeFlag_congr {a a' : UInt8} {f : Flag} (h : a &&& bit f = a' &&& bit f)
    (e : MatchModes) : helper.testMatchModeFlag bit a e f = helper.testMatchModeFlag bit a' e f := by
  simp only [helper.testMatchModeFlag, h]

theorem testMatchMode_of_covers {a : UInt8} {e e' : MatchModes} (hc : e.covers e')
    (h : helper.testMatchMode bit a e' = true) : helper.testMatchMode bit a e = true := by
  rw [testMatchMode_iff] at h ⊢
  intro f
  rcases hc f with hf | hf <;> simp_all

theorem not_testMatchMode_of_exclusive {a : UInt8} {e e' : MatchModes} (hx : e.exclusive e') :
    ¬(helper.testMatchMode bit a e = true ∧ helper.testMatchMode bit a e' = true) := by
  rintro ⟨h, h'⟩
  rw [testMatchMode_iff] at h h'
  obtain ⟨f, ⟨hf, hf'⟩ | ⟨hf, hf'⟩⟩ := hx
  · exact (h f).1 hf ((h' f).2 hf')
  · exact (h' f).1 hf' ((h f).2 hf)

theorem toBitVec_land (x y : UInt8) : (x &&& y).toBitVec = x.toBitVec &&& y.toBitVec := rfl

theorem toBitVec_lor (x y : UInt8) : (x ||| y).toBitVec = x.toBitVec ||| y.toBitVec := rfl

theorem land_modeFlagMask (a : UInt8) (f : Flag) :
    a &&& modeFlagMask bit &&& bit f = a &&& bit f := by
  show UInt8.mk _ = UInt8.mk _
  congr 1
  apply BitVec.eq_of_getLsbD_eq
  intro i
  simp only [modeFlagMask, toBitVec_land, toBitVec_lor, BitVec.getLsbD_and,
    BitVec.getLsbD_or]
  cases f <;> cases a.toBitVec.getLsbD i <;> simp <;> intro h <;> simp [h]

/-! ## The lookup -/

theorem apply_eq_find? (mappings : List (InputBinding M Mod B)) (input : I) (modifier : Mod)
    (a : UInt8) :
    apply bit inputEq mappings input modifier a =
      (mappings.find? (InputBinding.accepts bit inputEq input modifier a)).map (·.binding) := by
  induction mappings with
  | nil => rfl
  | cons mapping mappings ih =>
    rw [apply, List.find?_cons]
    split <;> simp_all

theorem accepts_of_covers {m₁ m₂ : InputBinding M Mod B} (hmod : m₂.modifier = m₁.modifier)
    (hinput : ∀ i, inputEq i m₂.input = true → inputEq i m₁.input = true)
    (hmodes : m₁.modes.covers m₂.modes) {input : I} {modifier : Mod} {a : UInt8}
    (h : m₂.accepts bit inputEq input modifier a = true) :
    m₁.accepts bit inputEq input modifier a = true := by
  simp only [InputBinding.accepts, Bool.and_eq_true, beq_iff_eq] at h ⊢
  exact ⟨⟨hmod ▸ h.1.1, hinput _ h.1.2⟩, testMatchMode_of_covers bit hmodes h.2⟩

theorem find?_erase_of_false {α : Type} {p : α → Bool} {x : α} (hx : p x = false)
    (l r : List α) : (l ++ x :: r).find? p = (l ++ r).find? p := by
  simp [List.find?_append, List.find?_cons, hx]

theorem find?_swap {α : Type} {p : α → Bool} {x y : α} (h : ¬(p x = true ∧ p y = true))
    (l r : List α) : (l ++ x :: y :: r).find? p = (l ++ y :: x :: r).find? p := by
  rw [List.find?_append, List.find?_append]
  cases hx : p x <;> cases hy : p y <;> simp_all [List.find?_cons]

/-- `apply` returns `b` iff some mapping accepts the event, none before it does, and its binding
is `b`. -/
theorem apply_eq_some_iff (mappings : List (InputBinding M Mod B)) (input : I) (modifier : Mod)
    (a : UInt8) (b : B) :
    apply bit inputEq mappings input modifier a = some b ↔
      ∃ pre m suf, mappings = pre ++ m :: suf ∧ m.accepts bit inputEq input modifier a = true ∧
        (∀ m' ∈ pre, m'.accepts bit inputEq input modifier a = false) ∧ m.binding = b := by
  rw [apply_eq_find?, Option.map_eq_some']
  constructor
  · rintro ⟨m, hm, rfl⟩
    obtain ⟨hacc, pre, suf, rfl, hpre⟩ := List.find?_eq_some.1 hm
    exact ⟨pre, m, suf, rfl, hacc, fun m' h => by simpa using hpre m' h, rfl⟩
  · rintro ⟨pre, m, suf, rfl, hacc, hpre, rfl⟩
    exact ⟨m, List.find?_eq_some.2 ⟨hacc, pre, suf, rfl, fun m' h => by simp [hpre m' h]⟩, rfl⟩

/-- `apply` returns `nullptr` iff no mapping accepts the event. -/
theorem apply_eq_none_iff (mappings : List (InputBinding M Mod B)) (input : I) (modifier : Mod)
    (a : UInt8) :
    apply bit inputEq mappings input modifier a = none ↔
      ∀ m ∈ mappings, m.accepts bit inputEq input modifier a = false := by
  rw [apply_eq_find?, Option.map_eq_none', List.find?_eq_none]
  simp

/-- Over two lists of mappings one after the other, the first list answers if it can: mappings
appended after others never override them. -/
theorem apply_append (l l' : List (InputBinding M Mod B)) (input : I) (modifier : Mod) (a : UInt8) :
    apply bit inputEq (l ++ l') input modifier a =
      (apply bit inputEq l input modifier a).or (apply bit inputEq l' input modifier a) := by
  simp only [apply_eq_find?, List.find?_append]
  cases List.find? (InputBinding.accepts bit inputEq input modifier a) l <;> rfl

/-- Bits of the mode byte other than those of the four flags are never read. -/
theorem apply_modeFlagMask (mappings : List (InputBinding M Mod B)) (input : I) (modifier : Mod)
    (a : UInt8) :
    apply bit inputEq mappings input modifier (a &&& modeFlagMask bit) =
      apply bit inputEq mappings input modifier a := by
  have h : (InputBinding.accepts bit inputEq input modifier (a &&& modeFlagMask bit) :
      InputBinding M Mod B → Bool) = InputBinding.accepts bit inputEq input modifier a := by
    funext m
    simp only [InputBinding.accepts, helper.testMatchMode,
      testMatchModeFlag_congr bit (land_modeFlagMask bit a _)]
  rw [apply_eq_find?, apply_eq_find?, h]

/-- A mapping after one with the same modifier, a matcher that matches at least its inputs, and
modes that cover its modes is never reached: deleting it changes no lookup. -/
theorem apply_erase_shadowed (pre mid suf : List (InputBinding M Mod B))
    (m₁ m₂ : InputBinding M Mod B) (hmod : m₂.modifier = m₁.modifier)
    (hinput : ∀ i, inputEq i m₂.input = true → inputEq i m₁.input = true)
    (hmodes : m₁.modes.covers m₂.modes) (input : I) (modifier : Mod) (a : UInt8) :
    apply bit inputEq (pre ++ m₁ :: mid ++ m₂ :: suf) input modifier a =
      apply bit inputEq (pre ++ m₁ :: mid ++ suf) input modifier a := by
  simp only [apply_eq_find?]
  cases h₁ : m₁.accepts bit inputEq input modifier a
  · have h₂ : m₂.accepts bit inputEq input modifier a = false := Bool.eq_false_iff.2 fun h => by
      simp [accepts_of_covers bit inputEq hmod hinput hmodes h] at h₁
    rw [find?_erase_of_false h₂]
  · simp [List.find?_append, List.find?_cons, h₁]

theorem apply_erase_shadowed_copy :
    let bit : Flag → UInt8 := fun f => if f = .Select then 8 else 0
    let m₁ : InputBinding Char Nat String := ⟨⟨fun _ => .Any⟩, 0, 'c', "Copy"⟩
    let m₂ : InputBinding Char Nat String :=
      ⟨⟨fun f => if f = .Select then .Enabled else .Any⟩, 0, 'c', "CopySelection"⟩
    m₂.modifier = m₁.modifier ∧ (∀ i, (i == m₂.input) = true → (i == m₁.input) = true) ∧
      m₁.modes.covers m₂.modes ∧
      apply bit (· == ·) ([] ++ m₁ :: [] ++ m₂ :: []) 'c' 0 8 =
        apply bit (· == ·) ([] ++ m₁ :: [] ++ []) 'c' 0 8 := by
  intro bit m₁ m₂
  exact ⟨rfl, fun _ h => h, fun _ => Or.inl rfl,
    apply_erase_shadowed bit _ [] [] [] m₁ m₂ rfl (fun _ h => h) (fun _ => Or.inl rfl) _ _ _⟩

/-- Two adjacent mappings that disagree on a flag never both accept an event, so their order does
not matter. -/
theorem apply_swap_exclusive (pre suf : List (InputBinding M Mod B))
    (m₁ m₂ : InputBinding M Mod B) (hx : m₁.modes.exclusive m₂.modes) (input : I)
    (modifier : Mod) (a : UInt8) :
    apply bit inputEq (pre ++ m₁ :: m₂ :: suf) input modifier a =
      apply bit inputEq (pre ++ m₂ :: m₁ :: suf) input modifier a := by
  have h : ¬(m₁.accepts bit inputEq input modifier a = true ∧
      m₂.accepts bit inputEq input modifier a = true) := by
    rintro ⟨h₁, h₂⟩
    simp only [InputBinding.accepts, Bool.and_eq_true] at h₁ h₂
    exact not_testMatchMode_of_exclusive bit hx ⟨h₁.2, h₂.2⟩
  simp only [apply_eq_find?, find?_swap h]

theorem apply_swap_exclusive_altScreen :
    let bit : Flag → UInt8 := fun f => if f = .AlternateScreen then 1 else 0
    let m₁ : InputBinding Char Nat String :=
      ⟨⟨fun f => if f = .AlternateScreen then .Enabled else .Any⟩, 0, 'v', "PasteSelection"⟩
    let m₂ : InputBinding Char Nat String :=
      ⟨⟨fun f => if f = .AlternateScreen then .Disabled else .Any⟩, 0, 'v', "PasteClipboard"⟩
    m₁.modes.exclusive m₂.modes ∧
      apply bit (· == ·) ([] ++ m₁ :: m₂ :: []) 'v' 0 1 =
        apply bit (· == ·) ([] ++ m₂ :: m₁ :: []) 'v' 0 1 := by
  intro bit m₁ m₂
  exact ⟨⟨.AlternateScreen, Or.inl ⟨rfl, rfl⟩⟩,
    apply_swap_exclusive bit _ [] [] m₁ m₂ ⟨.AlternateScreen, Or.inl ⟨rfl, rfl⟩⟩ _ _ _⟩

end Lookup

end Config

end Contour

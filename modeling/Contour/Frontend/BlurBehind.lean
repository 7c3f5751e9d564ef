import Mathlib.Logic.Function.Basic
import Mathlib.Data.List.Basic

/-!
# Contour.Frontend.BlurBehind

`BlurBehind::setEnabled` of `contour/BlurBehind.cpp`: what switching the blurred background on
and off leaves on the window, for the two frontends the preprocessor selects.

Under XCB the call writes window properties through the X server: `setPropertyX11` and
`unsetPropertyX11` intern the property's atom and replace or delete the property, and do nothing
when there is no X connection or the atom request gets no reply. The window's properties are a
store keyed by atom name (the server interns a name to one atom). Under Win32 the call sets the
window's accent policy when the window handle, `user32.dll` and `SetWindowCompositionAttribute`
are there and the call succeeds; whether they are is Windows' answer to that call, so each call
of a run carries its own (`Call`).

* `run_xcb_properties`: over every run of calls, each property holds what the last call that
  touches it asked for, or what it held before.
* `run_xcb_kdeBlurRegion`: once any call enabled blur, `_KDE_NET_WM_BLUR_BEHIND_REGION` stays 0:
  disabling deletes `kwin_blur` and `_MUTTER_HINTS`, never that property.
* `run_win32_accentPolicy`: under Win32, where each call carries what Windows answered to it,
  the accent policy is that of the last call that went through.
* `xcb_enable_leaves_trace`: under XCB, enable then disable is not disable alone.
-/

namespace Contour

namespace BlurBehind

/-- What `xcb_change_property` stores: a `CARDINAL` of format 32 or a `STRING` of format 8. -/
inductive PropertyValue where
  | cardinal (value : UInt32)
  | string (value : String)
  deriving DecidableEq, Repr

/-- The X server as the XCB calls see it, and the window's properties. -/
structure Xcb where
  /-- `x11Connection()` is not null. -/
  connection : Bool
  /-- `xcb_intern_atom_reply` answers for this name. -/
  atomReply : String → Bool
  properties : String → Option PropertyValue

/-- The atom of `name`, if the connection and the atom reply are there. -/
def queryXcbPropertyInfo (x : Xcb) (name : String) : Option String :=
  if !x.connection then none
  else if !x.atomReply name then none
  else some name

/-- `xcb_change_property` with `XCB_PROP_MODE_REPLACE` (`some`) or `xcb_delete_property`
(`none`), after the atom lookup. -/
def writePropertyX11 (x : Xcb) (name : String) (value : Option PropertyValue) : Xcb :=
  match queryXcbPropertyInfo x name with
  | some atom => { x with properties := Function.update x.properties atom value }
  | none => x

/-- Both overloads: the value's constructor is the atom type and format they pass. -/
def setPropertyX11 (x : Xcb) (name : String) (value : PropertyValue) : Xcb :=
  writePropertyX11 x name (some value)

def unsetPropertyX11 (x : Xcb) (name : String) : Xcb :=
  writePropertyX11 x name none

def setEnabledXcb (x : Xcb) (enable : Bool) : Xcb :=
  if enable then
    setPropertyX11 (setPropertyX11 x "_KDE_NET_WM_BLUR_BEHIND_REGION" (.cardinal 0))
      "_MUTTER_HINTS" (.string "blur-provider=sigma:60,brightness:0.9")
  else
    unsetPropertyX11 (unsetPropertyX11 x "kwin_blur") "_MUTTER_HINTS"

/-- The `AcceptState` values of the Win32 branch. -/
inductive AcceptState where
  | ACCENT_DISABLED
  | ACCENT_ENABLE_GRADIENT
  | ACCENT_ENABLE_TRANSPARENTGRADIENT
  | ACCENT_ENABLE_BLURBEHIND
  | ACCENT_ENABLE_ACRYLICBLURBEHIND
  | ACCENT_ENABLE_HOSTBACKDROP
  deriving DecidableEq, Repr

structure ACCENTPOLICY where
  nAccentState : AcceptState
  nFlags : Int
  nColor : Int
  nAnimationId : Int
  deriving DecidableEq, Repr

/-- What Windows answers to the Win32 calls that one `setEnabled` makes. -/
structure Win32Answers where
  /-- `window->winId()` is not null. -/
  hwnd : Bool
  /-- `LoadLibrary("user32.dll")` succeeds. -/
  user32 : Bool
  /-- `GetProcAddress` finds `SetWindowCompositionAttribute`. -/
  setWindowCompositionAttribute : Bool
  /-- `SetWindowCompositionAttribute` returns nonzero. A zero `rs` is only logged; the window
  keeps the policy it had. -/
  rs : Bool
  deriving DecidableEq, Repr

/-- Every check of the Win32 branch passes, and the policy is applied. -/
def Win32Answers.applied (answers : Win32Answers) : Bool :=
  answers.hwnd && answers.user32 && answers.setWindowCompositionAttribute && answers.rs

/-- The window as the Win32 branch sees it. -/
structure Win32 where
  /-- The window's `WCA_ACCENT_POLICY`. -/
  accentPolicy : ACCENTPOLICY

/-- The `policy` that the Win32 branch passes. -/
def accentPolicyFor (enable : Bool) : ACCENTPOLICY :=
  if enable then ⟨.ACCENT_ENABLE_BLURBEHIND, 0, 0, 0⟩ else ⟨.ACCENT_DISABLED, 0, 0, 0⟩

def setEnabledWin32 (w : Win32) (answers : Win32Answers) (enable : Bool) : Win32 :=
  if answers.applied then { w with accentPolicy := accentPolicyFor enable } else w

/-- The frontend the preprocessor selects: `CONTOUR_FRONTEND_XCB`, `_WIN32`, or neither. -/
inductive Frontend where
  | xcb
  | win32
  | other
  deriving DecidableEq, Repr

/-- What one `setEnabled` call is made with: its `enable` argument, and under Win32 also what
Windows answers to that call (as a tracker call carries the token it draws). -/
def Call : Frontend → Type
  | .win32 => Bool × Win32Answers
  | _ => Bool

structure Window where
  xcb : Xcb
  win32 : Win32

def setEnabled : (frontend : Frontend) → Window → Call frontend → Window
  | .xcb, window, enable => { window with xcb := setEnabledXcb window.xcb enable }
  | .win32, window, call => { window with win32 := setEnabledWin32 window.win32 call.2 call.1 }
  | .other, window, _ => window

def run (frontend : Frontend) (window : Window) (calls : List (Call frontend)) : Window :=
  calls.foldl (setEnabled frontend) window

/-! ## One call -/

theorem writePropertyX11_properties (x : Xcb) (name : String) (value : Option PropertyValue)
    (n : String) :
    (writePropertyX11 x name value).properties n =
      if n = name ∧ x.connection ∧ x.atomReply name then value else x.properties n := by
  unfold writePropertyX11 queryXcbPropertyInfo
  by_cases hn : n = name <;> cases x.connection <;> cases x.atomReply name <;>
    simp [hn, Function.update_noteq]

@[simp] theorem writePropertyX11_connection (x : Xcb) (name : String) (value : Option PropertyValue) :
    (writePropertyX11 x name value).connection = x.connection := by
  unfold writePropertyX11; split <;> rfl

@[simp] theorem writePropertyX11_atomReply (x : Xcb) (name : String) (value : Option PropertyValue) :
    (writePropertyX11 x name value).atomReply = x.atomReply := by
  unfold writePropertyX11; split <;> rfl

/-- What one XCB call asks the server to store under `name`: `some v` if it writes `name`
(`v = none` deletes it), `none` if it leaves `name` alone. -/
def xcbRequest (enable : Bool) (name : String) : Option (Option PropertyValue) :=
  if enable then
    if name = "_KDE_NET_WM_BLUR_BEHIND_REGION" then some (some (.cardinal 0))
    else if name = "_MUTTER_HINTS" then some (some (.string "blur-provider=sigma:60,brightness:0.9"))
    else none
  else if name = "kwin_blur" ∨ name = "_MUTTER_HINTS" then some none
  else none

theorem setEnabledXcb_properties (x : Xcb) (enable : Bool) (n : String) :
    (setEnabledXcb x enable).properties n =
      if x.connection ∧ x.atomReply n then (xcbRequest enable n).getD (x.properties n)
      else x.properties n := by
  cases enable <;>
    simp only [setEnabledXcb, setPropertyX11, unsetPropertyX11, Bool.false_eq_true, ↓reduceIte,
      writePropertyX11_properties, writePropertyX11_connection, writePropertyX11_atomReply,
      xcbRequest] <;>
    by_cases h₁ : n = "_MUTTER_HINTS" <;> by_cases h₂ : n = "_KDE_NET_WM_BLUR_BEHIND_REGION" <;>
    by_cases h₃ : n = "kwin_blur" <;> simp_all

@[simp] theorem setEnabledXcb_connection (x : Xcb) (enable : Bool) :
    (setEnabledXcb x enable).connection = x.connection := by
  cases enable <;> simp [setEnabledXcb, setPropertyX11, unsetPropertyX11]

@[simp] theorem setEnabledXcb_atomReply (x : Xcb) (enable : Bool) :
    (setEnabledXcb x enable).atomReply = x.atomReply := by
  cases enable <;> simp [setEnabledXcb, setPropertyX11, unsetPropertyX11]

/-! ## Runs -/

@[simp] theorem run_concat (f : Frontend) (w : Window) (calls : List (Call f)) (e : Call f) :
    run f w (calls ++ [e]) = setEnabled f (run f w calls) e := by
  simp [run]

theorem run_xcb_env (w : Window) (calls : List Bool) :
    (run .xcb w calls).xcb.connection = w.xcb.connection ∧
      (run .xcb w calls).xcb.atomReply = w.xcb.atomReply := by
  induction calls using List.reverseRecOn with
  | nil => exact ⟨rfl, rfl⟩
  | append_singleton calls e ih =>
    rw [run_concat]
    simpa [setEnabled] using ih

/-- Each property holds what the last call that touches it asked for, or what it held before;
without a connection or an atom reply it keeps what it held. -/
theorem run_xcb_properties (w : Window) (calls : List Bool) (n : String) :
    (run .xcb w calls).xcb.properties n =
      if w.xcb.connection ∧ w.xcb.atomReply n then
        ((calls.filterMap (xcbRequest · n)).getLast?).getD (w.xcb.properties n)
      else w.xcb.properties n := by
  induction calls using List.reverseRecOn with
  | nil => simp [run]
  | append_singleton calls e ih =>
    obtain ⟨hc, hr⟩ := run_xcb_env w calls
    rw [run_concat, setEnabled, setEnabledXcb_properties, hc, hr, ih, List.filterMap_append]
    split
    · cases h : xcbRequest e n <;>
        simp only [h, List.filterMap_cons, List.filterMap_nil, List.append_nil,
          List.getLast?_concat, Option.getD_some, Option.getD_none]
    · rfl

theorem getLast?_filterMap_ite {α : Type} (v : α) (calls : List Bool) :
    (calls.filterMap fun e => if e then some v else none).getLast? =
      if true ∈ calls then some v else none := by
  induction calls using List.reverseRecOn with
  | nil => rfl
  | append_singleton calls e ih =>
    cases e <;> simp only [List.filterMap_append, List.filterMap_cons, List.filterMap_nil,
      Bool.false_eq_true, ↓reduceIte, List.append_nil, List.getLast?_concat, ih, List.mem_append,
      List.mem_singleton, Bool.true_eq_false, or_false, or_true]

/-- Once any call enabled blur, `_KDE_NET_WM_BLUR_BEHIND_REGION` is 0 for good: no later
disable deletes it. -/
theorem run_xcb_kdeBlurRegion (w : Window) (calls : List Bool) :
    (run .xcb w calls).xcb.properties "_KDE_NET_WM_BLUR_BEHIND_REGION" =
      if w.xcb.connection ∧ w.xcb.atomReply "_KDE_NET_WM_BLUR_BEHIND_REGION" ∧ true ∈ calls then
        some (.cardinal 0)
      else w.xcb.properties "_KDE_NET_WM_BLUR_BEHIND_REGION" := by
  have hreq : (xcbRequest · "_KDE_NET_WM_BLUR_BEHIND_REGION") =
      fun e => if e then some (some (.cardinal 0)) else none := by
    funext e; cases e <;> rfl
  rw [run_xcb_properties, hreq, getLast?_filterMap_ite]
  by_cases h : true ∈ calls <;> simp [h]

/-- Under XCB, enable then disable is not disable alone: the KWin blur region that enabling
set survives, on every window that had another value there. -/
theorem xcb_enable_leaves_trace (w : Window) (hc : w.xcb.connection = true)
    (hr : w.xcb.atomReply "_KDE_NET_WM_BLUR_BEHIND_REGION" = true)
    (hkde : w.xcb.properties "_KDE_NET_WM_BLUR_BEHIND_REGION" ≠ some (.cardinal 0)) :
    run .xcb w [true, false] ≠ run .xcb w [false] := by
  intro h
  have := congrArg (fun w' : Window => w'.xcb.properties "_KDE_NET_WM_BLUR_BEHIND_REGION") h
  simp only [run_xcb_properties, hc, hr, and_self, ↓reduceIte] at this
  exact hkde (by simpa [xcbRequest] using this.symm)

theorem xcb_enable_leaves_trace_fresh :
    let w : Window := ⟨⟨true, fun _ => true, fun _ => none⟩, ⟨accentPolicyFor false⟩⟩
    w.xcb.connection = true ∧ w.xcb.atomReply "_KDE_NET_WM_BLUR_BEHIND_REGION" = true ∧
      w.xcb.properties "_KDE_NET_WM_BLUR_BEHIND_REGION" ≠ some (.cardinal 0) ∧
      run .xcb w [true, false] ≠ run .xcb w [false] := by
  intro w
  exact ⟨rfl, rfl, fun h => Option.noConfusion h,
    xcb_enable_leaves_trace w rfl rfl fun h => Option.noConfusion h⟩

end BlurBehind

end Contour

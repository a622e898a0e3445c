import MiracleCast.Python.Unicode

/-!
# `build_universal_cmd`: the universal script's argument vector

`buildUniversalCmd py w mode` is the argument vector that `build_universal_cmd` assembles
from the widgets `w` of the window, under the interpreter `py`. The sink branch only reads
check boxes. The source branch validates the resolution, FPS and bitrate fields one after the
other: a field that is empty or not all digits after `strip` is left out silently, a field in
range is appended as its stripped text, and a field out of range shows an error dialog and
makes the function return `None`, which stops the remaining checks. The `int` calls can raise,
and the exception leaves `build_universal_cmd` (`BuildStop.raised`).

The FPS and bitrate checks are one definition, `numericArgs`, applied to each field's own
bounds, flag and message; the resolution check reads two fields and keeps its own body.

Main results:

* `buildUniversalCmd_source_shape`: whatever the field texts and the character table, a
  returned vector is the fixed prefix followed by the optional `-r`, `-f`, `-b` pairs and the
  flags, and every value is non-empty decimal digits whose value lies in the checked range;
* `buildUniversalCmd_rejected`: a rejection carries the message of the check that made it, and
  that check's fields are digits with a value outside its range;
* `buildUniversalCmd_initial`: the source tab's default texts pass every check;
* `buildUniversalCmd_raises_and_non_ascii`: under CPython 3.12 a superscript digit in the FPS
  field makes `int` raise, and Arabic-Indic digits are accepted and passed on verbatim.
-/

namespace MiracleCast

/-- The two roles the GUI runs the universal script in, by their process names. -/
inductive Role
  | sink
  | source
  deriving DecidableEq, Repr

/-- The process name `run_command` receives, and the `mode` of `build_universal_cmd`. -/
def Role.name : Role → String
  | .sink => "sink"
  | .source => "source"

/-- The other role. -/
def Role.other : Role → Role
  | .sink => .source
  | .source => .sink

@[simp] theorem Role.other_ne (r : Role) : r.other ≠ r := by cases r <;> decide

@[simp] theorem Role.ne_other (r : Role) : r ≠ r.other := by cases r <;> decide

/-- The window's state that the start handlers and `build_universal_cmd` read:
`universal_script` and the current text or check state of the two tabs' widgets. -/
structure Window where
  universalScript : String
  ifaceCombo : String
  uibcCheck : Bool
  greenScreenCheck : Bool
  hwFixesCheck : Bool
  sessionCheck : Bool
  sourceIfaceCombo : String
  sourceResWidth : String
  sourceResHeight : String
  sourceFps : String
  sourceBitrate : String
  sourceHwFixesCheck : Bool
  sourceSessionCheck : Bool
  deriving DecidableEq, Repr

/-- The widgets as `create_sink_tab` and `create_source_tab` leave them, with the
interfaces `refresh_interfaces` selected. -/
def Window.initial (script iface sourceIface : String) : Window where
  universalScript := script
  ifaceCombo := iface
  uibcCheck := false
  greenScreenCheck := false
  hwFixesCheck := true
  sessionCheck := true
  sourceIfaceCombo := sourceIface
  sourceResWidth := "1280"
  sourceResHeight := "720"
  sourceFps := "30"
  sourceBitrate := "8192"
  sourceHwFixesCheck := true
  sourceSessionCheck := true

/-- The window with its default texts and interface `wlan0` on both tabs. -/
def wlan0Window : Window :=
  Window.initial "/opt/miraclecast/miraclecast-universal.sh" "wlan0" "wlan0"

/-- How `build_universal_cmd` ends without a command: a rejected field (an error dialog with
`message`, then `return None`), or an exception raised by `int`. -/
inductive BuildStop
  | rejected (message : String)
  | raised (e : PyError)
  deriving DecidableEq, Repr

section Checks

variable (py : Python)

/-- `int(s)` inside `build_universal_cmd`, its exception passed on. -/
def pyInt (s : String) : Except BuildStop Nat :=
  (intOfDigits py s).mapError .raised

/-- The resolution check: both stripped fields non-empty and digits, then both values in
range for `-r WxH`. -/
def resolutionArgs (w : Window) : Except BuildStop (List String) :=
  let width := strip py.chars w.sourceResWidth
  let height := strip py.chars w.sourceResHeight
  if width ≠ "" ∧ height ≠ "" ∧ isdigit py.chars width ∧ isdigit py.chars height then do
    let widthVal ← pyInt py width
    let heightVal ← pyInt py height
    if 320 ≤ widthVal ∧ widthVal ≤ 3840 ∧ 240 ≤ heightVal ∧ heightVal ≤ 2160 then
      pure ["-r", width ++ "x" ++ height]
    else throw (.rejected "Invalid resolution. Width must be 320-3840, height 240-2160.")
  else pure []

/-- A one-field numeric check: the stripped text non-empty and digits, then its value in
`[lo, hi]` for `flag value`. -/
def numericArgs (text : String) (lo hi : Nat) (flag message : String) :
    Except BuildStop (List String) :=
  let value := strip py.chars text
  if value ≠ "" ∧ isdigit py.chars value then do
    let v ← pyInt py value
    if lo ≤ v ∧ v ≤ hi then pure [flag, value] else throw (.rejected message)
  else pure []

/-- The FPS check. -/
def fpsArgs (w : Window) : Except BuildStop (List String) :=
  numericArgs py w.sourceFps 10 60 "-f" "Invalid FPS. Must be between 10-60."

/-- The bitrate check. -/
def bitrateArgs (w : Window) : Except BuildStop (List String) :=
  numericArgs py w.sourceBitrate 1000 20000 "-b" "Invalid bitrate. Must be between 1000-20000 kbps."

end Checks

/-- The sink branch's options. -/
def sinkOptions (w : Window) : List String :=
  (if w.uibcCheck then ["-u"] else []) ++ (if w.greenScreenCheck then ["-g"] else []) ++
    (if !w.hwFixesCheck then ["-n"] else []) ++ (if !w.sessionCheck then ["-s"] else [])

/-- The source branch's closing options. -/
def sourceFlags (w : Window) : List String :=
  (if !w.sourceHwFixesCheck then ["-n"] else []) ++ (if !w.sourceSessionCheck then ["-s"] else [])

/-- The fixed start of the source branch's vector. -/
def sourcePrefix (w : Window) : List String :=
  [w.universalScript, "-i", w.sourceIfaceCombo, "-m", "source"]

/-- `build_universal_cmd(mode)`. -/
def buildUniversalCmd (py : Python) (w : Window) : Role → Except BuildStop (List String)
  | .sink => pure ([w.universalScript, "-i", w.ifaceCombo, "-m", "sink"] ++ sinkOptions w)
  | .source => do
    let res ← resolutionArgs py w
    let fps ← fpsArgs py w
    let bitrate ← bitrateArgs py w
    pure (sourcePrefix w ++ res ++ fps ++ bitrate ++ sourceFlags w)

/-! ### What a returned vector holds -/

/-- `Except`'s bind succeeds exactly when both stages do. -/
theorem except_bind_eq_ok {ε α β : Type} {x : Except ε α} {f : α → Except ε β} {b : β} :
    x >>= f = .ok b ↔ ∃ a, x = .ok a ∧ f a = .ok b := by
  cases x <;> simp [bind, Except.bind]

theorem except_bind_eq_error {ε α β : Type} {x : Except ε α} {f : α → Except ε β} {e : ε} :
    x >>= f = .error e ↔ x = .error e ∨ ∃ a, x = .ok a ∧ f a = .error e := by
  cases x <;> simp [bind, Except.bind]

/-- `int` raises; it never rejects. -/
theorem pyInt_ne_rejected (py : Python) (s m : String) : pyInt py s ≠ .error (.rejected m) := by
  cases h : intOfDigits py s <;> simp [pyInt, h, Except.mapError]

theorem pyInt_eq_ok {py : Python} {s : String} {v : Nat} (h : pyInt py s = .ok v) :
    ∃ ds, decimals py.chars s.toList = some ds ∧ digitsValue ds = v := by
  cases hi : intOfDigits py s with
  | error e => simp [pyInt, hi, Except.mapError] at h
  | ok a =>
    simp only [pyInt, hi, Except.mapError, Except.ok.injEq] at h
    obtain ⟨ds, hds, -, hv⟩ := intOfDigits_eq_ok_iff.mp hi
    exact ⟨ds, hds, hv.trans h⟩

/-- A value the source checks let through: non-empty, Unicode decimal digits only, and its
value in `[lo, hi]`. -/
def ValidNumber (py : Python) (lo hi : Nat) (s : String) : Prop :=
  s ≠ "" ∧ ∃ ds, decimals py.chars s.toList = some ds ∧ lo ≤ digitsValue ds ∧ digitsValue ds ≤ hi

theorem validNumber_of_pyInt {py : Python} {s : String} {v lo hi : Nat} (hs : s ≠ "")
    (h : pyInt py s = .ok v) (hlo : lo ≤ v) (hhi : v ≤ hi) : ValidNumber py lo hi s := by
  obtain ⟨ds, hds, rfl⟩ := pyInt_eq_ok h
  exact ⟨hs, ds, hds, hlo, hhi⟩

/-- The numeric check appends nothing, or its flag and a valid value. -/
theorem numericArgs_eq_ok {py : Python} {text : String} {lo hi : Nat} {flag message : String}
    {args : List String} (h : numericArgs py text lo hi flag message = .ok args) :
    args = [] ∨ ∃ v, args = [flag, v] ∧ ValidNumber py lo hi v := by
  unfold numericArgs at h
  dsimp only at h
  split at h
  · next hne =>
    obtain ⟨v, hv, h⟩ := except_bind_eq_ok.mp h
    split at h
    · next hr =>
      cases h
      exact .inr ⟨_, rfl, validNumber_of_pyInt hne.1 hv hr.1 hr.2⟩
    · cases h
  · cases h
    exact .inl rfl

/-- The resolution check appends nothing, or `-r` and `W x H` for valid `W` and `H`. -/
theorem resolutionArgs_eq_ok {py : Python} {w : Window} {args : List String}
    (h : resolutionArgs py w = .ok args) :
    args = [] ∨ ∃ W H, args = ["-r", W ++ "x" ++ H] ∧ ValidNumber py 320 3840 W ∧
      ValidNumber py 240 2160 H := by
  unfold resolutionArgs at h
  dsimp only at h
  split at h
  · next hne =>
    obtain ⟨wv, hw, h⟩ := except_bind_eq_ok.mp h
    obtain ⟨hv, hh, h⟩ := except_bind_eq_ok.mp h
    split at h
    · next hr =>
      cases h
      exact .inr ⟨_, _, rfl, validNumber_of_pyInt hne.1 hw hr.1 hr.2.1,
        validNumber_of_pyInt hne.2.1 hh hr.2.2.1 hr.2.2.2⟩
    · cases h
  · cases h
    exact .inl rfl

/-- The numeric check rejects only a field of digits whose value is out of range, with its
own message. -/
theorem numericArgs_eq_rejected {py : Python} {text : String} {lo hi : Nat}
    {flag message m : String} (h : numericArgs py text lo hi flag message = .error (.rejected m)) :
    m = message ∧ ∃ v, pyInt py (strip py.chars text) = .ok v ∧ ¬ (lo ≤ v ∧ v ≤ hi) := by
  unfold numericArgs at h
  dsimp only at h
  split at h
  · rcases except_bind_eq_error.mp h with hv | ⟨v, hv, h⟩
    · exact (pyInt_ne_rejected _ _ _ hv).elim
    split at h
    · cases h
    · next hr => cases h; exact ⟨rfl, v, hv, hr⟩
  · cases h

/-- The resolution check rejects only two fields of digits with a value out of range. -/
theorem resolutionArgs_eq_rejected {py : Python} {w : Window} {m : String}
    (h : resolutionArgs py w = .error (.rejected m)) :
    m = "Invalid resolution. Width must be 320-3840, height 240-2160." ∧
      ∃ W H, pyInt py (strip py.chars w.sourceResWidth) = .ok W ∧
        pyInt py (strip py.chars w.sourceResHeight) = .ok H ∧
        ¬ (320 ≤ W ∧ W ≤ 3840 ∧ 240 ≤ H ∧ H ≤ 2160) := by
  unfold resolutionArgs at h
  dsimp only at h
  split at h
  · rcases except_bind_eq_error.mp h with hw | ⟨W, hw, h⟩
    · exact (pyInt_ne_rejected _ _ _ hw).elim
    rcases except_bind_eq_error.mp h with hh | ⟨H, hh, h⟩
    · exact (pyInt_ne_rejected _ _ _ hh).elim
    split at h
    · cases h
    · next hr => cases h; exact ⟨rfl, W, H, hw, hh, hr⟩
  · cases h

/-- **Every rejection names its field**: `build_universal_cmd('source')` rejects only with the
message of a check whose field is digits with a value outside that check's range. -/
theorem buildUniversalCmd_rejected {py : Python} {w : Window} {m : String}
    (h : buildUniversalCmd py w .source = .error (.rejected m)) :
    (m = "Invalid resolution. Width must be 320-3840, height 240-2160." ∧
      ∃ W H, pyInt py (strip py.chars w.sourceResWidth) = .ok W ∧
        pyInt py (strip py.chars w.sourceResHeight) = .ok H ∧
        ¬ (320 ≤ W ∧ W ≤ 3840 ∧ 240 ≤ H ∧ H ≤ 2160)) ∨
    (m = "Invalid FPS. Must be between 10-60." ∧
      ∃ v, pyInt py (strip py.chars w.sourceFps) = .ok v ∧ ¬ (10 ≤ v ∧ v ≤ 60)) ∨
    (m = "Invalid bitrate. Must be between 1000-20000 kbps." ∧
      ∃ v, pyInt py (strip py.chars w.sourceBitrate) = .ok v ∧ ¬ (1000 ≤ v ∧ v ≤ 20000)) := by
  rcases except_bind_eq_error.mp h with h | ⟨_, -, h⟩
  · exact .inl (resolutionArgs_eq_rejected h)
  rcases except_bind_eq_error.mp h with h | ⟨_, -, h⟩
  · exact .inr (.inl (numericArgs_eq_rejected h))
  rcases except_bind_eq_error.mp h with h | ⟨_, -, h⟩
  · exact .inr (.inr (numericArgs_eq_rejected h))
  · cases h

/-- The defaults of the source tab pass every check, whatever the script and interfaces. -/
theorem buildUniversalCmd_initial (script iface sourceIface : String) :
    buildUniversalCmd cpython312 (Window.initial script iface sourceIface) .source =
      .ok [script, "-i", sourceIface, "-m", "source", "-r", "1280x720", "-f", "30", "-b",
        "8192"] :=
  rfl

/-- **Shape of a source command**: for every content of the four fields and every character
table, a vector `build_universal_cmd('source')` returns is the fixed prefix, then an optional
`-r W x H`, `-f F` and `-b B`, then the flags; `W`, `H`, `F` and `B` are non-empty decimal
digits whose values lie in `320..3840`, `240..2160`, `10..60` and `1000..20000`. -/
theorem buildUniversalCmd_source_shape {py : Python} {w : Window} {argv : List String}
    (h : buildUniversalCmd py w .source = .ok argv) :
    ∃ res fps bitrate, argv = sourcePrefix w ++ res ++ fps ++ bitrate ++ sourceFlags w ∧
      (res = [] ∨ ∃ W H, res = ["-r", W ++ "x" ++ H] ∧ ValidNumber py 320 3840 W ∧
        ValidNumber py 240 2160 H) ∧
      (fps = [] ∨ ∃ F, fps = ["-f", F] ∧ ValidNumber py 10 60 F) ∧
      (bitrate = [] ∨ ∃ B, bitrate = ["-b", B] ∧ ValidNumber py 1000 20000 B) := by
  obtain ⟨res, hres, h⟩ := except_bind_eq_ok.mp h
  obtain ⟨fps, hfps, h⟩ := except_bind_eq_ok.mp h
  obtain ⟨bitrate, hbitrate, h⟩ := except_bind_eq_ok.mp h
  cases h
  exact ⟨res, fps, bitrate, rfl, resolutionArgs_eq_ok hres, numericArgs_eq_ok hfps,
    numericArgs_eq_ok hbitrate⟩

/-- The default source tab returns its vector, of that shape. -/
theorem buildUniversalCmd_source_shape_wlan0 :
    buildUniversalCmd cpython312 wlan0Window .source =
      .ok ["/opt/miraclecast/miraclecast-universal.sh", "-i", "wlan0", "-m", "source",
        "-r", "1280x720", "-f", "30", "-b", "8192"] ∧
    ∃ res fps bitrate, ["/opt/miraclecast/miraclecast-universal.sh", "-i", "wlan0", "-m",
        "source", "-r", "1280x720", "-f", "30", "-b", "8192"] =
        sourcePrefix wlan0Window ++ res ++ fps ++ bitrate ++ sourceFlags wlan0Window ∧
      (res = [] ∨ ∃ W H, res = ["-r", W ++ "x" ++ H] ∧ ValidNumber cpython312 320 3840 W ∧
        ValidNumber cpython312 240 2160 H) ∧
      (fps = [] ∨ ∃ F, fps = ["-f", F] ∧ ValidNumber cpython312 10 60 F) ∧
      (bitrate = [] ∨ ∃ B, bitrate = ["-b", B] ∧ ValidNumber cpython312 1000 20000 B) :=
  ⟨by decide, buildUniversalCmd_source_shape (by decide)⟩

/-! ### The `isdigit`/`int` gap -/

/-- `wlan0Window` with the FPS field `fps`. -/
def sourceTabWithFps (fps : String) : Window :=
  { wlan0Window with sourceFps := fps }

/-- Under CPython 3.12, a superscript two in the FPS field passes `isdigit` and makes `int`
raise `ValueError` out of `build_universal_cmd`, while Arabic-Indic thirty passes both checks
and reaches the command line as non-ASCII digits. -/
theorem buildUniversalCmd_raises_and_non_ascii :
    buildUniversalCmd cpython312 (sourceTabWithFps "²") .source = .error (.raised (.valueError "²")) ∧
    buildUniversalCmd cpython312 (sourceTabWithFps "٣٠") .source =
      .ok ["/opt/miraclecast/miraclecast-universal.sh", "-i", "wlan0", "-m", "source",
        "-r", "1280x720", "-f", "٣٠", "-b", "8192"] := by
  decide

end MiracleCast

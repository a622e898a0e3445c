import MiracleCast.Interfaces
import MiracleCast.Setup

/-!
# The application

The window as Qt runs it: the supervisor's state of `Supervisor/`, the two interface combo
boxes that `refresh_interfaces` fills, the other widgets of the sink and source tabs, the setup
tab's labels, and the two one-shot timers, `check_dependencies` 100 ms after `__init__` and
`check_services_status` 500 ms after `create_setup_tab`. `appStep` is one event of Qt's loop:
a button, a timer, a signal of a child, an edit of a widget, or the window closing, after which
`atexit` runs `cleanup_on_exit`. An exception that escapes a slot ends the run.

The start buttons read the tabs through `App.window`, the `Window` of `build_universal_cmd`:
the current texts of the two combo boxes and the other widgets of the form.
-/

namespace MiracleCast

/-! ### Combo boxes -/

/-- A `QComboBox` the user cannot type into: its items, and its current text, which is one of
the items, or empty when there is none. -/
structure ComboBox where
  items : List String
  currentText : String
  current_mem : currentText ∈ items ∨ (items = [] ∧ currentText = "")

namespace ComboBox

/-- A new combo box. -/
def empty : ComboBox := ⟨[], "", .inr ⟨rfl, rfl⟩⟩

/-- `clear()` then `addItems(items)`: the first item becomes current. -/
def fill (items : List String) : ComboBox where
  items := items
  currentText := items.headD ""
  current_mem := by cases items <;> simp

/-- The user picks item `i`; there is nothing to pick past the last item. -/
def select (b : ComboBox) (i : Nat) : ComboBox :=
  match h : b.items[i]? with
  | some x => ⟨b.items, x, .inl (List.getElem?_mem h)⟩
  | none => b

@[simp] theorem fill_items (items : List String) : (fill items).items = items := rfl

@[simp] theorem fill_currentText (items : List String) :
    (fill items).currentText = items.headD "" := rfl

@[simp] theorem select_items (b : ComboBox) (i : Nat) : (b.select i).items = b.items := by
  unfold select; split <;> rfl

/-- A combo box whose items are all empty shows the empty text. -/
theorem currentText_eq_empty {b : ComboBox} (h : ∀ x ∈ b.items, x = "") : b.currentText = "" :=
  b.current_mem.elim (h _) (·.2)

end ComboBox

/-! ### The state -/

/-- The check boxes and line edits of the sink and source tabs. -/
structure Form where
  uibcCheck : Bool
  greenScreenCheck : Bool
  hwFixesCheck : Bool
  sessionCheck : Bool
  sourceResWidth : String
  sourceResHeight : String
  sourceFps : String
  sourceBitrate : String
  sourceHwFixesCheck : Bool
  sourceSessionCheck : Bool
  deriving DecidableEq, Repr

/-- The widgets as `create_sink_tab` and `create_source_tab` leave them. -/
def Form.initial : Form :=
  ⟨false, false, true, true, "1280", "720", "30", "8192", true, true⟩

/-- The application window. -/
structure App where
  /-- The processes, `self.processes`, the status labels, the console and the dialogs. -/
  sys : Sys
  /-- `self.universal_script`. -/
  universalScript : String
  /-- `self.iface_combo`. -/
  ifaceCombo : ComboBox
  /-- `self.source_iface_combo`. -/
  sourceIfaceCombo : ComboBox
  form : Form
  /-- `self.nm_status` and `self.wpa_status`. -/
  services : ServiceLabels
  /-- The timer of `__init__` has not fired `check_dependencies` yet. -/
  dependencyCheckPending : Bool
  /-- The timer of `create_setup_tab` has not fired `check_services_status` yet. -/
  statusCheckPending : Bool

namespace App

/-- The window after `__init__`: empty combo boxes, the tabs' defaults, both timers pending. -/
def init (universalScript : String) : App :=
  ⟨.init, universalScript, .empty, .empty, .initial, .initial, true, true⟩

/-- The widgets `build_universal_cmd` reads. -/
def window (a : App) : Window where
  universalScript := a.universalScript
  ifaceCombo := a.ifaceCombo.currentText
  uibcCheck := a.form.uibcCheck
  greenScreenCheck := a.form.greenScreenCheck
  hwFixesCheck := a.form.hwFixesCheck
  sessionCheck := a.form.sessionCheck
  sourceIfaceCombo := a.sourceIfaceCombo.currentText
  sourceResWidth := a.form.sourceResWidth
  sourceResHeight := a.form.sourceResHeight
  sourceFps := a.form.sourceFps
  sourceBitrate := a.form.sourceBitrate
  sourceHwFixesCheck := a.form.sourceHwFixesCheck
  sourceSessionCheck := a.form.sourceSessionCheck

@[simp] theorem window_ifaceCombo (a : App) : a.window.ifaceCombo = a.ifaceCombo.currentText :=
  rfl

/-! ### The handlers outside the supervisor -/

/-- Combo box `c` after `clear()` and `addItems(items)`. -/
def fill (a : App) (items : List String) : Combo → App
  | .iface => { a with ifaceCombo := .fill items }
  | .sourceIface => { a with sourceIfaceCombo := .fill items }

/-- `refresh_interfaces(combo)`. -/
def refreshInterfaces (py : Python) (a : App) (combo : ComboArg)
    (listed ipLink : Except String Completed) : App :=
  match MiracleCast.refreshInterfaces py combo listed ipLink with
  | .ok (items, widgets) => widgets.foldl (fun a c => a.fill items c) a
  | .error e => { a with sys := a.sys.log ("Interface refresh failed: " ++ e) true }

/-- `check_dependencies()`. -/
def checkDependencies (py : Python) (a : App) (scriptExists : Bool)
    (commandExists : String → Bool) (listed ipLink : Except String Completed) : App :=
  match MiracleCast.checkDependencies a.universalScript scriptExists commandExists with
  | some message => { a with sys := a.sys.showError message }
  | none => a.refreshInterfaces py .none listed ipLink

/-- `check_services_status()`. -/
def checkServicesStatus (a : App) (isActive : String → Except String Int) : App :=
  let r := a.sys.checkServicesStatus a.services isActive
  { a with sys := r.1, services := r.2 }

/-- A click on a service button: `manage_service` with the button's arguments. -/
def manageService (py : Python) (a : App) (b : ServiceButton) (nameAccepted : Bool)
    (result : Except String ServiceRun) (isActive : String → Except String Int) : App :=
  let r := a.sys.manageService py a.services b.args.1 b.args.2 nameAccepted result isActive
  { a with sys := r.1, services := r.2 }

/-- The user picks item `i` of combo box `c`. -/
def select (a : App) (i : Nat) : Combo → App
  | .iface => { a with ifaceCombo := a.ifaceCombo.select i }
  | .sourceIface => { a with sourceIfaceCombo := a.sourceIfaceCombo.select i }

/-- A supervisor handler, on the supervisor's part. -/
def supervise (py : Python) (a : App) (act : Action) : Except PyError App := do
  let sys ← step py a.sys act
  pure { a with sys }

end App

/-! ### Events -/

/-- One event of Qt's loop. The arguments are what the outside world answers: the waits and
launches of the supervisor, the commands' results and exceptions, and the user's choices. -/
inductive AppAction
  | startSink (old : WaitResult) (launch : LaunchResult)
  | startSource (old : WaitResult) (launch : LaunchResult)
  | stopSink (wait : WaitResult)
  | stopSource (wait : WaitResult)
  /-- The last window closes; `atexit` runs `cleanup_on_exit`. -/
  | exit (waits : Role → WaitResult)
  | started (i : Nat)
  | failedToStart (i : Nat)
  | finished (i : Nat) (exitCode : Int)
  | readyRead (i : Nat) (isError : Bool) (chunk : List UInt8)
  /-- The timer of `__init__` fires. -/
  | dependencyTimeout (scriptExists : Bool) (commandExists : String → Bool)
      (listed ipLink : Except String Completed)
  /-- The sink tab's `Refresh` button. -/
  | refreshSink (listed ipLink : Except String Completed)
  /-- The source tab's `Refresh` button. -/
  | refreshSource (listed ipLink : Except String Completed)
  | select (c : Combo) (i : Nat)
  /-- The user changes check boxes and line edits. -/
  | edit (form : Form)
  /-- The timer of `create_setup_tab` fires. -/
  | statusTimeout (isActive : String → Except String Int)
  /-- The `Refresh Status` button. -/
  | refreshStatus (isActive : String → Except String Int)
  /-- A service button, with the outcome of `manage_service`'s format test. -/
  | service (b : ServiceButton) (nameAccepted : Bool) (result : Except String ServiceRun)
      (isActive : String → Except String Int)
  /-- The `Clear Console` button. -/
  | clearConsole

/-- The supervisor's action an event runs, with the window the start buttons read. -/
def AppAction.toAction (w : Window) : AppAction → Option Action
  | .startSink old launch => some (.startSinkService w old launch)
  | .startSource old launch => some (.startSourceService w old launch)
  | .stopSink wait => some (.stopSinkService wait)
  | .stopSource wait => some (.stopSourceService wait)
  | .exit waits => some (.cleanupOnExit waits)
  | .started i => some (.started i)
  | .failedToStart i => some (.failedToStart i)
  | .finished i code => some (.finished i code)
  | .readyRead i e chunk => some (.readyRead i e chunk)
  | _ => none

/-- One event. -/
def appStep (py : Python) (a : App) : AppAction → Except PyError App
  | .startSink old launch => a.supervise py (.startSinkService a.window old launch)
  | .startSource old launch => a.supervise py (.startSourceService a.window old launch)
  | .stopSink wait => a.supervise py (.stopSinkService wait)
  | .stopSource wait => a.supervise py (.stopSourceService wait)
  | .exit waits => a.supervise py (.cleanupOnExit waits)
  | .started i => a.supervise py (.started i)
  | .failedToStart i => a.supervise py (.failedToStart i)
  | .finished i code => a.supervise py (.finished i code)
  | .readyRead i e chunk => a.supervise py (.readyRead i e chunk)
  | .dependencyTimeout scriptExists commandExists listed ipLink =>
    .ok <| if a.dependencyCheckPending then
      { a with dependencyCheckPending := false }.checkDependencies py scriptExists commandExists
        listed ipLink
    else a
  | .refreshSink listed ipLink => .ok (a.refreshInterfaces py sinkRefreshArg listed ipLink)
  | .refreshSource listed ipLink => .ok (a.refreshInterfaces py sourceRefreshArg listed ipLink)
  | .select c i => .ok (a.select i c)
  | .edit form => .ok { a with form }
  | .statusTimeout isActive =>
    .ok <| if a.statusCheckPending then
      { a with statusCheckPending := false }.checkServicesStatus isActive
    else a
  | .refreshStatus isActive => .ok (a.checkServicesStatus isActive)
  | .service b nameAccepted result isActive =>
    .ok (a.manageService py b nameAccepted result isActive)
  | .clearConsole => .ok { a with sys := { a.sys with console := [] } }

/-- A list of events, stopping at the first exception. -/
def appRun (py : Python) (a : App) : List AppAction → Except PyError App
  | [] => .ok a
  | act :: acts => (appStep py a act).bind fun a' => appRun py a' acts

/-- The states some run reaches from the window after `__init__`. -/
inductive AppReachable (py : Python) : App → Prop
  | init (universalScript : String) : AppReachable py (App.init universalScript)
  | step {a a' : App} {act : AppAction} :
      AppReachable py a → appStep py a act = .ok a' → AppReachable py a'

/-! ### Filling the combo boxes -/

namespace App

@[simp] theorem fill_sys (a : App) (items : List String) (c : Combo) :
    (a.fill items c).sys = a.sys := by
  cases c <;> rfl

@[simp] theorem fill_dependencyCheckPending (a : App) (items : List String) (c : Combo) :
    (a.fill items c).dependencyCheckPending = a.dependencyCheckPending := by
  cases c <;> rfl

/-- Filling combo boxes one after the other keeps the supervisor's part and the timer. -/
theorem foldl_fill (items : List String) :
    ∀ (widgets : List Combo) (a : App),
      (widgets.foldl (fun a c => a.fill items c) a).sys = a.sys ∧
        (widgets.foldl (fun a c => a.fill items c) a).dependencyCheckPending =
          a.dependencyCheckPending
  | [], _ => ⟨rfl, rfl⟩
  | c :: widgets, a => by
    simpa only [List.foldl_cons, fill_sys, fill_dependencyCheckPending] using
      foldl_fill items widgets (a.fill items c)

end App

end MiracleCast

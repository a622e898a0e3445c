import MiracleCast.Supervisor.State
import MiracleCast.Python.Utf8

/-!
# The supervisor's handlers and its runs

Each method of `MiracleCastGUI` that touches the children becomes a function on `Sys`, under
its own name: `processFinished`, `processOutput`, `runCommand`, the start and stop handlers
of the two tabs and `cleanupOnExit`. Where a method blocks on a child (`waitForFinished`,
`waitForStarted`) the model takes the child's behaviour as an argument: a `WaitResult` says
whether a terminated child exits within the wait, a `LaunchResult` how `start` ends.

`Action` is everything that can happen next: a button press, with the behaviour of the
children it waits on, the exit of the application, or an event of one child that Qt delivers
to the signal handlers `run_command` connected (`started`, `finished`, `readyRead`). During a
wait Qt delivers only the waited child's own signals, which is why a request is one step.
`step` is one action, `run` a list of them, and `Reachable` the states `run` reaches from
`Sys.init`. A Python exception out of a slot ends the application, so `step` returns
`Except PyError Sys` and a run stops at the first exception.

`self.show_error` in `build_universal_cmd` opens a modal dialog whose event loop can deliver
child events; they touch neither the fields `build_universal_cmd` reads nor the labels the
handler sets afterwards, so such an event is the same as one delivered before the request.
-/

namespace MiracleCast

/-- How a child answers `terminate()` within `waitForFinished`: it exits, with this exit code,
or the wait times out. -/
inductive WaitResult
  | exits (exitCode : Int)
  | timesOut
  deriving DecidableEq, Repr

/-- How `process.start` and `waitForStarted(5000)` end: the child starts; the wait times out
while the child is still starting; `exec` fails; or `start` raises with this message. -/
inductive LaunchResult
  | started
  | timesOut
  | failsToStart
  | raises (message : String)
  deriving DecidableEq, Repr

namespace Sys

/-! ### Signal handlers -/

/-- `process_finished(process_name, exit_code, exit_status)`; `exit_status` is not read. -/
def processFinished (s : Sys) (r : Role) (exitCode : Int) : Sys :=
  if exitCode ≠ 0 then
    (s.log ("Process '" ++ r.name ++ "' exited with code " ++ toString exitCode) true).setStatus r
      "Error"
  else (s.log ("Process '" ++ r.name ++ "' completed successfully") false).setStatus r "Not Running"

@[simp] theorem processFinished_children (s : Sys) (r : Role) (exitCode : Int) :
    (s.processFinished r exitCode).children = s.children := by
  unfold processFinished; split <;> rfl

@[simp] theorem processFinished_processes (s : Sys) (r : Role) (exitCode : Int) :
    (s.processFinished r exitCode).processes = s.processes := by
  unfold processFinished; split <;> rfl

@[simp] theorem processFinished_status (s : Sys) (r : Role) (exitCode : Int) :
    (s.processFinished r exitCode).status =
      Function.update s.status r (if exitCode ≠ 0 then "Error" else "Not Running") := by
  unfold processFinished; split <;> simp [*]

/-- `process_output(process, name, is_error)`, where `chunk` is what `readAllStandardError`
(if `isError`) or `readAllStandardOutput` returned. -/
def processOutput (s : Sys) (r : Role) (isError : Bool) (chunk : List UInt8) : Sys :=
  s.log ("[" ++ r.name ++ "] " ++ String.mk (decodeUtf8 chunk)) isError

/-! ### Waiting on a child -/

/-- `terminate()` then `waitForFinished(msecs)` on child `i`, with the wait's answer. A child
whose `QProcess` still runs either exits in time, and `finished` reaches `process_finished`
inside the wait, or the wait times out; on any other child the wait answers `False` at once.
Output that Qt relays inside the wait is taken as `readyRead` events just before the handler.
That is exact for the stop requests (`Sys.stopServiceRelaying_eq`, in `Relay.lean`); in
`cleanup_on_exit` only the place of the line `Cleaning up process: …` among the output differs. -/
def terminateAndWait (s : Sys) (i : Nat) (w : WaitResult) : Sys × Bool :=
  match s.children[i]?, w with
  | some c, .exits code =>
    if c.state.qtRunning then (processFinished (s.setChildState i .exited) c.role code, true)
    else (s, false)
  | _, _ => (s, false)

/-- `kill()`: SIGKILL ends a live child. -/
def kill (s : Sys) (i : Nat) : Sys :=
  match s.children[i]? with
  | some c => if c.state.isLive then s.setChildState i .killed else s
  | none => s

/-- The stop sequence of `run_command` and `stop_*_service`: `terminate()`,
`waitForFinished(3000)`, and on `False` an error line and `kill()`. -/
def terminateOrKill (s : Sys) (i : Nat) (w : WaitResult) (forcingMessage : String) : Sys :=
  match terminateAndWait s i w with
  | (s, true) => s
  | (s, false) => (s.log forcingMessage true).kill i

/-! ### `run_command` -/

/-- `self.processes.pop(process_name, None)`. -/
def popEntry (s : Sys) (r : Role) : Sys :=
  { s with processes := s.processes.pop r }

/-- The `try` block of `run_command` on the new child `i`: `process.start(cmd[0], cmd[1:])`
and `waitForStarted(5000)`. On a failed wait the entry is popped and the label set to
`Start Failed`; on an exception the entry is popped. -/
def startProcess (s : Sys) (i : Nat) (argv : List String) (r : Role) :
    LaunchResult → Sys
  | .started => s.setChildState i .running
  | .timesOut => (((s.log ("Failed to start process: " ++ argv.headD "") true)).setStatus r
      "Start Failed").popEntry r
  | .failsToStart => ((((s.setChildState i .failed).log ("Failed to start process: " ++
      argv.headD "") true)).setStatus r "Start Failed").popEntry r
  | .raises message => ((s.setChildState i .failed).log ("Exception starting process: " ++
      message) true).popEntry r

/-- The start of `run_command`: an existing process of the role is stopped. -/
def stopExisting (s : Sys) (r : Role) (old : WaitResult) : Sys :=
  match s.processes.get r with
  | some i => s.terminateOrKill i old "Process didn't terminate gracefully, forcing kill"
  | none => s

/-- The end of `run_command`: `process = QProcess(self)`, `self.processes[process_name] =
process`, and the `try` block. An empty `cmd` makes `cmd[0]` raise `IndexError` there. -/
def launchChild (s : Sys) (argv : List String) (r : Role) (launch : LaunchResult) : Sys :=
  let i := s.children.length
  let s := { s with
    children := s.children ++ [({ role := r, state := .starting } : Child)]
    processes := s.processes.set r i }
  s.startProcess i argv r (if argv = [] then .raises "list index out of range" else launch)

/-- `run_command(cmd, process_name)`. -/
def runCommand (s : Sys) (cmd : Option (List String)) (r : Role) (old : WaitResult)
    (launch : LaunchResult) : Sys :=
  match cmd with
  | none => s.log "Invalid command parameters, cannot execute" true
  | some argv =>
    ((s.stopExisting r old).log ("Running: " ++ " ".intercalate argv) false).launchChild argv r
      launch

/-! ### The tabs' buttons -/

/-- `cmd = self.build_universal_cmd(mode)` as its caller sees it: the vector, or `None`
after the error dialog; an exception propagates. -/
def callBuild (s : Sys) : Except BuildStop (List String) → Except PyError (Sys × Option (List String))
  | .ok argv => .ok (s, some argv)
  | .error (.rejected message) => .ok (s.showError message, none)
  | .error (.raised e) => .error e

/-- The common body of `start_sink_service` and `start_source_service`. -/
def startService (py : Python) (s : Sys) (w : Window) (r : Role) (iface : String)
    (startedMessage : String) (old : WaitResult) (launch : LaunchResult) : Except PyError Sys :=
  if iface = "" then .ok (s.showError "Select network interface first")
  else do
    let (s, cmd) ← s.callBuild (buildUniversalCmd py w r)
    pure (((s.runCommand cmd r old launch).setStatus r "Running").log startedMessage false)

/-- The caller's view of `build_universal_cmd`: the vector, or `None` after the rejection's
dialog. -/
theorem callBuild_eq_ok {s s₁ : Sys} {b : Except BuildStop (List String)}
    {cmd : Option (List String)} (h : s.callBuild b = .ok (s₁, cmd)) :
    (∃ argv, b = .ok argv ∧ s₁ = s ∧ cmd = some argv) ∨
      ∃ message, b = .error (.rejected message) ∧ s₁ = s.showError message ∧ cmd = none := by
  unfold callBuild at h
  split at h <;> cases h
  · exact .inl ⟨_, rfl, rfl, rfl⟩
  · exact .inr ⟨_, rfl, rfl, rfl⟩

/-- **What a start request does**: without an interface it shows a dialog; otherwise it runs
what `build_universal_cmd` returned to it, then sets the label and logs the start. -/
theorem startService_cases {py : Python} {s s' : Sys} {w : Window} {r : Role} {iface m : String}
    {old : WaitResult} {launch : LaunchResult}
    (h : s.startService py w r iface m old launch = .ok s') :
    (iface = "" ∧ s' = s.showError "Select network interface first") ∨
      iface ≠ "" ∧ ∃ s₁ cmd, s.callBuild (buildUniversalCmd py w r) = .ok (s₁, cmd) ∧
        s' = ((s₁.runCommand cmd r old launch).setStatus r "Running").log m false := by
  unfold startService at h
  split at h
  · next hi => exact .inl ⟨hi, (Except.ok.inj h).symm⟩
  · next hi =>
    obtain ⟨⟨s₁, cmd⟩, hb, h⟩ := except_bind_eq_ok.mp h
    exact .inr ⟨hi, s₁, cmd, hb, (Except.ok.inj h).symm⟩

/-- `start_sink_service`. -/
def startSinkService (py : Python) (s : Sys) (w : Window) (old : WaitResult)
    (launch : LaunchResult) : Except PyError Sys :=
  s.startService py w .sink w.ifaceCombo
    ("Started sink mode with universal script on " ++ w.ifaceCombo) old launch

/-- `start_source_service`. -/
def startSourceService (py : Python) (s : Sys) (w : Window) (old : WaitResult)
    (launch : LaunchResult) : Except PyError Sys :=
  s.startService py w .source w.sourceIfaceCombo
    ("Started source mode with universal script on " ++ w.sourceIfaceCombo) old launch

/-- The common body of `stop_sink_service` and `stop_source_service`. -/
def stopService (s : Sys) (r : Role) (w : WaitResult) (stoppedMessage : String) : Sys :=
  match s.processes.get r with
  | some i => ((s.terminateOrKill i w "Process didn't terminate gracefully, forcing...").setStatus
      r "Not Running").log stoppedMessage false
  | none => s

/-- `stop_sink_service`. -/
def stopSinkService (s : Sys) (w : WaitResult) : Sys :=
  s.stopService .sink w "Stopped sink service"

/-- `stop_source_service`. -/
def stopSourceService (s : Sys) (w : WaitResult) : Sys :=
  s.stopService .source w "Stopped source service"

/-! ### Exit -/

/-- One iteration of `cleanup_on_exit`'s loop, on the entry `(r, i)`. -/
def cleanupEntry (s : Sys) (r : Role) (i : Nat) (w : WaitResult) : Sys :=
  match s.children[i]? with
  | some c =>
    if c.state.qtRunning then
      match (s.log ("Cleaning up process: " ++ r.name) false).terminateAndWait i w with
      | (s, true) => s
      | (s, false) => s.kill i
    else s
  | none => s

/-- `cleanup_on_exit`, run by `atexit`: every entry of `self.processes`, in insertion order,
with `waitForFinished(2000)`. -/
def cleanupOnExit (s : Sys) (waits : Role → WaitResult) : Sys :=
  s.processes.entries.foldl (fun s e => s.cleanupEntry e.1 e.2 (waits e.1)) s

/-! ### Events of a child -/

/-- Child `i` confirms its start (the `started` signal, which no handler receives), possibly
after `waitForStarted` gave up on it. -/
def childStarted (s : Sys) (i : Nat) : Sys :=
  match s.children[i]? with
  | some c => if c.state = .starting then s.setChildState i .running else s
  | none => s

/-- `exec` of child `i` fails after `waitForStarted` gave up on it. -/
def childFailedToStart (s : Sys) (i : Nat) : Sys :=
  match s.children[i]? with
  | some c => if c.state = .starting then s.setChildState i .failed else s
  | none => s

/-- Child `i` exits on its own, or its earlier SIGKILL death is reported: `finished` reaches
`process_finished` with the role name `run_command` bound. -/
def childFinished (s : Sys) (i : Nat) (exitCode : Int) : Sys :=
  match s.children[i]? with
  | some c =>
    if c.state = .running ∨ c.state = .killed then
      (s.setChildState i .exited).processFinished c.role exitCode
    else s
  | none => s

/-- Child `i` has output on a stream: `readyRead` reaches `process_output`. Qt reads a child's
pipes for as long as its `QProcess` is not `NotRunning`, so a child still starting, after
`waitForStarted` gave up on it, has its output logged too. -/
def childReadyRead (s : Sys) (i : Nat) (isError : Bool) (chunk : List UInt8) : Sys :=
  match s.children[i]? with
  | some c => if c.state.qtRunning then s.processOutput c.role isError chunk else s
  | none => s

end Sys

/-! ### Runs -/

/-- What can happen next. -/
inductive Action
  | startSinkService (w : Window) (old : WaitResult) (launch : LaunchResult)
  | startSourceService (w : Window) (old : WaitResult) (launch : LaunchResult)
  | stopSinkService (wait : WaitResult)
  | stopSourceService (wait : WaitResult)
  | cleanupOnExit (waits : Role → WaitResult)
  | started (i : Nat)
  | failedToStart (i : Nat)
  | finished (i : Nat) (exitCode : Int)
  | readyRead (i : Nat) (isError : Bool) (chunk : List UInt8)

/-- One action. -/
def step (py : Python) (s : Sys) : Action → Except PyError Sys
  | .startSinkService w old launch => s.startSinkService py w old launch
  | .startSourceService w old launch => s.startSourceService py w old launch
  | .stopSinkService wait => .ok (s.stopSinkService wait)
  | .stopSourceService wait => .ok (s.stopSourceService wait)
  | .cleanupOnExit waits => .ok (s.cleanupOnExit waits)
  | .started i => .ok (s.childStarted i)
  | .failedToStart i => .ok (s.childFailedToStart i)
  | .finished i exitCode => .ok (s.childFinished i exitCode)
  | .readyRead i isError chunk => .ok (s.childReadyRead i isError chunk)

/-- A list of actions, stopping at the first exception. -/
def run (py : Python) (s : Sys) : List Action → Except PyError Sys
  | [] => .ok s
  | a :: as => (step py s a).bind fun s' => run py s' as

/-- The states some run reaches from the window after `__init__`. -/
inductive Reachable (py : Python) : Sys → Prop
  | init : Reachable py Sys.init
  | step {s s' : Sys} {a : Action} : Reachable py s → step py s a = .ok s' → Reachable py s'

/-! ### A window with a child of each role -/

/-- `Start Sink` on `wlan0Window`, whose child starts. -/
def startSinkWlan0 : Action := .startSinkService wlan0Window (.exits 0) .started

/-- `Start Source` on `wlan0Window`, whose child starts. -/
def startSourceWlan0 : Action := .startSourceService wlan0Window (.exits 0) .started

/-- The window after `startSinkWlan0`: one running sink child, its entry. -/
def sinkRunning : Sys := ((step cpython312 Sys.init startSinkWlan0).toOption).getD Sys.init

/-- The window after `startSinkWlan0` and `startSourceWlan0`: a running sink child and a
running source child, each its role's entry, both labels `Running`. -/
def bothRunning : Sys := ((step cpython312 sinkRunning startSourceWlan0).toOption).getD sinkRunning

end MiracleCast

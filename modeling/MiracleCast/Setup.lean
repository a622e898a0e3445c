import MiracleCast.Supervisor.Console

/-!
# The setup tab

The setup tab has four buttons that call `manage_service` with `NetworkManager` or
`wpa_supplicant` and `start` true or false, a `Refresh Status` button, and two labels that
`check_services_status` sets from `systemctl is-active`; a one-shot timer calls it 500 ms after
the tab is built.

`manage_service(service_name, start)` tests the name's format, then checks it against a list of
three allowed services, and only then runs `sudo systemctl start|stop <name>`. Line 605, the
format test, repeats the tail of its condition (`…+$', service_name):$', service_name):`) and
does not parse, so the source fixes no value for it: the model takes the test's outcome as a
parameter and follows the rest of the method as written. Both handlers only write the console,
the dialogs and the setup tab's labels: they leave the supervisor's children, registry and
status labels alone (`Sys.Agree.manageService`).
-/

namespace MiracleCast

/-- The services `manage_service` may start and stop. -/
def allowedServices : List String := ["NetworkManager", "wpa_supplicant", "network-manager"]

/-! ### `manage_service` -/

/-- What `manage_service(service_name, start)` decides before it runs anything: the message of
the error it reports, or the command it runs. `nameAccepted` is the outcome of the format test
on line 605. -/
def manageServiceCommand (serviceName : String) (start : Bool) (nameAccepted : Bool) :
    Except String (List String) :=
  if !nameAccepted then .error ("Invalid service name format: " ++ serviceName)
  else if serviceName ∉ allowedServices then
    .error ("Service management not allowed for: " ++ serviceName)
  else .ok ["sudo", "systemctl", if start then "start" else "stop", serviceName]

/-- What `manage_service` reads of the `CompletedProcess` that `subprocess.run(…,
capture_output=True, text=True)` returns. -/
structure ServiceRun where
  returncode : Int
  stderr : String
  deriving DecidableEq, Repr

/-- The setup tab's labels `nm_status` and `wpa_status`. -/
structure ServiceLabels where
  nmStatus : String
  wpaStatus : String
  deriving DecidableEq, Repr

/-- Both labels read `Unknown` when the tab is built. -/
def ServiceLabels.initial : ServiceLabels := ⟨"Unknown", "Unknown"⟩

/-- `check_services_status` up to its effects: the texts of the two labels, or the text of the
exception it catches. `isActive name` is the exit code of `systemctl is-active name`, or the text
of what `subprocess.call` raised. -/
def checkServicesStatus (isActive : String → Except String Int) :
    Except String ServiceLabels := do
  let nmActive := (← isActive "NetworkManager") == 0
  let wpaActive := (← isActive "wpa_supplicant") == 0
  pure ⟨if nmActive then "Running" else "Stopped", if wpaActive then "Running" else "Stopped"⟩

/-- `check_services_status` on the console and the labels. -/
def Sys.checkServicesStatus (s : Sys) (labels : ServiceLabels)
    (isActive : String → Except String Int) : Sys × ServiceLabels :=
  match MiracleCast.checkServicesStatus isActive with
  | .ok labels' => (s, labels')
  | .error e => (s.log ("Service status check failed: " ++ e) true, labels)

/-- `manage_service(service_name, start)` on the dialogs, the console and the labels, with the
outcome `nameAccepted` of the format test. `result` is what `subprocess.run` returns or the text
of what it raised, and `isActive` is read by the `check_services_status` that follows a
success. -/
def Sys.manageService (py : Python) (s : Sys) (labels : ServiceLabels) (serviceName : String)
    (start : Bool) (nameAccepted : Bool) (result : Except String ServiceRun)
    (isActive : String → Except String Int) : Sys × ServiceLabels :=
  match manageServiceCommand serviceName start nameAccepted with
  | .error message => ((s.showError message).log message true, labels)
  | .ok _ =>
    let action := if start then "start" else "stop"
    match result with
    | .error e => ((s.showError ("Error: " ++ e)).log e true, labels)
    | .ok result =>
      if result.returncode = 0 then
        (s.log (serviceName ++ " " ++ action ++ "ed successfully") false).checkServicesStatus
          labels isActive
      else
        let errorMsg := if strip py.chars result.stderr = "" then
          "Failed to " ++ action ++ " " ++ serviceName else strip py.chars result.stderr
        ((s.showError errorMsg).log errorMsg true, labels)

/-- The setup tab's four service buttons. -/
inductive ServiceButton
  | nmStop
  | nmStart
  | wpaStop
  | wpaStart
  deriving DecidableEq, Repr

/-- The arguments each button's `lambda` passes to `manage_service`. -/
def ServiceButton.args : ServiceButton → String × Bool
  | .nmStop => ("NetworkManager", false)
  | .nmStart => ("NetworkManager", true)
  | .wpaStop => ("wpa_supplicant", false)
  | .wpaStart => ("wpa_supplicant", true)

/-! ### The setup tab leaves the supervisor alone -/

namespace Sys.Agree

variable {s : Sys}

theorem checkServicesStatus (labels : ServiceLabels) (isActive : String → Except String Int) :
    s.Agree (s.checkServicesStatus labels isActive).1 := by
  unfold Sys.checkServicesStatus
  split
  · exact refl s
  · exact (refl s).log_right _ _

/-- `manage_service` writes only the console, the dialogs and the setup tab's labels. -/
theorem manageService (py : Python) (labels : ServiceLabels) (serviceName : String)
    (start nameAccepted : Bool) (result : Except String ServiceRun)
    (isActive : String → Except String Int) :
    s.Agree (s.manageService py labels serviceName start nameAccepted result isActive).1 := by
  unfold Sys.manageService
  cases manageServiceCommand serviceName start nameAccepted with
  | error message => exact ((refl s).showError_right _).log_right _ _
  | ok argv =>
    cases result with
    | error e => exact ((refl s).showError_right _).log_right _ _
    | ok result =>
      dsimp only
      split
      · exact ((refl s).log_right _ _).trans (checkServicesStatus _ _)
      · exact ((refl s).showError_right _).log_right _ _

end Sys.Agree

end MiracleCast

import MiracleCast.Python.Unicode
import MiracleCast.Python.Replace
import MiracleCast.Python.Utf8
import MiracleCast.Command
import MiracleCast.Script
import MiracleCast.Supervisor.State
import MiracleCast.Supervisor.Handlers
import MiracleCast.Supervisor.Lifecycle
import MiracleCast.Supervisor.Registry
import MiracleCast.Supervisor.Frame
import MiracleCast.Supervisor.Relay
import MiracleCast.Supervisor.Refinement
import MiracleCast.Interfaces
import MiracleCast.Supervisor.Labels
import MiracleCast.Supervisor.Console
import MiracleCast.Setup
import MiracleCast.App.State
import MiracleCast.App.Runs

import Mathlib.Data.List.Nodup
import MiracleCast.Command

/-!
# The supervisor's state

The part of `MiracleCastGUI` that starts, watches and stops the universal script: the
`QProcess` objects the window has created (`Sys.children`), the dict `self.processes` from
process name to process (`Sys.processes`), the two status labels, the console and the error
dialogs shown. A `QProcess` is parented to the window and never deleted, so a child is named
by its index in `children`, which only grows; `self.processes` maps a role to such an index.

A child's `ChildState` refines `QProcess.state()` by what the OS knows: `killed` is a child
that received SIGKILL whose death Qt has not yet reported, so `QProcess` still says
`Running`. `Registry` is a Python dict keyed by role, with its insertion order, and carries
the uniqueness of its keys as a field.
-/

namespace MiracleCast

/-- A child's life as `QProcess` and the OS see it. -/
inductive ChildState
  /-- Forked, `exec` not yet confirmed (`QProcess.Starting`). -/
  | starting
  /-- `started` seen (`QProcess.Running`). -/
  | running
  /-- SIGKILL sent, death not yet reported (`QProcess` still says `Running`). -/
  | killed
  /-- `finished` emitted (`QProcess.NotRunning`). -/
  | exited
  /-- Never ran: `exec` failed, or `start` raised (`QProcess.NotRunning`). -/
  | failed
  deriving DecidableEq, Repr

namespace ChildState

/-- The OS process is alive. -/
def isLive : ChildState → Bool
  | starting | running => true
  | _ => false

/-- `process.state() != QProcess.NotRunning`. -/
def qtRunning : ChildState → Bool
  | starting | running | killed => true
  | _ => false

/-- The child was confirmed started at some point. -/
def hasStarted : ChildState → Bool
  | running | killed | exited => true
  | _ => false

end ChildState

/-- One `QProcess` the window created: the role it was launched for, and its state. -/
structure Child where
  role : Role
  state : ChildState
  deriving DecidableEq, Repr

/-- A console line appended by `log`: the message and the `error` flag. The timestamp `log`
puts in front, and the copy of error lines printed to `stderr`, are not modelled. -/
structure LogLine where
  message : String
  error : Bool
  deriving DecidableEq, Repr

/-! ### The registry `self.processes` -/

/-- The value stored under `r`, as the first matching entry. -/
def lookupEntry (r : Role) : List (Role × Nat) → Option Nat
  | [] => none
  | e :: es => if e.1 = r then some e.2 else lookupEntry r es

/-- `d[r] = i` on the entry list: the value is replaced in place, or a new entry appended. -/
def setEntry (r : Role) (i : Nat) : List (Role × Nat) → List (Role × Nat)
  | [] => [(r, i)]
  | e :: es => if e.1 = r then (r, i) :: es else e :: setEntry r i es

theorem mem_of_lookupEntry {r : Role} {i : Nat} :
    ∀ {es : List (Role × Nat)}, lookupEntry r es = some i → (r, i) ∈ es
  | [], h => by simp [lookupEntry] at h
  | e :: es, h => by
    unfold lookupEntry at h
    split at h
    · next he => cases h; simp [← he]
    · exact List.mem_cons_of_mem _ (mem_of_lookupEntry h)

theorem map_fst_setEntry (r : Role) (i : Nat) :
    ∀ es : List (Role × Nat), (setEntry r i es).map Prod.fst =
      if r ∈ es.map Prod.fst then es.map Prod.fst else es.map Prod.fst ++ [r]
  | [] => rfl
  | e :: es => by
    by_cases h : e.1 = r
    · simp [setEntry, h]
    · have ih := map_fst_setEntry r i es
      by_cases hr : r ∈ es.map Prod.fst <;> simp_all [setEntry, Ne.symm h]

/-- `self.processes`: a dict from process name to child, in insertion order, each key once. -/
structure Registry where
  entries : List (Role × Nat)
  nodup : (entries.map Prod.fst).Nodup

namespace Registry

/-- `{}`. -/
def empty : Registry := ⟨[], List.nodup_nil⟩

/-- `d.get(r)`. -/
def get (d : Registry) (r : Role) : Option Nat := lookupEntry r d.entries

/-- `d[r] = i`. -/
def set (d : Registry) (r : Role) (i : Nat) : Registry where
  entries := setEntry r i d.entries
  nodup := by
    rw [map_fst_setEntry]
    split
    · exact d.nodup
    · next h => exact List.nodup_append.mpr ⟨d.nodup, List.nodup_singleton r, by simpa using h⟩

/-- `d.pop(r, None)`. -/
def pop (d : Registry) (r : Role) : Registry where
  entries := d.entries.filter (·.1 ≠ r)
  nodup := d.nodup.sublist ((List.filter_sublist _).map _)

@[simp] theorem get_empty (r : Role) : empty.get r = none := rfl

@[simp] theorem get_set (d : Registry) (r r' : Role) (i : Nat) :
    (d.set r i).get r' = if r = r' then some i else d.get r' := by
  simp only [get, set]
  induction d.entries with
  | nil => by_cases h : r = r' <;> simp [setEntry, lookupEntry, h]
  | cons e es ih =>
    by_cases he : e.1 = r <;> by_cases h : r = r' <;>
      simp_all [setEntry, lookupEntry, Ne.symm]

@[simp] theorem get_pop (d : Registry) (r r' : Role) :
    (d.pop r).get r' = if r = r' then none else d.get r' := by
  simp only [get, pop]
  induction d.entries with
  | nil => simp [lookupEntry]
  | cons e es ih =>
    by_cases he : e.1 = r <;> by_cases h : r = r' <;>
      simp_all [lookupEntry, List.filter_cons]

end Registry

/-! ### The window's supervisor state -/

/-- The supervisor's state. -/
structure Sys where
  /-- Every `QProcess` the window has created, oldest first. -/
  children : List Child
  /-- `self.processes`. -/
  processes : Registry
  /-- The text of `sink_status_label` and `source_status_label`. -/
  status : Role → String
  /-- `self.console`. -/
  console : List LogLine
  /-- The messages of the error dialogs `show_error` opened. -/
  dialogs : List String

namespace Sys

/-- The window after `__init__`: no process, both labels `Not Running`. -/
def init : Sys := ⟨[], .empty, fun _ => "Not Running", [], []⟩

/-- `self.log(message, error)`. -/
def log (s : Sys) (message : String) (error : Bool) : Sys :=
  { s with console := s.console ++ [⟨message, error⟩] }

/-- `self.show_error(message)`. -/
def showError (s : Sys) (message : String) : Sys :=
  { s with dialogs := s.dialogs ++ [message] }

/-- `label.setText(text)` on role `r`'s status label. -/
def setStatus (s : Sys) (r : Role) (text : String) : Sys :=
  { s with status := Function.update s.status r text }

/-- Child `i` moves to state `st`. -/
def setChildState (s : Sys) (i : Nat) (st : ChildState) : Sys :=
  { s with children := s.children.modify (fun c => { c with state := st }) i }

@[simp] theorem log_children (s : Sys) (m : String) (e : Bool) :
    (s.log m e).children = s.children := rfl
@[simp] theorem log_processes (s : Sys) (m : String) (e : Bool) :
    (s.log m e).processes = s.processes := rfl
@[simp] theorem log_status (s : Sys) (m : String) (e : Bool) :
    (s.log m e).status = s.status := rfl
@[simp] theorem log_console (s : Sys) (m : String) (e : Bool) :
    (s.log m e).console = s.console ++ [⟨m, e⟩] := rfl
@[simp] theorem showError_children (s : Sys) (m : String) :
    (s.showError m).children = s.children := rfl
@[simp] theorem showError_processes (s : Sys) (m : String) :
    (s.showError m).processes = s.processes := rfl
@[simp] theorem showError_status (s : Sys) (m : String) :
    (s.showError m).status = s.status := rfl
@[simp] theorem showError_console (s : Sys) (m : String) :
    (s.showError m).console = s.console := rfl
@[simp] theorem setStatus_children (s : Sys) (r : Role) (t : String) :
    (s.setStatus r t).children = s.children := rfl
@[simp] theorem setStatus_processes (s : Sys) (r : Role) (t : String) :
    (s.setStatus r t).processes = s.processes := rfl
@[simp] theorem setStatus_status (s : Sys) (r : Role) (t : String) :
    (s.setStatus r t).status = Function.update s.status r t := rfl
@[simp] theorem setStatus_console (s : Sys) (r : Role) (t : String) :
    (s.setStatus r t).console = s.console := rfl
@[simp] theorem setChildState_children (s : Sys) (i : Nat) (st : ChildState) :
    (s.setChildState i st).children = s.children.modify (fun c => { c with state := st }) i :=
  rfl
@[simp] theorem setChildState_processes (s : Sys) (i : Nat) (st : ChildState) :
    (s.setChildState i st).processes = s.processes := rfl
@[simp] theorem setChildState_status (s : Sys) (i : Nat) (st : ChildState) :
    (s.setChildState i st).status = s.status := rfl
@[simp] theorem setChildState_console (s : Sys) (i : Nat) (st : ChildState) :
    (s.setChildState i st).console = s.console := rfl

end Sys

end MiracleCast

import MiracleCast.Supervisor.Frame

/-!
# The supervisor the design describes

Seen from outside, the supervisor keeps at most one process per role: `start` stops the role's
process and launches a new one, which runs if it reports started; `stop` and the exit of the
role's process leave the role without one; the cleanup on exit leaves no process at all. The
abstract machine is a set of roles with a process alive (`Role → Bool`), and `Op` its
operations.

`Sys.alive` reads that set off the model of the code: the roles with a live child. On the runs
where no `waitForStarted` gives up on a starting child (`ReachableConfirmed`), each action moves
it exactly as the abstract operation `Action.op` says (`alive_step`): the code refines the
one-process-per-role supervisor there. Off those runs it does not: a child that starts after
its wait gave up outlives the next `stop` (`late_start_orphans_child`).

The proof goes through `Sys.running`, which asks whether the role's entry names a running child:
it agrees with `alive` wherever the registry and liveness invariants hold
(`running_eq_alive`), and, unlike `alive`, it is kept by the frame of a role.
-/

namespace MiracleCast

/-- The operations of the abstract supervisor on the set of roles with a live process. -/
inductive Op
  /-- `start(role)`: the old process stopped, a new one launched; `ok` when it started. -/
  | launch (r : Role) (ok : Bool)
  /-- `stop(role)`, or the exit of the role's process. -/
  | halt (r : Role)
  /-- The cleanup on exit. -/
  | haltAll
  /-- Nothing happens to a process. -/
  | skip

/-- What an operation does to the roles with a live process. -/
def Op.apply : Op → (Role → Bool) → Role → Bool
  | .launch r ok, f => Function.update f r ok
  | .halt r, f => Function.update f r false
  | .haltAll, _ => fun _ => false
  | .skip, f => f

/-- The operation a start handler performs: none when it stops at the interface check or at
`build_universal_cmd`, a launch otherwise. -/
def startOp (py : Python) (w : Window) (r : Role) (iface : String) (launch : LaunchResult) :
    Op :=
  if iface = "" then .skip
  else
    match buildUniversalCmd py w r with
    | .ok argv => .launch r (decide (launch.effective argv = .started))
    | .error _ => .skip

/-- The operation an action performs in state `s`. -/
def Action.op (py : Python) (s : Sys) : Action → Op
  | .startSinkService w _ launch => startOp py w .sink w.ifaceCombo launch
  | .startSourceService w _ launch => startOp py w .source w.sourceIfaceCombo launch
  | .stopSinkService _ => .halt .sink
  | .stopSourceService _ => .halt .source
  | .cleanupOnExit _ => .haltAll
  | .finished i _ =>
    match s.children[i]? with
    | some c => if c.state.isLive then .halt c.role else .skip
    | none => .skip
  | .started _ | .failedToStart _ | .readyRead .. => .skip

namespace Sys

/-- The roles with a live child. -/
def alive (s : Sys) (r : Role) : Bool :=
  s.children.any fun c => c.role == r && c.state.isLive

/-- Role `r`'s entry names a running child. -/
def running (s : Sys) (r : Role) : Bool :=
  match s.processes.get r with
  | some i => (s.children[i]?).any fun c => c.state == .running
  | none => false

theorem alive_iff {s : Sys} {r : Role} :
    s.alive r = true ↔ ∃ (i : Nat) (c : Child), s.children[i]? = some c ∧ c.role = r ∧
      c.state.isLive := by
  simp only [alive, List.any_eq_true, Bool.and_eq_true, beq_iff_eq, List.mem_iff_getElem?]
  exact ⟨fun ⟨c, ⟨i, hi⟩, hr, hl⟩ => ⟨i, c, hi, hr, hl⟩,
    fun ⟨i, c, hi, hr, hl⟩ => ⟨c, ⟨i, hi⟩, hr, hl⟩⟩

theorem running_iff {s : Sys} {r : Role} :
    s.running r = true ↔ ∃ (i : Nat) (c : Child), s.processes.get r = some i ∧
      s.children[i]? = some c ∧ c.state = .running := by
  unfold running
  split
  · next i hi => cases hc : s.children[i]? <;> simp [hc, hi]
  · next hi => simp [hi]

/-- Where every live child is running and its role's entry, and every entry names a child of
its role, a role has a live child exactly when its entry names a running one. -/
theorem running_eq_alive {s : Sys} (hl : s.LiveInv) (he : s.EntryInv) : s.running = s.alive := by
  funext r
  rw [Bool.eq_iff_iff, running_iff, alive_iff]
  constructor
  · rintro ⟨i, c, hi, hc, hst⟩
    obtain ⟨⟨c', hc', hr, -⟩, -⟩ := he r i hi
    cases hc.symm.trans hc'
    exact ⟨i, c, hc, hr, by simp [hst, ChildState.isLive]⟩
  · rintro ⟨i, c, hc, rfl, hlive⟩
    obtain ⟨hst, hi⟩ := hl i c hc hlive
    exact ⟨i, c, hi, hc, hst⟩

theorem running_of_eq {s s' : Sys} (hc : s'.children = s.children)
    (hp : s'.processes = s.processes) : s'.running = s.running := by
  funext r; simp only [running, hc, hp]

@[simp] theorem running_log (s : Sys) (m : String) (e : Bool) : (s.log m e).running = s.running :=
  rfl
@[simp] theorem running_showError (s : Sys) (m : String) : (s.showError m).running = s.running :=
  rfl
@[simp] theorem running_setStatus (s : Sys) (r : Role) (t : String) :
    (s.setStatus r t).running = s.running := rfl

/-- The frame of a role keeps whether its entry names a running child. -/
theorem Frame.running_eq {s s' : Sys} {r : Role} (he : s.EntryInv) (hf : s.Frame r s') :
    s'.running r = s.running r := by
  unfold running
  rw [hf.entry]
  split
  · next i hi =>
    obtain ⟨⟨c, hc, hr, -⟩, -⟩ := he r i hi
    rw [hc, hf.child i c hc hr]
  · rfl

/-! ### The role a handler is addressed to -/

section Handlers

variable (s : Sys)

theorem running_stopService (r : Role) (w : WaitResult) (m : String) :
    (s.stopService r w m).running r = false := by
  unfold stopService
  split
  · next i hi =>
    refine Bool.eq_false_iff.mpr fun h => ?_
    obtain ⟨j, c, hj, hc, hst⟩ := running_iff.mp h
    simp only [log_processes, setStatus_processes,
      (evolves_terminateOrKill s i w _).processes, hi, Option.some.injEq] at hj
    subst hj
    have hnl : (s.terminateOrKill i w "Process didn't terminate gracefully, forcing...").children[
        i]? = some c := by simpa using hc
    simpa [hst, ChildState.isLive] using terminateOrKill_not_live hnl
  · next hi => simp [running, hi]

theorem running_launchChild (argv : List String) (r : Role) (launch : LaunchResult) :
    (s.launchChild argv r launch).running r = decide (launch.effective argv = .started) := by
  unfold running
  rw [launchChild_processes]
  by_cases he : launch.effective argv = .started <;>
    simp [he, launchChild_children, LaunchResult.childState]

theorem running_cleanupOnExit (waits : Role → WaitResult) (r : Role) :
    (s.cleanupOnExit waits).running r = false := by
  refine Bool.eq_false_iff.mpr fun h => ?_
  obtain ⟨i, c, hi, hc, hst⟩ := running_iff.mp h
  rw [(evolves_cleanupOnExit s waits).processes] at hi
  simpa [hst, ChildState.isLive] using
    cleanupFold_not_live waits _ s (r, i) (mem_of_lookupEntry hi) c hc

variable {s}

/-- The exit of a live child: that child is its role's entry, and now it has exited. -/
theorem running_childFinished_live (hl : s.LiveInv) {i : Nat} {c : Child}
    (hc : s.children[i]? = some c) (hlive : c.state.isLive) (code : Int) :
    (s.childFinished i code).running c.role = false := by
  obtain ⟨hrun, hget⟩ := hl i c hc hlive
  simp [running, childFinished, hc, hrun, hget, List.getElem?_modify]

/-- The reported death of a killed child, or an event of a dead one, changes no entry's
child from or to running. -/
theorem running_childFinished_not_live {i : Nat} {c : Child} (hc : s.children[i]? = some c)
    (hlive : c.state.isLive = false) (code : Int) :
    (s.childFinished i code).running = s.running := by
  funext r
  simp only [childFinished, hc]
  split
  · next hst =>
    have hk : c.state = .killed :=
      hst.resolve_left fun h => by simp [h, ChildState.isLive] at hlive
    simp only [running, processFinished_processes, processFinished_children,
      setChildState_processes, setChildState_children]
    split
    · next j _ =>
      by_cases hij : i = j
      · subst hij; simp [List.getElem?_modify, hc, hk]
      · simp [List.getElem?_modify, hij]
    · rfl
  · rfl

/-- Where every live child is running, no child is starting, so `started` and a late failure
to start change nothing. -/
theorem childStarted_eq_self (hl : s.LiveInv) (i : Nat) :
    s.childStarted i = s ∧ s.childFailedToStart i = s := by
  have hns : ∀ c, s.children[i]? = some c → c.state ≠ .starting := fun c hc hst => by
    simpa [hst] using (hl i c hc (by simp [hst, ChildState.isLive])).1
  constructor
  · unfold childStarted; split
    · next c hc => exact if_neg (hns c hc)
    · rfl
  · unfold childFailedToStart; split
    · next c hc => exact if_neg (hns c hc)
    · rfl

theorem childReadyRead_running (i : Nat) (e : Bool) (chunk : List UInt8) :
    (s.childReadyRead i e chunk).running = s.running := by
  apply running_of_eq <;> unfold childReadyRead <;> split <;> (try split) <;> rfl

/-- A start request moves its role's entry as `startOp` says. -/
theorem running_startService {py : Python} {s' : Sys} {w : Window} {r : Role} {iface m : String}
    {old : WaitResult} {launch : LaunchResult}
    (h : s.startService py w r iface m old launch = .ok s') :
    s'.running r = (startOp py w r iface launch).apply s.running r := by
  unfold startOp
  rcases startService_cases h with ⟨hi, rfl⟩ | ⟨hi, s₁, cmd, hb, rfl⟩
  · rw [if_pos hi]; rfl
  · rw [if_neg hi]
    simp only [running_log, running_setStatus]
    rcases callBuild_eq_ok hb with ⟨argv, hbuild, rfl, rfl⟩ | ⟨_, hbuild, rfl, rfl⟩
    · simp only [hbuild, Op.apply, Function.update_same, runCommand]
      exact running_launchChild _ argv r launch
    · rw [hbuild]; rfl

end Handlers

end Sys

/-! ### One action -/

/-- The abstract operation of an action leaves every role it is not addressed to alone. -/
theorem Action.op_apply_other {py : Python} {s : Sys} {a : Action} {r r' : Role}
    (ha : a.addressee s = some r') (hr : r ≠ r') (f : Role → Bool) :
    (a.op py s).apply f r = f r := by
  cases a with
  | startSinkService w _ launch | startSourceService w _ launch =>
    cases ha
    simp only [Action.op, startOp]
    split
    · rfl
    · split <;> simp [Op.apply, Function.update_noteq hr]
  | stopSinkService _ | stopSourceService _ =>
    cases ha; simp [Action.op, Op.apply, Function.update_noteq hr]
  | cleanupOnExit _ => cases ha
  | finished i _ =>
    obtain ⟨c, hc, rfl⟩ := Option.map_eq_some'.mp ha
    simp only [Action.op, hc]
    split <;> simp [Op.apply, Function.update_noteq hr]
  | started _ | failedToStart _ | readyRead _ _ _ => rfl

/-- The role an action is addressed to moves as its abstract operation says. -/
theorem Sys.running_step_self {py : Python} {s s' : Sys} {a : Action} {r : Role}
    (hl : s.LiveInv) (ha : a.addressee s = some r) (h : step py s a = .ok s') :
    s'.running r = (a.op py s).apply s.running r := by
  cases a with
  | startSinkService w old launch | startSourceService w old launch =>
    cases ha; exact Sys.running_startService h
  | stopSinkService _ | stopSourceService _ =>
    cases ha; cases h
    simp [Action.op, Op.apply, Sys.stopSinkService, Sys.stopSourceService, Sys.running_stopService]
  | cleanupOnExit _ => cases ha
  | started i => cases h; simp [Action.op, Op.apply, (Sys.childStarted_eq_self hl i).1]
  | failedToStart i => cases h; simp [Action.op, Op.apply, (Sys.childStarted_eq_self hl i).2]
  | finished i code =>
    cases h
    obtain ⟨c, hc, rfl⟩ := Option.map_eq_some'.mp ha
    by_cases hlive : c.state.isLive
    · simp [Action.op, hc, hlive, Op.apply, Sys.running_childFinished_live hl hc hlive]
    · rw [Sys.running_childFinished_not_live hc (by simpa using hlive)]
      simp [Action.op, hc, hlive, Op.apply]
  | readyRead i e chunk => cases h; simp [Action.op, Op.apply, Sys.childReadyRead_running]

/-- **Refinement step** on the registry: where the registry and liveness invariants hold, each
action moves the roles whose entry names a running child as its abstract operation says. -/
theorem Sys.running_step {py : Python} {s s' : Sys} {a : Action} (hl : s.LiveInv)
    (he : s.EntryInv) (h : step py s a = .ok s') : s'.running = (a.op py s).apply s.running := by
  funext r
  cases ha : a.addressee s with
  | none =>
    cases a with
    | cleanupOnExit _ => cases h; simp [Action.op, Op.apply, Sys.running_cleanupOnExit]
    | started i | failedToStart i | finished i _ | readyRead i _ _ =>
      have hi : s.children[i]? = none := by simpa [Action.addressee] using ha
      cases h
      simp [Action.op, Op.apply, Sys.childStarted, Sys.childFailedToStart, Sys.childFinished,
        Sys.childReadyRead, hi]
    | _ => simp [Action.addressee] at ha
  | some r' =>
    by_cases hr : r = r'
    · subst hr; exact Sys.running_step_self hl ha h
    · rw [(he.frame_step ha hr h).running_eq he, Action.op_apply_other ha hr]

theorem ReachableConfirmed.reachable {py : Python} {s : Sys} (hs : ReachableConfirmed py s) :
    Reachable py s := by
  induction hs with
  | init => exact .init
  | step _ _ h ih => exact .step ih h

/-- **The code refines the one-process-per-role supervisor**: on every run in which no
`waitForStarted` gives up on a child that is still starting, each action changes which roles
have a live child exactly as its abstract operation does: a start that gets past its checks
leaves its role with a process exactly when the new child started, a stop or the exit of the
role's live child leaves the role without one, the cleanup on exit leaves no role with one,
and nothing else changes a role. -/
theorem alive_step {py : Python} {s s' : Sys} {a : Action} (hs : ReachableConfirmed py s)
    (ha : a.launch? ≠ some .timesOut) (h : step py s a = .ok s') :
    s'.alive = (a.op py s).apply s.alive := by
  have hs' := ReachableConfirmed.step hs ha h
  rw [← Sys.running_eq_alive (liveInv_of_confirmed hs') (entryInv_of_reachable hs'.reachable),
    ← Sys.running_eq_alive (liveInv_of_confirmed hs) (entryInv_of_reachable hs.reachable)]
  exact Sys.running_step (liveInv_of_confirmed hs) (entryInv_of_reachable hs.reachable) h

/-- Stopping the sink while both roles have a process: the sink's leaves the set. -/
theorem alive_step_bothRunning :
    ReachableConfirmed cpython312 bothRunning ∧
      (bothRunning.alive .sink = true ∧ bothRunning.alive .source = true) ∧
      (Action.stopSinkService (.exits 0)).launch? ≠ some .timesOut ∧
      step cpython312 bothRunning (.stopSinkService (.exits 0)) =
        .ok (bothRunning.stopSinkService (.exits 0)) ∧
      (bothRunning.stopSinkService (.exits 0)).alive =
        ((Action.stopSinkService (.exits 0)).op cpython312 bothRunning).apply bothRunning.alive :=
  ⟨bothRunning_confirmed, by decide, by decide, rfl,
    alive_step bothRunning_confirmed (by decide) rfl⟩

end MiracleCast

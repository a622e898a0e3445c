import MiracleCast.App.State
import MiracleCast.Supervisor.Frame

/-!
# Runs of the application

**The application refines the supervisor** (`AppReachable.project`): the supervisor's part of
every state the application reaches agrees, on the children, the registry and the status
labels, with a state of `Reachable`. A supervisor event of the application is a step of
`step` on that part; every other event only writes the console, the dialogs, the combo boxes,
the form and the setup tab's labels, which the supervisor never reads (`Sys.Agree.step`). So
what `Supervisor/` proves of every `Reachable` state holds in the whole application.

**The sink tab's list is filled once** (`sink_list_frozen`). Only `check_dependencies` calls
`refresh_interfaces()` for both combo boxes, and only its start-up timer calls it; the sink
tab's own `Refresh` button passes the `checked` flag and fails before it clears anything, and
the source tab's refreshes only its own combo box. So once the timer has fired, no run changes
the items of the sink combo box, and if the check left it without a non-empty name (a missing
script or command shows a dialog and fills nothing), every `Start Sink` stops at its interface
check and no run launches a sink process, whatever the user installs or clicks meanwhile.
-/

namespace MiracleCast

namespace App

variable {py : Python} {listed ipLink : Except String Completed}

theorem supervise_eq_ok {a a' : App} {sa : Action} (h : a.supervise py sa = .ok a') :
    step py a.sys sa = .ok a'.sys ∧ a' = { a with sys := a'.sys } := by
  obtain ⟨s, hs, h⟩ := except_bind_eq_ok.mp h
  cases h
  exact ⟨hs, rfl⟩

theorem agree_refreshInterfaces (a : App) (combo : ComboArg) :
    a.sys.Agree (a.refreshInterfaces py combo listed ipLink).sys := by
  unfold refreshInterfaces
  cases MiracleCast.refreshInterfaces py combo listed ipLink with
  | ok v => rw [(foldl_fill v.1 v.2 a).1]; exact .refl _
  | error e => exact (Sys.Agree.refl _).log_right _ _

theorem refreshInterfaces_pending (a : App) (combo : ComboArg) :
    (a.refreshInterfaces py combo listed ipLink).dependencyCheckPending =
      a.dependencyCheckPending := by
  unfold refreshInterfaces
  cases MiracleCast.refreshInterfaces py combo listed ipLink with
  | ok v => exact (foldl_fill v.1 v.2 a).2
  | error e => rfl

/-- The sink tab's button changes no combo box. -/
theorem refreshInterfaces_checked_ifaceCombo (a : App) (b : Bool) :
    (a.refreshInterfaces py (.checked b) listed ipLink).ifaceCombo = a.ifaceCombo := by
  unfold refreshInterfaces
  rw [refreshInterfaces_checked_eq]
  cases validIfaces py listed ipLink <;> rfl

/-- The source tab's button fills the source combo box only. -/
theorem refreshInterfaces_source_ifaceCombo (a : App) :
    (a.refreshInterfaces py (.combo .sourceIface) listed ipLink).ifaceCombo = a.ifaceCombo := by
  unfold refreshInterfaces MiracleCast.refreshInterfaces
  cases validIfaces py listed ipLink <;> rfl

theorem agree_checkDependencies (a : App) (scriptExists : Bool)
    (commandExists : String → Bool) :
    a.sys.Agree (a.checkDependencies py scriptExists commandExists listed ipLink).sys := by
  unfold checkDependencies
  split
  · exact (Sys.Agree.refl _).showError_right _
  · exact agree_refreshInterfaces a .none

theorem checkDependencies_pending (a : App) (scriptExists : Bool)
    (commandExists : String → Bool) :
    (a.checkDependencies py scriptExists commandExists listed ipLink).dependencyCheckPending =
      a.dependencyCheckPending := by
  unfold checkDependencies
  split
  · rfl
  · exact refreshInterfaces_pending a .none

end App

/-- What an event outside the supervisor does: it keeps the supervisor's part up to its console
and dialogs, and either keeps the sink combo box's items and the start-up timer, or is that
timer firing. -/
structure App.Outside (a a' : App) : Prop where
  agree : a.sys.Agree a'.sys
  sink : (a'.ifaceCombo.items = a.ifaceCombo.items ∧
      a'.dependencyCheckPending = a.dependencyCheckPending) ∨
    a.dependencyCheckPending = true ∧ a'.dependencyCheckPending = false

theorem App.Outside.of_eq {a a' : App} (hs : a.sys.Agree a'.sys)
    (hi : a'.ifaceCombo = a.ifaceCombo)
    (hp : a'.dependencyCheckPending = a.dependencyCheckPending) : App.Outside a a' :=
  ⟨hs, .inl ⟨congrArg ComboBox.items hi, hp⟩⟩

section Steps

variable {py : Python} {a a' : App} {act : AppAction}

/-- **What one event can do**: a supervisor event is a step of the supervisor on its part and
changes nothing else; every other event is `App.Outside`. -/
theorem appStep_eq_ok (h : appStep py a act = .ok a') :
    (∃ sa, act.toAction a.window = some sa ∧ step py a.sys sa = .ok a'.sys ∧
        a' = { a with sys := a'.sys }) ∨
      act.toAction a.window = none ∧ App.Outside a a' := by
  cases act with
  | dependencyTimeout scriptExists commandExists listed ipLink =>
    cases h
    refine .inr ⟨rfl, ?_⟩
    split
    · next hp =>
      exact ⟨App.agree_checkDependencies { a with dependencyCheckPending := false } _ _,
        .inr ⟨hp, App.checkDependencies_pending _ _ _⟩⟩
    · exact .of_eq (.refl _) rfl rfl
  | refreshSink listed ipLink =>
    cases h
    exact .inr ⟨rfl, .of_eq (App.agree_refreshInterfaces _ _)
      (App.refreshInterfaces_checked_ifaceCombo _ _) (App.refreshInterfaces_pending _ _)⟩
  | refreshSource listed ipLink =>
    cases h
    exact .inr ⟨rfl, .of_eq (App.agree_refreshInterfaces _ _)
      (App.refreshInterfaces_source_ifaceCombo _) (App.refreshInterfaces_pending _ _)⟩
  | select c i =>
    cases h
    cases c
    · exact .inr ⟨rfl, .refl _, .inl ⟨ComboBox.select_items _ _, rfl⟩⟩
    · exact .inr ⟨rfl, .of_eq (.refl _) rfl rfl⟩
  | edit form => cases h; exact .inr ⟨rfl, .of_eq (.refl _) rfl rfl⟩
  | statusTimeout isActive =>
    cases h
    refine .inr ⟨rfl, ?_⟩
    split
    · exact .of_eq (Sys.Agree.checkServicesStatus _ _) rfl rfl
    · exact .of_eq (.refl _) rfl rfl
  | refreshStatus isActive =>
    cases h; exact .inr ⟨rfl, .of_eq (Sys.Agree.checkServicesStatus _ _) rfl rfl⟩
  | service b nameAccepted result isActive =>
    cases h; exact .inr ⟨rfl, .of_eq (Sys.Agree.manageService _ _ _ _ _ _ _) rfl rfl⟩
  | clearConsole => cases h; exact .inr ⟨rfl, .of_eq ⟨rfl, rfl, rfl⟩ rfl rfl⟩
  | _ => exact .inl ⟨_, rfl, App.supervise_eq_ok h⟩

theorem appRun_cons_eq_ok {acts : List AppAction} :
    appRun py a (act :: acts) = .ok a' ↔
      ∃ a₁, appStep py a act = .ok a₁ ∧ appRun py a₁ acts = .ok a' := by
  simp only [appRun]
  cases appStep py a act <;> simp [Except.bind]

end Steps

/-! ### The projection onto the supervisor -/

/-- **The application refines the supervisor**: the supervisor's part of every reachable state
of the application agrees with a reachable state of the supervisor. -/
theorem AppReachable.project {py : Python} {a : App} (ha : AppReachable py a) :
    ∃ s, Reachable py s ∧ s.Agree a.sys := by
  induction ha with
  | init => exact ⟨_, .init, .refl _⟩
  | step _ h ih =>
    obtain ⟨s, hs, hag⟩ := ih
    rcases appStep_eq_ok h with ⟨sa, -, hst, -⟩ | ⟨-, hag', -⟩
    · have hout : Sys.AgreeOutcome (MiracleCast.step py s sa) (.ok _) := hst ▸ hag.step sa
      cases hs' : MiracleCast.step py s sa with
      | error e => rw [hs'] at hout; exact hout.elim
      | ok s' => rw [hs'] at hout; exact ⟨s', hs.step hs', hout⟩
    · exact ⟨s, hs, hag.trans hag'⟩

/-- The end state of a run from a reachable state of the application is reachable. -/
theorem AppReachable.run {py : Python} :
    ∀ {a a' : App} {acts : List AppAction}, AppReachable py a → appRun py a acts = .ok a' →
      AppReachable py a'
  | _, _, [], ha, h => by cases h; exact ha
  | _, _, _ :: _, ha, h => by
    obtain ⟨a₁, h₁, h⟩ := appRun_cons_eq_ok.mp h
    exact AppReachable.run (ha.step h₁) h

/-- The start-up check finds `wlan0` for both tabs; `Start Sink` and `Start Source` launch
children that start; `NetworkManager` is started from the setup tab; the source child writes
to its error stream. -/
def bothRolesClicks : List AppAction :=
  [.dependencyTimeout true (fun _ => true) (.ok ⟨0, "wlan0\n"⟩) (.error ""),
    .startSink (.exits 0) .started, .startSource (.exits 0) .started,
    .service .nmStart true (.ok ⟨0, ""⟩) (fun _ => .ok 0), .readyRead 1 true [0x21]]

/-- The window after `bothRolesClicks`. -/
def bothRolesApp : App :=
  ((appRun cpython312 (App.init "/opt/miraclecast/miraclecast-universal.sh")
    bothRolesClicks).toOption).getD (App.init "/opt/miraclecast/miraclecast-universal.sh")

theorem project_bothRolesApp :
    AppReachable cpython312 bothRolesApp ∧
      bothRolesApp.sys.children = [⟨.sink, .running⟩, ⟨.source, .running⟩] ∧
      ∃ s, Reachable cpython312 s ∧ s.Agree bothRolesApp.sys :=
  have ha : AppReachable cpython312 bothRolesApp :=
    @AppReachable.run _ _ _ bothRolesClicks (.init "/opt/miraclecast/miraclecast-universal.sh") rfl
  ⟨ha, rfl, AppReachable.project ha⟩

/-! ### The sink tab's list -/

namespace Sys

/-- No child from index `n` on has role `r`. -/
def NoChildFrom (r : Role) (n : Nat) (s : Sys) : Prop :=
  ∀ i c, n ≤ i → s.children[i]? = some c → c.role ≠ r

namespace NoChildFrom

variable {r : Role} {n : Nat} {s s' : Sys}

theorem evolves (h : s.NoChildFrom r n) (he : s.Evolves s') : s'.NoChildFrom r n :=
  fun i c hi hc => he.role_ne (fun c hc => h i c hi hc) c hc

theorem of_agree (h : s.NoChildFrom r n) (he : s.Agree s') : s'.NoChildFrom r n := by
  unfold NoChildFrom; rw [he.children]; exact h

/-- A launch for another role adds no child of role `r`. -/
theorem launchChild {r' : Role} (h : s.NoChildFrom r n) (hr : r' ≠ r) (argv : List String)
    (launch : LaunchResult) : (s.launchChild argv r' launch).NoChildFrom r n := by
  intro i c hi hc
  rw [launchChild_children, List.getElem?_append] at hc
  split at hc
  · exact h i c hi hc
  · obtain rfl := List.mem_singleton.mp (List.getElem?_mem hc)
    exact hr

/-- **No sink child without an interface**: a step that is not a sink start with a non-empty
interface launches no sink child. -/
theorem step {py : Python} {sa : Action} (h : s.NoChildFrom .sink n)
    (hst : step py s sa = .ok s')
    (hsa : ∀ w old launch, sa = .startSinkService w old launch → w.ifaceCombo = "") :
    s'.NoChildFrom .sink n := by
  cases sa with
  | startSinkService w old launch =>
    rcases startService_cases hst with ⟨-, rfl⟩ | ⟨hne, -⟩
    · exact h.evolves (.of_eq rfl rfl)
    · exact absurd (hsa w old launch rfl) hne
  | startSourceService w old launch =>
    rcases startService_eq_ok hst with he | ⟨argv, m, he⟩
    · exact h.evolves he
    · refine (launchChild ?_ (by decide) argv launch).evolves he
      exact (h.evolves (evolves_stopExisting s _ old)).evolves (evolves_log _ m false)
  | _ =>
    rcases step_eq_ok hst with he | ⟨_, _, _, _, _, hl, -⟩
    · exact h.evolves he
    · cases hl

end NoChildFrom

end Sys

section Sink

variable {py : Python}

theorem AppAction.toAction_eq_startSink {w w' : Window} {act : AppAction} {old : WaitResult}
    {launch : LaunchResult} (h : act.toAction w = some (.startSinkService w' old launch)) :
    w' = w := by
  cases act <;> simp only [AppAction.toAction, Option.some.injEq, reduceCtorEq] at h
  cases h; rfl

/-- One event after the start-up check keeps the sink combo box's items, and with no
non-empty item it launches no sink child. -/
theorem appStep_sink {a a' : App} {act : AppAction} {n : Nat} (h : appStep py a act = .ok a')
    (hp : a.dependencyCheckPending = false) :
    a'.dependencyCheckPending = false ∧ a'.ifaceCombo.items = a.ifaceCombo.items ∧
      ((∀ x ∈ a.ifaceCombo.items, x = "") → a.sys.NoChildFrom .sink n →
        a'.sys.NoChildFrom .sink n) := by
  rcases appStep_eq_ok h with ⟨sa, hsa, hst, ha'⟩ | ⟨-, hag, ⟨hi, hp'⟩ | ⟨hp', -⟩⟩
  · refine ⟨by rw [ha']; exact hp, by rw [ha'], fun he hn => hn.step hst fun w old launch hw => ?_⟩
    subst hw
    rw [AppAction.toAction_eq_startSink hsa, App.window_ifaceCombo]
    exact ComboBox.currentText_eq_empty he
  · exact ⟨hp' ▸ hp, hi, fun _ hn => hn.of_agree hag⟩
  · exact absurd hp' (by simp [hp])

/-- A run after the start-up check keeps the sink combo box's items, and with no non-empty item
it launches no sink child. -/
theorem appRun_sink {n : Nat} {items : List String} :
    ∀ {a a' : App} {acts : List AppAction}, a.dependencyCheckPending = false →
      a.ifaceCombo.items = items → ((∀ x ∈ items, x = "") → a.sys.NoChildFrom .sink n) →
      appRun py a acts = .ok a' →
      a'.ifaceCombo.items = items ∧ ((∀ x ∈ items, x = "") → a'.sys.NoChildFrom .sink n)
  | _, _, [], _, hi, hn, hrun => by cases hrun; exact ⟨hi, hn⟩
  | _, _, _ :: _, hp, hi, hn, hrun => by
    obtain ⟨a₁, h₁, hrun⟩ := appRun_cons_eq_ok.mp hrun
    obtain ⟨hp₁, hi₁, hn₁⟩ := appStep_sink (n := n) h₁ hp
    exact appRun_sink hp₁ (hi₁.trans hi) (fun he => hn₁ (hi ▸ he) (hn he)) hrun

/-- **The sink tab's list is filled once**: after the start-up check, no run changes the items
of the sink combo box, and if none of them is a non-empty name, no run launches a sink
process. -/
theorem sink_list_frozen {a a' : App} {acts : List AppAction}
    (hp : a.dependencyCheckPending = false) (hrun : appRun py a acts = .ok a') :
    a'.ifaceCombo.items = a.ifaceCombo.items ∧
      ((∀ x ∈ a.ifaceCombo.items, x = "") →
        ∀ i c, a.sys.children.length ≤ i → a'.sys.children[i]? = some c → c.role ≠ .sink) := by
  have hlen : a.sys.NoChildFrom .sink a.sys.children.length := fun i c hi hc =>
    absurd (List.getElem?_eq_some_iff.mp hc).1 (by omega)
  exact appRun_sink hp rfl (fun _ => hlen) hrun

/-- The window after the start-up check found no universal script. -/
def missingScriptApp : App :=
  { App.init "/opt/miraclecast/miraclecast-universal.sh" with dependencyCheckPending := false
    }.checkDependencies cpython312 false (fun _ => true) (.error "") (.error "")

/-- The sink tab's `Refresh`, with a script that lists `wlan0`, then its `Start`. -/
def sinkClicks : List AppAction :=
  [.refreshSink (.ok ⟨0, "wlan0\n"⟩) (.error ""), .startSink (.exits 0) .started]

/-- After the check found no script, the sink tab's `Refresh` and `Start` change nothing. -/
theorem sink_blocked_after_missing_script :
    ∃ a', appRun cpython312 missingScriptApp sinkClicks = .ok a' ∧
      a'.ifaceCombo.items = missingScriptApp.ifaceCombo.items ∧
        ((∀ x ∈ missingScriptApp.ifaceCombo.items, x = "") →
          ∀ i c, missingScriptApp.sys.children.length ≤ i → a'.sys.children[i]? = some c →
            c.role ≠ .sink) :=
  ⟨_, rfl, @sink_list_frozen cpython312 _ _ sinkClicks rfl rfl⟩

end Sink

end MiracleCast

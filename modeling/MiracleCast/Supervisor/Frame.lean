import MiracleCast.Supervisor.Registry

/-!
# Roles are independent

`Sys.Frame r s s'` says that `s'` keeps what belongs to role `r` in `s`: its entry in
`self.processes`, its status label and every child launched for it. Each handler keeps the
frame of the role it is not addressed to, and every event of a child keeps the frame of the
other role; from the registry invariant, this holds for every action in every reachable state
(`roles_independent`).

A `finished` signal reaches `process_finished` with the role name `run_command` bound, not
with the child, so the exit of a child that a later start superseded still sets the role's
label by its exit code (`stale_finished_sets_status`): after a restart whose old child had to
be killed, the label reads `Error` while the new child runs (`stale_finished_shows_error`).
-/

namespace MiracleCast

namespace Sys

/-- **Frame of a role**: `s'` keeps role `r`'s entry, its label and every child launched for
it. -/
structure Frame (r : Role) (s s' : Sys) : Prop where
  entry : s'.processes.get r = s.processes.get r
  status : s'.status r = s.status r
  child : ∀ (i : Nat) (c : Child), s.children[i]? = some c → c.role = r →
    s'.children[i]? = some c

namespace Frame

variable {r : Role}

theorem refl (s : Sys) : Frame r s s := ⟨rfl, rfl, fun _ _ h _ => h⟩

theorem trans {s₁ s₂ s₃ : Sys} (h₁ : Frame r s₁ s₂) (h₂ : Frame r s₂ s₃) : Frame r s₁ s₃ :=
  ⟨h₂.entry.trans h₁.entry, h₂.status.trans h₁.status,
    fun i c hc hr => h₂.child i c (h₁.child i c hc hr) hr⟩

theorem of_eq {s s' : Sys} (hc : s'.children = s.children) (hp : s'.processes = s.processes)
    (hs : s'.status = s.status) : Frame r s s' :=
  ⟨by rw [hp], by rw [hs], fun _ _ h _ => by rw [hc]; exact h⟩

end Frame

/-- Moves keep the role of every child. -/
theorem Evolves.role_ne {s s' : Sys} (he : Evolves s s') {i : Nat} {r : Role}
    (hi : ∀ c, s.children[i]? = some c → c.role ≠ r) :
    ∀ c, s'.children[i]? = some c → c.role ≠ r := by
  intro c' hc'
  obtain ⟨c, hc, hr, -⟩ := he.child_inv hc'
  rw [hr]; exact hi c hc

/-- An entry of another role names a child of that role. -/
theorem EntryInv.role_ne {s : Sys} (hs : s.EntryInv) {r r' : Role} {i : Nat}
    (hi : s.processes.get r' = some i) (h : r ≠ r') :
    ∀ c, s.children[i]? = some c → c.role ≠ r := by
  intro c hc
  obtain ⟨⟨c', hc', hr, -⟩, -⟩ := hs r' i hi
  cases hc.symm.trans hc'
  rw [hr]; exact Ne.symm h

/-! ### The handlers keep the other role's frame -/

section Handlers

variable {r r' : Role} (s : Sys)

theorem frame_log (m : String) (e : Bool) : Frame r s (s.log m e) := .of_eq rfl rfl rfl

theorem frame_showError (m : String) : Frame r s (s.showError m) := .of_eq rfl rfl rfl

theorem frame_setStatus (h : r ≠ r') (t : String) : Frame r s (s.setStatus r' t) :=
  ⟨rfl, Function.update_noteq h _ _, fun _ _ hc _ => hc⟩

theorem frame_setChildState {i : Nat} (hi : ∀ c, s.children[i]? = some c → c.role ≠ r)
    (st : ChildState) : Frame r s (s.setChildState i st) := by
  refine ⟨rfl, rfl, fun j c hc hr => ?_⟩
  by_cases hij : i = j
  · subst hij; exact absurd hr (hi c hc)
  · simp [List.getElem?_modify, hij, hc]

theorem frame_processFinished (h : r ≠ r') (code : Int) :
    Frame r s (s.processFinished r' code) :=
  ⟨by simp, by simp [Function.update_noteq h], fun _ _ hc _ => by simpa using hc⟩

variable {i : Nat} (hi : ∀ c, s.children[i]? = some c → c.role ≠ r)
include hi

theorem frame_terminateAndWait (w : WaitResult) : Frame r s (s.terminateAndWait i w).1 := by
  unfold terminateAndWait
  split
  · next c _ hc =>
    split
    · exact (frame_setChildState s hi _).trans (frame_processFinished _ (hi c hc).symm _)
    · exact .refl s
  · exact .refl s

theorem frame_kill : Frame r s (s.kill i) := by
  unfold kill; split
  · split
    · exact frame_setChildState s hi _
    · exact .refl s
  · exact .refl s

theorem frame_terminateOrKill (w : WaitResult) (m : String) :
    Frame r s (s.terminateOrKill i w m) := by
  unfold terminateOrKill
  have h := frame_terminateAndWait s hi w
  have he := evolves_terminateAndWait s i w
  split
  · next s' heq => rw [heq] at h; exact h
  · next s' heq =>
    rw [heq] at h he
    exact h.trans ((frame_log s' m true).trans (frame_kill _ (he.role_ne hi)))

/-- The event handlers of a child keep the frame of every other role. -/
theorem frame_childEvent :
    Frame r s (s.childStarted i) ∧ Frame r s (s.childFailedToStart i) ∧
      (∀ code, Frame r s (s.childFinished i code)) ∧
      ∀ e chunk, Frame r s (s.childReadyRead i e chunk) := by
  refine ⟨?_, ?_, fun code => ?_, fun e chunk => ?_⟩ <;>
    simp only [childStarted, childFailedToStart, childFinished, childReadyRead] <;>
    split <;> (try split) <;> (try exact .refl s)
  · exact frame_setChildState s hi _
  · exact frame_setChildState s hi _
  · next c hc _ =>
    exact (frame_setChildState s hi _).trans (frame_processFinished _ (hi c hc).symm _)
  · exact frame_log _ _ _

omit hi

variable (hs : s.EntryInv) (h : r ≠ r')
include hs h

theorem frame_stopExisting (old : WaitResult) : Frame r s (s.stopExisting r' old) := by
  unfold stopExisting; split
  · next i hi => exact frame_terminateOrKill s (hs.role_ne hi h) _ _
  · exact .refl s

theorem frame_stopService (w : WaitResult) (m : String) : Frame r s (s.stopService r' w m) := by
  unfold stopService; split
  · next i hi =>
    exact (frame_terminateOrKill s (hs.role_ne hi h) _ _).trans
      ((frame_setStatus _ h _).trans (frame_log _ _ _))
  · exact .refl s

omit hs in
theorem frame_launchChild (argv : List String) (launch : LaunchResult) :
    Frame r s (s.launchChild argv r' launch) where
  entry := by rw [launchChild_processes]; simp [Ne.symm h]
  status := by rw [launchChild_status]; split <;> simp [Function.update_noteq h]
  child i c hc _ := by
    rw [launchChild_children, List.getElem?_append_left (List.getElem?_eq_some_iff.mp hc).1, hc]

theorem frame_runCommand (cmd : Option (List String)) (old : WaitResult)
    (launch : LaunchResult) : Frame r s (s.runCommand cmd r' old launch) := by
  unfold runCommand; split
  · exact frame_log s _ _
  · exact (frame_stopExisting s hs h old).trans
      ((frame_log _ _ _).trans (frame_launchChild _ h _ _))

theorem frame_startService {py : Python} {w : Window} {iface m : String} {old : WaitResult}
    {launch : LaunchResult} {s' : Sys} (hst : s.startService py w r' iface m old launch = .ok s') :
    Frame r s s' := by
  have hfin : ∀ t : Sys, Frame r t ((t.setStatus r' "Running").log m false) :=
    fun t => (frame_setStatus t h _).trans (frame_log _ _ _)
  rcases startService_cases hst with ⟨-, rfl⟩ | ⟨-, s₁, cmd, hb, rfl⟩
  · exact frame_showError s _
  · rcases callBuild_eq_ok hb with ⟨_, -, h₁, rfl⟩ | ⟨_, -, h₁, rfl⟩ <;> subst s₁
    · exact (frame_runCommand s hs h _ _ _).trans (hfin _)
    · exact (frame_showError s _).trans
        ((frame_runCommand (s.showError _) (hs.evolves (.of_eq rfl rfl)) h _ _ _).trans (hfin _))

end Handlers

end Sys

/-! ### One action -/

/-- The role an action is addressed to: the tab of a button, or the role of the child an event
comes from. `cleanup_on_exit` is addressed to no single role. -/
def Action.addressee (s : Sys) : Action → Option Role
  | .startSinkService .. | .stopSinkService _ => some .sink
  | .startSourceService .. | .stopSourceService _ => some .source
  | .cleanupOnExit _ => none
  | .started i | .failedToStart i | .finished i _ | .readyRead i _ _ =>
    (s.children[i]?).map Child.role

/-- An action addressed to `r'` keeps the frame of every other role. -/
theorem Sys.EntryInv.frame_step {py : Python} {s s' : Sys} {a : Action} {r r' : Role}
    (hs : s.EntryInv) (ha : a.addressee s = some r') (h : r ≠ r')
    (hst : MiracleCast.step py s a = .ok s') :
    s.Frame r s' := by
  have hi : ∀ {i : Nat}, (s.children[i]?).map Child.role = some r' →
      ∀ (c : Child), s.children[i]? = some c → c.role ≠ r := fun ha c hc => by
    rw [hc, Option.map_some', Option.some_inj] at ha
    exact ha ▸ Ne.symm h
  cases a <;> simp only [Action.addressee, Option.some_inj] at ha <;> subst_vars
  · exact Sys.frame_startService s hs h hst
  · exact Sys.frame_startService s hs h hst
  · cases hst; exact Sys.frame_stopService s hs h _ _
  · cases hst; exact Sys.frame_stopService s hs h _ _
  · cases ha
  all_goals cases hst
  · exact (Sys.frame_childEvent s (hi ha)).1
  · exact (Sys.frame_childEvent s (hi ha)).2.1
  · exact (Sys.frame_childEvent s (hi ha)).2.2.1 _
  · exact (Sys.frame_childEvent s (hi ha)).2.2.2 _ _

/-- **Stale `finished` events**: the `finished` event of a child of role `c.role` that is no
longer the role's entry leaves `self.processes`, the entry's child and the other role's label
as they were, and, when the child was running or killed, sets the role's own label by the
exit code. -/
theorem stale_finished_sets_status {s : Sys} {i : Nat} {c : Child} {code : Int}
    (hc : s.children[i]? = some c) (hstale : s.processes.get c.role ≠ some i) :
    (s.childFinished i code).processes = s.processes ∧
      (∀ j, s.processes.get c.role = some j →
        (s.childFinished i code).children[j]? = s.children[j]?) ∧
      (s.childFinished i code).status c.role.other = s.status c.role.other ∧
      (s.childFinished i code).status c.role =
        if c.state = .running ∨ c.state = .killed then
          if code ≠ 0 then "Error" else "Not Running"
        else s.status c.role := by
  simp only [Sys.childFinished, hc]
  split
  · next hst =>
    refine ⟨by simp, fun j hj => ?_, by simp [Function.update_noteq c.role.other_ne], by simp [hst]⟩
    have hij : i ≠ j := fun h => hstale (h ▸ hj)
    simp [List.getElem?_modify, hij]
  · next hst => exact ⟨rfl, fun _ _ => rfl, rfl, by simp [hst]⟩

/-- A sink child that was killed on a restart, and the new child that is the entry. -/
def restartedSink : Sys :=
  { Sys.init with
    children := [⟨.sink, .killed⟩, ⟨.sink, .running⟩]
    processes := Registry.empty.set .sink 1 }

theorem restartedSink_finished_error :
    restartedSink.children[0]? = some ⟨.sink, .killed⟩ ∧
      restartedSink.processes.get .sink ≠ some 0 ∧
      ((restartedSink.childFinished 0 9).processes = restartedSink.processes ∧
        (∀ j, restartedSink.processes.get .sink = some j →
          (restartedSink.childFinished 0 9).children[j]? = restartedSink.children[j]?) ∧
        (restartedSink.childFinished 0 9).status Role.sink.other =
          restartedSink.status Role.sink.other ∧
        (restartedSink.childFinished 0 9).status .sink =
          if ChildState.killed = .running ∨ ChildState.killed = .killed then
            if (9 : Int) ≠ 0 then "Error" else "Not Running"
          else restartedSink.status .sink) :=
  ⟨rfl, by decide, stale_finished_sets_status (c := ⟨.sink, .killed⟩) rfl (by decide)⟩

/-- A restart of the sink whose old child ignores `terminate` and is killed, followed by that
child's `finished` with exit code 9: the label reads `Error` while the entry's child runs. -/
theorem stale_finished_shows_error :
    (run cpython312 Sys.init [.startSinkService wlan0Window .timesOut .started,
      .startSinkService wlan0Window .timesOut .started, .finished 0 9]).map
      (fun s => (s.processes.get .sink, s.children, s.status .sink)) =
      .ok (some 1, [⟨.sink, .exited⟩, ⟨.sink, .running⟩], "Error") := by
  decide

end MiracleCast

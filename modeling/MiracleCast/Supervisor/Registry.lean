import MiracleCast.Supervisor.Lifecycle

/-!
# `self.processes` over whole runs

What the registry holds in every reachable state. `EntryInv` says that an entry names its
role's most recently launched child, and that this child was confirmed started; it holds in
every reachable state (`entryInv_of_reachable`). Only a failed launch pops an entry: neither
`stop_*_service` nor `process_finished` removes the role's entry, so after a stop or the
child's own exit the entry names a finished process, and the next `Stop` waits on it, gets
`False` at once from `waitForFinished`, and logs a forced kill that never happens
(`registry_keeps_terminated_child`).

`LiveInv` says that every live child is its role's entry, and is running. It holds on every
run in which no `waitForStarted` gives up on a child that is still starting
(`ReachableConfirmed`); then each role has at most one live child and `cleanup_on_exit` leaves
none alive (`live_child_registered_of_confirmed`). A launch that times out while the child is
still starting breaks it: the entry is popped without a `terminate` or `kill`, the child
starts later outside the registry, and after the next start of the role two children of the
role are alive and `cleanup_on_exit` leaves one running (`late_start_orphans_child`).

The start handlers set the label to `Running` after `run_command` returns, whatever
`run_command` did, which overwrites its `Start Failed` (`start_failure_shows_running`).
-/

namespace MiracleCast

namespace Sys

/-- **Registry invariant**: every entry of `self.processes` names its role's most recently
launched child, and that child was confirmed started. -/
def EntryInv (s : Sys) : Prop :=
  ∀ r i, s.processes.get r = some i →
    (∃ c, s.children[i]? = some c ∧ c.role = r ∧ c.state.hasStarted) ∧
      ∀ k, i < k → (s.children[k]?).map Child.role ≠ some r

theorem EntryInv.evolves {s s' : Sys} (h : EntryInv s) (he : Evolves s s') : EntryInv s' := by
  intro r i hi
  rw [he.processes] at hi
  obtain ⟨⟨c, hc, hr, hs⟩, hnew⟩ := h r i hi
  obtain ⟨c', hc', hr', hs'⟩ := he.child i c hc
  exact ⟨⟨c', hc', hr'.trans hr, hs'.hasStarted hs⟩, fun k hk => he.map_role k ▸ hnew k hk⟩

theorem EntryInv.launchChild {s : Sys} (h : EntryInv s) (argv : List String) (r : Role)
    (launch : LaunchResult) : EntryInv (s.launchChild argv r launch) := by
  intro r' i hi
  rw [launchChild_processes] at hi
  rw [launchChild_children]
  split at hi
  · next hr =>
    cases hi
    obtain ⟨rfl, hl⟩ := hr
    refine ⟨⟨_, List.getElem?_concat_length _ _, rfl, ?_⟩, fun k hk => ?_⟩
    · simp [hl, LaunchResult.childState, ChildState.hasStarted]
    · simp [List.getElem?_eq_none (by simp; omega : (s.children ++ [_]).length ≤ k)]
  · split at hi
    · cases hi
    · next _ hr =>
      obtain ⟨⟨c, hc, hcr, hs⟩, hnew⟩ := h r' i hi
      have hi' : i < s.children.length := (List.getElem?_eq_some_iff.mp hc).1
      refine ⟨⟨c, by rw [List.getElem?_append_left hi', hc], hcr, hs⟩, fun k hk => ?_⟩
      rcases Nat.lt_trichotomy k s.children.length with hk' | rfl | hk'
      · rw [List.getElem?_append_left hk']; exact hnew k hk
      · simpa using hr
      · simp [List.getElem?_eq_none (by simp; omega : (s.children ++ [_]).length ≤ k)]

end Sys

theorem entryInv_init : Sys.init.EntryInv := by
  intro r i h; simp [Sys.init] at h

/-- One action keeps the registry invariant. -/
theorem Sys.EntryInv.step {py : Python} {s s' : Sys} {a : Action} (h : s.EntryInv)
    (hs : step py s a = .ok s') : s'.EntryInv := by
  rcases step_eq_ok hs with he | ⟨r, argv, old, launch, m, -, he⟩
  · exact h.evolves he
  · have h₁ := h.evolves ((Sys.evolves_stopExisting s r old).trans (Sys.evolves_log _ m false))
    exact (h₁.launchChild argv r launch).evolves he

theorem entryInv_of_reachable {py : Python} {s : Sys} (hs : Reachable py s) : s.EntryInv := by
  induction hs with
  | init => exact entryInv_init
  | step _ ha ih => exact ih.step ha

/-- **Finished children stay registered**: after `start_sink_service` and `stop_sink_service`,
and after `start_sink_service` and the child's own exit, the sink entry still names the child,
which has exited. A `Stop Sink` after that exit waits on the finished process and logs
`Process didn't terminate gracefully, forcing...`. -/
theorem registry_keeps_terminated_child :
    (run cpython312 Sys.init [startSinkWlan0, .stopSinkService (.exits 0)]).map
      (fun s => (s.processes.get .sink, s.children)) = .ok (some 0, [⟨.sink, .exited⟩]) ∧
    (run cpython312 Sys.init [startSinkWlan0, .finished 0 0, .stopSinkService (.exits 0)]).map
      (fun s => (s.processes.get .sink, s.children, s.console.reverse.take 2)) =
      .ok (some 0, [⟨.sink, .exited⟩], [⟨"Stopped sink service", false⟩,
        ⟨"Process didn't terminate gracefully, forcing...", true⟩]) := by
  decide

/-! ### The status label after a failed start -/

/-- `start_source_service` with a width the check rejects, and `start_sink_service` whose child
fails to start: in both, the role's label reads `Running` and `self.processes` has no entry
for the role. -/
theorem start_failure_shows_running :
    (run cpython312 Sys.init [.startSourceService { wlan0Window with sourceResWidth := "100" }
      .timesOut .started]).map (fun s => (s.status .source, s.processes.get .source)) =
      .ok ("Running", none) ∧
    (run cpython312 Sys.init [.startSinkService wlan0Window .timesOut .failsToStart]).map
      (fun s => (s.status .sink, s.processes.get .sink)) = .ok ("Running", none) := by
  decide

/-! ### Live children -/

/-- A run of the sink role where `waitForStarted` gives up on the first child while it is
still starting, the child starts afterwards, and the role is started again. -/
def lateStartRun : List Action :=
  [.startSinkService wlan0Window .timesOut .timesOut, .started 0,
    .startSinkService wlan0Window .timesOut .started]

/-- After `lateStartRun` two sink children are running and only the second is in
`self.processes`; `cleanup_on_exit` then leaves the first one running. -/
theorem late_start_orphans_child :
    (run cpython312 Sys.init lateStartRun).map (fun s => (s.processes.get .sink, s.children)) =
      .ok (some 1, [⟨.sink, .running⟩, ⟨.sink, .running⟩]) ∧
    (run cpython312 Sys.init (lateStartRun ++ [.cleanupOnExit fun _ => .exits 0])).map
      (·.children) = .ok [⟨.sink, .running⟩, ⟨.sink, .exited⟩] := by
  decide

namespace Sys

theorem kill_not_live {s : Sys} {i : Nat} {c : Child} (h : (s.kill i).children[i]? = some c) :
    c.state.isLive = false := by
  unfold kill at h
  split at h
  · next c₀ hc₀ =>
    split at h
    · simp only [setChildState_children, List.getElem?_modify, hc₀] at h
      cases h; rfl
    · next hl => rw [hc₀] at h; cases h; simpa using hl
  · next hc₀ => simp [hc₀] at h

/-- The wait either ends with child `i` exited, or changes nothing. -/
theorem terminateAndWait_spec (s : Sys) (i : Nat) (w : WaitResult) :
    ((s.terminateAndWait i w).2 = true →
      ∀ c, (s.terminateAndWait i w).1.children[i]? = some c → c.state = .exited) ∧
    ((s.terminateAndWait i w).2 = false → (s.terminateAndWait i w).1 = s) := by
  unfold terminateAndWait
  split
  · next c₀ code hc₀ =>
    split
    · refine ⟨fun _ c h => ?_, by simp⟩
      simp only [processFinished_children, setChildState_children, List.getElem?_modify, hc₀] at h
      cases h; rfl
    · simp
  · simp

theorem terminateOrKill_not_live {s : Sys} {i : Nat} {w : WaitResult} {m : String} {c : Child}
    (h : (s.terminateOrKill i w m).children[i]? = some c) : c.state.isLive = false := by
  obtain ⟨hex, hsame⟩ := terminateAndWait_spec s i w
  unfold terminateOrKill at h
  cases hp : s.terminateAndWait i w with
  | mk s' b =>
    rw [hp] at h hex hsame
    cases b
    · exact kill_not_live h
    · simp [hex rfl c h, ChildState.isLive]

theorem cleanupEntry_not_live {s : Sys} {r : Role} {i : Nat} {w : WaitResult} {c : Child}
    (h : (s.cleanupEntry r i w).children[i]? = some c) : c.state.isLive = false := by
  unfold cleanupEntry at h
  cases hc₀ : s.children[i]? with
  | none => simp [hc₀] at h
  | some c₀ =>
    simp only [hc₀] at h
    split at h
    · obtain ⟨hex, -⟩ := terminateAndWait_spec (s.log ("Cleaning up process: " ++ r.name) false)
        i w
      cases hp : (s.log ("Cleaning up process: " ++ r.name) false).terminateAndWait i w with
      | mk s' b =>
        rw [hp] at h hex
        cases b
        · exact kill_not_live h
        · simp [hex rfl c h, ChildState.isLive]
    · next hq =>
      rw [hc₀] at h; cases h
      cases hs : c.state <;> simp_all [ChildState.qtRunning, ChildState.isLive]

/-- A child that is not alive stays so. -/
theorem Evolves.not_live {s s' : Sys} (he : Evolves s s') {i : Nat}
    (h : ∀ c, s.children[i]? = some c → c.state.isLive = false) :
    ∀ c, s'.children[i]? = some c → c.state.isLive = false := by
  intro c' hc'
  obtain ⟨c, hc, -, hs⟩ := he.child_inv hc'
  exact Bool.eq_false_iff.mpr fun hl => by simpa [h c hc] using hs.isLive hl

/-- The loop of `cleanup_on_exit` leaves the child of every entry it visits dead. -/
theorem cleanupFold_not_live (waits : Role → WaitResult) :
    ∀ (es : List (Role × Nat)) (s : Sys), ∀ e ∈ es, ∀ c,
      (es.foldl (fun s e => s.cleanupEntry e.1 e.2 (waits e.1)) s).children[e.2]? = some c →
        c.state.isLive = false
  | [], _, _, he => by simp at he
  | e :: es, s, e', he => by
    rcases List.mem_cons.mp he with rfl | he
    · exact (evolves_cleanupFold waits es _).not_live fun _ => cleanupEntry_not_live
    · exact cleanupFold_not_live waits es _ e' he

/-- **Liveness invariant**: every live child is running and is its role's entry. -/
def LiveInv (s : Sys) : Prop :=
  ∀ (i : Nat) (c : Child), s.children[i]? = some c → c.state.isLive →
    c.state = .running ∧ s.processes.get c.role = some i

theorem LiveInv.evolves {s s' : Sys} (h : LiveInv s) (he : Evolves s s') : LiveInv s' := by
  intro i c' hc' hl
  obtain ⟨c, hc, hr, hs⟩ := he.child_inv hc'
  obtain ⟨hrun, hget⟩ := h i c hc (hs.isLive hl)
  exact ⟨hs.eq_running hrun hl, by rw [he.processes, hr, hget]⟩

/-- Once `run_command` has stopped the role's existing process, no child of the role is
alive. -/
theorem LiveInv.stopExisting {s : Sys} (h : LiveInv s) (r : Role) (old : WaitResult) :
    ∀ (i : Nat) (c : Child), (s.stopExisting r old).children[i]? = some c → c.role = r →
      c.state.isLive = false := by
  intro i c hc hr
  by_contra hl
  obtain ⟨c₀, hc₀, hr₀, hs₀⟩ := (evolves_stopExisting s r old).child_inv hc
  obtain ⟨-, hget⟩ := h i c₀ hc₀ (hs₀.isLive (by simpa using hl))
  rw [← hr₀, hr] at hget
  simp only [Sys.stopExisting, hget] at hc
  exact hl (by simp [terminateOrKill_not_live hc])

theorem LiveInv.launchChild {s : Sys} (h : LiveInv s) {argv : List String} {r : Role}
    {launch : LaunchResult}
    (hr : ∀ (i : Nat) (c : Child), s.children[i]? = some c → c.role = r → c.state.isLive = false)
    (hl : launch.effective argv ≠ .timesOut) : LiveInv (s.launchChild argv r launch) := by
  intro i c hc hlive
  rw [launchChild_children] at hc
  rw [launchChild_processes]
  rcases Nat.lt_or_ge i s.children.length with hi | hi
  · rw [List.getElem?_append_left hi] at hc
    obtain ⟨hrun, hget⟩ := h i c hc hlive
    have hne : r ≠ c.role := fun h' => by simp [hr i c hc h'.symm] at hlive
    simp [hne, hrun, hget]
  · rw [List.getElem?_append_right hi] at hc
    obtain ⟨hi', hc⟩ := List.getElem?_eq_some_iff.mp hc
    simp only [List.length_singleton, List.getElem_singleton] at hi' hc
    subst hc
    have hi'' : i = s.children.length := by omega
    subst hi''
    cases he : launch.effective argv with
    | started => simp [he, LaunchResult.childState]
    | timesOut => exact absurd he hl
    | failsToStart | raises _ => simp [he, LaunchResult.childState, ChildState.isLive] at hlive

end Sys

/-- The states reached from `Sys.init` by the runs in which no `waitForStarted` gives up on a
child that is still starting. -/
inductive ReachableConfirmed (py : Python) : Sys → Prop
  | init : ReachableConfirmed py Sys.init
  | step {s s' : Sys} {a : Action} : ReachableConfirmed py s → a.launch? ≠ some .timesOut →
      step py s a = .ok s' → ReachableConfirmed py s'

theorem bothRunning_confirmed : ReachableConfirmed cpython312 bothRunning :=
  .step (.step .init (a := startSinkWlan0) (by decide) rfl) (a := startSourceWlan0) (by decide) rfl

theorem liveInv_of_confirmed {py : Python} {s : Sys} (hs : ReachableConfirmed py s) :
    s.LiveInv := by
  induction hs with
  | init => intro i c h; simp [Sys.init] at h
  | step _ hna ha ih =>
    rcases step_eq_ok ha with he | ⟨r, argv, old, launch, m, hl, he⟩
    · exact ih.evolves he
    · have hs₁ := ih.evolves ((Sys.evolves_stopExisting _ r old).trans (Sys.evolves_log _ m false))
      refine (hs₁.launchChild (fun i c hc => ih.stopExisting r old i c hc) ?_).evolves he
      rw [hl] at hna
      unfold LaunchResult.effective
      split <;> simp_all

/-- **Live children are registered**: on every run in which no `waitForStarted` gives up on a
child that is still starting, every live child is running and is its role's entry in
`self.processes`, each role has at most one live child, and `cleanup_on_exit` leaves no child
alive, whether the children honour `terminate` or not. -/
theorem live_child_registered_of_confirmed {py : Python} {s : Sys}
    (hs : ReachableConfirmed py s) :
    (∀ (i : Nat) (c : Child), s.children[i]? = some c → c.state.isLive →
      c.state = .running ∧ s.processes.get c.role = some i) ∧
    (∀ (i j : Nat) (c d : Child), s.children[i]? = some c → s.children[j]? = some d →
      c.state.isLive → d.state.isLive → c.role = d.role → i = j) ∧
    ∀ waits, ∀ c ∈ (s.cleanupOnExit waits).children, c.state.isLive = false := by
  have h := liveInv_of_confirmed hs
  refine ⟨h, fun i j c d hc hd hlc hld hr => ?_, fun waits c' hc' => ?_⟩
  · have hi := (h i c hc hlc).2
    rw [hr, (h j d hd hld).2] at hi
    exact (Option.some.inj hi).symm
  · obtain ⟨k, hk⟩ := List.mem_iff_getElem?.mp hc'
    refine Bool.eq_false_iff.mpr fun hl => ?_
    obtain ⟨c, hc, -, hs⟩ := (Sys.evolves_cleanupOnExit (s := s) waits).child_inv hk
    have he := mem_of_lookupEntry (h k c hc (hs.isLive hl)).2
    simpa [hl] using Sys.cleanupFold_not_live waits _ s _ he c' hk

/-- A running sink child and a running source child: each is its role's entry, they are of
different roles, and the cleanup leaves neither alive. -/
theorem live_child_registered_bothRunning :
    ReachableConfirmed cpython312 bothRunning ∧
      bothRunning.children = [⟨.sink, .running⟩, ⟨.source, .running⟩] ∧
    ((∀ (i : Nat) (c : Child), bothRunning.children[i]? = some c → c.state.isLive →
      c.state = .running ∧ bothRunning.processes.get c.role = some i) ∧
    (∀ (i j : Nat) (c d : Child), bothRunning.children[i]? = some c →
      bothRunning.children[j]? = some d → c.state.isLive → d.state.isLive → c.role = d.role →
        i = j) ∧
    ∀ waits, ∀ c ∈ (bothRunning.cleanupOnExit waits).children, c.state.isLive = false) :=
  ⟨bothRunning_confirmed, by decide, live_child_registered_of_confirmed bothRunning_confirmed⟩

end MiracleCast

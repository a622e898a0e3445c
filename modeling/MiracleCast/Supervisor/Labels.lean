import MiracleCast.Supervisor.Lifecycle

/-!
# The status labels

Four texts are written to a role's status label: `Running` by the start handlers, `Not Running`
by the stop handlers and by `process_finished` after a clean exit, `Error` by `process_finished`
after a nonzero exit, and `Start Failed` by `run_command` when `waitForStarted` or `exec` fails.
`run_command` is called only by the start handlers, and each of them sets its label to
`Running` as soon as `run_command` returns, before Qt delivers any other event. So `Start
Failed` is never on screen: in every reachable state each label reads `Not Running`,
`Running` or `Error` (`status_mem_of_reachable`).

The proof says once, per handler, that it keeps `Sys.Labeled`; only the start handler writes
`Start Failed`, and it is checked together with the `Running` that follows it.
-/

namespace MiracleCast

/-- The texts a status label shows between two events. -/
def statusTexts : List String := ["Not Running", "Running", "Error"]

namespace Sys

/-- Every status label shows one of `statusTexts`. -/
def Labeled (s : Sys) : Prop := ∀ r, s.status r ∈ statusTexts

section Labels

variable {s : Sys}

theorem Labeled.of_status {t : Sys} (h : s.Labeled) (he : t.status = s.status) : t.Labeled :=
  fun r => he ▸ h r

/-- Writing one of `statusTexts` to one label keeps the others. -/
theorem Labeled.update {t : Sys} {r : Role} {text : String} (h : s.Labeled)
    (ht : text ∈ statusTexts) (he : t.status = Function.update s.status r text) : t.Labeled := by
  intro r'
  rw [he]
  by_cases hr : r' = r
  · subst hr; simpa using ht
  · rw [Function.update_noteq hr]; exact h r'

theorem Labeled.processFinished (h : s.Labeled) (r : Role) (code : Int) :
    (s.processFinished r code).Labeled :=
  h.update (by split <;> decide) (processFinished_status s r code)

theorem Labeled.terminateAndWait (h : s.Labeled) (i : Nat) (w : WaitResult) :
    (s.terminateAndWait i w).1.Labeled := by
  unfold Sys.terminateAndWait
  split
  · split
    · exact (h.of_status (t := s.setChildState i .exited) rfl).processFinished _ _
    · exact h
  · exact h

theorem Labeled.kill (h : s.Labeled) (i : Nat) : (s.kill i).Labeled := by
  unfold Sys.kill; split
  · split
    · exact h.of_status rfl
    · exact h
  · exact h

theorem Labeled.terminateOrKill (h : s.Labeled) (i : Nat) (w : WaitResult) (m : String) :
    (s.terminateOrKill i w m).Labeled := by
  unfold Sys.terminateOrKill
  have h' := h.terminateAndWait i w
  split
  · next s' heq => simpa [heq] using h'
  · next s' heq =>
    rw [heq] at h'
    exact (h'.of_status (t := s'.log m true) rfl).kill i

theorem Labeled.stopExisting (h : s.Labeled) (r : Role) (old : WaitResult) :
    (s.stopExisting r old).Labeled := by
  unfold Sys.stopExisting; split
  · exact h.terminateOrKill _ _ _
  · exact h

theorem Labeled.stopService (h : s.Labeled) (r : Role) (w : WaitResult) (m : String) :
    (s.stopService r w m).Labeled := by
  unfold Sys.stopService; split
  · exact Labeled.update (h.terminateOrKill _ _ _) (by decide) rfl
  · exact h

theorem Labeled.cleanupEntry (h : s.Labeled) (r : Role) (i : Nat) (w : WaitResult) :
    (s.cleanupEntry r i w).Labeled := by
  unfold Sys.cleanupEntry
  split
  · split
    · have h' := (h.of_status (t := s.log ("Cleaning up process: " ++ r.name) false)
        rfl).terminateAndWait i w
      split
      · next s' heq => simpa [heq] using h'
      · next s' heq => rw [heq] at h'; exact h'.kill i
    · exact h
  · exact h

theorem Labeled.cleanupOnExit (h : s.Labeled) (waits : Role → WaitResult) :
    (s.cleanupOnExit waits).Labeled := by
  unfold Sys.cleanupOnExit
  induction s.processes.entries generalizing s with
  | nil => exact h
  | cons e es ih => exact ih (h.cleanupEntry _ _ _)

/-- **A start request**: whatever `run_command` wrote, the handler's `Running` comes last. -/
theorem Labeled.startService {py : Python} {s' : Sys} {w : Window} {r : Role}
    {iface m : String} {old : WaitResult} {launch : LaunchResult} (h : s.Labeled)
    (hst : s.startService py w r iface m old launch = .ok s') : s'.Labeled := by
  rcases startService_cases hst with ⟨-, rfl⟩ | ⟨-, s₁, cmd, hb, rfl⟩
  · exact h.of_status rfl
  · have h₁ : s₁.Labeled := by
      rcases callBuild_eq_ok hb with ⟨_, -, rfl, -⟩ | ⟨_, -, rfl, -⟩
      · exact h
      · exact h.of_status rfl
    have hrun : "Running" ∈ statusTexts := by decide
    refine Labeled.of_status (s := (s₁.runCommand cmd r old launch).setStatus r "Running") ?_ rfl
    cases cmd with
    | none => exact (h₁.of_status rfl).update hrun rfl
    | some argv =>
      have h₂ :
          ((s₁.stopExisting r old).log ("Running: " ++ " ".intercalate argv) false).Labeled :=
        (h₁.stopExisting r old).of_status rfl
      refine h₂.update (r := r) hrun ?_
      simp only [runCommand, setStatus_status, launchChild_status]
      split <;> simp

theorem Labeled.childEvent (h : s.Labeled) (i : Nat) :
    (s.childStarted i).Labeled ∧ (s.childFailedToStart i).Labeled ∧
      (∀ code, (s.childFinished i code).Labeled) ∧
      ∀ e chunk, (s.childReadyRead i e chunk).Labeled := by
  refine ⟨?_, ?_, fun code => ?_, fun e chunk => ?_⟩ <;>
    simp only [childStarted, childFailedToStart, childFinished, childReadyRead] <;>
    split <;> (try split) <;> (try exact h)
  exact (h.of_status (t := s.setChildState i .exited) rfl).processFinished _ _

end Labels

end Sys

theorem Sys.Labeled.step {py : Python} {s s' : Sys} {a : Action} (h : s.Labeled)
    (hst : step py s a = .ok s') : s'.Labeled := by
  cases a with
  | startSinkService w old launch => exact h.startService hst
  | startSourceService w old launch => exact h.startService hst
  | stopSinkService wait => cases hst; exact h.stopService _ _ _
  | stopSourceService wait => cases hst; exact h.stopService _ _ _
  | cleanupOnExit waits => cases hst; exact h.cleanupOnExit waits
  | started i => cases hst; exact (h.childEvent i).1
  | failedToStart i => cases hst; exact (h.childEvent i).2.1
  | finished i code => cases hst; exact (h.childEvent i).2.2.1 code
  | readyRead i e chunk => cases hst; exact (h.childEvent i).2.2.2 e chunk

/-- **`Start Failed` is never on screen**: in every reachable state each status label reads
`Not Running`, `Running` or `Error`. -/
theorem status_mem_of_reachable {py : Python} {s : Sys} (hs : Reachable py s) (r : Role) :
    s.status r ∈ statusTexts := by
  have hl : s.Labeled := by
    induction hs with
    | init => exact fun _ => show "Not Running" ∈ statusTexts by decide
    | step _ hst ih => exact ih.step hst
  exact hl r

/-- The sink label after a start whose process fails to start: `Running`, not `Start Failed`. -/
theorem status_mem_after_failed_start :
    ∃ s, step cpython312 Sys.init (.startSinkService wlan0Window (.exits 0) .failsToStart) = .ok s ∧
      s.status .sink ∈ statusTexts :=
  ⟨_, rfl, status_mem_of_reachable
    (.step (a := .startSinkService wlan0Window (.exits 0) .failsToStart)
      (.init : Reachable cpython312 _) rfl) .sink⟩

end MiracleCast

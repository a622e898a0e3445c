import MiracleCast.Supervisor.Lifecycle

/-!
# The supervisor never reads its console

The handlers write the console and open dialogs, but what they do to the children, to
`self.processes` and to the labels depends only on those three: `Sys.Agree s t` says that `t`
has the children, the registry and the labels of `s`, whatever its console and dialogs, and
every handler carries it over (`Sys.Agree.step`). Lines that the rest of the window logs
between two events, and the dialogs it shows, therefore never change what the supervisor does
next: this is what lets the application's runs be projected onto the supervisor's own.
-/

namespace MiracleCast

namespace Sys

/-- `t` agrees with `s` on everything the handlers read: the children, the registry and the
labels. -/
structure Agree (s t : Sys) : Prop where
  children : t.children = s.children
  processes : t.processes = s.processes
  status : t.status = s.status

/-- Two outcomes of one action: the same exception, or agreeing states. -/
def AgreeOutcome : Except PyError Sys → Except PyError Sys → Prop
  | .error e, .error e' => e = e'
  | .ok s, .ok t => Agree s t
  | _, _ => False

namespace Agree

variable {s t : Sys}

theorem refl (s : Sys) : Agree s s := ⟨rfl, rfl, rfl⟩

theorem trans {u : Sys} (h₁ : Agree s t) (h₂ : Agree t u) : Agree s u :=
  ⟨h₂.1.trans h₁.1, h₂.2.trans h₁.2, h₂.3.trans h₁.3⟩

/-- A line or a dialog written on one side only. -/
theorem log_right (h : Agree s t) (m : String) (e : Bool) : Agree s (t.log m e) :=
  ⟨h.1, h.2, h.3⟩

theorem showError_right (h : Agree s t) (m : String) : Agree s (t.showError m) :=
  ⟨h.1, h.2, h.3⟩

theorem log (h : Agree s t) (m : String) (e : Bool) : Agree (s.log m e) (t.log m e) :=
  ⟨h.1, h.2, h.3⟩

theorem showError (h : Agree s t) (m : String) : Agree (s.showError m) (t.showError m) :=
  ⟨h.1, h.2, h.3⟩

theorem setStatus (h : Agree s t) (r : Role) (text : String) :
    Agree (s.setStatus r text) (t.setStatus r text) :=
  ⟨h.1, h.2, by simp [h.3]⟩

theorem setChildState (h : Agree s t) (i : Nat) (st : ChildState) :
    Agree (s.setChildState i st) (t.setChildState i st) :=
  ⟨by simp [h.1], h.2, h.3⟩

theorem popEntry (h : Agree s t) (r : Role) : Agree (s.popEntry r) (t.popEntry r) :=
  ⟨h.1, by simp [Sys.popEntry, h.2], h.3⟩

theorem processFinished (h : Agree s t) (r : Role) (code : Int) :
    Agree (s.processFinished r code) (t.processFinished r code) := by
  unfold Sys.processFinished; split
  · exact (h.log _ _).setStatus _ _
  · exact (h.log _ _).setStatus _ _

theorem terminateAndWait (h : Agree s t) (i : Nat) (w : WaitResult) :
    Agree (s.terminateAndWait i w).1 (t.terminateAndWait i w).1 ∧
      (t.terminateAndWait i w).2 = (s.terminateAndWait i w).2 := by
  simp only [Sys.terminateAndWait, h.children]
  split
  · split
    · exact ⟨(h.setChildState _ _).processFinished _ _, rfl⟩
    · exact ⟨h, rfl⟩
  · exact ⟨h, rfl⟩

theorem kill (h : Agree s t) (i : Nat) : Agree (s.kill i) (t.kill i) := by
  simp only [Sys.kill, h.children]
  split
  · split
    · exact h.setChildState _ _
    · exact h
  · exact h

theorem terminateOrKill (h : Agree s t) (i : Nat) (w : WaitResult) (m : String) :
    Agree (s.terminateOrKill i w m) (t.terminateOrKill i w m) := by
  obtain ⟨h₁, h₂⟩ := h.terminateAndWait i w
  unfold Sys.terminateOrKill
  cases hs : s.terminateAndWait i w with
  | mk s₁ b =>
    cases ht : t.terminateAndWait i w with
    | mk t₁ b' =>
      rw [hs, ht] at h₁ h₂
      cases h₂
      cases b
      · exact (h₁.log _ _).kill i
      · exact h₁

theorem stopExisting (h : Agree s t) (r : Role) (old : WaitResult) :
    Agree (s.stopExisting r old) (t.stopExisting r old) := by
  simp only [Sys.stopExisting, h.processes]
  split
  · exact h.terminateOrKill _ _ _
  · exact h

theorem startProcess (h : Agree s t) (i : Nat) (argv : List String) (r : Role)
    (launch : LaunchResult) :
    Agree (s.startProcess i argv r launch) (t.startProcess i argv r launch) := by
  cases launch with
  | started => exact h.setChildState _ _
  | timesOut => exact ((h.log _ _).setStatus _ _).popEntry _
  | failsToStart => exact (((h.setChildState _ _).log _ _).setStatus _ _).popEntry _
  | raises m => exact ((h.setChildState _ _).log _ _).popEntry _

theorem launchChild (h : Agree s t) (argv : List String) (r : Role) (launch : LaunchResult) :
    Agree (s.launchChild argv r launch) (t.launchChild argv r launch) := by
  have h' : Agree
      { s with children := s.children ++ [⟨r, .starting⟩],
               processes := s.processes.set r s.children.length }
      { t with children := t.children ++ [⟨r, .starting⟩],
               processes := t.processes.set r t.children.length } :=
    ⟨by simp [h.1], by simp [h.1, h.2], h.3⟩
  simp only [Sys.launchChild, h.children] at h' ⊢
  exact h'.startProcess _ _ _ _

theorem runCommand (h : Agree s t) (cmd : Option (List String)) (r : Role) (old : WaitResult)
    (launch : LaunchResult) :
    Agree (s.runCommand cmd r old launch) (t.runCommand cmd r old launch) := by
  cases cmd with
  | none => exact h.log _ _
  | some argv => exact ((h.stopExisting r old).log _ _).launchChild _ _ _

/-- A start request ends alike on both sides: the same exception, or agreeing states. -/
theorem startService {py : Python} (h : Agree s t) (w : Window) (r : Role) (iface m : String)
    (old : WaitResult) (launch : LaunchResult) :
    AgreeOutcome (s.startService py w r iface m old launch)
      (t.startService py w r iface m old launch) := by
  unfold Sys.startService
  split
  · exact h.showError _
  · unfold Sys.callBuild
    split
    · exact ((h.runCommand _ _ _ _).setStatus _ _).log _ _
    · exact (((h.showError _).runCommand _ _ _ _).setStatus _ _).log _ _
    · rfl

theorem stopService (h : Agree s t) (r : Role) (w : WaitResult) (m : String) :
    Agree (s.stopService r w m) (t.stopService r w m) := by
  simp only [Sys.stopService, h.processes]
  split
  · exact ((h.terminateOrKill _ _ _).setStatus _ _).log _ _
  · exact h

theorem cleanupEntry (h : Agree s t) (r : Role) (i : Nat) (w : WaitResult) :
    Agree (s.cleanupEntry r i w) (t.cleanupEntry r i w) := by
  simp only [Sys.cleanupEntry, h.children]
  split
  · split
    · obtain ⟨h₁, h₂⟩ :=
        (h.log ("Cleaning up process: " ++ r.name) false).terminateAndWait i w
      cases hs : (s.log ("Cleaning up process: " ++ r.name) false).terminateAndWait i w with
      | mk s₁ b =>
        cases ht : (t.log ("Cleaning up process: " ++ r.name) false).terminateAndWait i w with
        | mk t₁ b' =>
          rw [hs, ht] at h₁ h₂
          cases h₂
          cases b
          · exact h₁.kill i
          · exact h₁
    · exact h
  · exact h

theorem cleanupOnExit (h : Agree s t) (waits : Role → WaitResult) :
    Agree (s.cleanupOnExit waits) (t.cleanupOnExit waits) := by
  unfold Sys.cleanupOnExit
  rw [h.processes]
  induction s.processes.entries generalizing s t with
  | nil => exact h
  | cons e es ih => exact ih (h.cleanupEntry _ _ _)

theorem childEvent (h : Agree s t) (i : Nat) :
    Agree (s.childStarted i) (t.childStarted i) ∧
      Agree (s.childFailedToStart i) (t.childFailedToStart i) ∧
      (∀ code, Agree (s.childFinished i code) (t.childFinished i code)) ∧
      ∀ e chunk, Agree (s.childReadyRead i e chunk) (t.childReadyRead i e chunk) := by
  refine ⟨?_, ?_, fun code => ?_, fun e chunk => ?_⟩ <;>
    simp only [Sys.childStarted, Sys.childFailedToStart, Sys.childFinished, Sys.childReadyRead,
      h.children] <;>
    split <;> (try split) <;> (try exact h)
  · exact h.setChildState _ _
  · exact h.setChildState _ _
  · exact (h.setChildState _ _).processFinished _ _
  · exact h.log _ _

end Agree

end Sys

/-- **One action on agreeing states** ends in the same exception, or in agreeing states. -/
theorem Sys.Agree.step {py : Python} {s t : Sys} (h : s.Agree t) :
    ∀ a, Sys.AgreeOutcome (step py s a) (step py t a)
  | .startSinkService w old launch => h.startService w _ _ _ old launch
  | .startSourceService w old launch => h.startService w _ _ _ old launch
  | .stopSinkService _ => h.stopService _ _ _
  | .stopSourceService _ => h.stopService _ _ _
  | .cleanupOnExit waits => h.cleanupOnExit waits
  | .started i => (h.childEvent i).1
  | .failedToStart i => (h.childEvent i).2.1
  | .finished i code => (h.childEvent i).2.2.1 code
  | .readyRead i e chunk => (h.childEvent i).2.2.2 e chunk

end MiracleCast

import MiracleCast.Supervisor.Handlers

/-!
# How the handlers move the children

Every handler except the launch at the end of `run_command` leaves `self.processes` and the
list of children as they are, up to the state of existing children, and a child's state only
moves forward: `ChildState.Evolves` lists the moves (a starting child may end up anywhere, a
running child may be killed or exit, a killed child's exit may be reported). `Sys.Evolves`
packages this for a whole state; it is a preorder, each handler is proved to be such a move
once, and the invariants of the later modules are derived from it rather than from the
handlers' bodies.

The launch itself, `Sys.launchChild`, appends one child of the role and points the role's
entry at it, or pops the entry again when the launch fails; its effect is spelled out in
`launchChild_children` and `launchChild_processes`.
-/

namespace MiracleCast

namespace ChildState

/-- The moves of a child's state: a starting child may reach any state, a running child may
be killed or exit, the exit of a killed child may be reported. -/
def Evolves (a b : ChildState) : Prop :=
  a = .starting ∨ a = b ∨ (a = .running ∧ (b = .killed ∨ b = .exited)) ∨
    (a = .killed ∧ b = .exited)

theorem Evolves.refl (a : ChildState) : Evolves a a := .inr (.inl rfl)

theorem Evolves.trans {a b c : ChildState} (h₁ : Evolves a b) (h₂ : Evolves b c) :
    Evolves a c := by
  rcases h₁ with rfl | rfl | ⟨rfl, rfl | rfl⟩ | ⟨rfl, rfl⟩
  · exact .inl rfl
  · exact h₂
  all_goals rcases h₂ with h | rfl | ⟨h, -⟩ | ⟨h, rfl⟩ <;> simp_all [Evolves]

/-- A child once started stays started. -/
theorem Evolves.hasStarted {a b : ChildState} (h : Evolves a b) (ha : a.hasStarted) :
    b.hasStarted := by
  cases a <;> cases b <;> simp_all [Evolves, ChildState.hasStarted]

/-- A dead child stays dead. -/
theorem Evolves.isLive {a b : ChildState} (h : Evolves a b) (hb : b.isLive) : a.isLive := by
  cases a <;> cases b <;> simp_all [Evolves, ChildState.isLive]

/-- A running child that is still alive is still running. -/
theorem Evolves.eq_running {a b : ChildState} (h : Evolves a b) (ha : a = .running)
    (hb : b.isLive) : b = .running := by
  subst ha; cases b <;> simp_all [Evolves, ChildState.isLive]

end ChildState

/-- `c` may become `c'`: same role, the state moved along `ChildState.Evolves`. -/
def Child.Evolves (c c' : Child) : Prop :=
  c'.role = c.role ∧ c.state.Evolves c'.state

namespace Sys

/-- `s'` comes from `s` by moves of existing children only: the same registry and the same
children, in number and in role. -/
structure Evolves (s s' : Sys) : Prop where
  processes : s'.processes = s.processes
  length : s'.children.length = s.children.length
  child : ∀ (i : Nat) (c : Child), s.children[i]? = some c → ∃ c', s'.children[i]? = some c' ∧ c.Evolves c'

namespace Evolves

theorem refl (s : Sys) : Evolves s s :=
  ⟨rfl, rfl, fun _ c h => ⟨c, h, rfl, .refl _⟩⟩

theorem trans {s₁ s₂ s₃ : Sys} (h₁ : Evolves s₁ s₂) (h₂ : Evolves s₂ s₃) : Evolves s₁ s₃ where
  processes := h₂.processes.trans h₁.processes
  length := h₂.length.trans h₁.length
  child i c hc := by
    obtain ⟨c₂, hc₂, hr₂, hs₂⟩ := h₁.child i c hc
    obtain ⟨c₃, hc₃, hr₃, hs₃⟩ := h₂.child i c₂ hc₂
    exact ⟨c₃, hc₃, hr₃.trans hr₂, hs₂.trans hs₃⟩

/-- Each child of `s'` comes from the child of `s` at the same index. -/
theorem child_inv {s s' : Sys} (h : Evolves s s') {i : Nat} {c' : Child}
    (hc' : s'.children[i]? = some c') : ∃ c, s.children[i]? = some c ∧ c.Evolves c' := by
  have hi : i < s.children.length := h.length ▸ (List.getElem?_eq_some_iff.mp hc').1
  obtain ⟨c'', hc'', hev⟩ := h.child i _ (List.getElem?_eq_getElem hi)
  exact ⟨_, List.getElem?_eq_getElem hi, (Option.some.inj (hc''.symm.trans hc')) ▸ hev⟩

/-- Roles are kept, index by index. -/
theorem map_role {s s' : Sys} (h : Evolves s s') (k : Nat) :
    (s'.children[k]?).map Child.role = (s.children[k]?).map Child.role := by
  cases hk : s.children[k]? with
  | none =>
    rw [List.getElem?_eq_none (h.length ▸ List.getElem?_eq_none_iff.mp hk)]
  | some c =>
    obtain ⟨c', hc', hr, -⟩ := h.child k c hk
    simp [hc', hr]

theorem of_eq {s s' : Sys} (hc : s'.children = s.children) (hp : s'.processes = s.processes) :
    Evolves s s' := by
  obtain ⟨h₁, h₂, h₃⟩ := refl s
  exact ⟨hp, hc ▸ h₂, hc ▸ h₃⟩

/-- A child whose state moves is the only change of `setChildState`. -/
theorem setChildState {s : Sys} {i : Nat} {st : ChildState}
    (h : ∀ c, s.children[i]? = some c → c.state.Evolves st) : Evolves s (s.setChildState i st) where
  processes := rfl
  length := by simp
  child j c hc := by
    by_cases hij : i = j
    · subst hij
      exact ⟨{ c with state := st }, by simp [List.getElem?_modify, hc], rfl, h c hc⟩
    · exact ⟨c, by simp [List.getElem?_modify, hc, hij], rfl, .refl _⟩

end Evolves

/-! ### The handlers as moves -/

section Moves

variable (s : Sys)

theorem evolves_log (m : String) (e : Bool) : Evolves s (s.log m e) := .of_eq rfl rfl

theorem evolves_processFinished (r : Role) (code : Int) : Evolves s (s.processFinished r code) :=
  .of_eq (processFinished_children s r code) (processFinished_processes s r code)

theorem evolves_terminateAndWait (i : Nat) (w : WaitResult) :
    Evolves s (s.terminateAndWait i w).1 := by
  unfold terminateAndWait
  split
  · split
    · next c _ hc hq =>
      refine (Evolves.setChildState fun c' hc' => ?_).trans (evolves_processFinished _ _ _)
      cases hc.symm.trans hc'
      cases hs : c.state <;> simp_all [ChildState.qtRunning, ChildState.Evolves]
    · exact .refl s
  · exact .refl s

theorem evolves_kill (i : Nat) : Evolves s (s.kill i) := by
  unfold kill
  split
  · split
    · next c hc hl =>
      refine Evolves.setChildState fun c' hc' => ?_
      cases hc.symm.trans hc'
      cases hs : c.state <;> simp_all [ChildState.isLive, ChildState.Evolves]
    · exact .refl s
  · exact .refl s

theorem evolves_terminateOrKill (i : Nat) (w : WaitResult) (m : String) :
    Evolves s (s.terminateOrKill i w m) := by
  unfold terminateOrKill
  have h := evolves_terminateAndWait s i w
  split
  · next s' heq => simpa [heq] using h
  · next s' heq =>
    rw [heq] at h
    exact h.trans ((evolves_log s' m true).trans (evolves_kill _ i))

theorem evolves_stopExisting (r : Role) (old : WaitResult) :
    Evolves s (s.stopExisting r old) := by
  unfold stopExisting; split
  · exact evolves_terminateOrKill s _ _ _
  · exact .refl s

theorem evolves_stopService (r : Role) (w : WaitResult) (m : String) :
    Evolves s (s.stopService r w m) := by
  unfold stopService; split
  · exact (evolves_terminateOrKill s _ _ _).trans (.of_eq rfl rfl)
  · exact .refl s

theorem evolves_cleanupEntry (r : Role) (i : Nat) (w : WaitResult) :
    Evolves s (s.cleanupEntry r i w) := by
  unfold cleanupEntry
  split
  · split
    · have h := (evolves_log s ("Cleaning up process: " ++ r.name) false).trans
        (evolves_terminateAndWait _ i w)
      split
      · next s' heq => simpa [heq] using h
      · next s' heq =>
        rw [heq] at h
        exact h.trans (evolves_kill _ i)
    · exact .refl s
  · exact .refl s

/-- The loop of `cleanup_on_exit` over any list of entries. -/
theorem evolves_cleanupFold (waits : Role → WaitResult) :
    ∀ (es : List (Role × Nat)) (s : Sys),
      Evolves s (es.foldl (fun s e => s.cleanupEntry e.1 e.2 (waits e.1)) s)
  | [], s => .refl s
  | _ :: es, s => (evolves_cleanupEntry s _ _ _).trans (evolves_cleanupFold waits es _)

theorem evolves_cleanupOnExit (waits : Role → WaitResult) : Evolves s (s.cleanupOnExit waits) :=
  evolves_cleanupFold waits _ s

/-- The event handlers of a child move only that child. -/
theorem evolves_childEvent (i : Nat) :
    Evolves s (s.childStarted i) ∧ Evolves s (s.childFailedToStart i) ∧
      (∀ code, Evolves s (s.childFinished i code)) ∧
      ∀ e chunk, Evolves s (s.childReadyRead i e chunk) := by
  refine ⟨?_, ?_, fun code => ?_, fun e chunk => ?_⟩ <;>
    simp only [childStarted, childFailedToStart, childFinished, childReadyRead] <;>
    split <;> (try split) <;> (try exact .refl s)
  · exact .setChildState fun _ h => by simp_all [ChildState.Evolves]
  · exact .setChildState fun _ h => by simp_all [ChildState.Evolves]
  · next c hc hst =>
    refine (Evolves.setChildState fun c' hc' => ?_).trans (evolves_processFinished _ _ _)
    cases hc.symm.trans hc'
    rcases hst with h | h <;> simp [h, ChildState.Evolves]
  · exact .of_eq rfl rfl

end Moves

end Sys

/-! ### The launch -/

/-- The state `startProcess` leaves the new child in. -/
def LaunchResult.childState : LaunchResult → ChildState
  | .started => .running
  | .timesOut => .starting
  | .failsToStart | .raises _ => .failed

/-- The outcome `startProcess` sees: `cmd[0]` raises on an empty vector. -/
def LaunchResult.effective (argv : List String) (launch : LaunchResult) : LaunchResult :=
  if argv = [] then .raises "list index out of range" else launch

/-- Changing the last element of a list. -/
theorem modify_length_append {α : Type} (f : α → α) (a : α) :
    ∀ l : List α, (l ++ [a]).modify f l.length = l ++ [f a]
  | [] => rfl
  | b :: l => by
    rw [List.length_cons, List.cons_append, List.modify_succ_cons, modify_length_append f a l]
    rfl

namespace Sys

variable (s : Sys) (argv : List String) (r : Role) (launch : LaunchResult)

/-- The launch appends one child of the role, in the state the launch leaves it. -/
theorem launchChild_children :
    (s.launchChild argv r launch).children =
      s.children ++ [⟨r, (launch.effective argv).childState⟩] := by
  simp only [launchChild, LaunchResult.effective]
  split <;> [skip; cases launch] <;>
    simp [startProcess, popEntry, modify_length_append, LaunchResult.childState]

/-- The launch points the role's entry at the new child, and pops it again unless the child
started. -/
theorem launchChild_processes (r' : Role) :
    (s.launchChild argv r launch).processes.get r' =
      if r = r' ∧ launch.effective argv = .started then some s.children.length
      else if r = r' then none else s.processes.get r' := by
  simp only [launchChild, LaunchResult.effective]
  split <;> [skip; cases launch] <;> by_cases h : r = r' <;>
    simp [startProcess, popEntry, h]

/-- The launch sets the role's label to `Start Failed` when the wait or `exec` fails. -/
theorem launchChild_status :
    (s.launchChild argv r launch).status =
      if launch.effective argv = .timesOut ∨ launch.effective argv = .failsToStart then
        Function.update s.status r "Start Failed"
      else s.status := by
  simp only [launchChild, LaunchResult.effective]
  split <;> [skip; cases launch] <;> simp [startProcess, popEntry]

end Sys

/-! ### One action -/

/-- The launch outcome an action asks for, if it is a start request. -/
def Action.launch? : Action → Option LaunchResult
  | .startSinkService _ _ launch | .startSourceService _ _ launch => some launch
  | _ => none

namespace Sys

/-- A start request either stops at a check, moving existing children only, or stops the
role's existing process, launches a child and then moves children. -/
theorem startService_eq_ok {py : Python} {s s' : Sys} {w : Window} {r : Role}
    {iface m : String} {old : WaitResult} {launch : LaunchResult}
    (h : s.startService py w r iface m old launch = .ok s') :
    Evolves s s' ∨ ∃ argv m', Evolves (((s.stopExisting r old).log m' false).launchChild argv r
      launch) s' := by
  rcases startService_cases h with ⟨-, rfl⟩ | ⟨-, s₁, cmd, hb, rfl⟩
  · exact .inl (.of_eq rfl rfl)
  · rcases callBuild_eq_ok hb with ⟨argv, -, rfl, rfl⟩ | ⟨_, -, rfl, rfl⟩
    · exact .inr ⟨argv, _, .of_eq rfl rfl⟩
    · exact .inl (.of_eq rfl rfl)

end Sys

/-- **What one action can do**: a start request that gets past its checks stops the role's
existing process, launches one child and then moves children; every other action, and a start
request that stops at a check, only moves existing children. -/
theorem step_eq_ok {py : Python} {s s' : Sys} {a : Action} (h : step py s a = .ok s') :
    s.Evolves s' ∨ ∃ r argv old launch m, a.launch? = some launch ∧
      (((s.stopExisting r old).log m false).launchChild argv r launch).Evolves s' := by
  cases a with
  | startSinkService w old launch =>
    rcases Sys.startService_eq_ok h with h | ⟨argv, m, h⟩
    · exact .inl h
    · exact .inr ⟨_, argv, old, launch, m, rfl, h⟩
  | startSourceService w old launch =>
    rcases Sys.startService_eq_ok h with h | ⟨argv, m, h⟩
    · exact .inl h
    · exact .inr ⟨_, argv, old, launch, m, rfl, h⟩
  | stopSinkService wait => cases h; exact .inl (Sys.evolves_stopService _ _ _ _)
  | stopSourceService wait => cases h; exact .inl (Sys.evolves_stopService _ _ _ _)
  | cleanupOnExit waits => cases h; exact .inl (Sys.evolves_cleanupOnExit _ _)
  | started i => cases h; exact .inl (Sys.evolves_childEvent _ i).1
  | failedToStart i => cases h; exact .inl (Sys.evolves_childEvent _ i).2.1
  | finished i code => cases h; exact .inl ((Sys.evolves_childEvent _ i).2.2.1 code)
  | readyRead i e chunk => cases h; exact .inl ((Sys.evolves_childEvent _ i).2.2.2 e chunk)

end MiracleCast

import Mathlib.Data.String.Basic
import MiracleCast.Supervisor.Handlers

/-!
# The output relay

`run_command` connects `readyReadStandardOutput` and `readyReadStandardError` of each child to
`process_output`, which reads what the stream has made available, decodes that chunk on its
own with `errors='replace'`, and logs it behind the tag `[name] `. Along any sequence of
notifications of a running child, on both streams in any order (`run_readyReads`), the
payloads logged for one stream are that stream's chunks decoded one by one; they concatenate
to the decoding of the whole stream whenever every chunk but the last is well-formed UTF-8
(`relay_decodes_chunkwise`). A character whose bytes the pipe splits between two chunks is
logged as two replacement characters (`split_character_replaced`).

`waitForFinished` reads the child's pipes while it waits, so `process_output` also runs inside
`stop_*_service`, before the wait answers. The model delivers that output as `readyRead` events
just before the stop request, and `Sys.stopServiceRelaying_eq` shows that the two end in the
same state: the handler writes nothing before its wait, and output changes nothing the wait
reads.
-/

namespace MiracleCast

/-- The payload of a console line for role `r` and stream `e`: a line of that stream with the
tag `[name] ` removed. Only `process_output` logs lines that start with `[`. -/
def payloadOf (r : Role) (e : Bool) (l : LogLine) : Option String :=
  let tag := ("[" ++ r.name ++ "] ").toList
  if l.error = e ∧ tag <+: l.message.toList then some ⟨l.message.toList.drop tag.length⟩
  else none

@[simp] theorem payloadOf_output (r : Role) (e e' : Bool) (cs : List Char) :
    payloadOf r e ⟨"[" ++ r.name ++ "] " ++ String.mk cs, e'⟩ =
      if e' = e then some (String.mk cs) else none := by
  have htag : ("[" ++ r.name ++ "] " ++ String.mk cs).toList =
      ("[" ++ r.name ++ "] ").toList ++ cs := rfl
  by_cases h : e' = e
  · simp only [payloadOf, htag]
    rw [if_pos ⟨h, List.prefix_append _ _⟩, List.drop_left, if_pos h]
  · simp [payloadOf, h]

/-- The chunks of stream `e` among a child's notifications, in order. -/
def streamChunks (e : Bool) (evs : List (Bool × List UInt8)) : List (List UInt8) :=
  evs.filterMap fun p => if p.1 = e then some p.2 else none

/-- The `readyRead` notifications of child `i`: for each pair, the stream (`True` for
standard error) and the chunk it made available. -/
def readyReads (i : Nat) (evs : List (Bool × List UInt8)) : List Action :=
  evs.map fun p => .readyRead i p.1 p.2

/-- The console line `process_output` logs for a chunk of stream `e` of a child of role `r`. -/
def outputLine (r : Role) (p : Bool × List UInt8) : LogLine :=
  ⟨"[" ++ r.name ++ "] " ++ String.mk (decodeUtf8 p.2), p.1⟩

theorem Sys.childReadyRead_eq {s : Sys} {i : Nat} {c : Child} (hc : s.children[i]? = some c)
    (hq : c.state.qtRunning) (e : Bool) (chunk : List UInt8) :
    s.childReadyRead i e chunk = s.processOutput c.role e chunk := by
  simp [childReadyRead, hc, hq]

/-- The notifications `evs` of child `i` are the run of their folded `readyRead` handler. -/
theorem run_readyReads_eq (py : Python) (i : Nat) :
    ∀ (evs : List (Bool × List UInt8)) (s : Sys),
      run py s (readyReads i evs) = .ok (evs.foldl (fun s p => s.childReadyRead i p.1 p.2) s)
  | [], _ => rfl
  | p :: evs, s => run_readyReads_eq py i evs (s.childReadyRead i p.1 p.2)

/-- **Relay run**: each notification of a child whose `QProcess` runs logs one line of its
stream, and nothing else changes the console or the children. -/
theorem run_readyReads {py : Python} {i : Nat} {c : Child} (hq : c.state.qtRunning) :
    ∀ (evs : List (Bool × List UInt8)) (s : Sys), s.children[i]? = some c →
      ∃ s', run py s (readyReads i evs) = .ok s' ∧ s'.children = s.children ∧
        s'.console = s.console ++ evs.map (outputLine c.role)
  | [], s, _ => ⟨s, rfl, rfl, by simp⟩
  | p :: evs, s, hc => by
    obtain ⟨s', h, hch, hco⟩ := run_readyReads hq evs (s.processOutput c.role p.1 p.2) hc
    refine ⟨s', ?_, hch, by simp [hco, outputLine, Sys.processOutput]⟩
    show run py (s.childReadyRead i p.1 p.2) (readyReads i evs) = .ok s'
    rwa [Sys.childReadyRead_eq hc hq]

/-- The payloads of the lines of a stream are its chunks, decoded one by one. -/
theorem filterMap_payloadOf (r : Role) (e : Bool) :
    ∀ evs : List (Bool × List UInt8), (evs.map (outputLine r)).filterMap (payloadOf r e) =
      (streamChunks e evs).map fun ch => String.mk (decodeUtf8 ch)
  | [] => rfl
  | p :: evs => by
    by_cases h : p.1 = e <;>
      simp [outputLine, streamChunks, h, filterMap_payloadOf r e evs, List.filterMap_cons]

/-- **Output relay**: along the notifications of a running child of role `c.role`, on both
streams in any order, the payloads logged for stream `e` are that stream's chunks, each
decoded on its own; they concatenate to the decoding of the whole stream whenever every chunk
but the last is well-formed UTF-8. -/
theorem relay_decodes_chunkwise {py : Python} {s : Sys} {i : Nat} {c : Child}
    (hc : s.children[i]? = some c) (hst : c.state = .running ∨ c.state = .killed) (e : Bool)
    (evs : List (Bool × List UInt8)) :
    ∃ s', run py s (readyReads i evs) = .ok s' ∧
      (s'.console.drop s.console.length).filterMap (payloadOf c.role e) =
        (streamChunks e evs).map (fun ch => String.mk (decodeUtf8 ch)) ∧
      ((∀ ch ∈ (streamChunks e evs).dropLast, Utf8 ch) →
        String.join ((s'.console.drop s.console.length).filterMap (payloadOf c.role e)) =
          String.mk (decodeUtf8 (streamChunks e evs).flatten)) := by
  have hq : c.state.qtRunning := by rcases hst with h | h <;> simp [h, ChildState.qtRunning]
  obtain ⟨s', h, -, hco⟩ := run_readyReads hq evs s hc
  have hp : (s'.console.drop s.console.length).filterMap (payloadOf c.role e) =
      (streamChunks e evs).map (fun ch => String.mk (decodeUtf8 ch)) := by
    rw [hco, List.drop_left, filterMap_payloadOf]
  refine ⟨s', h, hp, fun hu => ?_⟩
  rw [hp, String.join_eq, ← decodeUtf8_flatten hu]
  simp [Function.comp_def]

/-- The notifications of the sink child in `bothRunning`: `hé` and then `€` on standard
output, each chunk ending at a character boundary, with `!` on standard error between them. -/
def sinkNotifications : List (Bool × List UInt8) :=
  [(false, [0x68, 0xC3, 0xA9]), (true, [0x21]), (false, [0xE2, 0x82, 0xAC])]

/-- The sink child of `bothRunning`, while the source child runs too: the first stdout chunk is
well-formed, so the payloads concatenate to the decoding of the whole stream. -/
theorem relay_decodes_chunkwise_bothRunning :
    bothRunning.children[0]? = some ⟨.sink, .running⟩ ∧
      (ChildState.running = .running ∨ ChildState.running = .killed) ∧
      ∃ s', run cpython312 bothRunning (readyReads 0 sinkNotifications) = .ok s' ∧
        (s'.console.drop bothRunning.console.length).filterMap (payloadOf .sink false) =
          (streamChunks false sinkNotifications).map (fun ch => String.mk (decodeUtf8 ch)) ∧
        String.join ((s'.console.drop bothRunning.console.length).filterMap
            (payloadOf .sink false)) =
          String.mk (decodeUtf8 (streamChunks false sinkNotifications).flatten) := by
  obtain ⟨s', h, hp, hj⟩ :=
    relay_decodes_chunkwise (s := bothRunning) (i := 0) (c := ⟨.sink, .running⟩) (by decide)
      (.inl rfl) false sinkNotifications
  refine ⟨by decide, .inl rfl, s', h, hp, hj fun ch hch => ?_⟩
  obtain rfl : ch = [0x68, 0xC3, 0xA9] := List.mem_singleton.mp hch
  exact .cons (c := [0x68]) (.ascii (by decide))
    (.cons (c := [0xC3, 0xA9]) (t := []) (.two (by decide) (by decide) ⟨by decide, by decide⟩) .nil)

/-- A sink child that writes `é` (bytes `C3 A9`) to standard output in two chunks: the
payloads concatenate to two replacement characters, where the stream decodes to `é`. -/
theorem split_character_replaced :
    (run cpython312 Sys.init [.startSinkService wlan0Window .timesOut .started,
      .readyRead 0 false [0xC3], .readyRead 0 false [0xA9]]).map
      (fun s => String.join (s.console.filterMap (payloadOf .sink false))) =
      .ok ⟨[replacementChar, replacementChar]⟩ ∧
    decodeUtf8 [0xC3, 0xA9] = ['é'] := by
  decide

/-! ### Output inside a wait -/

namespace Sys

@[simp] theorem childReadyRead_processes (s : Sys) (i : Nat) (e : Bool) (chunk : List UInt8) :
    (s.childReadyRead i e chunk).processes = s.processes := by
  unfold childReadyRead; split <;> (try split) <;> rfl

theorem foldl_childReadyRead_processes (i : Nat) :
    ∀ (evs : List (Bool × List UInt8)) (s : Sys),
      (evs.foldl (fun s p => s.childReadyRead i p.1 p.2) s).processes = s.processes
  | [], _ => rfl
  | _ :: evs, _ => (foldl_childReadyRead_processes i evs _).trans (childReadyRead_processes ..)

/-- The notifications of a child whose `QProcess` runs are `process_output` calls with its
role. -/
theorem foldl_childReadyRead {i : Nat} {c : Child} (hq : c.state.qtRunning) :
    ∀ (evs : List (Bool × List UInt8)) (s : Sys), s.children[i]? = some c →
      evs.foldl (fun s p => s.childReadyRead i p.1 p.2) s =
        evs.foldl (fun s p => s.processOutput c.role p.1 p.2) s
  | [], _, _ => rfl
  | p :: evs, s, hc => by
    rw [List.foldl_cons, List.foldl_cons, childReadyRead_eq hc hq]
    exact foldl_childReadyRead hq evs _ hc

/-- The notifications of a child whose `QProcess` does not run change nothing. -/
theorem foldl_childReadyRead_eq_self {i : Nat} {s : Sys}
    (h : ∀ c, s.children[i]? = some c → c.state.qtRunning = false) :
    ∀ evs : List (Bool × List UInt8), evs.foldl (fun s p => s.childReadyRead i p.1 p.2) s = s
  | [] => rfl
  | p :: evs => by
    have hs : s.childReadyRead i p.1 p.2 = s := by
      unfold childReadyRead
      split
      · next c hc => simp [h c hc]
      · rfl
    rw [List.foldl_cons, hs]
    exact foldl_childReadyRead_eq_self h evs

/-- `terminate()` and `waitForFinished(msecs)` on child `i` as Qt runs the wait: while the
child's `QProcess` runs, the wait reads its pipes and hands each chunk of `output` to
`process_output` before it answers `w`. -/
def terminateAndWaitRelaying (s : Sys) (i : Nat) (output : List (Bool × List UInt8))
    (w : WaitResult) : Sys × Bool :=
  match s.children[i]? with
  | some c =>
    if c.state.qtRunning then
      (output.foldl (fun s p => s.processOutput c.role p.1 p.2) s).terminateAndWait i w
    else (s, false)
  | none => (s, false)

/-- The stop sequence of `run_command` and `stop_*_service`, with output relayed inside the
wait. -/
def terminateOrKillRelaying (s : Sys) (i : Nat) (output : List (Bool × List UInt8))
    (w : WaitResult) (forcingMessage : String) : Sys :=
  match s.terminateAndWaitRelaying i output w with
  | (s, true) => s
  | (s, false) => (s.log forcingMessage true).kill i

/-- `stop_sink_service` and `stop_source_service`, with output relayed inside the wait. -/
def stopServiceRelaying (s : Sys) (r : Role) (output : List (Bool × List UInt8))
    (w : WaitResult) (stoppedMessage : String) : Sys :=
  match s.processes.get r with
  | some i => ((s.terminateOrKillRelaying i output w
      "Process didn't terminate gracefully, forcing...").setStatus r "Not Running").log
      stoppedMessage false
  | none => s

/-- Output relayed inside the wait is output relayed just before it. -/
theorem terminateAndWaitRelaying_eq (s : Sys) (i : Nat) (output : List (Bool × List UInt8))
    (w : WaitResult) :
    s.terminateAndWaitRelaying i output w =
      (output.foldl (fun s p => s.childReadyRead i p.1 p.2) s).terminateAndWait i w := by
  unfold terminateAndWaitRelaying
  cases hc : s.children[i]? with
  | some c =>
    dsimp only
    by_cases hq : c.state.qtRunning
    · rw [if_pos hq, foldl_childReadyRead hq output s hc]
    · rw [if_neg hq, foldl_childReadyRead_eq_self (by simp [hc, hq]) output]
      cases w <;> simp [terminateAndWait, hc, hq]
  | none =>
    dsimp only
    rw [foldl_childReadyRead_eq_self (by simp [hc]) output]
    cases w <;> simp [terminateAndWait, hc]

theorem terminateOrKillRelaying_eq (s : Sys) (i : Nat) (output : List (Bool × List UInt8))
    (w : WaitResult) (forcingMessage : String) :
    s.terminateOrKillRelaying i output w forcingMessage =
      (output.foldl (fun s p => s.childReadyRead i p.1 p.2) s).terminateOrKill i w
        forcingMessage := by
  rw [terminateOrKillRelaying, terminateAndWaitRelaying_eq]; rfl

/-- **Output inside a wait is output just before the stop**: a stop request during whose wait
Qt relays the chunks `output` of the role's child ends where the `readyRead` events of those
chunks, followed by the modelled stop request, end. -/
theorem stopServiceRelaying_eq (py : Python) {s : Sys} {r : Role} {i : Nat}
    (h : s.processes.get r = some i) (output : List (Bool × List UInt8)) (w : WaitResult)
    (stoppedMessage : String) :
    ∃ s₁, run py s (readyReads i output) = .ok s₁ ∧
      s.stopServiceRelaying r output w stoppedMessage = s₁.stopService r w stoppedMessage := by
  refine ⟨_, run_readyReads_eq py i output s, ?_⟩
  simp only [stopServiceRelaying, stopService, foldl_childReadyRead_processes, h,
    terminateOrKillRelaying_eq]

end Sys

/-- `Stop Sink` in `bothRunning` while the sink child writes `!` to standard error inside the
wait, then exits. -/
theorem stopServiceRelaying_bothRunning :
    bothRunning.processes.get .sink = some 0 ∧
      ∃ s₁, run cpython312 bothRunning (readyReads 0 [(true, [0x21])]) = .ok s₁ ∧
        bothRunning.stopServiceRelaying .sink [(true, [0x21])] (.exits 0) "Stopped sink service" =
          s₁.stopService .sink (.exits 0) "Stopped sink service" :=
  ⟨by decide, Sys.stopServiceRelaying_eq cpython312 (by decide) _ _ _⟩

end MiracleCast

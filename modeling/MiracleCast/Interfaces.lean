import Mathlib.Data.List.Basic
import Mathlib.Data.List.Infix
import MiracleCast.Python.Unicode

/-!
# Interface discovery

`refresh_interfaces` fills the interface combo boxes whose current text the start handlers
pass to the universal script with `-i`. It runs the script with `--list-interfaces`, the option
`add_list_interfaces_option` patches in, and takes the lines of its stripped output. When the
script exits with a nonzero code it runs `ip link show` instead, and takes the names the
pattern `\d+: ([^:]+):` finds in its output, less those that start with `lo`, `virbr` or
`docker`. It then clears each target combo box and adds the names; an exception anywhere is
logged as `Interface refresh failed: …`.

`findallIfaces` is `re.findall` for that pattern. A match at a position is characterised by
`matchIfaceAt_eq_some_iff`. On the output of `ip link show` the scan recovers the names of the
links in order (`findallIfaces_render`), so the fallback fills both combo boxes with them
(`refreshInterfaces_ipLink`); on the lines the script prints, the script branch recovers them
(`scriptLines_intercalate`). `check_dependencies` shows a dialog when the script or one of the
three `miracle-*` commands is missing, and otherwise goes on to the refresh.

PyQt passes the `checked` flag of `clicked` to a slot that takes an argument. The sink tab's
button is connected to the bound method itself, so it calls `refresh_interfaces(False)`, and
the loop raises `AttributeError` at `False.clear()` before any combo box changes
(`refreshInterfaces_checked_eq`); the source tab's button goes through a `lambda` and passes
its combo box. What the refresh does to the window is `App.refreshInterfaces`.
-/

namespace MiracleCast

/-! ### `re.findall(r'\d+: ([^:]+):', …)` -/

section Findall

variable (T : CharTable)

/-- `\d` in a `str` pattern: a character with a decimal value (`Py_UNICODE_ISDECIMAL`). -/
def isDecimalChar (c : Char) : Bool := (T.decimal c).isSome

/-- A match of `\d+: ([^:]+):` at the start of `cs`: the group, and what follows the match.
Neither greedy run has anything to give back: `\d+` must be followed by `:`, `[^:]+` by `:`,
and neither class contains `:` (`CharTable.decimal_colon`). -/
def matchIfaceAt (cs : List Char) : Option (List Char × List Char) :=
  let digits := cs.takeWhile (isDecimalChar T)
  match cs.dropWhile (isDecimalChar T) with
  | ':' :: ' ' :: rest =>
    let name := rest.takeWhile (· != ':')
    match rest.dropWhile (· != ':') with
    | ':' :: after => if digits ≠ [] ∧ name ≠ [] then some (name, after) else none
    | _ => none
  | _ => none

/-- The scan of `re.findall`, with `fuel` for its rounds: each round takes the match at the
current position and goes on after it, or moves one character on. -/
def findallFrom : Nat → List Char → List String
  | 0, _ => []
  | _ + 1, [] => []
  | fuel + 1, c :: cs =>
    match matchIfaceAt T (c :: cs) with
    | some (name, after) => ⟨name⟩ :: findallFrom fuel after
    | none => findallFrom fuel cs

/-- `re.findall(r'\d+: ([^:]+):', text)`: the groups of the matches of a left-to-right scan.
Every round consumes a character, so the length of the text is enough fuel. -/
def findallIfaces (cs : List Char) : List String := findallFrom T cs.length cs

end Findall

section FindallLemmas

variable {T : CharTable}

@[simp] theorem isDecimalChar_colon : isDecimalChar T ':' = false := by
  simp [isDecimalChar, T.decimal_colon]

/-- **A match, spelled out**: `\d+: ([^:]+):` matches at the start of `cs` with group `name`,
followed by `after`, exactly when `cs` is a run of digits, `: `, `name` and `:` before
`after`, with `name` non-empty and free of `:`. -/
theorem matchIfaceAt_eq_some_iff {cs name after : List Char} :
    matchIfaceAt T cs = some (name, after) ↔
      ∃ digits, digits ≠ [] ∧ (∀ c ∈ digits, isDecimalChar T c) ∧ name ≠ [] ∧ ':' ∉ name ∧
        cs = digits ++ ':' :: ' ' :: (name ++ ':' :: after) := by
  constructor
  · intro h
    unfold matchIfaceAt at h
    dsimp only at h
    split at h
    · next rest hd =>
      split at h
      · next after' ha =>
        split at h
        · next hne =>
          cases h
          refine ⟨_, hne.1, fun c hc => List.mem_takeWhile_imp hc, hne.2,
            fun hc => by simpa using List.mem_takeWhile_imp hc, ?_⟩
          nth_rewrite 1 [← List.takeWhile_append_dropWhile (isDecimalChar T) cs]
          rw [hd, ← ha, List.takeWhile_append_dropWhile]
        · cases h
      · cases h
    · cases h
  · rintro ⟨digits, hd, hdec, hn, hcolon, rfl⟩
    have hname : ∀ c ∈ name, (c != ':') = true := fun c hc => by
      simpa using fun h : c = ':' => hcolon (h ▸ hc)
    simp [matchIfaceAt, List.takeWhile_append_of_pos hdec, List.dropWhile_append_of_pos hdec,
      List.takeWhile_append_of_pos hname, List.dropWhile_append_of_pos hname, hd, hn]

theorem length_lt_of_matchIfaceAt {cs name after : List Char}
    (h : matchIfaceAt T cs = some (name, after)) : after.length < cs.length := by
  obtain ⟨digits, -, -, -, -, rfl⟩ := matchIfaceAt_eq_some_iff.mp h
  simp
  omega

/-- The scan does not depend on its fuel once there is enough of it. -/
theorem findallFrom_eq_of_le :
    ∀ {f g : Nat} {cs : List Char}, cs.length ≤ f → cs.length ≤ g →
      findallFrom T f cs = findallFrom T g cs
  | 0, 0, _, _, _ => rfl
  | 0, _ + 1, [], _, _ => rfl
  | _ + 1, 0, [], _, _ => rfl
  | _ + 1, _ + 1, [], _, _ => rfl
  | f + 1, g + 1, c :: cs, hf, hg => by
    simp only [findallFrom]
    split
    · next h =>
      have := length_lt_of_matchIfaceAt h
      exact congrArg _ (findallFrom_eq_of_le (by simp at hf this ⊢; omega)
        (by simp at hg this ⊢; omega))
    · exact findallFrom_eq_of_le (by simpa using hf) (by simpa using hg)

/-- Where the pattern matches, `findall` takes the group and scans on after the match. -/
theorem findallIfaces_of_match {cs name after : List Char}
    (h : matchIfaceAt T cs = some (name, after)) :
    findallIfaces T cs = ⟨name⟩ :: findallIfaces T after := by
  have hlt := length_lt_of_matchIfaceAt h
  obtain ⟨c, cs, rfl⟩ : ∃ c cs', cs = c :: cs' := List.exists_cons_of_ne_nil (by
    rintro rfl; simp at hlt)
  simp only [findallIfaces, List.length_cons, findallFrom, h]
  exact congrArg _ (findallFrom_eq_of_le (by simp at hlt; omega) le_rfl)

/-- Where it does not, `findall` moves one character on. -/
theorem findallIfaces_cons_of_none {c : Char} {cs : List Char}
    (h : matchIfaceAt T (c :: cs) = none) : findallIfaces T (c :: cs) = findallIfaces T cs := by
  simp only [findallIfaces, List.length_cons, findallFrom, h]

@[simp] theorem findallIfaces_nil : findallIfaces T [] = [] := rfl

/-- A text in which no match starts, whatever follows it: it has no `: `, and it ends neither in
a digit nor in `:`. -/
theorem matchIfaceAt_append_eq_none {rest : List Char} (tail : List Char) (hne : rest ≠ [])
    (hsep : ¬ [':', ' '] <:+: rest)
    (hlast : ∀ c ∈ rest.getLast?, isDecimalChar T c = false ∧ c ≠ ':') :
    matchIfaceAt T (rest ++ tail) = none := by
  obtain ⟨body, c, rfl⟩ := (List.eq_nil_or_concat rest).resolve_left hne
  rw [List.concat_eq_append] at hsep hlast ⊢
  obtain ⟨hc, hcolon⟩ := hlast c (by simp)
  refine Option.eq_none_iff_forall_not_mem.mpr fun ⟨name, after⟩ h => ?_
  obtain ⟨digits, -, hdec, -, -, heq⟩ := matchIfaceAt_eq_some_iff.mp h
  have hdigit : c ∉ digits := fun hm => by simp [hdec c hm] at hc
  rcases List.append_eq_append_iff.mp heq with ⟨a', rfl, -⟩ | ⟨c', hbody, hsplit⟩
  · exact hdigit (by simp)
  · match c', hsplit with
    | [], _ => exact hdigit (by rw [← List.append_nil digits, ← hbody]; simp)
    | [x], hx =>
      have hcx : c = x := (List.cons.inj (List.append_inj' hbody rfl).2).1
      exact hcolon (hcx.trans (List.cons.inj hx).1.symm)
    | x :: y :: w, hx =>
      simp only [List.cons_append, List.cons.injEq] at hx
      obtain ⟨rfl, rfl, -⟩ := hx
      exact hsep ⟨digits, w, by simp [hbody]⟩

/-- `findall` finds nothing in such a text, and goes on after it. -/
theorem findallIfaces_append_of_quiet :
    ∀ {rest : List Char} (tail : List Char), ¬ [':', ' '] <:+: rest →
      (∀ c ∈ rest.getLast?, isDecimalChar T c = false ∧ c ≠ ':') →
      findallIfaces T (rest ++ tail) = findallIfaces T tail
  | [], _, _, _ => rfl
  | c :: rest, tail, hsep, hlast => by
    have hm : matchIfaceAt T (c :: (rest ++ tail)) = none :=
      matchIfaceAt_append_eq_none tail (List.cons_ne_nil _ _) hsep hlast
    rw [List.cons_append, findallIfaces_cons_of_none hm]
    cases rest with
    | nil => rfl
    | cons d rest =>
      exact findallIfaces_append_of_quiet tail (fun h => hsep (List.infix_cons h))
        (by simpa using hlast)

end FindallLemmas

/-! ### The output of `ip link show` -/

/-- One link as `ip link show` prints it: its index, `: `, its name, `:`, and the rest of its
lines (flags, `mtu`, state, and the `link/…` line with its addresses). The fields say what the
scan needs to find the name and nothing else: the index is a run of digits, the name is
non-empty and free of `:`, and the rest has no `: ` and ends neither in a digit nor in `:`
(the command ends each line with a newline). -/
structure IpLink (T : CharTable) where
  index : List Char
  name : List Char
  rest : List Char
  index_ne_nil : index ≠ []
  index_decimal : ∀ c ∈ index, isDecimalChar T c
  name_ne_nil : name ≠ []
  colon_not_mem_name : ':' ∉ name
  rest_no_separator : ¬ [':', ' '] <:+: rest
  rest_last : ∀ c ∈ rest.getLast?, isDecimalChar T c = false ∧ c ≠ ':'

/-- The text of a link: `<index>: <name>:<rest>`. -/
def IpLink.render {T : CharTable} (l : IpLink T) : List Char :=
  l.index ++ ':' :: ' ' :: (l.name ++ ':' :: l.rest)

/-- **Round trip of the fallback's parser**: on the output of `ip link show`, `findall`
returns the names of the links, in order. -/
theorem findallIfaces_render {T : CharTable} :
    ∀ links : List (IpLink T),
      findallIfaces T (links.flatMap IpLink.render) = links.map fun l => ⟨l.name⟩
  | [] => rfl
  | l :: links => by
    have hm : matchIfaceAt T (l.render ++ links.flatMap IpLink.render) =
        some (l.name, l.rest ++ links.flatMap IpLink.render) :=
      matchIfaceAt_eq_some_iff.mpr ⟨l.index, l.index_ne_nil, l.index_decimal, l.name_ne_nil,
        l.colon_not_mem_name, by simp [IpLink.render]⟩
    rw [List.flatMap_cons, findallIfaces_of_match hm,
      findallIfaces_append_of_quiet _ l.rest_no_separator l.rest_last, findallIfaces_render links,
      List.map_cons]

example : findallIfaces unicode15 "1: lo: x\n2: wlan0: y\n".toList = ["lo", "wlan0"] := by
  decide

/-! ### The script branch -/

/-- `result.stdout.strip().split('\n')`. -/
def scriptLines (T : CharTable) (stdout : String) : List String :=
  ((strip T stdout).toList.splitOn '\n').map String.mk

section ScriptLines

variable {T : CharTable}

/-- `strip` removes whitespace around a text that neither starts nor ends with whitespace. -/
theorem strip_append_append {lead text trail : List Char} (hl : ∀ c ∈ lead, T.isSpace c)
    (ht : ∀ c ∈ trail, T.isSpace c) (hhead : ∀ c ∈ text.head?, T.isSpace c = false)
    (hlast : ∀ c ∈ text.getLast?, T.isSpace c = false) :
    strip T ⟨lead ++ text ++ trail⟩ = ⟨text⟩ := by
  have hrev : ∀ c ∈ trail.reverse, T.isSpace c := by simpa using ht
  simp only [strip, String.toList, List.append_assoc, List.dropWhile_append_of_pos hl]
  rcases List.eq_nil_or_concat text with rfl | ⟨body, z, rfl⟩
  · simp [List.dropWhile_eq_nil_iff.mpr ht]
  · rw [List.concat_eq_append] at hhead hlast ⊢
    have hz : T.isSpace z = false := hlast z (by simp)
    have hfront : ((body ++ [z]) ++ trail).dropWhile T.isSpace = body ++ [z] ++ trail := by
      cases body with
      | nil => simp [hz]
      | cons b body => simp [hhead b (by simp)]
    rw [hfront, List.reverse_append, List.dropWhile_append_of_pos hrev,
      List.reverse_concat, List.dropWhile_cons_of_neg (by simp [hz]), List.reverse_cons,
      List.reverse_reverse]

/-- **Round trip of the script branch**: when the script prints the lines `names` with any
whitespace around them, and the listing neither starts nor ends with whitespace, the branch
recovers the lines. -/
theorem scriptLines_intercalate {names : List (List Char)} (hne : names ≠ [])
    (hnl : ∀ n ∈ names, '\n' ∉ n) {lead trail : List Char} (hl : ∀ c ∈ lead, T.isSpace c)
    (ht : ∀ c ∈ trail, T.isSpace c)
    (hhead : ∀ c ∈ (['\n'].intercalate names).head?, T.isSpace c = false)
    (hlast : ∀ c ∈ (['\n'].intercalate names).getLast?, T.isSpace c = false) :
    scriptLines T ⟨lead ++ ['\n'].intercalate names ++ trail⟩ = names.map String.mk := by
  rw [scriptLines, strip_append_append hl ht hhead hlast]
  exact congrArg _ (List.splitOn_intercalate _ '\n' hnl hne)

/-- Two interfaces, one per line, as `echo` prints them. -/
theorem scriptLines_intercalate_wlan :
    ["wlan0".toList, "wlan1".toList] ≠ [] ∧ (∀ n ∈ ["wlan0".toList, "wlan1".toList], '\n' ∉ n) ∧
      (∀ c ∈ ([] : List Char), unicode15.isSpace c) ∧ (∀ c ∈ ['\n'], unicode15.isSpace c) ∧
      (∀ c ∈ (['\n'].intercalate ["wlan0".toList, "wlan1".toList]).head?,
        unicode15.isSpace c = false) ∧
      (∀ c ∈ (['\n'].intercalate ["wlan0".toList, "wlan1".toList]).getLast?,
        unicode15.isSpace c = false) ∧
      scriptLines unicode15 ⟨[] ++ ['\n'].intercalate ["wlan0".toList, "wlan1".toList] ++ ['\n']⟩ =
        ["wlan0".toList, "wlan1".toList].map String.mk := by
  have hne : ["wlan0".toList, "wlan1".toList] ≠ [] := by decide
  have hnl : ∀ n ∈ ["wlan0".toList, "wlan1".toList], '\n' ∉ n := by decide
  have hl : ∀ c ∈ ([] : List Char), unicode15.isSpace c := by decide
  have ht : ∀ c ∈ ['\n'], unicode15.isSpace c := by decide
  have hh : ∀ c ∈ (['\n'].intercalate ["wlan0".toList, "wlan1".toList]).head?,
      unicode15.isSpace c = false := by decide
  have hla : ∀ c ∈ (['\n'].intercalate ["wlan0".toList, "wlan1".toList]).getLast?,
      unicode15.isSpace c = false := by decide
  exact ⟨hne, hnl, hl, ht, hh, hla, scriptLines_intercalate hne hnl hl ht hh hla⟩

end ScriptLines

/-! ### `refresh_interfaces` -/

/-- What the code reads of the `CompletedProcess` that `subprocess.run(…, capture_output=True,
text=True)` returns. -/
structure Completed where
  returncode : Int
  stdout : String
  deriving DecidableEq, Repr

/-- The two interface combo boxes. -/
inductive Combo
  | iface
  | sourceIface
  deriving DecidableEq, Repr

/-- The value `refresh_interfaces` receives as `combo`. -/
inductive ComboArg
  /-- The default `None`: the call from `check_dependencies`. -/
  | none
  /-- A combo box. -/
  | combo (c : Combo)
  /-- The `checked` flag of `clicked`, which PyQt passes to a slot that takes an argument. -/
  | checked (b : Bool)
  deriving DecidableEq, Repr

/-- What the sink tab's button passes: it is connected to the bound method itself, and the
button is not checkable. -/
def sinkRefreshArg : ComboArg := .checked false

/-- What the source tab's button passes: its `lambda` gives the source combo box. -/
def sourceRefreshArg : ComboArg := .combo .sourceIface

theorem except_ok_bind {ε α β : Type} (a : α) (f : α → Except ε β) :
    (Except.ok a : Except ε α) >>= f = f a :=
  rfl

/-- `widget.clear()` on a value the loop takes for a combo box: a combo box, or an
`AttributeError` with its text. -/
def ComboArg.clear : ComboArg → Except String Combo
  | .combo c => .ok c
  | .checked _ => .error "'bool' object has no attribute 'clear'"
  | .none => .error "'NoneType' object has no attribute 'clear'"

/-- The prefixes whose names the fallback drops. -/
def excludedPrefixes : List String := ["lo", "virbr", "docker"]

/-- `s.startswith(prefixes)` for a tuple of prefixes. -/
def startswith (s : String) (prefixes : List String) : Bool :=
  prefixes.any fun p => p.toList.isPrefixOf s.toList

/-- `valid_ifaces`: the lines of the script's output, or, when the script exits with a nonzero
code, the names `ip link show` prints less the excluded ones. `listed` is the run of the script
with `--list-interfaces` and `ipLink` that of `ip link show`, each with its result or the text
of what it raised. -/
def validIfaces (py : Python) (listed ipLink : Except String Completed) :
    Except String (List String) := do
  let result ← listed
  if result.returncode ≠ 0 then do
    let result ← ipLink
    let interfaces := findallIfaces py.chars result.stdout.toList
    pure (interfaces.filter fun iface => !startswith iface excludedPrefixes)
  else pure (scriptLines py.chars result.stdout)

/-- `targets`: both combo boxes when `combo` is `None`, else `combo` itself. -/
def targets : ComboArg → List ComboArg
  | .none => [.combo .iface, .combo .sourceIface]
  | combo => [combo]

/-- `refresh_interfaces(combo)` up to its effects: the names it adds and the combo boxes it
adds them to, or the text of the exception it catches. -/
def refreshInterfaces (py : Python) (combo : ComboArg) (listed ipLink : Except String Completed) :
    Except String (List String × List Combo) := do
  let validIfaces ← validIfaces py listed ipLink
  let widgets ← (targets combo).mapM ComboArg.clear
  pure (validIfaces, widgets)

section Refresh

variable {py : Python} {listed ipLink : Except String Completed}

/-- **Discovery by `ip link show`**: when the script exits with a nonzero code, the refresh
from `check_dependencies` fills both combo boxes with the names of the links `ip link show`
prints, in order, less those starting with `lo`, `virbr` or `docker`. -/
theorem refreshInterfaces_ipLink {r : Completed} (hr : r.returncode ≠ 0) (code : Int)
    (links : List (IpLink py.chars)) :
    refreshInterfaces py .none (.ok r) (.ok ⟨code, ⟨links.flatMap IpLink.render⟩⟩) =
      .ok ((links.map fun l => (⟨l.name⟩ : String)).filter
        (fun iface => !startswith iface excludedPrefixes), [.iface, .sourceIface]) := by
  have hv : validIfaces py (.ok r) (.ok ⟨code, ⟨links.flatMap IpLink.render⟩⟩) =
      .ok ((links.map fun l => (⟨l.name⟩ : String)).filter
        (fun iface => !startswith iface excludedPrefixes)) := by
    simp [validIfaces, except_ok_bind, hr, findallIfaces_render]
  rw [refreshInterfaces, hv]
  rfl

/-- The loopback link, first line only. -/
def loLink : IpLink unicode15 where
  index := ['1']
  name := "lo".toList
  rest := " <LOOPBACK,UP> mtu 65536\n".toList
  index_ne_nil := by decide
  index_decimal := by decide
  name_ne_nil := by decide
  colon_not_mem_name := by decide
  rest_no_separator := by decide
  rest_last := by decide

/-- A wireless link, with its `link/ether` line. -/
def wlan0Link : IpLink unicode15 where
  index := ['3']
  name := "wlan0".toList
  rest := " <UP> mtu 1500\n    link/ether 12:34:56:78:9a:bc\n".toList
  index_ne_nil := by decide
  index_decimal := by decide
  name_ne_nil := by decide
  colon_not_mem_name := by decide
  rest_no_separator := by decide
  rest_last := by decide

theorem refreshInterfaces_ipLink_wlan0 :
    (⟨1, ""⟩ : Completed).returncode ≠ 0 ∧
      refreshInterfaces cpython312 .none (.ok ⟨1, ""⟩)
        (.ok ⟨0, ⟨[loLink, wlan0Link].flatMap IpLink.render⟩⟩) =
        .ok (["wlan0"], [.iface, .sourceIface]) :=
  ⟨by decide,
    (@refreshInterfaces_ipLink cpython312 ⟨1, ""⟩ (by decide) 0 [loLink, wlan0Link]).trans rfl⟩

/-- With the `checked` flag, the refresh ends in the exception of its commands, or in the
`AttributeError` of `False.clear()`. -/
theorem refreshInterfaces_checked_eq (b : Bool) :
    refreshInterfaces py (.checked b) listed ipLink =
      (validIfaces py listed ipLink).bind fun _ =>
        .error "'bool' object has no attribute 'clear'" := by
  unfold refreshInterfaces
  cases validIfaces py listed ipLink <;> rfl

end Refresh

/-! ### `check_dependencies` -/

/-- The commands `check_dependencies` requires. -/
def required : List String := ["miracle-wifid", "miracle-sinkctl", "miracle-wifictl"]

/-- `check_dependencies` up to its effects: the message of the error dialog it shows, or `none`
when it goes on to `refresh_interfaces()`. `scriptExists` is `os.path.exists` of the script's
path, and `commandExists` says whether `which` finds a command. -/
def checkDependencies (universalScript : String) (scriptExists : Bool)
    (commandExists : String → Bool) : Option String :=
  if !scriptExists then some ("Universal script not found at: " ++ universalScript)
  else
    let missing := required.filter fun cmd => !commandExists cmd
    if missing ≠ [] then
      some ("Missing components:\n" ++ ", ".intercalate missing ++
        "\nInstall via Setup instructions")
    else none

end MiracleCast

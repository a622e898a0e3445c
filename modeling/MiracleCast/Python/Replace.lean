import Mathlib.Data.List.Infix

/-!
# `str.replace` and substring tests

`add_list_interfaces_option` guards its patch with `'--list-interfaces' in content` and then
applies three `str.replace` calls to the script. `replaceAll old new s` is CPython's
`str.replace` without a count: the occurrences of `old` found from left to right, without
overlap, are each replaced by `new`; an empty `old` inserts `new` before every character and
at the end. A substring test `sub in s` is `List.IsInfix` on the character lists.

The rewriting facts the script patch needs are proved here: an occurrence at the front is
replaced and the scan resumes after it (`replaceAll_append_of_ne_nil`), a text without an
occurrence is left as it is (`replaceAll_eq_self_of_absent`), and a `new` longer than `old`
lengthens every text that holds `old` (`length_lt_replaceAll`).
-/

namespace MiracleCast

/-- `str.replace(old, new)` on the character list of a string. -/
def replaceAll (old new : List Char) : List Char → List Char
  | [] => if old = [] then new else []
  | c :: cs =>
    if _h : old ≠ [] ∧ old.isPrefixOf (c :: cs) then
      new ++ replaceAll old new ((c :: cs).drop old.length)
    else if old = [] then new ++ c :: replaceAll old new cs
    else c :: replaceAll old new cs
termination_by s => s.length
decreasing_by
  all_goals simp_wf
  have := List.length_pos.mpr _h.1
  omega

/-- `s.replace(old, new)` on Python strings. -/
def pyReplace (s old new : String) : String :=
  ⟨replaceAll old.toList new.toList s.toList⟩

/-- `sub in s` on Python strings. -/
def pyContains (sub s : String) : Bool :=
  decide (sub.toList <:+: s.toList)

section Lemmas

variable {old : List Char} (new : List Char)

/-- An occurrence at the front is replaced, and the scan resumes right after it. -/
theorem replaceAll_append_of_ne_nil (hold : old ≠ []) (t : List Char) :
    replaceAll old new (old ++ t) = new ++ replaceAll old new t := by
  obtain ⟨a, as, rfl⟩ := List.exists_cons_of_ne_nil hold
  rw [List.cons_append, replaceAll, dif_pos ⟨hold, by simp [List.isPrefixOf_iff_prefix]⟩]
  simp

/-- A text with no occurrence of a non-empty `old` is left as it is. -/
theorem replaceAll_eq_self_of_absent (hold : old ≠ []) :
    ∀ {s : List Char}, ¬ old <:+: s → replaceAll old new s = s
  | [], _ => by simp [replaceAll, hold]
  | c :: cs, h => by
    have hpre : ¬ (old ≠ [] ∧ old.isPrefixOf (c :: cs) = true) := fun hp =>
      h (List.isPrefixOf_iff_prefix.mp hp.2).isInfix
    rw [replaceAll, dif_neg hpre, if_neg hold,
      replaceAll_eq_self_of_absent hold fun hi => h (hi.trans (List.suffix_cons c cs).isInfix)]

/-- With `new` at least as long as `old`, `str.replace` never shortens a text. -/
theorem length_le_replaceAll (hle : old.length ≤ new.length) (s : List Char) :
    s.length ≤ (replaceAll old new s).length := by
  induction s using replaceAll.induct old new with
  | case1 | case2 => simp
  | case3 c cs h ih =>
    have hp := (List.isPrefixOf_iff_prefix.mp h.2).length_le
    rw [replaceAll, dif_pos h, List.length_append]
    simp only [List.length_drop] at ih hp ⊢
    omega
  | case4 c cs h hold ih => rw [replaceAll, dif_neg h, if_pos hold]; simp; omega
  | case5 c cs h hold ih => rw [replaceAll, dif_neg h, if_neg hold]; simp; omega

/-- A `new` longer than `old` makes `str.replace` lengthen every text that holds `old`. -/
theorem length_lt_replaceAll (hold : old ≠ []) (hlt : old.length < new.length) {s : List Char}
    (hs : old <:+: s) : s.length < (replaceAll old new s).length := by
  induction s using replaceAll.induct old new with
  | case1 h => exact absurd h hold
  | case2 => exact absurd (List.eq_nil_of_infix_nil hs) hold
  | case3 c cs h _ =>
    have hp := (List.isPrefixOf_iff_prefix.mp h.2).length_le
    have hd := length_le_replaceAll new hlt.le ((c :: cs).drop old.length)
    rw [replaceAll, dif_pos h, List.length_append]
    simp only [List.length_drop] at hd hp ⊢
    omega
  | case4 _ _ _ h _ => exact absurd h hold
  | case5 c cs h _ ih =>
    have hp : ¬ old <+: c :: cs := fun hp => h ⟨hold, List.isPrefixOf_iff_prefix.mpr hp⟩
    rw [replaceAll, dif_neg h, if_neg hold, List.length_cons, List.length_cons]
    exact Nat.succ_lt_succ (ih ((List.infix_cons_iff.mp hs).resolve_left hp))

end Lemmas

/-! ### On Python strings -/

section Strings

variable {old : String} (new : String)

theorem toList_ne_nil_of_ne_empty (hold : old ≠ "") : old.toList ≠ [] :=
  fun h => hold (String.ext h)

theorem length_pos_of_ne_empty {s : String} (h : s ≠ "") : 0 < s.length := by
  obtain ⟨l⟩ := s
  exact List.length_pos.mpr fun h' => h (String.ext h')

/-- `s.replace(old, new)` leaves a string without `old` as it is. -/
theorem pyReplace_of_not_contains {s : String} (hold : old ≠ "") (h : pyContains old s = false) :
    pyReplace s old new = s :=
  String.ext (replaceAll_eq_self_of_absent _ (toList_ne_nil_of_ne_empty hold) (by
    simpa [pyContains] using h))

/-- An occurrence of `old` at the front is replaced, and the scan resumes right after it. -/
theorem pyReplace_append (hold : old ≠ "") (t : String) :
    pyReplace (old ++ t) old new = new ++ pyReplace t old new :=
  String.ext (replaceAll_append_of_ne_nil _ (toList_ne_nil_of_ne_empty hold) t.toList)

theorem pyReplace_self (hold : old ≠ "") : pyReplace old old new = new := by
  have h₀ : pyReplace "" old new = "" :=
    String.ext (by
      simpa [pyReplace, replaceAll] using fun h => absurd h (toList_ne_nil_of_ne_empty hold))
  simpa [h₀] using pyReplace_append new hold ""

/-- A string that lacks one of the characters of `old` does not hold `old`. -/
theorem pyContains_eq_false_of_not_mem {s : String} {a : Char} (ha : a ∈ old.toList)
    (hs : s.toList.all (· != a) = true) : pyContains old s = false := by
  simp only [pyContains, decide_eq_false_iff_not]
  rintro ⟨l₁, l₂, h⟩
  have : a ∈ s.toList := h ▸ List.mem_append_left _ (List.mem_append_right _ ha)
  simpa using List.all_eq_true.mp hs a this

/-- `s.replace(old, new)` leaves `s` as it is when `s` lacks a character of `old`. -/
theorem pyReplace_of_lacks {s : String} {a : Char} (hold : old ≠ "") (ha : a ∈ old.toList)
    (hs : s.toList.all (· != a) = true) : pyReplace s old new = s :=
  pyReplace_of_not_contains new hold (pyContains_eq_false_of_not_mem ha hs)

theorem length_le_pyReplace (hle : old.length ≤ new.length) (s : String) :
    s.length ≤ (pyReplace s old new).length := by
  obtain ⟨s⟩ := s; obtain ⟨o⟩ := old; obtain ⟨n⟩ := new
  exact length_le_replaceAll n hle s

theorem length_lt_pyReplace (hold : old ≠ "") (hlt : old.length < new.length) {s : String}
    (hs : pyContains old s = true) : s.length < (pyReplace s old new).length := by
  have hne := toList_ne_nil_of_ne_empty hold
  obtain ⟨s⟩ := s; obtain ⟨o⟩ := old; obtain ⟨n⟩ := new
  exact length_lt_replaceAll n hne hlt (of_decide_eq_true hs)

end Strings

end MiracleCast

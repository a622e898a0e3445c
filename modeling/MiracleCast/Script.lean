import MiracleCast.Python.Replace

/-!
# The script patch

`add_list_interfaces_option` runs on every launch of the GUI, before the window opens. It
reads the universal script and, unless `'--list-interfaces'` occurs in it, rewrites three of
its texts with `str.replace` and writes the result back: the `getopts` optstring gains `l`, an
`l)` case follows the `h)` case, and a help line for `-l` follows the one for `-h`. The file
operations are modelled by the function on the script's content they implement (`patch`).

None of the inserted texts contains `--list-interfaces`, and the `h)` case is kept by its own
rewrite, so the guard does not make the patch idempotent: whenever the guard lets the patch
through and the `h)` case is there, the script comes back strictly longer
(`length_lt_patch`), and a script made of the `h)` case gets one more `l)` case on every
launch (`patch_twice_duplicates_list_case`).
-/

namespace MiracleCast

/-- The `getopts` line `add_list_interfaces_option` looks for. -/
def getoptsOld : String := "while getopts \"i:m:r:f:b:ugnsh\" opt; do"

/-- The `getopts` line it writes instead. -/
def getoptsNew : String := "while getopts \"i:m:r:f:b:ugnslh\" opt; do"

/-- The `h)` case it looks for. -/
def helpCaseOld : String := "        h)\n            show_help\n            exit 0\n            ;;"

/-- The `h)` case followed by the new `l)` case. -/
def helpCaseNew : String :=
  "        h)\n            show_help\n            exit 0\n            ;;\n" ++
    "        l)\n            # List wireless interfaces only\n" ++
    "            find_wireless_network_interfaces\n" ++
    "            exit 0\n            ;;"

/-- The help line of `-h` it looks for. -/
def helpLineOld : String := "  -h               Show this help message"

/-- The help line of `-h` followed by the one of `-l`. -/
def helpLineNew : String :=
  "  -h               Show this help message\n" ++
    "  -l               List available wireless interfaces"

/-- `add_list_interfaces_option` on the script's content: the content written back, or `none`
when the function returns early. -/
def addListInterfacesOption (content : String) : Option String :=
  if pyContains "--list-interfaces" content then none
  else
    let updatedContent := pyReplace content getoptsOld getoptsNew
    let updatedContent := pyReplace updatedContent helpCaseOld helpCaseNew
    some (pyReplace updatedContent helpLineOld helpLineNew)

/-- The script after one launch of the GUI. -/
def patch (content : String) : String :=
  (addListInterfacesOption content).getD content

/-- The text `add_list_interfaces_option` inserts after the `h)` case. -/
def listCase : String :=
  "\n        l)\n            # List wireless interfaces only\n" ++
    "            find_wireless_network_interfaces\n" ++ "            exit 0\n            ;;"

theorem helpCaseNew_eq : helpCaseNew = helpCaseOld ++ listCase := rfl

/-- Where the guard does not fire, the patch is the three rewrites. -/
theorem patch_of_not_contains {content : String}
    (h : pyContains "--list-interfaces" content = false) :
    patch content = pyReplace (pyReplace (pyReplace content getoptsOld getoptsNew) helpCaseOld
      helpCaseNew) helpLineOld helpLineNew := by
  simp [patch, addListInterfacesOption, h]

theorem length_helpCaseOld_lt : helpCaseOld.length < helpCaseNew.length := by
  rw [helpCaseNew_eq, String.length_append]
  exact Nat.lt_add_of_pos_right (length_pos_of_ne_empty (by decide))

/-- **The patch lengthens**: where the guard lets it through and the `h)` case survives the
`getopts` rewrite, the script comes back strictly longer. -/
theorem length_lt_patch {content : String} (hg : pyContains "--list-interfaces" content = false)
    (hh : pyContains helpCaseOld (pyReplace content getoptsOld getoptsNew) = true) :
    content.length < (patch content).length := by
  rw [patch_of_not_contains hg]
  calc content.length
      ≤ (pyReplace content getoptsOld getoptsNew).length :=
        @length_le_pyReplace getoptsOld getoptsNew (Nat.le_of_ble_eq_true rfl) _
    _ < (pyReplace (pyReplace content getoptsOld getoptsNew) helpCaseOld helpCaseNew).length :=
        @length_lt_pyReplace helpCaseOld helpCaseNew (by decide) length_helpCaseOld_lt _ hh
    _ ≤ _ := @length_le_pyReplace helpLineOld helpLineNew (Nat.le_of_ble_eq_true rfl) _

/-- The guard lets `helpCaseOld` through, and its `h)` case survives the `getopts` rewrite. -/
theorem length_lt_patch_helpCaseOld :
    pyContains "--list-interfaces" helpCaseOld = false ∧
      pyContains helpCaseOld (pyReplace helpCaseOld getoptsOld getoptsNew) = true ∧
      helpCaseOld.length < (patch helpCaseOld).length := by
  have hg : pyContains "--list-interfaces" helpCaseOld = false :=
    pyContains_eq_false_of_not_mem (a := '-') (by decide) (by decide)
  have hh : pyContains helpCaseOld (pyReplace helpCaseOld getoptsOld getoptsNew) = true := by
    rw [@pyReplace_of_lacks getoptsOld getoptsNew helpCaseOld '"' (by decide) (by decide)
      (by decide)]
    decide
  exact ⟨hg, hh, length_lt_patch hg hh⟩

/-! ### Two launches -/

/-- The first launch on the `h)` case alone inserts the `l)` case. -/
theorem patch_helpCaseOld : patch helpCaseOld = helpCaseNew := by
  rw [patch_of_not_contains (pyContains_eq_false_of_not_mem (a := '-') (by decide) (by decide)),
    @pyReplace_of_lacks getoptsOld getoptsNew helpCaseOld '"' (by decide) (by decide) (by decide),
    @pyReplace_self helpCaseOld helpCaseNew (by decide),
    @pyReplace_of_lacks helpLineOld helpLineNew helpCaseNew '-' (by decide) (by decide)
      (by decide)]

/-- The second launch finds the `h)` case again and inserts a second `l)` case after it. -/
theorem patch_helpCaseNew : patch helpCaseNew = helpCaseNew ++ listCase := by
  have h₂ : pyReplace helpCaseNew helpCaseOld helpCaseNew = helpCaseNew ++ listCase := by
    nth_rewrite 1 [helpCaseNew_eq]
    rw [@pyReplace_append helpCaseOld helpCaseNew (by decide) listCase,
      @pyReplace_of_lacks helpCaseOld helpCaseNew listCase 'p' (by decide) (by decide)
        (by decide)]
  have hdash : (helpCaseNew ++ listCase).toList.all (· != '-') = true := by
    simp only [String.toList, String.data_append, List.all_append, Bool.and_eq_true]
    exact ⟨by decide, by decide⟩
  rw [patch_of_not_contains (pyContains_eq_false_of_not_mem (a := '-') (by decide) (by decide)),
    @pyReplace_of_lacks getoptsOld getoptsNew helpCaseNew '"' (by decide) (by decide) (by decide),
    h₂, @pyReplace_of_lacks helpLineOld helpLineNew _ '-' (by decide) (by decide) hdash]

/-- The script made of the `h)` case: the first launch inserts one `l)` case, the second one
another, where an idempotent patch would leave the first result as it is. -/
theorem patch_twice_duplicates_list_case :
    patch helpCaseOld = helpCaseNew ∧ patch (patch helpCaseOld) = helpCaseNew ++ listCase ∧
      patch (patch helpCaseOld) ≠ patch helpCaseOld := by
  rw [patch_helpCaseOld, patch_helpCaseNew]
  refine ⟨rfl, rfl, fun h => ?_⟩
  have hl : listCase.data = [] := by simpa using congrArg String.data h
  exact absurd (String.ext hl) (by decide)

end MiracleCast

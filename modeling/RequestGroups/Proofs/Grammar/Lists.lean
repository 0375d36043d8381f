import RequestGroups.Proofs.Grammar.Results

/-! # Lists with commas

How `listOf` goes through values with commas between them, from the front: it ends at the end of the
input, and otherwise reads a value first, whose comma it takes if there is more to read.

* `listOf_nil`, `listOf_last`, `listOf_comma`: the ways in which a list goes on that has no fault so
  far;
* `listOf_fault`: a fault of the first value is the fault of the list. -/

namespace RequestGroups.Grammar.Reader

open RequestGroups.Source

variable {r : Reader α} {f : α → Reader β} {i j : Input} {a : α} {fault : Fault}

theorem bind_fault (h : r i = .error fault) : (r >>= f) i = .error fault := by
  change (r i).bind (fun p => f p.1 p.2) = _
  rw [h]
  rfl

theorem sign_eq {text : String} (h : Look.sign text i.rest) :
    sign text i = .ok (Phrase.sign text, { i with rest := i.rest.drop text.length }) := by
  rw [sign, sign?, bind_assoc, bind_eq (sees_eq h)]
  rfl

theorem atEnd_of_nil (h : i.rest = []) : atEnd i = .ok (true, i) := sees_eq (by rw [h]; rfl)

theorem atEnd_of_ne_nil (h : i.rest ≠ []) : atEnd i = .ok (false, i) :=
  sees_eq (List.isEmpty_eq_false_iff.2 h)

/-! ### Items -/

/-- The next value of a list with the comma behind it, if the list is not over. -/
def listItem (r : Reader α) : Reader (Option α) := do
  if ← atEnd then return none
  let item ← r
  if !(← atEnd) then let _ ← sign ","
  return some item

theorem listItem_nil (h : i.rest = []) : listItem r i = .ok (none, i) := by
  rw [listItem, bind_eq (atEnd_of_nil h)]
  rfl

section Item

variable (hi : i.rest ≠ [])
include hi

theorem listItem_fault (h : r i = .error fault) : listItem r i = .error fault := by
  rw [listItem, bind_eq (atEnd_of_ne_nil hi)]
  exact bind_fault h

theorem listItem_last (h : r i = .ok (a, j)) (hj : j.rest = []) :
    listItem r i = .ok (some a, j) := by
  rw [listItem, bind_eq (atEnd_of_ne_nil hi)]
  exact (bind_eq h _).trans (bind_eq (atEnd_of_nil hj) _)

theorem listItem_more (h : r i = .ok (a, j)) (hj : j.rest ≠ []) :
    listItem r i = (sign "," j).map fun p => (some a, p.2) := by
  rw [listItem, bind_eq (atEnd_of_ne_nil hi)]
  exact (bind_eq h _).trans ((bind_eq (atEnd_of_ne_nil hj) _).trans rfl)

theorem listItem_comma (h : r i = .ok (a, j)) (hj : Look.sign "," j.rest) :
    listItem r i = .ok (some a, { j with rest := j.rest.drop 1 }) := by
  have more : j.rest ≠ [] := by
    intro hnil
    rw [hnil] at hj
    exact absurd hj (by decide)
  rw [listItem_more hi h more, sign_eq hj]
  rfl

end Item

/-! ### Lists -/

/-- Puts the next value behind the ones before. -/
def adding (s : Reader (Option α)) (done : List α) : Reader (Option (List α)) :=
  fun i => (s i).map fun p => (p.1.map (done ++ [·]), p.2)

/-- A list is a repetition of its items. -/
theorem listOf_eq : listOf r = iterate (adding (listItem r)) [] := by
  unfold listOf
  congr 1
  funext done i
  by_cases hi : i.rest = []
  · rw [adding, listItem_nil hi, bind_eq (atEnd_of_nil hi)]
    rfl
  · rw [bind_eq (atEnd_of_ne_nil hi)]
    rcases hr : r i with fault | ⟨a, j⟩
    · rw [adding, listItem_fault hi hr]
      exact bind_fault hr
    · refine (bind_eq hr _).trans ?_
      by_cases hj : j.rest = []
      · rw [adding, listItem_last hi hr hj]
        exact bind_eq (atEnd_of_nil hj) _
      · rw [adding, listItem_more hi hr hj]
        refine (bind_eq (atEnd_of_ne_nil hj) _).trans ?_
        rcases hc : sign "," j with fault | ⟨comma, k⟩
        · exact bind_fault hc
        · exact bind_eq hc _

section Adding

variable {s : Reader (Option α)}

theorem adding_fault {done : List α} : adding s done i = .error fault ↔ s i = .error fault := by
  unfold adding
  rcases s i with e | p <;> simp [Except.map]

theorem adding_none {done : List α} : adding s done i = .ok (none, j) ↔ s i = .ok (none, j) := by
  unfold adding
  rcases s i with e | ⟨_ | a, k⟩ <;> simp [Except.map]

theorem adding_some {done all : List α} : adding s done i = .ok (some all, j) ↔
    ∃ a, s i = .ok (some a, j) ∧ all = done ++ [a] := by
  unfold adding
  rcases s i with e | ⟨_ | a, k⟩ <;> simp [Except.map, and_comm, eq_comm]

/-- What stands in front of the first values stays in front of all of them. -/
theorem iterate_adding (front done : List α) (i : Input) :
    iterate (adding s) (front ++ done) i =
      (iterate (adding s) done i).map fun p => (front ++ p.1, p.2) := by
  -- the next item does not depend on what is done, so both repetitions take the same steps
  induction done, i using iterate.induct (adding s) with
  | case1 done i fault hs =>
    have hs' : adding s (front ++ done) i = .error fault := adding_fault.2 (adding_fault.1 hs)
    rw [iterate.eq_def, iterate.eq_def, hs, hs']
    rfl
  | case2 done i j hs =>
    have hs' : adding s (front ++ done) i = .ok (none, j) := adding_none.2 (adding_none.1 hs)
    rw [iterate_none hs, iterate_none hs']
    rfl
  | case3 done i t j hs shorter ih =>
    obtain ⟨a, ha, rfl⟩ := adding_some.1 hs
    have hs' : adding s (front ++ done) i = .ok (some (front ++ (done ++ [a])), j) :=
      adding_some.2 ⟨a, ha, (List.append_assoc ..).symm⟩
    rw [iterate_some hs shorter, iterate_some hs' shorter, ih]
  | case4 done i t j hs shorter =>
    obtain ⟨a, ha, rfl⟩ := adding_some.1 hs
    have hs' : adding s (front ++ done) i = .ok (some (front ++ (done ++ [a])), j) :=
      adding_some.2 ⟨a, ha, (List.append_assoc ..).symm⟩
    rw [iterate.eq_def, iterate.eq_def, hs, hs']
    dsimp only
    rw [if_neg shorter, if_neg shorter]
    rfl

end Adding

theorem listOf_nil (h : i.rest = []) : listOf r i = .ok ([], i) := by
  rw [listOf_eq, iterate_none (adding_none.2 (listItem_nil h))]

section Cons

variable (hi : i.rest ≠ [])
include hi

/-- **A fault of the first value** is the fault of the list. -/
theorem listOf_fault (h : r i = .error fault) : listOf r i = .error fault := by
  have hs : adding (listItem r) [] i = .error fault := adding_fault.2 (listItem_fault hi h)
  rw [listOf_eq, iterate.eq_def, hs]

/-- **The last value** stands at the end of the input. -/
theorem listOf_last (h : r i = .ok (a, j)) (hj : j.rest = []) : listOf r i = .ok ([a], j) := by
  have hs : adding (listItem r) [] i = .ok (some [a], j) :=
    adding_some.2 ⟨a, listItem_last hi h hj, rfl⟩
  have shorter : j.rest.length < i.rest.length := by
    rw [hj]
    exact List.length_pos_iff.2 hi
  rw [listOf_eq, iterate_some hs shorter, iterate_none (adding_none.2 (listItem_nil hj))]

/-- **A value with a comma** comes first, whatever the rest of the list is. -/
theorem listOf_comma (h : r i = .ok (a, j)) (hj : Look.sign "," j.rest)
    (fewer : j.rest.length ≤ i.rest.length) : listOf r i =
      (listOf r { j with rest := j.rest.drop 1 }).map fun p => (a :: p.1, p.2) := by
  have hs : adding (listItem r) [] i = .ok (some [a], { j with rest := j.rest.drop 1 }) :=
    adding_some.2 ⟨a, listItem_comma hi h hj, rfl⟩
  have shorter : (j.rest.drop 1).length < i.rest.length := by
    have : 0 < i.rest.length := List.length_pos_iff.2 hi
    rw [List.length_drop]
    omega
  rw [listOf_eq, iterate_some hs shorter]
  exact iterate_adding [a] [] _

end Cons

end RequestGroups.Grammar.Reader

import Mathlib.Data.List.Perm.Basic
import RequestGroups.Text.KeyMap

/-! # Maps with given entries

A map holds some entries if it consists of them in the order of their keys (`KeyMap.Holds`).

* `holds_ofEntries`: the map of entries with distinct keys holds them all;
* `Holds.find?_eq`, `Holds.filterMap`: a map that holds entries finds each of them, and keeps to
  them if the values are changed or left out. -/

namespace RequestGroups.Text.KeyMap

variable {α : Type u} {β : Type v}

/-- A map of the given entries. -/
structure Holds (m : KeyMap α) (entries : List (String × α)) : Prop where
  sorted : Sorted m
  perm : List.Perm m entries

/-! ### The map of some entries -/

/-- A new key adds one entry. -/
theorem perm_insert {key : String} {value : α} {m : KeyMap α} (h : ∀ e ∈ m, e.1 ≠ key) :
    List.Perm (m.insert key value) ((key, value) :: m) := by
  induction m with
  | nil => exact List.Perm.refl _
  | cons x rest ih =>
    obtain ⟨hx, hrest⟩ := List.forall_mem_cons.1 h
    rw [insert]
    split
    · exact List.Perm.refl _
    · rw [if_neg (Ne.symm hx)]
      exact ((ih hrest).cons x).trans (List.Perm.swap (key, value) x rest)

/-- New keys add their entries, if each of them is new. -/
theorem perm_insertAll {entries : List (String × α)} {m : KeyMap α}
    (h : (entries.map (·.1) ++ m.map (·.1)).Nodup) :
    List.Perm (m.insertAll entries) (entries ++ m) := by
  induction entries generalizing m with
  | nil => exact List.Perm.refl _
  | cons e rest ih =>
    obtain ⟨he, hrest⟩ := List.nodup_cons.1 h
    have step : List.Perm (m.insert e.1 e.2) (e :: m) := perm_insert fun x hx hk =>
      he (List.mem_append_right _ (List.mem_map.2 ⟨x, hx, hk⟩))
    have distinct : (rest.map (·.1) ++ (m.insert e.1 e.2).map (·.1)).Nodup := by
      refine (((step.map (·.1)).append_left (rest.map (·.1))).nodup_iff).2 ?_
      exact (List.perm_middle.nodup_iff).2 (List.nodup_cons.2 ⟨he, hrest⟩)
    exact (ih distinct).trans ((step.append_left rest).trans List.perm_middle)

/-- **The map of some entries** holds all of them, if their keys are distinct. -/
theorem holds_ofEntries {entries : List (String × α)} (h : (entries.map (·.1)).Nodup) :
    Holds (ofEntries entries) entries := by
  have perm : List.Perm (ofEntries entries) (entries ++ []) := perm_insertAll (by simpa using h)
  exact ⟨sorted_ofEntries entries, by simpa using perm⟩

/-! ### Reading -/

/-- A map in order finds each of its entries. -/
theorem Sorted.find?_eq {m : KeyMap α} (h : Sorted m) {e : String × α} (he : e ∈ m) :
    m.find? e.1 = some e.2 := by
  induction m with
  | nil => exact absurd he List.not_mem_nil
  | cons x rest ih =>
    obtain ⟨hx, hrest⟩ := List.pairwise_cons.1 h
    rw [find?]
    rcases List.mem_cons.1 he with rfl | he
    · rw [if_pos rfl]
    · rw [if_neg (String.ne_of_lt (hx e he)).symm, ih hrest he]

namespace Holds

variable {m : KeyMap α} {entries : List (String × α)}

theorem find?_eq (h : Holds m entries) {e : String × α} (he : e ∈ entries) :
    m.find? e.1 = some e.2 :=
  h.sorted.find?_eq (h.perm.mem_iff.2 he)

theorem length_eq (h : Holds m entries) : m.length = entries.length := h.perm.length_eq

theorem eq_nil (h : Holds m []) : m = [] := h.perm.eq_nil

/-- The entries stay in order if each value is changed or left out. -/
theorem filterMap (h : Holds m entries) (f : α → Option β) :
    Holds (m.filterMap fun e => (f e.2).map (e.1, ·))
      (entries.filterMap fun e => (f e.2).map (e.1, ·)) := by
  refine ⟨h.sorted.filterMap _ ?_, h.perm.filterMap _⟩
  intro a b hab x hx y hy
  obtain ⟨v, -, rfl⟩ := Option.map_eq_some_iff.1 hx
  obtain ⟨w, -, rfl⟩ := Option.map_eq_some_iff.1 hy
  exact hab

end Holds

end RequestGroups.Text.KeyMap

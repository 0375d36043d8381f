/-! # Maps with text keys

A map is a list of entries in ascending order of their keys. The order of texts by code points is
also the order of their UTF-8 bytes.

* `KeyMap.insert` replaces the entry of a key or adds one, and keeps the order (`sorted_insert`);
* `KeyMap.find?` looks a key up (`find?_insert`);
* two maps in order are equal if they agree on every key (`Sorted.ext`). -/

namespace RequestGroups.Text

/-- A list of entries in ascending order of their keys. -/
abbrev KeyMap (α : Type u) := List (String × α)

namespace KeyMap

variable {α : Type u}

/-- The value of a key. -/
def find? (key : String) : KeyMap α → Option α
  | [] => none
  | (k, v) :: rest => if key = k then some v else find? key rest

/-- Sets the value of a key. -/
def insert (key : String) (value : α) : KeyMap α → KeyMap α
  | [] => [(key, value)]
  | (k, v) :: rest =>
    if key < k then (key, value) :: (k, v) :: rest
    else if key = k then (key, value) :: rest
    else (k, v) :: insert key value rest

/-- Sets the values of some keys one after the other. -/
def insertAll (entries : List (String × α)) (m : KeyMap α) : KeyMap α :=
  entries.foldl (fun m e => m.insert e.1 e.2) m

/-- The map of some entries; of two entries with one key the later one counts. -/
def ofEntries (entries : List (String × α)) : KeyMap α := insertAll entries []

/-- The keys are in ascending order, each of them once. -/
def Sorted (m : KeyMap α) : Prop := m.Pairwise fun a b => a.1 < b.1

theorem mem_insert {key : String} {value : α} {m : KeyMap α} {e : String × α}
    (h : e ∈ m.insert key value) : e = (key, value) ∨ e ∈ m := by
  induction m with
  | nil => simpa [insert] using h
  | cons x rest ih =>
    obtain ⟨k, v⟩ := x
    simp only [insert] at h
    split at h
    · simpa using h
    · split at h
      · rcases List.mem_cons.1 h with h | h
        · exact .inl h
        · exact .inr (List.mem_cons_of_mem _ h)
      · rcases List.mem_cons.1 h with h | h
        · exact .inr (h ▸ List.mem_cons_self)
        · exact (ih h).imp_right (List.mem_cons_of_mem _)

theorem sorted_insert {m : KeyMap α} (h : Sorted m) (key : String) (value : α) :
    Sorted (m.insert key value) := by
  induction m with
  | nil => simp [insert, Sorted]
  | cons x rest ih =>
    obtain ⟨k, v⟩ := x
    have h' := List.pairwise_cons.1 h
    simp only [insert]
    split
    · rename_i lt
      exact List.pairwise_cons.2 ⟨fun e he => by
        rcases List.mem_cons.1 he with rfl | he
        · exact lt
        · exact String.lt_trans lt (h'.1 e he), h⟩
    · split
      · rename_i eq
        subst eq
        exact List.pairwise_cons.2 ⟨h'.1, h'.2⟩
      · rename_i nlt ne
        have gt : k < key := Std.lt_of_le_of_ne (String.not_lt.1 nlt) (Ne.symm ne)
        exact List.pairwise_cons.2 ⟨fun e he => by
          rcases mem_insert he with rfl | he
          · exact gt
          · exact h'.1 e he, ih h'.2⟩

theorem sorted_insertAll (entries : List (String × α)) {m : KeyMap α} (h : Sorted m) :
    Sorted (m.insertAll entries) := by
  induction entries generalizing m with
  | nil => exact h
  | cons e entries ih => exact ih (sorted_insert h e.1 e.2)

theorem sorted_ofEntries (entries : List (String × α)) : Sorted (ofEntries entries) :=
  sorted_insertAll entries List.Pairwise.nil

theorem find?_insert (key : String) (value : α) (m : KeyMap α) (k : String) :
    (m.insert key value).find? k = if k = key then some value else m.find? k := by
  induction m with
  | nil => simp [insert, find?]
  | cons x rest ih =>
    obtain ⟨k', v⟩ := x
    simp only [insert]
    split
    · simp [find?]
    · split
      · rename_i eq
        subst eq
        simp only [find?]
        split <;> rfl
      · rename_i ne
        simp only [find?, ih]
        split
        · rename_i eq
          rw [if_neg (fun h => ne (h.symm.trans eq))]
        · rfl

/-- A key that is smaller than all keys of a map is not in it. -/
theorem find?_eq_none_of_lt {m : KeyMap α} {k : String} (h : ∀ e ∈ m, k < e.1) :
    m.find? k = none := by
  induction m with
  | nil => rfl
  | cons x rest ih =>
    have hx := h x List.mem_cons_self
    have ne : k ≠ x.1 := fun eq => String.lt_irrefl _ (eq ▸ hx)
    simp [find?, ne, ih fun e he => h e (List.mem_cons_of_mem _ he)]

/-- Maps in order are equal if they agree on every key. -/
theorem Sorted.ext {a b : KeyMap α} (ha : Sorted a) (hb : Sorted b)
    (h : ∀ k, a.find? k = b.find? k) : a = b := by
  induction a generalizing b with
  | nil =>
    cases b with
    | nil => rfl
    | cons y bs => simpa [find?] using h y.1
  | cons x as ih =>
    cases b with
    | nil => simpa [find?] using h x.1
    | cons y bs =>
      have ha' := List.pairwise_cons.1 ha
      have hb' := List.pairwise_cons.1 hb
      have below : ∀ {z : String × α} {zs ws : KeyMap α} {w : String × α},
          (∀ e ∈ ws, w.1 < e.1) → (find? z.1 (z :: zs) = find? z.1 (w :: ws)) → ¬ z.1 < w.1 := by
        intro z zs ws w hw hz lt
        have none : find? z.1 (w :: ws) = none := find?_eq_none_of_lt fun e he => by
          rcases List.mem_cons.1 he with rfl | he
          · exact lt
          · exact String.lt_trans lt (hw e he)
        rw [none] at hz
        simp [find?] at hz
      have key : x.1 = y.1 := Std.le_antisymm
        (String.not_lt.1 (below ha'.1 (h y.1).symm)) (String.not_lt.1 (below hb'.1 (h x.1)))
      have value : x.2 = y.2 := by simpa [find?, key] using h x.1
      have tails : ∀ k, find? k as = find? k bs := by
        intro k
        by_cases hk : k = x.1
        · rw [hk, find?_eq_none_of_lt ha'.1, key, find?_eq_none_of_lt hb'.1]
        · simpa [find?, hk, key ▸ hk] using h k
      rw [ih ha'.2 hb'.2 tails, Prod.ext key value]

end KeyMap

end RequestGroups.Text

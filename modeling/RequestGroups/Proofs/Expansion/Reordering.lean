import Mathlib.Data.List.FinRange
import Mathlib.Data.List.Sort
import RequestGroups.Proofs.Expansion.Shape

/-! # Where the order of the fields matters

The fields of a declaration may be written in another order, which a permutation of their positions
describes: at `i` then stands the field that stood at `σ i`. Whether the declaration is expanded
does not depend on this order. If the headers, the body fields and the plain fields stay in order
among themselves, then the accessors move with their fields and nothing else changes.

* `reorder` is a list in another order, and `filter_reorder` says which elements do not move;
* `Acceptable.of_perm`: the rules for declarations are blind to the order of fields;
* `split_reorder`: what `Declaration.KeepsOrder` means for the partition;
* `expand_reorder` puts these together. -/

namespace RequestGroups

open Source Grammar

/-! ### Lists in another order -/

section Lists

variable {α : Type u}

/-- The list with the element of position `σ i` at position `i`. -/
def reorder (l : List α) (σ : Equiv.Perm (Fin l.length)) : List α :=
  (List.finRange l.length).map fun i => l.get (σ i)

/-- The positions are permuted first, and then looked up. -/
theorem reorder_eq (l : List α) (σ : Equiv.Perm (Fin l.length)) :
    reorder l σ = ((List.finRange l.length).map σ).map l.get := by
  rw [reorder, List.map_map]
  rfl

theorem reorder_perm (l : List α) (σ : Equiv.Perm (Fin l.length)) : (reorder l σ).Perm l := by
  have positions := σ.map_finRange_perm.map l.get
  rwa [← reorder_eq, List.map_get_finRange] at positions

/-- Positions that stay in order among themselves are the same list as before. -/
theorem filter_map_finRange {n : Nat} {p : Fin n → Bool} {σ : Equiv.Perm (Fin n)}
    (h : ∀ i j, i < j → p (σ i) → p (σ j) → σ i < σ j) :
    ((List.finRange n).map σ).filter p = (List.finRange n).filter p := by
  have ascending : (List.finRange n).Pairwise (· < ·) := (List.sortedLT_finRange n).pairwise
  have moved : (((List.finRange n).map σ).filter p).Pairwise (· ≤ ·) := by
    rw [List.pairwise_filter, List.pairwise_map]
    exact ascending.imp fun hij hi hj => (h _ _ hij hi hj).le
  have kept : ((List.finRange n).filter p).Pairwise (· ≤ ·) :=
    (ascending.imp LT.lt.le).filter p
  exact (σ.map_finRange_perm.filter p).eq_of_pairwise' moved kept

/-- **Elements that stay in order** among themselves are the same list as before. -/
theorem filter_reorder {p : α → Bool} {l : List α} {σ : Equiv.Perm (Fin l.length)}
    (h : ∀ i j, i < j → p (l.get (σ i)) → p (l.get (σ j)) → σ i < σ j) :
    (reorder l σ).filter p = l.filter p := by
  have positions := filter_map_finRange (p := fun i => p (l.get i)) h
  calc (reorder l σ).filter p
      = (((List.finRange l.length).map σ).filter fun i => p (l.get i)).map l.get := by
        rw [reorder_eq, List.filter_map]
        rfl
    _ = ((List.finRange l.length).filter fun i => p (l.get i)).map l.get := by rw [positions]
    _ = (((List.finRange l.length).map l.get).filter p) := by
        rw [List.filter_map]
        rfl
    _ = l.filter p := by rw [List.map_get_finRange]

/-- A list is gone through by its positions. -/
theorem filterMap_finRange {β : Type v} (f : α → Option β) (l : List α) :
    ((List.finRange l.length).filterMap fun i => f (l.get i)) = l.filterMap f := by
  rw [← Function.comp_def f l.get, ← List.filterMap_map, List.map_get_finRange]

end Lists

namespace Declaration

variable {d : Declaration} {c : Config}

/-! ### Rules -/

/-- The rules are blind to the order of the fields. -/
theorem Acceptable.of_perm {renames : Entry → Prop} {d' : Declaration} (h : d.Acceptable renames c)
    (hk : d'.kind = d.kind) (hp : d'.fields.Perm d.fields) : d'.Acceptable renames c where
  kind := hk.trans h.kind
  names := (hp.map _).nodup_iff.2 h.names
  markers f hf := h.markers f (hp.mem_iff.1 hf)
  storage f hf := h.storage f (hp.mem_iff.1 hf)
  constructor := h.constructor
  methods f hf := h.methods f (hp.mem_iff.1 hf)
  attributes f hf := h.attributes f (hp.mem_iff.1 hf)
  keys r := ((hp.filter _).map _).nodup_iff.2 (h.keys r)

/-- The declaration with its fields in another order. -/
def reorder (d : Declaration) (σ : Equiv.Perm (Fin d.fields.length)) : Declaration :=
  { d with fields := RequestGroups.reorder d.fields σ }

theorem acceptable_reorder {renames : Entry → Prop} (σ : Equiv.Perm (Fin d.fields.length)) :
    (d.reorder σ).Acceptable renames c ↔ d.Acceptable renames c :=
  ⟨fun h => h.of_perm rfl (reorder_perm d.fields σ).symm,
    fun h => h.of_perm rfl (reorder_perm d.fields σ)⟩

/-! ### Groups that stay in order -/

/-- The headers stay in order among themselves, and so do the body fields and the plain fields. -/
def KeepsOrder (d : Declaration) (c : Config) (σ : Equiv.Perm (Fin d.fields.length)) : Prop :=
  ∀ i j, i < j →
    (d.fields.get (σ i)).role? c.markers = (d.fields.get (σ j)).role? c.markers → σ i < σ j

instance (σ : Equiv.Perm (Fin d.fields.length)) : Decidable (d.KeepsOrder c σ) :=
  inferInstanceAs (Decidable (∀ _ _, _ → _ → _))

/-- The fields of one role, or of none, are the same list as before. -/
theorem filter_role_reorder {σ : Equiv.Perm (Fin d.fields.length)} (h : d.KeepsOrder c σ)
    (role : Option Role) : (d.reorder σ).fields.filter (·.role? c.markers = role) =
      d.fields.filter (·.role? c.markers = role) := by
  refine filter_reorder fun i j hij hi hj => h i j hij ?_
  exact (of_decide_eq_true hi).trans (of_decide_eq_true hj).symm

/-- **The partition stays the same.** -/
theorem split_reorder {σ : Equiv.Perm (Fin d.fields.length)} (h : d.KeepsOrder c σ) :
    Partition.split c.markers (d.reorder σ).fields = .split c.markers d.fields := by
  unfold Partition.split group plainOf
  rw [filter_role_reorder h, filter_role_reorder h, filter_role_reorder h]

end Declaration

/-! ### Accessors -/

/-- The accessor of a field, if the field belongs to a group. -/
def Field.accessor? (f : Field) (t : MarkerTable) : Option Accessor :=
  (f.role? t).map fun r => .ofField (f.classified t r)

/-- **What another order of the fields changes**: the accessors stand in the order of their fields,
and all other parts are the same. -/
structure Expansion.Reordered (e' e : Expansion) (d : Declaration) (c : Config)
    (σ : Equiv.Perm (Fin d.fields.length)) : Prop where
  headerRecord : e'.headerRecord = e.headerRecord
  bodyRecord : e'.bodyRecord = e.bodyRecord
  constructor : e'.constructor = e.constructor
  plainFields : e'.plainFields = e.plainFields
  storage : e'.storage = e.storage
  conversions : e'.headersConversion = e.headersConversion ∧ e'.bodyConversion = e.bodyConversion
  accessors :
    e.accessors = (List.finRange d.fields.length).filterMap
      (fun i => (d.fields.get i).accessor? c.markers) ∧
    e'.accessors = (List.finRange d.fields.length).filterMap
      fun i => (d.fields.get (σ i)).accessor? c.markers

namespace Declaration

variable {d : Declaration} {c : Config}

/-- The accessors follow the fields, in whatever order these are. -/
theorem accessors_reorder (h : (d.fields.map (·.name.name)).Nodup)
    (σ : Equiv.Perm (Fin d.fields.length)) :
    ((d.reorder σ).expansion c).accessors = (List.finRange d.fields.length).filterMap
      fun i => (d.fields.get (σ i)).accessor? c.markers := by
  have names : ((d.reorder σ).fields.map (·.name.name)).Nodup :=
    ((reorder_perm d.fields σ).map _).nodup_iff.2 h
  have moved : (d.reorder σ).fields =
      (List.finRange d.fields.length).map fun i => d.fields.get (σ i) := rfl
  rw [accessors_expansion names, moved, List.filterMap_map]
  rfl

/-- **The order of the fields** does not decide whether a declaration is expanded, and it decides
the order of the accessors alone as long as each group and the plain fields stay in order. -/
theorem expand_reorder (d : Declaration) (c : Config) (σ : Equiv.Perm (Fin d.fields.length)) :
    ((∃ e, (d.reorder σ).expand c = .ok e) ↔ ∃ e, d.expand c = .ok e) ∧
      ∀ e, d.expand c = .ok e → d.KeepsOrder c σ →
        ∃ e', (d.reorder σ).expand c = .ok e' ∧ e'.Reordered e d c σ := by
  constructor
  · simp only [expand_iff_acceptable]
    exact acceptable_reorder σ
  · intro e he hσ
    obtain ⟨h, rfl⟩ := expand_eq_expansion he
    refine ⟨(d.reorder σ).expansion c, expand_eq_ok.2 ⟨(acceptable_reorder σ).2 h, rfl⟩, ?_⟩
    have same : (d.reorder σ).expansion c =
        (d.reorder σ).expansionOf (.split c.markers d.fields) c := by
      rw [expansion, split_reorder hσ]
    constructor
    case accessors =>
      refine ⟨?_, accessors_reorder h.names σ⟩
      exact (accessors_expansion h.names).trans (filterMap_finRange _ _).symm
    case conversions => exact ⟨rfl, rfl⟩
    all_goals
      rw [same]
      rfl

/-- The plain field and the body field of the struct change places. -/
theorem expand_reorder_mixedStruct : ∃ σ e e', mixedStruct.KeepsOrder {} σ ∧
    (mixedStruct.reorder σ).fields.map (·.name.name) = ["id", "type", "note", "token"] ∧
    mixedStruct.expand {} = .ok e ∧ (mixedStruct.reorder σ).expand {} = .ok e' ∧
    e'.Reordered e mixedStruct {} σ := by
  let σ : Equiv.Perm (Fin mixedStruct.fields.length) := Equiv.swap ⟨1, by decide⟩ ⟨2, by decide⟩
  have order : mixedStruct.KeepsOrder {} σ := by decide
  obtain ⟨e', he', h⟩ := (expand_reorder mixedStruct {} σ).2 _ expand_mixedStruct order
  exact ⟨σ, _, e', order, by decide, expand_mixedStruct, he', h⟩

end Declaration

end RequestGroups

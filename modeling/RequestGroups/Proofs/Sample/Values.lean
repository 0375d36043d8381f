import RequestGroups.Proofs.Outcome
import RequestGroups.Proofs.Search
import RequestGroups.Sample.Decoding

/-! # Values of sample fields are read back

A JSON value is read as a value of a type exactly if the value belongs to the type and is shown as
this JSON value (`ValueType.decode_eq_ok`). Only maps from lists of bytes are not shown in full; of
these, too, what is read belongs to the type (`ValueType.admits_of_decode`). A record, which is read
from an object or from an array, has for each field a value that is read for it, or the one that
stands for a missing field (`gives_decodeRecord`). -/

namespace RequestGroups.Sample

/-! ### Simple values -/

/-- Whether a simple value belongs to a type. -/
def ScalarType.Admits : ScalarType → Scalar → Prop
  | string, .string _ => True
  | bool, .bool _ => True
  | int w, .int n => w.admits n
  | _, _ => False

theorem ScalarType.decode_eq_ok {t : ScalarType} {j : JsonValue} {x : Scalar} :
    t.decode j = .ok x ↔ t.Admits x ∧ j = x.toJson := by
  constructor
  · intro h
    cases t with
    | string =>
      cases j with
      | string s =>
        cases h
        exact ⟨trivial, rfl⟩
      | _ => cases h
    | bool =>
      cases j with
      | bool b =>
        cases h
        exact ⟨trivial, rfl⟩
      | _ => cases h
    | int w =>
      cases j with
      | int n =>
        rw [decode] at h
        split at h
        next hw =>
          cases h
          exact ⟨hw, rfl⟩
        next => cases h
      | _ => cases h
  · rintro ⟨hx, rfl⟩
    cases t <;> cases x <;> first | exact hx.elim | rfl | exact if_pos hx

theorem ScalarType.mapM_decode {t : ScalarType} {items : List JsonValue} {xs : List Scalar} :
    items.mapM t.decode = .ok xs ↔ (∀ x ∈ xs, t.Admits x) ∧ items = xs.map Scalar.toJson := by
  rw [Outcome.mapM_eq_ok]
  induction items generalizing xs with
  | nil => cases xs <;> simp
  | cons item items ih =>
    cases xs with
    | nil => simp
    | cons x xs =>
      rw [List.forall₂_cons, ih, decode_eq_ok, List.forall_mem_cons, List.map_cons,
        List.cons.injEq]
      exact and_and_and_comm

theorem ScalarType.decodeList_eq_ok {t : ScalarType} {j : JsonValue} {xs : List Scalar} :
    t.decodeList j = .ok xs ↔ (∀ x ∈ xs, t.Admits x) ∧ j = .array (xs.map Scalar.toJson) := by
  cases j with
  | array items => rw [decodeList, mapM_decode, JsonValue.array.injEq]
  | _ => exact ⟨nofun, fun h => nomatch h.2⟩

/-! ### All values -/

/-- Whether a value belongs to a type. The entries of a map have different keys. -/
def ValueType.Admits : ValueType → Value → Prop
  | scalar t, .scalar x => t.Admits x
  | optional t, .optional o => ∀ x ∈ o, t.Admits x
  | list t, .list xs => ∀ x ∈ xs, t.Admits x
  | json, .json _ => True
  | chunks, .chunks es => (es.map (·.1)).Nodup ∧
      ∀ e ∈ es, (∀ x ∈ e.1, ScalarType.byte.Admits x) ∧ ScalarType.byte.Admits e.2
  | _, _ => False

instance (t : ValueType) : Decidable (t.Admits t.initial) :=
  match t with
  | .scalar .string => isTrue trivial
  | .scalar .bool => isTrue trivial
  | .scalar (.int w) => inferInstanceAs (Decidable (w.admits 0 = true))
  | .optional _ => isTrue nofun
  | .list _ => isTrue (List.forall_mem_nil _)
  | .json => isTrue trivial
  | .chunks => isTrue ⟨List.nodup_nil, List.forall_mem_nil _⟩

theorem Scalar.toJson_ne_null (x : Scalar) : x.toJson ≠ .null := by cases x <;> exact nofun

theorem ValueType.decode_optional_eq_ok {t : ScalarType} {j : JsonValue} {v : Value} :
    (optional t).decode j = .ok v ↔ (optional t).Admits v ∧ j = v.toJson := by
  have other : ∀ j, j ≠ .null →
      (optional t).decode j = (t.decode j).map fun x => .optional (some x) := by
    intro j hj
    cases j <;> first | rfl | exact absurd rfl hj
  -- null is a missing value, and no value that is there is shown as null
  by_cases null : j = .null
  · subst null
    constructor
    · rintro ⟨⟩
      exact ⟨nofun, rfl⟩
    · rintro ⟨hv, hj⟩
      cases v with
      | optional o =>
        cases o with
        | none => rfl
        | some x => exact absurd hj.symm x.toJson_ne_null
      | _ => exact hv.elim
  · rw [other j null, Outcome.map_eq_ok]
    constructor
    · rintro ⟨x, hx, rfl⟩
      obtain ⟨admits, rfl⟩ := ScalarType.decode_eq_ok.1 hx
      refine ⟨fun y hy => ?_, rfl⟩
      cases hy
      exact admits
    · rintro ⟨hv, rfl⟩
      cases v with
      | optional o =>
        cases o with
        | none => exact absurd rfl null
        | some x => exact ⟨x, ScalarType.decode_eq_ok.2 ⟨hv x rfl, rfl⟩, rfl⟩
      | _ => exact hv.elim

/-- **A value is read** exactly from what it is shown as, if its type is no type of maps. -/
theorem ValueType.decode_eq_ok {t : ValueType} {j : JsonValue} {v : Value} (h : t ≠ .chunks) :
    t.decode j = .ok v ↔ t.Admits v ∧ j = v.toJson := by
  cases t with
  | scalar t =>
    rw [decode, Outcome.map_eq_ok]
    constructor
    · rintro ⟨x, hx, rfl⟩
      exact ScalarType.decode_eq_ok.1 hx
    · intro hv
      cases v with
      | scalar x => exact ⟨x, ScalarType.decode_eq_ok.2 hv, rfl⟩
      | _ => exact hv.1.elim
  | optional t => exact decode_optional_eq_ok
  | list t =>
    rw [decode, Outcome.map_eq_ok]
    constructor
    · rintro ⟨xs, hx, rfl⟩
      exact ScalarType.decodeList_eq_ok.1 hx
    · intro hv
      cases v with
      | list xs => exact ⟨xs, ScalarType.decodeList_eq_ok.2 hv, rfl⟩
      | _ => exact hv.1.elim
  | json =>
    constructor
    · rintro ⟨⟩
      exact ⟨trivial, rfl⟩
    · intro hv
      cases v with
      | json w => exact congrArg (Except.ok ∘ Value.json) hv.2
      | _ => exact hv.1.elim
  | chunks => exact absurd rfl h

/-! ### Maps -/

theorem admits_of_decodeChunk {j : JsonValue} {e : List Scalar × Scalar}
    (h : decodeChunk j = .ok e) :
    (∀ x ∈ e.1, ScalarType.byte.Admits x) ∧ ScalarType.byte.Admits e.2 := by
  unfold decodeChunk at h
  split at h
  · obtain ⟨k, hk, h⟩ := Outcome.bind_eq_ok.1 h
    obtain ⟨x, hx, h⟩ := Outcome.bind_eq_ok.1 h
    cases h
    exact ⟨(ScalarType.decodeList_eq_ok.1 hk).1, (ScalarType.decode_eq_ok.1 hx).1⟩
  · cases h
  · cases h

theorem admits_of_mapM_decodeChunk {items : List JsonValue} {es : List (List Scalar × Scalar)}
    (h : items.mapM decodeChunk = .ok es) :
    ∀ e ∈ es, (∀ x ∈ e.1, ScalarType.byte.Admits x) ∧ ScalarType.byte.Admits e.2 := by
  have entries := Outcome.mapM_eq_ok.1 h
  induction entries with
  | nil => exact List.forall_mem_nil _
  | cons he hes ih =>
    exact List.forall_mem_cons.2 ⟨admits_of_decodeChunk he, ih (Outcome.mapM_eq_ok.2 hes)⟩

/-- A map has one entry for each key, however many are added. -/
theorem admits_insertChunk {es : List (List Scalar × Scalar)} {e : List Scalar × Scalar}
    (h : ValueType.chunks.Admits (.chunks es))
    (he : (∀ x ∈ e.1, ScalarType.byte.Admits x) ∧ ScalarType.byte.Admits e.2) :
    ValueType.chunks.Admits (.chunks (insertChunk es e)) := by
  obtain ⟨keys, bytes⟩ := h
  constructor
  · rw [insertChunk, List.map_append, List.map_singleton, List.nodup_append]
    refine ⟨keys.sublist (List.filter_sublist.map _), List.nodup_singleton _, ?_⟩
    intro k hk l hl
    obtain ⟨b, hb, rfl⟩ := List.mem_map.1 hk
    rw [List.mem_singleton.1 hl]
    exact bne_iff_ne.1 (List.mem_filter.1 hb).2
  · intro b hb
    rcases List.mem_append.1 hb with hb | hb
    · exact bytes b (List.mem_filter.1 hb).1
    · rw [List.mem_singleton.1 hb]
      exact he

/-- **What is read** belongs to the type that it is read for. -/
theorem ValueType.admits_of_decode {t : ValueType} {j : JsonValue} {v : Value}
    (h : t.decode j = .ok v) : t.Admits v := by
  by_cases map : t = .chunks
  · subst map
    cases j with
    | array items =>
      obtain ⟨es, hes, h⟩ := Outcome.bind_eq_ok.1 h
      cases h
      have entries := admits_of_mapM_decodeChunk hes
      exact List.foldlRecOn (motive := fun m => chunks.Admits (.chunks m)) es insertChunk
        ⟨List.nodup_nil, List.forall_mem_nil _⟩ fun m hm e he => admits_insertChunk hm (entries e he)
    | _ => cases h
  · exact ((decode_eq_ok map).1 h).1

/-! ### Records -/

section Records

variable {β : Type u} {fields : List (Expected β)} {entries : List (String × JsonValue)}
  {found : List (String × β)}

/-- Whether a field of a record can have a value: it is read, or it is what the field is if it is
missing. -/
def Expected.Gives (f : Expected β) (b : β) : Prop := (∃ j, f.decode j = .ok b) ∨ f.initial = some b

theorem mem_decodeEntries (h : decodeEntries fields entries = .ok found) {key : String} {b : β}
    (hb : (key, b) ∈ found) : ∃ f ∈ fields, f.key = key ∧ ∃ j, f.decode j = .ok b := by
  induction entries generalizing found with
  | nil =>
    cases h
    exact absurd hb List.not_mem_nil
  | cons e entries ih =>
    obtain ⟨k, j⟩ := e
    rw [decodeEntries] at h
    cases hf : fields.find? (·.key == k) with
    | none =>
      rw [hf] at h
      exact ih h hb
    | some f =>
      rw [hf] at h
      obtain ⟨c, hc, h⟩ := Outcome.bind_eq_ok.1 h
      obtain ⟨rest, hrest, h⟩ := Outcome.bind_eq_ok.1 h
      cases h
      rcases List.mem_cons.1 hb with same | hb
      · cases same
        have spelled := List.find?_some hf
        exact ⟨f, List.mem_of_find?_eq_some hf, eq_of_beq spelled, j, hc⟩
      · exact ih hrest hb

theorem gives_take (keys : (fields.map (·.key)).Nodup)
    (h : decodeEntries fields entries = .ok found) {f : Expected β} (hf : f ∈ fields) {b : β}
    (hb : f.take found = .ok b) : f.Gives b := by
  unfold Expected.take at hb
  cases hl : found.lookup f.key with
  | some c =>
    rw [hl] at hb
    cases hb
    obtain ⟨before, after, rfl, -⟩ := List.lookup_eq_some_iff.1 hl
    obtain ⟨g, hg, key, read⟩ := mem_decodeEntries h (List.mem_append_right _ List.mem_cons_self)
    cases List.inj_on_of_nodup_map keys hg hf key
    exact .inl read
  | none =>
    cases hi : f.initial with
    | some c =>
      rw [hl, hi] at hb
      cases hb
      exact .inr hi
    | none =>
      rw [hl, hi] at hb
      cases hb

theorem gives_decodeItems {expected : String} {position : Nat} {items : List JsonValue}
    {bs : List β} (h : decodeItems expected position fields items = .ok bs) :
    List.Forall₂ Expected.Gives fields bs := by
  induction fields generalizing position items bs with
  | nil =>
    cases h
    exact .nil
  | cons f fields ih =>
    cases items with
    | nil =>
      rw [decodeItems] at h
      cases hi : f.initial with
      | none =>
        rw [hi] at h
        cases h
      | some c =>
        rw [hi] at h
        obtain ⟨rest, hrest, h⟩ := Outcome.bind_eq_ok.1 h
        cases h
        exact .cons (.inr hi) (ih hrest)
    | cons j items =>
      rw [decodeItems] at h
      obtain ⟨c, hc, h⟩ := Outcome.bind_eq_ok.1 h
      obtain ⟨rest, hrest, h⟩ := Outcome.bind_eq_ok.1 h
      cases h
      exact .cons (.inl ⟨j, hc⟩) (ih hrest)

/-- **A record is read** field by field, from an object as well as from an array. -/
theorem gives_decodeRecord {name : String} {j : JsonValue} {bs : List β}
    (keys : (fields.map (·.key)).Nodup) (h : decodeRecord name fields j = .ok bs) :
    List.Forall₂ Expected.Gives fields bs := by
  cases j with
  | object entries =>
    obtain ⟨found, hfound, h⟩ := Outcome.bind_eq_ok.1 h
    have taken := (List.forall₂_and_left _ _).2 ⟨fun f hf => hf, Outcome.mapM_eq_ok.1 h⟩
    exact taken.imp fun f b hb => gives_take keys hfound hb.1 hb.2
  | array items =>
    obtain ⟨values, hvalues, h⟩ := Outcome.bind_eq_ok.1 h
    dsimp only at h
    split at h
    · cases h
    · cases h
      exact gives_decodeItems hvalues
  | _ => cases h

end Records

end RequestGroups.Sample

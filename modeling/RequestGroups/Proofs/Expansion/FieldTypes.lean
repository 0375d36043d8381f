import RequestGroups.Proofs.Expansion.FieldMaps

/-! # Types of fields are opaque

A map of types acts on all that carries types: fields, members of groups, records, accessors,
parameters and whole expansions. A declaration whose types are mapped is refused for the same reason
at the same place, or has the mapped expansion (`Declaration.expand_retype`): no type is looked
into on the way.

* `Partition.ofFields_retype`, `Partition.violation?_retype` and `Declaration.expansionOf_retype`
  say so of the partition, of its checks and of what is generated. -/

namespace RequestGroups

open Source Grammar

/-! ### Maps of types

`retype τ` puts `τ` of every type in its place, and leaves everything else as it is. -/

section Maps

variable (τ : Phrase → Phrase)

def Field.retype (f : Field) : Field := { f with type := τ f.type }

def ClassifiedField.retype (m : ClassifiedField) : ClassifiedField :=
  { m with field := m.field.retype τ }

def GroupField.retype (f : GroupField) : GroupField := { f with type := τ f.type }

def Accessor.retype (a : Accessor) : Accessor := { a with type := τ a.type }

def Parameter.retype (p : Parameter) : Parameter := { p with type := τ p.type }

def Declaration.retype (d : Declaration) : Declaration := d.mapFields (Field.retype τ)

def Partition.retype (p : Partition) : Partition :=
  p.map (ClassifiedField.retype τ) (Field.retype τ)

def GroupRecord.retype (g : GroupRecord) : GroupRecord :=
  { g with fields := g.fields.map (GroupField.retype τ) }

def Constructor.retype (k : Constructor) : Constructor :=
  { k with
    headerParameters := k.headerParameters.map (Parameter.retype τ)
    bodyParameters := k.bodyParameters.map (Parameter.retype τ) }

/-- **The expansion with other types** in its records, accessors, parameters, plain fields and in
its declaration. -/
def Expansion.retype (e : Expansion) : Expansion :=
  { e with
    declaration := e.declaration.retype τ
    plainFields := e.plainFields.map (Field.retype τ)
    headerRecord := e.headerRecord.retype τ
    bodyRecord := e.bodyRecord.retype τ
    accessors := e.accessors.map (Accessor.retype τ)
    constructor := e.constructor.retype τ }

end Maps

variable {τ : Phrase → Phrase}

/-! ### The partition -/

namespace Partition

theorem put_retype (t : MarkerTable) (f : Field) (p : Partition) :
    put t (f.retype τ) (p.retype τ) = (put t f p).retype τ := by
  have role : (f.retype τ).role? t = f.role? t := rfl
  unfold put
  rw [role]
  rcases f.role? t with _ | _ | _ <;> rfl

theorem ofFields_retype (t : MarkerTable) (fs : List Field) :
    ofFields t (fs.map (Field.retype τ)) = (ofFields t fs).map (Partition.retype τ) := by
  induction fs with
  | nil => rfl
  | cons f fs ih =>
    have registered : (f.retype τ).registered t = f.registered t := rfl
    rw [List.map_cons, ofFields, ofFields, ih]
    rcases h : f.registered t with _ | ⟨m, _ | ⟨n, rest⟩⟩
    case cons.cons =>
      -- both stop here, and blame the same marker
      rw [place_eq_error h, place_eq_error (registered.trans h)]
      rfl
    all_goals
      have few : (f.registered t).length ≤ 1 := by simp [h]
      rw [place_eq_put few, place_eq_put (registered ▸ few)]
      rcases ofFields t fs with x | p
      · rfl
      · exact congrArg Except.ok (put_retype t f p)

/-- **The checks of a partition** find the same problem whatever the types are. -/
theorem violation?_retype (p : Partition) (d : Declaration) (c : Config) :
    (p.retype τ).violation? (d.retype τ) c = p.violation? d c := by
  have h := map_violation? (h := id) (Field.retype τ) (ClassifiedField.retype τ) (fun _ => rfl)
    (fun _ => rfl) (fun _ => rfl) (fun _ => rfl) p d c
  rwa [Option.map_id, id, id] at h

end Partition

/-! ### What is generated -/

theorem GroupRecord.ofFields_retype (τ : Phrase → Phrase) (name : Ident) (r : Role)
    (ms : List ClassifiedField) :
    ofFields name r (ms.map (ClassifiedField.retype τ)) = (ofFields name r ms).retype τ := by
  simp only [ofFields, retype, List.map_map]
  rfl

theorem Constructor.ofPartition_retype (τ : Phrase → Phrase) (name : Ident) (visibility : Phrase)
    (p : Partition) :
    ofPartition name visibility (p.retype τ) = (ofPartition name visibility p).retype τ := by
  simp only [ofPartition, parametersOf, retype, Partition.retype, Partition.map, List.map_map]
  rfl

namespace Declaration

theorem accessors_retype (d : Declaration) (p : Partition) :
    (d.retype τ).accessors (p.retype τ) = (d.accessors p).map (Accessor.retype τ) := by
  have h := accessors_map (Field.retype τ) (ClassifiedField.retype τ) (fun _ => rfl)
    (fun _ => rfl) d p
  rw [retype, Partition.retype, h, accessors, List.map_filterMap]
  refine List.filterMap_congr fun f _ => ?_
  rw [Option.map_map]
  rfl

theorem expansionOf_retype (d : Declaration) (p : Partition) (c : Config) :
    (d.retype τ).expansionOf (p.retype τ) c = (d.expansionOf p c).retype τ := by
  have headers := GroupRecord.ofFields_retype τ (c.groupName d.name .header) .header p.headers
  have body := GroupRecord.ofFields_retype τ (c.groupName d.name .body) .body p.body
  have constructor := Constructor.ofPartition_retype τ c.constructor d.visibility p
  unfold expansionOf Expansion.retype
  rw [accessors_retype, ← headers, ← body, ← constructor]
  rfl

/-- **Types are opaque.** A declaration with other types is refused just as before, or it has the
same expansion with these types. -/
theorem expand_retype (τ : Phrase → Phrase) (d : Declaration) (c : Config) :
    (d.retype τ).expand c = (d.expand c).map (Expansion.retype τ) := by
  have violation : (d.retype τ).violation? = d.violation? :=
    violation?_mapFields (Field.retype τ) (fun _ => rfl) d
  have partition : (d.retype τ).partition c.markers =
      (d.partition c.markers).map (Partition.retype τ) :=
    Partition.ofFields_retype c.markers d.fields
  unfold expand
  rw [violation, partition]
  rcases d.violation? with _ | x
  · rcases d.partition c.markers with x | p
    · rfl
    · change (refuse ((p.retype τ).violation? (d.retype τ) c) >>= fun _ =>
        .ok ((d.retype τ).expansionOf (p.retype τ) c)) = _
      rw [Partition.violation?_retype, expansionOf_retype]
      change _ = (refuse (p.violation? d c) >>= fun _ => .ok (d.expansionOf p c)).map _
      rcases p.violation? d c with _ | x <;> rfl
  · rfl

end Declaration

end RequestGroups

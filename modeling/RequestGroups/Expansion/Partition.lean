import RequestGroups.Expansion.Diagnostic

/-! # Partitions

The fields of a declaration are split into the fields of the headers, the fields of the body and
the plain fields, each in the order of the declaration.

* `Field.classify` finds the marker of a field for a role;
* `Partition.ofFields` splits fields; a field with two registered markers is refused. -/

namespace RequestGroups

open Source Grammar

/-- A field of a group, with the key that its marker gives. -/
structure ClassifiedField where
  field : Field
  role : Role
  explicitKey : Option String
  deriving Repr, Inhabited

/-- The key that the field is encoded under: the key of the marker, or the name of the field. -/
def ClassifiedField.key (c : ClassifiedField) : String := c.explicitKey.getD c.field.name.name

/-- The first marker of a field that is registered for a role. -/
def Field.classify (f : Field) (r : Role) (t : MarkerTable) : Option ClassifiedField :=
  (f.markers.find? fun m => t.roleOf m.tag == some r).map fun m => ⟨f, r, m.argument.key?⟩

/-- The registered markers of a field, with their roles. -/
def Field.registered (f : Field) (t : MarkerTable) : List (Marker × Role) :=
  f.markers.filterMap fun m => (t.roleOf m.tag).map (m, ·)

/-- The fields of a declaration by role. -/
structure Partition where
  headers : List ClassifiedField
  body : List ClassifiedField
  /-- The fields without a registered marker. -/
  plain : List Field
  deriving Repr, Inhabited

namespace Partition

/-- The partition of no fields. -/
def empty : Partition := ⟨[], [], []⟩

/-- The fields of a group. -/
def fields (p : Partition) : Role → List ClassifiedField
  | .header => p.headers
  | .body => p.body

/-- The fields of both groups, headers first. -/
def annotated (p : Partition) : List ClassifiedField := p.headers ++ p.body

/-- Whether no field belongs to a group. -/
def isEmpty (p : Partition) : Bool := p.headers.isEmpty && p.body.isEmpty

/-- The partition with one more plain field in front. -/
def consPlain (f : Field) (p : Partition) : Partition := { p with plain := f :: p.plain }

/-- The partition with one more field of a group in front. -/
def consGroup (c : ClassifiedField) (p : Partition) : Partition :=
  match c.role with
  | .header => { p with headers := c :: p.headers }
  | .body => { p with body := c :: p.body }

/-- How a field is put in front of the others: as the member of the group that one of its markers is
registered for, or as a plain field. Two registered markers are refused, and so would be two groups
for one field. -/
def place (t : MarkerTable) (f : Field) : Except Diagnostic (Partition → Partition) :=
  match f.registered t with
  | (m, _) :: (n, _) :: _ =>
    .error ⟨.conflictingRole f.name.spelling m.tag.spelling n.tag.spelling, n.tag.span⟩
  | _ =>
    match f.classify .header t, f.classify .body t with
    | some m, none => .ok (consGroup m)
    | none, some m => .ok (consGroup m)
    | none, none => .ok (consPlain f)
    | some _, some _ =>
      .error ⟨.conflictingRole f.name.spelling Role.header.name Role.body.name, f.name.span⟩

/-- Splits fields by role; the first field with two registered markers is to blame. -/
def ofFields (t : MarkerTable) : List Field → Except Diagnostic Partition
  | [] => .ok empty
  | f :: fs => do
    let put ← place t f
    return put (← ofFields t fs)

end Partition

/-- Splits the fields of a declaration. -/
def Declaration.partition (d : Declaration) (t : MarkerTable) : Except Diagnostic Partition :=
  Partition.ofFields t d.fields

end RequestGroups

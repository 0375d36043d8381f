import RequestGroups.Proofs.Expansion.Acceptance
import RequestGroups.Proofs.Search

/-! # Other fields under the same names

Other fields may stand in place of the fields of a declaration, and other members in place of the
members of its partition. The checks do not notice as long as all names and keys stay, up to what
the problem of a renamed member says about its marker; and the accessors are found by the names.

* `Declaration.mapFields` and `Partition.map` put the other fields in their places;
* `Declaration.violation?_mapFields`, `Partition.map_violation?` and `Declaration.accessors_map` are
  what checks and accessors make of them. -/

namespace RequestGroups

open Source Grammar

/-- The declaration with other fields in place of its own. -/
def Declaration.mapFields (g : Field → Field) (d : Declaration) : Declaration :=
  { d with fields := d.fields.map g }

/-- The partition with other members and other plain fields in place of its own. -/
def Partition.map (k : ClassifiedField → ClassifiedField) (g : Field → Field) (p : Partition) :
    Partition where
  headers := p.headers.map k
  body := p.body.map k
  plain := p.plain.map g

variable {g : Field → Field} {k : ClassifiedField → ClassifiedField}

theorem Partition.fields_map (p : Partition) (r : Role) :
    (p.map k g).fields r = (p.fields r).map k := by
  cases r <;> rfl

theorem Partition.annotated_map (p : Partition) : (p.map k g).annotated = p.annotated.map k :=
  List.map_append.symm

/-! ### Checks -/

variable (g) in
/-- A problem of the names alone is found under the same names. -/
theorem Declaration.violation?_mapFields (hg : ∀ f, (g f).name = f.name) (d : Declaration) :
    (d.mapFields g).violation? = d.violation? := by
  have repeats : firstRepeat (·.name.name) [] (d.mapFields g).fields =
      (firstRepeat (·.name.name) [] d.fields).map (Prod.map g g) :=
    firstRepeat_map (fun f => by rw [hg]) [] d.fields
  have blamed : ∀ x : Field × Field, (⟨.duplicateField (g x.2).name.spelling, (g x.2).name.span⟩ :
      Diagnostic) = ⟨.duplicateField x.2.name.spelling, x.2.name.span⟩ := by
    intro x
    rw [hg]
  have kind : (d.mapFields g).kind = d.kind := rfl
  unfold violation?
  rw [kind]
  split
  · rfl
  · rw [repeats, Option.map_map]
    exact congrArg (Option.map · _) (funext blamed)

theorem storageClash?_of_name (hg : ∀ f, (g f).name = f.name) (c : Config) (f : Field) :
    storageClash? c (g f) = storageClash? c f := by
  unfold storageClash?
  rw [hg]

section Members

variable (hk : ∀ m, (k m).field.name = m.field.name)
include hk

theorem methodClash?_of_name (c : Config) (m : ClassifiedField) :
    methodClash? c (k m) = methodClash? c m := by
  unfold methodClash?
  rw [hk]

theorem keyClash?_map (hkey : ∀ m, (k m).key = m.key) (p : Partition) (r : Role) :
    keyClash? (p.map k g) r = keyClash? p r := by
  have repeats : firstRepeat ClassifiedField.key [] ((p.map k g).fields r) =
      (firstRepeat ClassifiedField.key [] (p.fields r)).map (Prod.map k k) := by
    rw [Partition.fields_map]
    exact firstRepeat_map hkey [] (p.fields r)
  have blamed : ∀ x : ClassifiedField × ClassifiedField,
      (⟨.duplicateKey r (k x.2).key (k x.1).field.name.spelling (k x.2).field.name.spelling,
        (k x.2).field.name.span⟩ : Diagnostic) =
      ⟨.duplicateKey r x.2.key x.1.field.name.spelling x.2.field.name.spelling,
        x.2.field.name.span⟩ := by
    intro x
    rw [hk, hk, hkey]
  unfold keyClash?
  rw [repeats, Option.map_map]
  exact congrArg (Option.map · _) (funext blamed)

variable (g k) in
/-- **The first problem of a partition** stays the same under the same names and keys, up to what
`h` does not tell apart in the problems of renamed members. -/
theorem Partition.map_violation? {α : Type u} {h : Diagnostic → α} (hg : ∀ f, (g f).name = f.name)
    (hkey : ∀ m, (k m).key = m.key)
    (hrename : ∀ m, (renameClash? (k m)).map h = (renameClash? m).map h) (p : Partition)
    (d : Declaration) (c : Config) :
    ((p.map k g).violation? (d.mapFields g) c).map h = (p.violation? d c).map h := by
  have storage : (d.mapFields g).fields.findSome? (storageClash? c) =
      d.fields.findSome? (storageClash? c) := by
    change (d.fields.map g).findSome? _ = _
    rw [List.findSome?_map]
    exact congrArg (List.findSome? · _) (funext fun f => storageClash?_of_name hg c f)
  have member : ∀ m, ((methodClash? c (k m) <|> renameClash? (k m)).map h) =
      (methodClash? c m <|> renameClash? m).map h := by
    intro m
    rw [map_orElse, map_orElse, methodClash?_of_name hk, hrename]
  have members :
      ((p.map k g).annotated.findSome? fun m => methodClash? c m <|> renameClash? m).map h =
        (p.annotated.findSome? fun m => methodClash? c m <|> renameClash? m).map h := by
    rw [annotated_map, List.findSome?_map, List.map_findSome?, List.map_findSome?]
    exact congrArg (List.findSome? · _) (funext member)
  have keys : Role.all.findSome? (keyClash? (p.map k g)) = Role.all.findSome? (keyClash? p) :=
    congrArg (List.findSome? · _) (funext fun r => keyClash?_map hk hkey p r)
  unfold violation?
  simp only [map_orElse, storage, members, keys]

variable (g k) in
/-- **Accessors** are found by the names of fields. -/
theorem Declaration.accessors_map (hg : ∀ f, (g f).name = f.name) (d : Declaration)
    (p : Partition) : (d.mapFields g).accessors (p.map k g) = d.fields.filterMap fun f =>
      (p.annotated.find? fun m => m.field.name.same f.name).map fun m => .ofField (k m) := by
  -- names decide which member is found, so it is the image of the same one
  have found : ∀ f, (p.map k g).annotated.find? (fun m => m.field.name.same (g f).name) =
      (p.annotated.find? fun m => m.field.name.same f.name).map k := by
    intro f
    rw [Partition.annotated_map, List.find?_map, hg]
    simp only [Function.comp_def, hk]
  unfold accessors
  change (d.fields.map g).filterMap _ = _
  rw [List.filterMap_map]
  refine List.filterMap_congr fun f _ => ?_
  rw [Function.comp_apply, found, Option.map_map]
  rfl

end Members

end RequestGroups

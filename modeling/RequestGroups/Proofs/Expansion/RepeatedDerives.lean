import RequestGroups.Proofs.Declaration.Derives
import RequestGroups.Proofs.Expansion.ReadBack

/-! # Derives on the records

Both records of an expansion repeat the derives of the item that hold of any record, behind the one
for serialization. Nothing of the item's attributes but the list of their derives has a part in it.

* `Derives.isForwarded_iff` says which paths are repeated, `Derives.not_serialize` that
  serialization is not one of them;
* `trees_record` is the record as tokens, from its derives on;
* `Expansion.RepeatsDerives` is the whole, and `repeatsDerives_expand` shows it. -/

namespace RequestGroups

open Source Grammar

variable {c : Config} {e : Expansion} {s : StructItem} {p : Path}

/-! ### Repeated paths -/

namespace Derives

/-- **The last name** of a path decides whether it is repeated. -/
theorem isForwarded_iff : isForwarded p ↔ ∃ before last, p.segments = before ++ [last] ∧
    last.ident.spelling ∈ ["Debug", "Clone", "Copy", "PartialEq", "Eq", "Hash", "PartialOrd", "Ord",
      "Default", "Deserialize"] := by
  have names : ∀ i : Ident, forwardedNames.any i.spells ↔ i.spelling ∈ forwardedNames := by
    intro i
    simp [Ident.spells]
  unfold isForwarded
  rw [Option.any_eq_true]
  constructor
  · rintro ⟨last, hlast, h⟩
    obtain ⟨before, hp⟩ := List.getLast?_eq_some_iff.1 hlast
    exact ⟨before, last, hp, (names _).1 h⟩
  · rintro ⟨before, last, hp, h⟩
    exact ⟨last, List.getLast?_eq_some_iff.2 ⟨before, hp⟩, (names _).2 h⟩

theorem not_serialize (h : isForwarded p) {before : List PathSegment} {last : PathSegment}
    (hp : p.segments = before ++ [last]) : last.ident.spelling ≠ "Serialize" := by
  obtain ⟨before', last', hp', hlast⟩ := isForwarded_iff.1 h
  obtain ⟨-, same⟩ := List.append_inj' (hp.symm.trans hp') rfl
  cases same
  intro serialize
  rw [serialize] at hlast
  exact absurd hlast (by decide)

end Derives

/-! ### The records as tokens -/

/-- The path that derives serialization. -/
def serializePath (c : Config) : Path := c.runtimePath ["__private", "serde", "Serialize"]

/-- A derive as tokens. -/
theorem trees_deriveAttribute (p : Path) (ps : List Path) :
    (GroupRecord.deriveAttribute (p :: ps)).trees = [.punct '#' false .callSite,
      .group .bracket .callSite .callSite [.ident (.plain "derive"),
        .group .paren .callSite .callSite
          (p.trees ++ ps.flatMap fun q => .punct ',' false .callSite :: q.trees)]] := by
  have listed : (commas ((p :: ps).map Path.phrase)).trees =
      p.trees ++ ps.flatMap fun q => .punct ',' false .callSite :: q.trees := by
    rw [List.map_cons, trees_commas, List.flatMap_map]
    rfl
  rw [GroupRecord.deriveAttribute, listed]
  rfl

/-- **A record** as tokens: its derives, the place of the serialization library, and the struct. -/
theorem trees_record (g : GroupRecord) (d : Declaration) : (g.emit d c).trees =
    (GroupRecord.deriveAttribute (serializePath c :: Derives.forwarded d.derives)).trees ++
      (GroupRecord.crateAttribute c).trees ++
      structTrees g.name (g.fields.map GroupRecord.fieldCode) := by
  rw [GroupRecord.emit, code_eq, trees_braced]
  simp only [List.flatMap_cons, List.flatMap_nil, List.append_nil, List.append_assoc]
  rfl

/-! ### Expansions -/

/-- **Both records repeat the derives** of the item, of which `derives` is the list. -/
structure Expansion.RepeatsDerives (e : Expansion) (c : Config) (s : StructItem)
    (derives : List Path) : Prop where
  /-- A record has one derive attribute: serialization, and the repeated paths as written. -/
  tokens : ∀ r, ((e.record r).emit e.declaration c).trees =
    [.punct '#' false .callSite,
      .group .bracket .callSite .callSite [.ident (.plain "derive"),
        .group .paren .callSite .callSite ((serializePath c).trees ++
          (derives.filter Derives.isForwarded).flatMap
            fun p => .punct ',' false .callSite :: p.trees)]] ++
      (GroupRecord.crateAttribute c).trees ++
      structTrees (e.record r).name ((e.record r).fields.map GroupRecord.fieldCode)
  /-- The last name of a path decides whether it is repeated. -/
  chosen : ∀ p, Derives.isForwarded p ↔ ∃ before last, p.segments = before ++ [last] ∧
    last.ident.spelling ∈ ["Debug", "Clone", "Copy", "PartialEq", "Eq", "Hash", "PartialOrd", "Ord",
      "Default", "Deserialize"]
  /-- So no repeated path ends in the name for serialization. -/
  once : ∀ p ∈ derives.filter Derives.isForwarded, ∀ before last,
    p.segments = before ++ [last] → last.ident.spelling ≠ "Serialize"
  /-- The attributes of a record are read as derives of these paths. -/
  readBack : (∀ p ∈ serializePath c :: derives.filter Derives.isForwarded, p.StandsInList) →
    ∀ r, Derives.ofAttributes ((e.record r).code c e.declaration).attributes =
      .ok (serializePath c :: derives.filter Derives.isForwarded)
  /-- Other attributes on the item that list the same derives give the same records. -/
  onlyDerives : ∀ as, Derives.ofAttributes as = .ok derives →
    ∃ e', expansionOf c (.struct { s with attributes := as }) = .ok e' ∧
      ∀ r, ((e'.record r).emit e'.declaration c).trees =
        ((e.record r).emit e.declaration c).trees

namespace Declaration

/-- What a configuration asks of a declaration, it does not ask of its attributes. -/
theorem Acceptable.withAttributes {d : Declaration} {renames : Entry → Prop}
    (h : d.Acceptable renames c) (as : List Attribute) :
    Acceptable renames { d with attributes := as } c :=
  ⟨h.kind, h.names, h.markers, h.storage, h.constructor, h.methods, h.attributes, h.keys⟩

theorem ofStruct_withAttributes (t : MarkerTable) (as : List Attribute) (derives : List Path) :
    ofStruct t { s with attributes := as } derives =
      { ofStruct t s derives with attributes := as } := rfl

theorem repeatsDerives_expansion {derives : List Path}
    (ha : (ofStruct c.markers s derives).Acceptable (Entry.isRename ·) c) :
    (structExpansion s derives c).RepeatsDerives c s derives where
  tokens r := by
    rw [trees_record, trees_deriveAttribute]
    rfl
  chosen p := Derives.isForwarded_iff
  once p hp before last h := Derives.not_serialize (List.mem_filter.1 hp).2 h
  readBack h r := by
    have derive : Derives.ofAttributes
        [GroupRecord.deriveAttribute (serializePath c :: derives.filter Derives.isForwarded)] = _ :=
      Derives.ofAttributes_written (List.forall_mem_singleton.2 h)
    rw [List.flatten_singleton] at derive
    rw [← derive]
    rfl
  onlyDerives as has := by
    have accepted := ha.withAttributes as
    rw [← ofStruct_withAttributes] at accepted
    refine ⟨structExpansion { s with attributes := as } derives c, ?_, fun r => ?_⟩
    · have declared := ofItem_struct (t := c.markers) (s := { s with attributes := as }).2
        ⟨derives, has, rfl⟩
      exact Outcome.bind_eq_ok.2 ⟨_, Outcome.mapError_eq_ok.2 declared,
        Outcome.mapError_eq_ok.2 (expand_eq_ok.2 ⟨accepted, rfl⟩)⟩
    · have record : (structExpansion { s with attributes := as } derives c).record r =
          (structExpansion s derives c).record r := by
        rw [record_expansion, record_expansion]
        rfl
      rw [trees_record, trees_record, record]
      rfl

end Declaration

/-- **Derives are repeated** whenever an item is expanded, and they count as one list for any
attributes. -/
theorem repeatsDerives_expand {i : Item} {tokens : List TokenTree} (h : c.expand i = .ok tokens) :
    (∀ xs ys, Derives.OfFlattened xs ys) ∧ ∃ s derives e, i = .struct s ∧
      Derives.ofAttributes s.attributes = .ok derives ∧ expansionOf c i = .ok e ∧
      (e.emit c).trees = tokens ∧ e.RepeatsDerives c s derives := by
  obtain ⟨e, he, htokens⟩ := Config.expand_eq_ok.1 h
  obtain ⟨s, rfl⟩ := exists_struct_of_expansionOf he
  obtain ⟨derives, hs, hd⟩ := expansionOf_struct he
  obtain ⟨ha, rfl⟩ := Declaration.expand_eq_expansion hd
  exact ⟨Derives.ofFlattened, s, derives, _, rfl, hs, he, htokens,
    Declaration.repeatsDerives_expansion ha⟩

/-! ### A struct with derives of all kinds -/

/-- Derives in two attributes; one of them is for serialization, and one is not repeated. -/
def mixedDerives : List (List Path) :=
  [[.ofNames false ["Debug"], .ofNames true ["serde", "Serialize"]],
    [.ofNames false ["checks", "Validate"], .ofNames true ["core", "clone", "Clone"]]]

theorem standsInList_mixedDerives : ∀ ps ∈ mixedDerives, ∀ p ∈ ps, p.StandsInList := by
  unfold mixedDerives
  refine List.forall_mem_cons.2 ⟨?_, List.forall_mem_singleton.2 ?_⟩ <;>
    refine List.forall_mem_cons.2 ⟨?_, List.forall_mem_singleton.2 ?_⟩ <;>
    exact Path.standsInList_names (by decide) (by decide)

/-- A struct with these derives and documentation between them. -/
def derivingItem : StructItem := { mixedItem with
  attributes := mixedDerives.map GroupRecord.deriveAttribute ++ [wordAttribute "doc"] }

theorem isSome_expand_derivingItem :
    (Config.expand {} (.struct derivingItem)).toOption.isSome := by
  decide +kernel

theorem repeatsDerives_derivingItem : ∃ (tokens : List TokenTree) (e : Expansion),
    Config.expand {} (.struct derivingItem) = .ok tokens ∧ (e.emit {}).trees = tokens ∧
      e.RepeatsDerives {} derivingItem mixedDerives.flatten ∧
      (mixedDerives.flatten.filter Derives.isForwarded).map Path.text =
        ["Debug", "::core::clone::Clone"] := by
  cases h : Config.expand {} (.struct derivingItem) with
  | error f => exact absurd isSome_expand_derivingItem (by simp [h, Except.toOption])
  | ok tokens =>
    obtain ⟨-, s, derives, e, hs, hderives, -, htokens, he⟩ := repeatsDerives_expand h
    cases hs
    have listed : Derives.ofAttributes derivingItem.attributes = .ok mixedDerives.flatten :=
      ((Derives.ofFlattened _ _).append _ [] (Derives.ofAttributes_written
        standsInList_mixedDerives) rfl).trans (by rw [List.append_nil])
    cases hderives.symm.trans listed
    exact ⟨tokens, e, rfl, htokens, he, by decide⟩

end RequestGroups

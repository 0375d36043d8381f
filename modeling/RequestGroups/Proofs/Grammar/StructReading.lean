import RequestGroups.Proofs.Grammar.AttributeReading
import RequestGroups.Proofs.Grammar.PathWords

/-! # Printed structs are read back

A struct of fields in braces is read from its own tokens if its pieces are read back: its attributes
and visibility, and those of its fields with their types (`Item.read_braced`).

* `FieldItem.Legible` says that the pieces of a field are read back, where a type has to be read in
  front of a comma only;
* `Rules.typeRule_name`: a type that is a name is read there. -/

namespace RequestGroups.Grammar

open RequestGroups.Source Reader

/-! ### Fields -/

namespace Rules

/-- The type of a field, which may stand in place if the field has no name. -/
def fieldType (g : Nonterminals) (nested : Reader FieldItem) (nameless : Bool) : Reader Phrase :=
  if nameless then namelessType g nested else g.typePhrase

/-- A field is read back with the attributes that its attributes are read as. -/
theorem reads_namedFieldWith {g : Nonterminals} {nested : Reader FieldItem} {as bs : List Attribute}
    {v τ : Phrase} {name : Ident} {P : List TokenTree → Prop}
    (has : List.Forall₂ (fun a b => Reads (outerAttribute g) a.trees b fun _ => True) as bs)
    (hv : visibilityOf v.trees = .ok v) (hname : Look.namesField name)
    (hτ : Reads (fieldType g nested (name.spells "_")) τ.trees τ P) :
    Reads (namedFieldWith g nested) (FieldItem.phrase ⟨as, v, some name, τ⟩).trees
      ⟨bs, v, some name, τ⟩ P := by
  intro rest scope within hrest
  have trees : (FieldItem.phrase ⟨as, v, some name, τ⟩).trees ++ rest =
    as.flatMap Attribute.trees ++
      (v.trees ++ (.ident name :: .punct ':' false .callSite :: (τ.trees ++ rest))) := by
    rw [FieldItem.phrase, Phrase.trees_append, Phrase.trees_append, Phrase.trees_append,
      Attribute.trees_flatMap_fieldPhrase]
    simp only [List.append_assoc]
    rfl
  have noSign : Look.sign "#" (v.trees ++
      (.ident name :: .punct ':' false .callSite :: (τ.trees ++ rest))) = false :=
    noSign_visibility hv rfl
  have ends : EndsVisibility
      (.ident name :: .punct ':' false .callSite :: (τ.trees ++ rest)) :=
    ⟨Look.spells_keyword_of_namesField hname (by decide) (by decide), rfl⟩
  have colon : sign ":" ⟨.punct ':' false .callSite :: (τ.trees ++ rest), scope, within, none⟩ =
    .ok (Phrase.sign ":", ⟨τ.trees ++ rest, scope, within, none⟩) := rfl
  rw [trees, namedFieldWith, bind_eq (reads_outerAttributes has _ scope within noSign),
    bind_eq (reads_visibility hv _ scope within ends)]
  rcases hu : name.spells "_" with _ | _
  · have isName : Look.isName name := by
      rw [Look.namesField, hu, Bool.or_false] at hname
      exact hname
    rw [hu] at hτ
    rw [bind_eq (sees_eq (b := false) hu)]
    exact (bind_eq (ident_eq_ok isName) _).trans
      ((bind_eq colon _).trans (bind_eq (hτ rest scope within hrest) _))
  · have word : anyIdent ⟨.ident name :: .punct ':' false .callSite :: (τ.trees ++ rest), scope,
        within, none⟩ = .ok (name, ⟨.punct ':' false .callSite :: (τ.trees ++ rest), scope, within,
          none⟩) := rfl
    rw [hu] at hτ
    rw [bind_eq (sees_eq (b := true) hu)]
    exact (bind_eq word _).trans
      ((bind_eq colon _).trans (bind_eq (hτ rest scope within hrest) _))

/-! ### Lists of fields -/

/-- The comma that is printed between fields. -/
def comma : TokenTree := .punct ',' false .callSite

/-- Trees behind a field. -/
def StartsWithComma (ts : List TokenTree) : Prop := ∃ rest, ts = comma :: rest

/-- One step of the reader of fields. -/
def fieldStep (field : Reader FieldItem) (done : FieldList) : Reader (Option FieldList) := do
  if ← atEnd then return none
  let f ← field
  if ← atEnd then return some ⟨done.fields ++ [f], false⟩
  let _ ← sign ","
  return some ⟨done.fields ++ [f], true⟩

theorem fieldStep_some {field : Reader FieldItem} {done : FieldList} {ts rest : List TokenTree}
    {f : FieldItem} {scope : Span} {within : Option Delimiter}
    (h : Reads field ts f StartsWithComma) :
    fieldStep field done ⟨ts ++ comma :: rest, scope, within, none⟩ =
      .ok (some ⟨done.fields ++ [f], true⟩, ⟨rest, scope, within, none⟩) := by
  have more : List.isEmpty (ts ++ comma :: rest) = false := by simp
  have read := h (comma :: rest) scope within ⟨rest, rfl⟩
  have sep : sign "," ⟨comma :: rest, scope, within, none⟩ =
    .ok (Phrase.sign ",", ⟨rest, scope, within, none⟩) := rfl
  rw [fieldStep, atEnd, bind_eq (sees_eq (b := false) more)]
  exact (bind_eq read _).trans ((bind_eq (sees_eq (b := false) rfl) _).trans (bind_eq sep _))

/-- Fields with a comma behind each of them are read up to the end. -/
theorem reads_fieldList {field : Reader FieldItem} {fs gs : List FieldItem}
    (h : List.Forall₂ (fun f g => Reads field f.phrase.trees g StartsWithComma) fs gs)
    (scope : Span) (within : Option Delimiter) :
    fieldList field ⟨fs.flatMap fun f => f.phrase.trees ++ [comma], scope, within, none⟩ =
      .ok (⟨gs, !gs.isEmpty⟩, ⟨[], scope, within, none⟩) := by
  have from_done : ∀ done, iterate (fieldStep field) done
      ⟨fs.flatMap fun f => f.phrase.trees ++ [comma], scope, within, none⟩ =
        .ok (⟨done.fields ++ gs, if gs.isEmpty then done.trailing else true⟩,
          ⟨[], scope, within, none⟩) := by
    induction h with
    | nil =>
      intro done
      rw [List.append_nil]
      exact iterate_none rfl
    | @cons f g fs gs hf _ ih =>
      intro done
      have step : fieldStep field done ⟨f.phrase.trees ++ comma ::
          fs.flatMap (fun f => f.phrase.trees ++ [comma]), scope, within, none⟩ =
            .ok (some ⟨done.fields ++ [g], true⟩, ⟨fs.flatMap fun f => f.phrase.trees ++ [comma],
              scope, within, none⟩) := fieldStep_some hf
      rw [List.flatMap_cons, List.append_assoc, List.singleton_append, iterate_some step, ih,
        List.append_assoc]
      · cases gs <;> rfl
      · simp
        omega
  refine (from_done ⟨[], false⟩).trans ?_
  cases gs <;> rfl

end Rules

/-! ### Fields whose pieces are read back -/

namespace FieldItem

/-- The field without the places that no token of it has. -/
def placeless (f : FieldItem) : FieldItem :=
  { f with attributes := f.attributes.map Attribute.placeless }

/-- **The type of a field is read back** in front of a comma, by readers of any depth that is good
for it. -/
def TypeReadsBack (f : FieldItem) : Prop :=
  ∀ n m, 8 * (TokenTree.countOf f.type.trees + 2) ≤ n → TokenTree.countOf f.type.trees ≤ m →
    Reads (Rules.fieldType (level n) (Rules.namedField.go (level n) m)
      (f.name.any (·.spells "_"))) f.type.trees f.type Rules.StartsWithComma

/-- A field whose pieces are all read back. -/
structure Legible (f : FieldItem) : Prop where
  name : f.name.any Look.namesField
  visibility : visibilityOf f.visibility.trees = .ok f.visibility
  type : f.TypeReadsBack
  attributes : ∀ a ∈ f.attributes, a.ReadsBack

end FieldItem

/-- **A field whose pieces are read back** is read back. -/
theorem FieldItem.Legible.reads {f : FieldItem} (h : f.Legible) {n : Nat}
    (hn : 8 * (TokenTree.countOf f.phrase.trees + 2) ≤ n) :
    ∃ g : FieldItem, g.placeless = f.placeless ∧
      Reads (Rules.namedField (level n)) f.phrase.trees g Rules.StartsWithComma := by
  obtain ⟨as, v, _ | name, τ⟩ := f
  · exact absurd h.name nofun
  · have size : TokenTree.countOf (FieldItem.phrase ⟨as, v, some name, τ⟩).trees =
        TokenTree.countOf (as.flatMap Attribute.trees) + (TokenTree.countOf v.trees +
          (2 + TokenTree.countOf τ.trees)) := by
      rw [phrase, Phrase.trees_append, Phrase.trees_append, Phrase.trees_append,
        Attribute.trees_flatMap_fieldPhrase, TokenTree.countOf_append, TokenTree.countOf_append,
        TokenTree.countOf_append, Nat.add_assoc, Nat.add_assoc]
      rfl
    obtain ⟨bs, same, reads⟩ := reads_attributes h.attributes (n := n) (by dsimp only; omega)
    dsimp only at same reads
    refine ⟨⟨bs, v, some name, τ⟩, by simp [placeless, same], ?_⟩
    intro rest scope within hrest
    -- the depth of fields of types in place is the number of tokens to come
    have total :
        TokenTree.countOf ((FieldItem.phrase ⟨as, v, some name, τ⟩).trees ++ rest) ≠ 0 := by
      rw [TokenTree.countOf_append, size]
      omega
    obtain ⟨m, hm⟩ := Nat.exists_eq_succ_of_ne_zero total
    change Rules.namedField.go (level n) (TokenTree.countOf _) _ = _
    have deep : TokenTree.countOf τ.trees ≤ m := by
      rw [TokenTree.countOf_append, size] at hm
      omega
    have type := h.type n m (by dsimp only; omega) deep
    rw [hm]
    exact Rules.reads_namedFieldWith reads h.visibility h.name type rest scope within hrest

/-! ### Structs -/

/-- A struct of fields in braces, with a comma behind each of them. -/
def StructItem.braced (attributes : List Attribute) (visibility : Phrase) (name : Ident)
    (fields : List FieldItem) : StructItem :=
  ⟨attributes, visibility, name, [], none, .named ⟨fields, !fields.isEmpty⟩⟩

theorem intercalate_append_sep (sep : List α) : ∀ l : List (List α), l ≠ [] →
    sep.intercalate l ++ sep = l.flatMap (· ++ sep)
  | [], h => absurd rfl h
  | [a], _ => by simp
  | a :: b :: l, _ => by
    have rest := intercalate_append_sep sep (b :: l) (List.cons_ne_nil b l)
    simp only [List.flatMap_cons] at rest ⊢
    simp [← rest]

theorem trees_fieldList (fs : List FieldItem) : (FieldList.phrase ⟨fs, !fs.isEmpty⟩).trees =
    fs.flatMap fun f => f.phrase.trees ++ [Rules.comma] := by
  cases fs with
  | nil => rfl
  | cons f fs =>
    have sep : (Phrase.sign ",").trees = [Rules.comma] := rfl
    have phrase : FieldList.phrase ⟨f :: fs, !(f :: fs).isEmpty⟩ =
        List.intercalate (Phrase.sign ",") ((f :: fs).map FieldItem.phrase) ++ Phrase.sign "," :=
      rfl
    rw [phrase, Phrase.trees_append, Phrase.trees_intercalate, sep,
      intercalate_append_sep _ _ (by simp), List.map_map, List.flatMap_map]
    rfl

/-- Fields in braces as a token tree. -/
def bracesOf (fs : List FieldItem) : TokenTree :=
  .group .brace .callSite .callSite (fs.flatMap fun f => f.phrase.trees ++ [Rules.comma])

/-- What stands behind the attributes and the visibility of a struct. -/
def structTrees (name : Ident) (fs : List FieldItem) : List TokenTree :=
  [.ident (.plain "struct"), .ident name, bracesOf fs]

theorem trees_braced (as : List Attribute) (v : Phrase) (name : Ident) (fs : List FieldItem) :
    (StructItem.braced as v name fs).phrase.trees = as.flatMap Attribute.trees ++
      (v.trees ++ structTrees name fs) := by
  have phrase : (StructItem.braced as v name fs).phrase = Attribute.phraseOf as ++ v ++
      Phrase.word "struct" ++ Phrase.ident name ++ [] ++
        ([] ++ Phrase.group .brace (FieldList.phrase ⟨fs, !fs.isEmpty⟩)) := rfl
  simp only [phrase, Phrase.trees_append, Phrase.trees_group, Attribute.trees_phraseOf,
    trees_fieldList, List.append_assoc]
  rfl

namespace Rules

section Struct

variable {g : Nonterminals} {fs gs : List FieldItem} {bs : List Attribute} {v : Phrase}
  {name : Ident} {scope : Span} {within : Option Delimiter}

theorem structBody_eq
    (h : List.Forall₂ (fun f f' => Reads (namedField g) f.phrase.trees f' StartsWithComma) fs gs) :
    structBody g ⟨[bracesOf fs], scope, within, none⟩ =
      .ok ((none, .named ⟨gs, !gs.isEmpty⟩), ⟨[], scope, within, none⟩) := by
  have clause : whereClause? g ⟨[bracesOf fs], scope, within, none⟩ =
      .ok (none, ⟨[bracesOf fs], scope, within, none⟩) := by
    rw [whereClause?, bind_eq (word?_eq_none rfl)]
    rfl
  have fields : namedFields g ⟨[bracesOf fs], scope, within, none⟩ =
      .ok (⟨gs, !gs.isEmpty⟩, ⟨[], scope, within, none⟩) :=
    inGroup_eq_ok.2 ⟨_, _, _, _, _, rfl, reads_fieldList h _ _, rfl⟩
  rw [structBody, bind_eq clause, bind_eq (ahead_eq _)]
  exact bind_eq fields _

theorem structItem_eq (hv : visibilityOf v.trees = .ok v) (hname : Look.isName name)
    (h : List.Forall₂ (fun f f' => Reads (namedField g) f.phrase.trees f' StartsWithComma) fs gs) :
    structItem g bs ⟨v.trees ++ structTrees name fs, scope, within, none⟩ =
      .ok (.braced bs v name gs, ⟨[], scope, within, none⟩) := by
  have vis := reads_visibility hv (structTrees name fs) scope within ⟨rfl, rfl⟩
  have start : word "struct" ⟨structTrees name fs, scope, within, none⟩ =
    .ok (Phrase.word "struct", ⟨[.ident name, bracesOf fs], scope, within, none⟩) := rfl
  have parameters : genericParameters g ⟨[bracesOf fs], scope, within, none⟩ =
      .ok (⟨false, false, []⟩, ⟨[bracesOf fs], scope, within, none⟩) := by
    rw [genericParameters, bind_eq (sign?_eq_none rfl)]
    rfl
  rw [structItem, bind_eq vis, bind_eq start, bind_eq (ident_eq_ok hname), bind_eq parameters]
  exact bind_eq (structBody_eq h) _

theorem itemRule_eq {as : List Attribute}
    (has : List.Forall₂ (fun a b => Reads (outerAttribute g) a.trees b fun _ => True) as bs)
    (hv : visibilityOf v.trees = .ok v) (hname : Look.isName name)
    (h : List.Forall₂ (fun f f' => Reads (namedField g) f.phrase.trees f' StartsWithComma) fs gs) :
    itemRule g ⟨(StructItem.braced as v name fs).phrase.trees, scope, within, none⟩ =
      .ok (.struct (.braced bs v name gs), ⟨[], scope, within, none⟩) := by
  have attributes := reads_outerAttributes has (v.trees ++ structTrees name fs) scope within
    (noSign_visibility hv rfl)
  have vis := reads_visibility hv (structTrees name fs) scope within ⟨rfl, rfl⟩
  have ahead : lookAhead (do return (← visibility, ← ahead))
      ⟨v.trees ++ structTrees name fs, scope, within, none⟩ =
        .ok ((v, structTrees name fs), ⟨v.trees ++ structTrees name fs, scope, within, none⟩) := by
    rw [lookAhead, bind_eq vis]
    rfl
  have item : structItem g bs ⟨v.trees ++ structTrees name fs, scope, within, none⟩ =
    .ok (.braced bs v name gs, ⟨[], scope, within, none⟩) := structItem_eq hv hname h
  rw [trees_braced]
  refine orAsWritten_some ?_
  rw [bind_eq attributes, bind_eq ahead]
  exact bind_eq item _

end Struct

end Rules

/-- **A struct whose pieces are read back** is read back. -/
theorem Item.read_braced {as : List Attribute} {v : Phrase} {name : Ident} {fs : List FieldItem}
    (has : ∀ a ∈ as, a.ReadsBack) (hv : visibilityOf v.trees = .ok v) (hname : Look.isName name)
    (hfs : ∀ f ∈ fs, f.Legible) : ∃ (bs : List Attribute) (gs : List FieldItem),
      Item.read (StructItem.braced as v name fs).phrase.trees =
        .ok (.struct (.braced bs v name gs)) ∧
      bs.map Attribute.placeless = as.map Attribute.placeless ∧
      gs.map FieldItem.placeless = fs.map FieldItem.placeless := by
  have size := congrArg TokenTree.countOf (trees_braced as v name fs)
  have braces : TokenTree.countOf (structTrees name fs) =
      4 + TokenTree.countOf (fs.flatMap fun f => f.phrase.trees ++ [Rules.comma]) := by
    simp [TokenTree.countOf, TokenTree.count, structTrees, bracesOf]
    omega
  rw [TokenTree.countOf_append, TokenTree.countOf_append, braces] at size
  obtain ⟨bs, sameAttributes, attributes⟩ := reads_attributes has
    (n := 8 * (TokenTree.countOf (StructItem.braced as v name fs).phrase.trees + 2)) (by omega)
  have each : ∀ f ∈ fs, ∃ g : FieldItem, g.placeless = f.placeless ∧ Reads (Rules.namedField
      (grammar (StructItem.braced as v name fs).phrase.trees)) f.phrase.trees g
        Rules.StartsWithComma := by
    intro f hf
    have part := countOf_le_flatMap (g := fun f => f.phrase.trees ++ [Rules.comma]) hf
    rw [TokenTree.countOf_append] at part
    exact (hfs f hf).reads (by omega)
  obtain ⟨gs, hgs⟩ := exists_forall₂ each
  refine ⟨bs, gs, ?_, sameAttributes, forall₂_iff_map_eq.1 (hgs.imp fun _ _ hfg => hfg.1)⟩
  exact run_eq_ok.2 ⟨listInput .callSite [], Rules.itemRule_eq attributes hv hname
    (hgs.imp fun _ _ hfg => hfg.2), rfl, rfl⟩

/-! ### Types that are names -/

namespace Rules

section Name

variable {g : Nonterminals} {n : Ident} {rest : List TokenTree} {scope : Span}
  {within : Option Delimiter}

theorem path_name (h : Look.isName n) :
    path g false ⟨.ident n :: comma :: rest, scope, within, none⟩ =
      .ok (.ofIdent n, ⟨comma :: rest, scope, within, none⟩) := by
  have word : isPathWord n := by rw [isPathWord, h, Bool.true_or]
  have reads : Reads (path g false) (Path.ofWords false n []).trees (.ofWords false n []) EndsPath :=
    path_words word (List.forall_mem_nil _)
  exact reads (comma :: rest) scope within ⟨rfl, rfl⟩

theorem pathType_name (h : Look.isName n) :
    pathType g true [] ⟨.ident n :: comma :: rest, scope, within, none⟩ =
      .ok (⟨.path (.ofIdent n), Phrase.ident n⟩, ⟨comma :: rest, scope, within, none⟩) := by
  have qualified : qualifiedPath g false ⟨.ident n :: comma :: rest, scope, within, none⟩ =
      .ok ((some (.ofIdent n), Phrase.ident n), ⟨comma :: rest, scope, within, none⟩) := by
    rw [qualifiedPath, bind_eq (sees_eq (b := false) rfl)]
    exact bind_eq (path_name h) _
  rw [pathType, bind_eq qualified]
  rfl

/-- A name in front of a comma is a type. -/
theorem typeRule_name (h : Look.isName n) :
    typeRule g true ⟨.ident n :: comma :: rest, scope, within, none⟩ =
      .ok (⟨.path (.ofIdent n), Phrase.ident n⟩, ⟨comma :: rest, scope, within, none⟩) := by
  have binder : binder? g ⟨.ident n :: comma :: rest, scope, within, none⟩ =
      .ok ([], ⟨.ident n :: comma :: rest, scope, within, none⟩) := by
    rw [binder?, bind_eq (sees_eq (b := false) (Look.spells_keyword h (by decide)))]
    rfl
  have function : startsFunction (.ident n :: comma :: rest) = false := by
    have fn : n.spells "fn" = false := Look.spells_keyword h (by decide)
    have notSafe : n.spells "unsafe" = false := Look.spells_keyword h (by decide)
    have extern' : n.spells "extern" = false := Look.spells_keyword h (by decide)
    simp only [startsFunction, Look.word, fn, notSafe, extern', Bool.or_self]
  have ident : Look.ident (.ident n :: comma :: rest) = true := h
  rw [typeRule, bind_eq binder, bind_eq (ahead_eq _)]
  dsimp only
  rw [function, ident]
  exact pathType_name h

end Name

end Rules

theorem FieldItem.typeReadsBack_name {as : List Attribute} {v : Phrase} {name : Option Ident}
    {n : Ident} (h : Look.isName n) : TypeReadsBack ⟨as, v, name, Phrase.ident n⟩ := by
  intro k m hk _
  obtain ⟨k, rfl⟩ : ∃ l, k = l + 1 := ⟨k - 1, by omega⟩
  rintro _ scope within ⟨rest, rfl⟩
  have type : (level (k + 1)).typePhrase ⟨.ident n :: Rules.comma :: rest, scope, within, none⟩ =
      .ok (Phrase.ident n, ⟨Rules.comma :: rest, scope, within, none⟩) :=
    bind_eq (Rules.typeRule_name h) _
  have inPlace : (Look.word "struct" (.ident n :: Rules.comma :: rest) ||
      (Look.word "union" (.ident n :: Rules.comma :: rest) &&
        Look.group .brace (Look.skip (.ident n :: Rules.comma :: rest)))) = false := by
    have struct : Look.word "struct" (.ident n :: Rules.comma :: rest) = false :=
      Look.spells_keyword h (by decide)
    have braces : Look.group .brace (Look.skip (.ident n :: Rules.comma :: rest)) = false := rfl
    rw [struct, braces, Bool.and_false, Bool.or_false]
  dsimp only
  cases name.any (·.spells "_") with
  | false => exact type
  | true =>
    change Rules.namelessType _ _ _ = _
    rw [Rules.namelessType, bind_eq (sees_eq inPlace)]
    exact type

end RequestGroups.Grammar

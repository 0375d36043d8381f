import RequestGroups.Proofs.Expansion.Distinct
import RequestGroups.Proofs.Expansion.Output

/-! # The output in its order

The output consists of what its generators give, one after the other: the records, the struct, one
implementation with all methods, and the implementation of the trait. `Expansion.EmitsInOrder` is
the output as tokens, with the methods in full, and `emitsInOrder_expand` shows it. -/

namespace RequestGroups

open Source Grammar
open TokenTree (word within)

variable {d : Declaration} {c : Config} {e : Expansion}

namespace Expansion

/-- The methods that read the annotated fields, in the order of the declaration. -/
def accessorMethods (e : Expansion) (d : Declaration) (c : Config) : List Method :=
  d.fields.filterMap fun f =>
    (f.role? c.markers).map fun r => (Accessor.ofField (f.classified c.markers r)).method e

/-- **The output in its order**, as tokens. -/
structure EmitsInOrder (e : Expansion) (d : Declaration) (c : Config) : Prop where
  /-- The records, the struct, one implementation with all methods, and the trait. -/
  tokens : (e.emit c).trees =
    (e.headerRecord.emit d c).trees ++ (e.bodyRecord.emit d c).trees ++ e.emitStruct.trees ++
      [.punct '#' false .callSite,
        .group .bracket .callSite .callSite [.ident (.plain "allow"),
          .group .paren .callSite .callSite [.ident (.plain "dead_code")]],
        .ident (.plain "impl"), .ident d.name,
        .group .brace .callSite .callSite
          ((e.accessorMethods d c).flatMap (·.phrase.trees) ++
            (e.headersConversion.method e c).phrase.trees ++
            (e.bodyConversion.method e c).phrase.trees ++ e.constructorMethod.phrase.trees)] ++
      (e.emitTrait c).trees
  /-- The methods in full. -/
  methods : (e.accessorMethods d c ++ [e.headersConversion.method e c,
      e.bodyConversion.method e c, e.constructorMethod]).map (·.phrase.trees) =
    (e.methodTokens c).map MethodTokens.trees
  /-- The trait has those that may fail. -/
  trait : (e.emitTrait c).trees = [word "impl"] ++ (c.runtimePath ["RequestModel"]).trees ++
    [word "for", .ident d.name,
      within .brace ((e.traitTokens c).flatMap MethodTokens.trees)]
  /-- Each annotated field has one accessor, of its name. -/
  accessors : (e.accessorMethods d c).map (·.name) = (d.annotatedFields c).map (·.name)
  /-- No two methods are one and the same. -/
  once : Apart ((e.accessorMethods d c ++ [e.headersConversion.method e c,
    e.bodyConversion.method e c, e.constructorMethod]).map (·.name))

end Expansion

theorem Declaration.methods_expansion (names : (d.fields.map (·.name.name)).Nodup) :
    (d.expansion c).methods c = (d.expansion c).accessorMethods d c ++
      [(d.expansion c).headersConversion.method (d.expansion c) c,
        (d.expansion c).bodyConversion.method (d.expansion c) c,
        (d.expansion c).constructorMethod] := by
  rw [Expansion.methods, accessors_expansion names, List.map_filterMap]
  simp only [Option.map_map]
  rfl

/-- **Everything is emitted once and in order** for every declaration that is expanded. -/
theorem Declaration.emitsInOrder_expand (h : d.expand c = .ok e) : e.EmitsInOrder d c := by
  obtain ⟨ha, rfl⟩ := expand_eq_expansion h
  have methods := methods_expansion (c := c) ha.names
  constructor
  case tokens =>
    have declaration : (d.expansion c).declaration = d := rfl
    rw [Expansion.emit, Expansion.emitParts_eq, methods]
    simp [Expansion.trees_implementation, Phrase.trees_flatMap, declaration]
  case methods =>
    rw [← methods, ← Expansion.tokens_methods, List.map_map]
    exact List.map_congr_left fun m _ => m.trees_phrase
  case trait => exact Expansion.trees_emitTrait _ c
  case accessors =>
    rw [Expansion.accessorMethods, List.map_filterMap]
    refine filterMap_eq_map_filter fun f _ => ?_
    cases f.role? c.markers <;> rfl
  case once =>
    rw [← methods]
    exact apart_methods ha

/-- A struct without any field, so without any accessor. -/
def bareStruct : Declaration := { mixedStruct with fields := [] }

/-- The order is that of a struct with fields of all kinds, and of one without fields. -/
theorem emitsInOrder_mixedStruct :
    (∃ e, mixedStruct.expand {} = .ok e ∧ e.EmitsInOrder mixedStruct {}) ∧
      ∃ e, bareStruct.expand {} = .ok e ∧ e.EmitsInOrder bareStruct {} := by
  have bare : bareStruct.expand {} = .ok (bareStruct.expansion {}) := rfl
  exact ⟨⟨_, expand_mixedStruct, Declaration.emitsInOrder_expand expand_mixedStruct⟩,
    _, bare, Declaration.emitsInOrder_expand bare⟩

end RequestGroups

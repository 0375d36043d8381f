import RequestGroups.Proofs.Expansion.Distinct

/-! # Calls of conversions as methods

The trait has four conversions: for each group one that may fail and one that gives an empty
dictionary instead. A call by method syntax finds a method of the struct itself before one of the
trait, so a method of the struct with the name of a conversion hides the conversion, unless it
forwards to it.

* `Expansion.ReachesTrait`: a call by method syntax runs the conversion of the trait;
* `reaches_conversionName`: the names of the conversions that do not fail are never taken;
* `reaches_fallibleName`: an annotated field may take the name of a conversion that may fail, and
  nothing else does;
* `methodCalls_expand` collects these facts, and `hides_hidingStruct` is a conversion that is
  hidden. -/

namespace RequestGroups

open Source Grammar

variable {c : Config} {d : Declaration} {e : Expansion}

/-! ### Methods that take the struct -/

/-- The names of the conversions of the trait. -/
def traitNames : List String := Role.all.map fallibleName ++ Role.all.map conversionName

theorem fallibleName_mem_traitNames (r : Role) : fallibleName r ∈ traitNames := by
  cases r <;> decide

theorem mem_traitNames {name : String} (h : name ∈ traitNames) :
    ∃ r, name = fallibleName r ∨ name = conversionName r := by
  rcases List.mem_append.1 h with h | h
  · obtain ⟨r, -, rfl⟩ := List.mem_map.1 h
    exact ⟨r, Or.inl rfl⟩
  · obtain ⟨r, -, rfl⟩ := List.mem_map.1 h
    exact ⟨r, Or.inr rfl⟩

theorem fallibleName_ne_conversionName (r s : Role) : fallibleName r ≠ conversionName s := by
  cases r <;> cases s <;> decide

/-- A call of the method of the trait for the struct itself. -/
def forwardPhrase (c : Config) (name : String) : Phrase :=
  callPhrase (Phrase.sign "<" ++ Phrase.word "Self" ++ Phrase.word "as" ++
    c.runtimeName ["RequestModel"] ++ Phrase.sign ">" ++ Phrase.sign "::" ++ Phrase.word name)
    (Phrase.word "self")

namespace Expansion

/-- The methods that can be called by method syntax, which the constructor cannot. -/
def receiving (e : Expansion) (c : Config) : List Method :=
  e.accessors.map (·.method e) ++ [e.headersConversion.method e c, e.bodyConversion.method e c]

/-- The method of the struct that a call by method syntax finds, where all methods are visible. -/
def ownMethod? (e : Expansion) (c : Config) (name : String) : Option Method :=
  (e.receiving c).find? (·.name.name == name)

/-- A call by method syntax runs the conversion of the trait with this name: the struct has no such
method, or the one that it has forwards to the trait. -/
def ReachesTrait (e : Expansion) (c : Config) (name : String) : Prop :=
  ∀ m ∈ e.ownMethod? c name, m.body = forwardPhrase c name

theorem methods_eq (e : Expansion) (c : Config) :
    e.methods c = e.receiving c ++ [e.constructorMethod] := by
  rw [methods, receiving, List.append_assoc]
  rfl

theorem inputs_of_mem_receiving {m : Method} (h : m ∈ e.receiving c) :
    m.inputs = receiverPhrase := by
  rcases List.mem_append.1 h with h | h
  · obtain ⟨a, -, rfl⟩ := List.mem_map.1 h
    rfl
  · rcases List.mem_pair.1 h with rfl | rfl <;> rfl

/-- An accessor reads a member of a group, whatever its name is. -/
theorem body_accessor_ne (a : Accessor) (name : String) :
    (a.method e).body ≠ forwardPhrase c name := nofun

end Expansion

namespace Declaration

theorem receiving_expansion : (d.expansion c).receiving c =
    (d.expansion c).accessors.map (·.method (d.expansion c)) ++
      Role.all.map fun r => (Conversion.ofRole r).method (d.expansion c) c := rfl

theorem body_conversion (r : Role) : ((Conversion.ofRole r).method e c).body =
    forwardPhrase c (conversionName r) := rfl

/-- A method that takes the struct is the accessor of an annotated field or a conversion. -/
theorem mem_receiving {m : Method} (h : (d.fields.map (·.name.name)).Nodup)
    (hm : m ∈ (d.expansion c).receiving c) :
    (∃ a ∈ (d.expansion c).accessors, m = a.method (d.expansion c) ∧
      ∃ f ∈ d.annotatedFields c, m.name = f.name) ∨
        ∃ r, m = (Conversion.ofRole r).method (d.expansion c) c := by
  rw [receiving_expansion] at hm
  rcases List.mem_append.1 hm with hm | hm
  · obtain ⟨a, ha, rfl⟩ := List.mem_map.1 hm
    have name : a.name ∈ (d.annotatedFields c).map (·.name) := by
      rw [← names_accessors h]
      exact List.mem_map_of_mem ha
    obtain ⟨f, hf, hname⟩ := List.mem_map.1 name
    exact Or.inl ⟨a, ha, rfl, f, hf, hname.symm⟩
  · obtain ⟨r, -, rfl⟩ := List.mem_map.1 hm
    exact Or.inr ⟨r, rfl⟩

/-! ### What a call finds -/

theorem ownMethod?_eq_some {name : String} {m : Method} (h : m ∈ e.ownMethod? c name) :
    m ∈ e.receiving c ∧ m.name.name = name :=
  ⟨List.mem_of_find?_eq_some h, by simpa using List.find?_some h⟩

/-- **The conversions that do not fail** are never hidden: the struct has methods of their names,
which forward to the trait. -/
theorem reaches_conversionName {renames : Entry → Prop} (h : d.Acceptable renames c) (r : Role) :
    (d.expansion c).ReachesTrait c (conversionName r) := by
  intro m hm
  obtain ⟨hmem, hname⟩ := ownMethod?_eq_some hm
  rcases mem_receiving h.names hmem with ⟨a, -, -, f, hf, hfield⟩ | ⟨s, rfl⟩
  · obtain ⟨hf, hann⟩ := mem_annotatedFields.1 hf
    rw [hfield] at hname
    exact absurd hname ((h.methods f hf hann).2 r)
  · rw [body_conversion, ← hname]
    rfl

/-- **The conversions that may fail** are hidden by annotated fields of their names. -/
theorem reaches_fallibleName (h : (d.fields.map (·.name.name)).Nodup) (r : Role) :
    (d.expansion c).ReachesTrait c (fallibleName r) ↔
      ∀ f ∈ d.annotatedFields c, f.name.name ≠ fallibleName r := by
  constructor
  · intro hreach f hf hname
    have accessor : f.name ∈ (d.expansion c).accessors.map (·.name) := by
      rw [names_accessors h]
      exact List.mem_map_of_mem hf
    obtain ⟨a, ha, hfield⟩ := List.mem_map.1 accessor
    have found : ((d.expansion c).ownMethod? c (fallibleName r)).isSome := by
      rw [Expansion.ownMethod?, List.find?_isSome]
      refine ⟨a.method _, List.mem_append_left _ (List.mem_map_of_mem ha), ?_⟩
      rw [beq_iff_eq, ← hname, ← hfield]
      rfl
    obtain ⟨m, hm⟩ := Option.isSome_iff_exists.1 found
    obtain ⟨hmem, hmname⟩ := ownMethod?_eq_some hm
    rcases mem_receiving h hmem with ⟨b, -, rfl, -⟩ | ⟨s, rfl⟩
    · exact Expansion.body_accessor_ne b _ (hreach _ hm)
    · exact fallibleName_ne_conversionName r s hmname.symm
  · intro hfree m hm
    obtain ⟨hmem, hname⟩ := ownMethod?_eq_some hm
    rcases mem_receiving h hmem with ⟨a, -, -, f, hf, hfield⟩ | ⟨s, rfl⟩
    · rw [hfield] at hname
      exact absurd hname (hfree f hf)
    · exact absurd hname.symm (fallibleName_ne_conversionName r s)

end Declaration

/-! ### Whole expansions -/

/-- **Calls of the conversions** of the trait on the struct of an expansion. -/
structure Expansion.MethodCalls (e : Expansion) (d : Declaration) (c : Config) : Prop where
  /-- The methods of the struct are those that take the struct, and the constructor. -/
  methods : e.methods c = e.receiving c ++ [e.constructorMethod] ∧
    ∀ m ∈ e.receiving c, m.inputs = receiverPhrase
  /-- The trait is implemented by the conversions that may fail. -/
  implemented : (e.traitMethods c).map (·.name) = Role.all.map fun r => .plain (fallibleName r)
  /-- No accessor and no constructor has the name of a conversion that does not fail. -/
  conversions : ∀ r, (∀ a ∈ e.accessors, a.name.name ≠ conversionName r) ∧
    e.constructor.name.name ≠ conversionName r
  /-- So calls of these conversions reach the trait. -/
  reachConversions : ∀ r, e.ReachesTrait c (conversionName r)
  /-- Calls of a conversion that may fail do so if no annotated field has its name. -/
  reachFallible : ∀ r, e.ReachesTrait c (fallibleName r) ↔
    ∀ f ∈ d.annotatedFields c, f.name.name ≠ fallibleName r
  /-- No accessor and no constructor has the name of any conversion of the trait if no annotated
  field and no given constructor has the name of one that may fail. -/
  free : (∀ name ∈ traitNames, (∀ a ∈ e.accessors, a.name.name ≠ name) ∧
      e.constructor.name.name ≠ name) ↔
    ∀ r, (∀ f ∈ d.annotatedFields c, f.name.name ≠ fallibleName r) ∧
      c.constructor.name ≠ fallibleName r

namespace Declaration

/-- The names of the accessors are those of the annotated fields. -/
theorem forall_accessors (h : (d.fields.map (·.name.name)).Nodup) {P : Ident → Prop} :
    (∀ a ∈ (d.expansion c).accessors, P a.name) ↔ ∀ f ∈ d.annotatedFields c, P f.name := by
  have names := names_accessors (c := c) h
  rw [← List.forall_mem_map, names, List.forall_mem_map]

theorem names_ne_conversionName {renames : Entry → Prop} (h : d.Acceptable renames c) (r : Role) :
    (∀ a ∈ (d.expansion c).accessors, a.name.name ≠ conversionName r) ∧
      (d.expansion c).constructor.name.name ≠ conversionName r := by
  refine ⟨(forall_accessors h.names (P := (·.name ≠ conversionName r))).2 fun f hf => ?_,
    h.constructor r⟩
  obtain ⟨hf, hann⟩ := mem_annotatedFields.1 hf
  exact (h.methods f hf hann).2 r

/-- **Calls of conversions** reach the trait, up to those that may fail where an annotated field has
their name. -/
theorem methodCalls_expand (h : d.expand c = .ok e) : e.MethodCalls d c := by
  obtain ⟨ha, rfl⟩ := expand_eq_expansion h
  have conversions := names_ne_conversionName ha
  constructor
  case methods => exact ⟨Expansion.methods_eq _ c, fun m hm => Expansion.inputs_of_mem_receiving hm⟩
  case implemented => rfl
  case conversions => exact conversions
  case reachConversions => exact reaches_conversionName ha
  case reachFallible => exact reaches_fallibleName ha.names
  case free =>
    constructor
    · intro hfree r
      obtain ⟨accessors, constructor⟩ := hfree _ (fallibleName_mem_traitNames r)
      exact ⟨(forall_accessors ha.names (P := (·.name ≠ fallibleName r))).1 accessors, constructor⟩
    · intro hfree name hname
      obtain ⟨r, rfl | rfl⟩ := mem_traitNames hname
      · obtain ⟨fields, constructor⟩ := hfree r
        exact ⟨(forall_accessors ha.names (P := (·.name ≠ fallibleName r))).2 fields, constructor⟩
      · exact conversions r

theorem methodCalls_mixedStruct : ∃ e, mixedStruct.expand {} = .ok e ∧
    e.MethodCalls mixedStruct {} ∧ ∀ name ∈ traitNames, e.ReachesTrait {} name := by
  have calls := methodCalls_expand expand_mixedStruct
  refine ⟨_, expand_mixedStruct, calls, fun name hname => ?_⟩
  obtain ⟨r, rfl | rfl⟩ := mem_traitNames hname
  · refine (calls.reachFallible r).2 ?_
    cases r <;> decide
  · exact calls.reachConversions r

end Declaration

/-! ### A conversion that is hidden -/

/-- A struct with one header, which has the name of the conversion of headers that may fail. -/
def hidingStruct : Declaration where
  name := .plain "S"
  visibility := []
  kind := .struct
  attributes := []
  derives := []
  fields := [⟨.plain "try_headers_dictionary", Phrase.word "String", [],
    [⟨.plain "header", .none⟩], []⟩]

theorem isSome_expand_hidingStruct : (hidingStruct.expand {}).toOption.isSome := by
  decide +kernel

theorem expand_hidingStruct : hidingStruct.expand {} = .ok (hidingStruct.expansion {}) := by
  rcases h : hidingStruct.expand {} with problem | e
  · exact absurd isSome_expand_hidingStruct (by simp [h, Except.toOption])
  · rw [(Declaration.expand_eq_expansion h).2]

/-- **A conversion is hidden** by the accessor of a header, although the struct is expanded. -/
theorem hides_hidingStruct : ∃ e, hidingStruct.expand {} = .ok e ∧
    (∃ a ∈ e.accessors, a.name.name ∈ traitNames) ∧ ¬ e.ReachesTrait {} (fallibleName .header) := by
  obtain ⟨accepted, -⟩ := Declaration.expand_eq_expansion expand_hidingStruct
  refine ⟨_, expand_hidingStruct, ?_, fun hreach => ?_⟩
  · by_contra none
    have free : ∀ f ∈ hidingStruct.annotatedFields {}, f.name.name ∉ traitNames :=
      (Declaration.forall_accessors accepted.names (P := (·.name ∉ traitNames))).1 fun a ha hmem =>
        none ⟨a, ha, hmem⟩
    exact absurd free (by decide)
  · exact absurd ((Declaration.reaches_fallibleName accepted.names .header).1 hreach) (by decide)

end RequestGroups

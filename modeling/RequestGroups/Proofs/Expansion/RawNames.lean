import RequestGroups.Proofs.Expansion.Partitioning
import RequestGroups.Proofs.Expansion.Shape

/-! # The mark of raw identifiers

Two declarations with one `unraw` form differ only in which of their field names are written with
the mark of raw identifiers, and where the names stand; the same holds for two configurations and
the names of the constructor and of the storage fields. Such declarations are expanded alike
(`expand_unraw`): both are refused for the same reason or both have expansions that mean the same,
and in each expansion all names are spelled as its own declaration spells them.

* `Partition.split_unraw`: the split commutes with taking the marks away;
* `problemId?_unraw`: each check gives the same answer with and without the marks, up to the names
  in it;
* `Expansion.MeansSame` is what two expansions have in common, `Expansion.KeepsSpelling` how each of
  them spells its names. -/

namespace RequestGroups

open Source Grammar

/-! ### Names without marks -/

/-- The identifier without the mark of raw identifiers, wherever it stands. -/
def Source.Ident.unraw (i : Ident) : Ident := .plain i.name

/-- The field with its name unmarked. -/
def Field.unraw (f : Field) : Field := { f with name := f.name.unraw }

/-- The declaration with the names of all fields unmarked. -/
def Declaration.unraw (d : Declaration) : Declaration :=
  { d with fields := d.fields.map Field.unraw }

/-- The configuration with the names of the constructor and of the storage fields unmarked. -/
def Config.unraw (c : Config) : Config :=
  { c with
    constructor := c.constructor.unraw
    headersStorage := c.headersStorage.unraw
    bodyStorage := c.bodyStorage.unraw }

/-- The member of a group with its name unmarked. -/
def ClassifiedField.unraw (m : ClassifiedField) : ClassifiedField :=
  { m with field := m.field.unraw }

/-- The partition with the names of all fields unmarked. -/
def Partition.unraw (p : Partition) : Partition where
  headers := p.headers.map ClassifiedField.unraw
  body := p.body.map ClassifiedField.unraw
  plain := p.plain.map Field.unraw

@[simp] theorem Source.Ident.name_unraw (i : Ident) : i.unraw.name = i.name := rfl

@[simp] theorem Field.name_unraw (f : Field) : f.unraw.name.name = f.name.name := rfl

@[simp] theorem Config.name_storage_unraw (c : Config) (r : Role) :
    (c.unraw.storage r).name = (c.storage r).name := by
  cases r <;> rfl

@[simp] theorem ClassifiedField.key_unraw (m : ClassifiedField) : m.unraw.key = m.key := rfl

theorem Partition.fields_unraw (p : Partition) (r : Role) :
    p.unraw.fields r = (p.fields r).map ClassifiedField.unraw := by
  cases r <;> rfl

theorem Partition.annotated_unraw (p : Partition) :
    p.unraw.annotated = p.annotated.map ClassifiedField.unraw :=
  List.map_append.symm

theorem Partition.split_unraw (t : MarkerTable) (fs : List Field) :
    split t (fs.map Field.unraw) = (split t fs).unraw := by
  have sorted : ∀ role : Option Role, (fs.map Field.unraw).filter (·.role? t = role) =
      (fs.filter (·.role? t = role)).map Field.unraw := fun role => List.filter_map
  unfold split group plainOf
  rw [sorted, sorted, sorted]
  simp only [unraw, List.map_map]
  rfl

/-! ### Problems without names -/

/-- The identifier of a problem, if there is one. -/
def idOf (x : Option Diagnostic) : Option String := x.map (·.problem.id)

theorem idOf_orElse (x y : Option Diagnostic) : idOf (x <|> y) = (idOf x <|> idOf y) :=
  map_orElse ..

theorem idOf_findSome? (f : α → Option Diagnostic) (l : List α) :
    idOf (l.findSome? f) = l.findSome? fun a => idOf (f a) :=
  List.map_findSome?

/-! ### The checks -/

theorem Declaration.idOf_violation?_unraw (d : Declaration) :
    idOf d.unraw.violation? = idOf d.violation? := by
  have kind : d.unraw.kind = d.kind := rfl
  unfold violation?
  rw [kind]
  split
  · rfl
  · rw [idOf, idOf, Option.map_map, Option.map_map]
    exact (congrArg _ (firstRepeat_map Field.name_unraw [] d.fields)).trans (Option.map_map ..)

/-- The problem for which the fields of a declaration are not sorted. -/
def Declaration.partitionProblem? (d : Declaration) (t : MarkerTable) : Option Diagnostic :=
  match d.partition t with
  | .ok _ => none
  | .error x => some x

theorem Declaration.idOf_partitionProblem? (d : Declaration) (t : MarkerTable) :
    idOf (d.partitionProblem? t) =
      if ∀ f ∈ d.fields, (f.registered t).length ≤ 1 then none
      else some "conflicting-field-role" := by
  unfold partitionProblem?
  rcases h : d.partition t with x | p
  · obtain ⟨f, hf, placed⟩ := Partition.ofFields_eq_error.1 h
    obtain ⟨m, n, rest, -, rfl⟩ := Partition.place_eq_error_iff.1 placed
    rw [if_neg]
    · rfl
    · intro few
      have two := hf.holds
      rw [← Field.length_registered] at two
      have := few f hf.mem
      omega
  · rw [if_pos (Partition.ofFields_eq_ok.1 h).1]
    rfl

theorem Declaration.idOf_partitionProblem?_unraw (d : Declaration) (t : MarkerTable) :
    idOf (d.unraw.partitionProblem? t) = idOf (d.partitionProblem? t) := by
  rw [idOf_partitionProblem?, idOf_partitionProblem?]
  exact if_congr List.forall_mem_map rfl rfl

theorem idOf_storageClash?_unraw (c : Config) (f : Field) :
    idOf (storageClash? c.unraw f.unraw) = idOf (storageClash? c f) := by
  unfold storageClash?
  simp only [Config.name_storage_unraw, Field.name_unraw]
  split <;> rfl

theorem idOf_constructorClash?_unraw (c : Config) :
    idOf (constructorClash? c.unraw) = idOf (constructorClash? c) := by
  have name : c.unraw.constructor.name = c.constructor.name := rfl
  unfold constructorClash?
  rw [name]
  split <;> rfl

theorem idOf_methodClash?_unraw (c : Config) (m : ClassifiedField) :
    idOf (methodClash? c.unraw m.unraw) = idOf (methodClash? c m) := by
  have purpose : generatedFor? c.unraw m.unraw.field.name.name =
      generatedFor? c m.field.name.name := rfl
  unfold methodClash?
  rw [purpose]
  rcases generatedFor? c m.field.name.name with _ | _ <;> rfl

theorem idOf_renameClash?_unraw (m : ClassifiedField) :
    idOf (renameClash? m.unraw) = idOf (renameClash? m) := by
  have attributes : m.unraw.field.attributes = m.field.attributes := rfl
  unfold renameClash?
  rw [attributes]
  rcases m.field.attributes.findSome? renameEntry? with _ | _ <;> rfl

theorem idOf_keyClash?_unraw (p : Partition) (r : Role) :
    idOf (keyClash? p.unraw r) = idOf (keyClash? p r) := by
  have repeats := firstRepeat_map ClassifiedField.key_unraw [] (p.fields r)
  unfold keyClash?
  rw [Partition.fields_unraw, idOf, idOf, Option.map_map, Option.map_map]
  exact (congrArg _ repeats).trans (Option.map_map ..)

theorem Partition.idOf_violation?_unraw (p : Partition) (d : Declaration) (c : Config) :
    idOf (p.unraw.violation? d.unraw c.unraw) = idOf (p.violation? d c) := by
  unfold violation?
  simp only [idOf_orElse, idOf_findSome?, annotated_unraw, Declaration.unraw, List.findSome?_map,
    Function.comp_def, idOf_storageClash?_unraw, idOf_constructorClash?_unraw,
    idOf_methodClash?_unraw, idOf_renameClash?_unraw, idOf_keyClash?_unraw]

/-- The identifier of the problem for which a declaration is refused. -/
def Declaration.problemId? (d : Declaration) (c : Config) : Option String :=
  match d.expand c with
  | .ok _ => none
  | .error x => some x.problem.id

theorem Declaration.problemId?_eq (d : Declaration) (c : Config) : d.problemId? c =
    (idOf d.violation? <|> idOf (d.partitionProblem? c.markers) <|>
      idOf ((Partition.split c.markers d.fields).violation? d c)) := by
  unfold problemId? expand partitionProblem?
  rcases d.violation? with _ | x
  · rcases h : d.partition c.markers with x | p
    · rfl
    · obtain ⟨-, rfl⟩ := Partition.ofFields_eq_ok.1 h
      rcases hv : (Partition.split c.markers d.fields).violation? d c with _ | x
      · simp [refuse, bind, Except.bind, hv, idOf, pure, Except.pure]
      · simp [refuse, bind, Except.bind, hv, idOf]
  · rfl

/-- **A declaration is refused for the same reason** with and without the marks, or for none. -/
theorem Declaration.problemId?_unraw (d : Declaration) (c : Config) :
    d.unraw.problemId? c.unraw = d.problemId? c := by
  have markers : c.unraw.markers = c.markers := rfl
  have split :
      Partition.split c.markers d.unraw.fields = (Partition.split c.markers d.fields).unraw :=
    Partition.split_unraw c.markers d.fields
  rw [problemId?_eq, problemId?_eq, markers, split, idOf_violation?_unraw,
    idOf_partitionProblem?_unraw, Partition.idOf_violation?_unraw]

/-! ### The expansions -/

/-- **What expansions have in common** that mean the same. -/
structure Expansion.MeansSame (e e' : Expansion) : Prop where
  keys : ∀ r, (e.record r).fields.map (·.key) = (e'.record r).fields.map (·.key)
  typeNames : ∀ r, (e.record r).name = (e'.record r).name
  owners : e.accessors.map (·.owner) = e'.accessors.map (·.owner)
  arity : e.constructor.arity = e'.constructor.arity
  headerParameters : e.constructor.headerParameters.map (·.name.name) =
    e'.constructor.headerParameters.map (·.name.name)
  bodyParameters : e.constructor.bodyParameters.map (·.name.name) =
    e'.constructor.bodyParameters.map (·.name.name)

/-- **Every name is spelled as its declaration spells it**, or as the configuration does. -/
structure Expansion.KeepsSpelling (e : Expansion) (d : Declaration) (c : Config) : Prop where
  records : ∀ r, (e.record r).fields.map (·.name) = (d.members c r).map (·.name)
  accessors : e.accessors.map (·.name) =
    (d.fields.filter fun f => (f.role? c.markers).isSome).map (·.name)
  headerParameters : e.constructor.headerParameters.map (·.name) =
    (d.members c .header).map (·.name)
  bodyParameters : e.constructor.bodyParameters.map (·.name) = (d.members c .body).map (·.name)
  plainFields : e.plainFields = d.plainFields c
  defaulted : e.constructor.defaulted = (d.plainFields c).map (·.name)
  constructor : e.constructor.name = c.constructor
  storage : ∀ r, e.storage.fieldOf r = c.storage r

namespace Declaration

variable {d d' : Declaration} {c c' : Config}

theorem members_unraw (r : Role) : d.unraw.members c.unraw r = (d.members c r).map Field.unraw :=
  List.filter_map

theorem map_members {f : Field → β} (hf : ∀ g, f g.unraw = f g) (hd : d.unraw = d'.unraw)
    (hc : c.unraw = c'.unraw) (r : Role) : (d.members c r).map f = (d'.members c' r).map f := by
  have same : (d.members c r).map Field.unraw = (d'.members c' r).map Field.unraw := by
    rw [← members_unraw, ← members_unraw, hd, hc]
  have through : ∀ l : List Field, (l.map Field.unraw).map f = l.map f := by
    intro l
    rw [List.map_map]
    exact List.map_congr_left fun g _ => hf g
  rw [← through, same, through]

theorem map_accessors_expansion (h : (d.fields.map (·.name.name)).Nodup) {f : Accessor → β}
    {g : Field → β} (hf : ∀ a r, f (.ofField (a.classified c.markers r)) = g a) :
    (d.expansion c).accessors.map f =
      (d.fields.filter fun f => (f.role? c.markers).isSome).map g := by
  rw [accessors_expansion h, List.map_filterMap]
  refine filterMap_eq_map_filter fun a _ => ?_
  rcases a.role? c.markers with _ | r
  · rfl
  · exact congrArg some (hf a r)

theorem headerParameters_expansion : (d.expansion c).constructor.headerParameters =
    (d.members c .header).map Field.parameter := by
  simp only [expansion, expansionOf, Constructor.ofPartition, Constructor.parametersOf,
    Partition.split, List.map_map]
  rfl

theorem bodyParameters_expansion : (d.expansion c).constructor.bodyParameters =
    (d.members c .body).map Field.parameter := by
  simp only [expansion, expansionOf, Constructor.ofPartition, Constructor.parametersOf,
    Partition.split, List.map_map]
  rfl

theorem keepsSpelling_expansion (h : (d.fields.map (·.name.name)).Nodup) :
    (d.expansion c).KeepsSpelling d c where
  records r := by
    rw [record_expansion, List.map_map]
    rfl
  accessors := map_accessors_expansion h fun _ _ => rfl
  headerParameters := by
    rw [headerParameters_expansion, List.map_map]
    rfl
  bodyParameters := by
    rw [bodyParameters_expansion, List.map_map]
    rfl
  plainFields := rfl
  defaulted := rfl
  constructor := rfl
  storage := fieldOf_expansion

theorem owners_expansion (h : (d.fields.map (·.name.name)).Nodup) :
    (d.expansion c).accessors.map (·.owner) = d.fields.filterMap (·.role? c.markers) := by
  rw [accessors_expansion h, List.map_filterMap]
  refine List.filterMap_congr fun f _ => ?_
  rw [Option.map_map]
  exact Option.map_id'

theorem groupName_unraw (n : Ident) (r : Role) : c.unraw.groupName n r = c.groupName n r := by
  cases r <;> rfl

theorem meansSame_expansion (h : (d.fields.map (·.name.name)).Nodup)
    (h' : (d'.fields.map (·.name.name)).Nodup) (hd : d.unraw = d'.unraw)
    (hc : c.unraw = c'.unraw) : (d.expansion c).MeansSame (d'.expansion c') := by
  have name : d.unraw.name = d'.unraw.name := by rw [hd]
  have fields : d.unraw.fields = d'.unraw.fields := by rw [hd]
  have markers : c.unraw.markers = c'.unraw.markers := by rw [hc]
  have parameters : ∀ r, ((d.members c r).map Field.parameter).map (·.name.name) =
      ((d'.members c' r).map Field.parameter).map (·.name.name) := by
    intro r
    rw [List.map_map, List.map_map]
    exact map_members Field.name_unraw hd hc r
  have lengths := fun r => congrArg List.length (parameters r)
  simp only [List.length_map] at lengths
  constructor
  case keys =>
    intro r
    rw [record_expansion, record_expansion, List.map_map, List.map_map]
    exact (map_members (f := fun f => f.keyIn c.markers) (fun _ => rfl) hd hc r).trans
      (congrArg (fun t => (d'.members c' r).map fun f => f.keyIn t) markers)
  case typeNames =>
    intro r
    rw [record_expansion, record_expansion]
    calc c.groupName d.name r = c.unraw.groupName d.unraw.name r := (groupName_unraw ..).symm
      _ = c'.unraw.groupName d'.unraw.name r := by rw [name, hc]
      _ = c'.groupName d'.name r := groupName_unraw ..
  case owners =>
    rw [owners_expansion h, owners_expansion h']
    have roles : ∀ e : Declaration, e.unraw.fields.filterMap (·.role? c.markers) =
        e.fields.filterMap (·.role? c.markers) := fun _ => List.filterMap_map
    calc d.fields.filterMap (·.role? c.markers)
        = d'.fields.filterMap (·.role? c.markers) := by rw [← roles d, fields, roles d']
      _ = d'.fields.filterMap (·.role? c'.markers) :=
        congrArg (fun t => d'.fields.filterMap fun f => f.role? t) markers
  case arity => simp only [Constructor.arity, headerParameters_expansion, bodyParameters_expansion,
    List.length_map, lengths]
  case headerParameters =>
    rw [headerParameters_expansion, headerParameters_expansion]
    exact parameters .header
  case bodyParameters =>
    rw [bodyParameters_expansion, bodyParameters_expansion]
    exact parameters .body

/-- **The mark of raw identifiers** changes neither whether a declaration is expanded, nor why it is
refused, nor what its expansion means. -/
theorem expand_unraw (hd : d.unraw = d'.unraw) (hc : c.unraw = c'.unraw) :
    ((∃ e, d.expand c = .ok e) ↔ ∃ e', d'.expand c' = .ok e') ∧
    (∀ x x', d.expand c = .error x → d'.expand c' = .error x' → x.problem.id = x'.problem.id) ∧
    ∀ e e', d.expand c = .ok e → d'.expand c' = .ok e' →
      e.MeansSame e' ∧ e.KeepsSpelling d c ∧ e'.KeepsSpelling d' c' := by
  have same : d.problemId? c = d'.problemId? c' := by
    calc d.problemId? c = d.unraw.problemId? c.unraw := (problemId?_unraw d c).symm
      _ = d'.unraw.problemId? c'.unraw := by rw [hd, hc]
      _ = d'.problemId? c' := problemId?_unraw d' c'
  unfold problemId? at same
  refine ⟨?_, ?_, ?_⟩
  · rcases h : d.expand c with x | e <;> rcases h' : d'.expand c' with x' | e' <;>
      simp [h, h'] at same ⊢
  · intro x x' hx hx'
    rw [hx, hx'] at same
    exact Option.some.inj same
  · intro e e' he he'
    obtain ⟨h, rfl⟩ := expand_eq_expansion he
    obtain ⟨h', rfl⟩ := expand_eq_expansion he'
    exact ⟨meansSame_expansion h.names h'.names hd hc, keepsSpelling_expansion h.names,
      keepsSpelling_expansion h'.names⟩

/-- The struct of fields of all kinds with a mark on every field. -/
def markedStruct : Declaration :=
  { mixedStruct with fields := mixedStruct.fields.map fun f =>
      { f with name := ⟨true, f.name.name, .callSite⟩ } }

/-- A configuration with marks on all names. -/
def markedConfig : Config where
  constructor := ⟨true, "new", .callSite⟩
  headersStorage := ⟨true, "headers", .callSite⟩
  bodyStorage := ⟨true, "body", .callSite⟩

theorem expand_unraw_markedStruct : mixedStruct.unraw = markedStruct.unraw ∧
    Config.unraw {} = markedConfig.unraw ∧
    mixedStruct.fields.map (·.name.spelling) = ["id", "note", "r#type", "token"] ∧
    markedStruct.fields.map (·.name.spelling) = ["r#id", "r#note", "r#type", "r#token"] ∧
    ∃ e e', mixedStruct.expand {} = .ok e ∧ markedStruct.expand markedConfig = .ok e' ∧
      e.MeansSame e' ∧ e.KeepsSpelling mixedStruct {} ∧
      e'.KeepsSpelling markedStruct markedConfig := by
  have hd : mixedStruct.unraw = markedStruct.unraw := rfl
  have hc : Config.unraw {} = markedConfig.unraw := rfl
  obtain ⟨accepted, -, same⟩ := expand_unraw hd hc
  obtain ⟨e', he'⟩ := accepted.1 ⟨_, expand_mixedStruct⟩
  exact ⟨hd, hc, by decide, by decide, _, e', expand_mixedStruct, he',
    same _ e' expand_mixedStruct he'⟩

end Declaration

end RequestGroups

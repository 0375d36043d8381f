import RequestGroups.Proofs.Sample.Requests
import RequestGroups.Sample.Catalogue

/-! # Instances that can be made

An instance of a sample is made by the constructor, by default or from JSON, and then plain fields
are set. Each of these steps gives a value of its type to each field, so every instance that is made
has such values (`Made.isInstance`).

* `isInstance_decode?`: what is read from JSON is read field by field and group by group;
* `finds_catalogue`: every request of the catalogue is found by its name, and its instances hold
  values of its types. -/

namespace RequestGroups.Sample

open Source

namespace Expanded

variable {x : Expanded} {i : Instance Value}

/-! ### Reading instances -/

/-- How a member of a group is read. -/
def expectedMember (x : Expanded) (f : Field) : Expected Value :=
  ⟨f.keyIn x.sample.config.markers, ((x.type? f.name).getD .json).decode, none⟩

theorem decode_expectedGroup {r : Role} {j : JsonValue} {slot : Slot Value}
    (h : (x.expectedGroup r).decode j = .ok slot) : ∃ values,
      decodeRecord (x.expansion.record r).name.name ((x.members r).map x.expectedMember) j =
        .ok values ∧ slot = .group (((x.members r).map (·.name)).zip values) := by
  obtain ⟨values, read, same⟩ := Outcome.bind_eq_ok.1 h
  cases same
  have fields : (x.expansion.record r).fields =
      (x.members r).map (Field.grouped x.sample.config.markers) := by
    rw [expansion_eq, Declaration.fields_record]
  rw [fields, List.map_map] at read
  rw [fields, List.map_map]
  exact ⟨values, read, rfl⟩

/-- Values of the annotated fields, group by group, and of the plain fields make up an instance. -/
theorem isInstance_of_values {header body plain : List Value}
    (hh : List.Forall₂ (fun f v => x.Admits f.name v) (x.members .header) header)
    (hb : List.Forall₂ (fun f v => x.Admits f.name v) (x.members .body) body)
    (hp : List.Forall₂ (fun f v => x.Admits f.name v) x.plainFields plain) :
    x.IsInstance ((Role.all.map x.sample.config.storage ++ x.plainFields.map (·.name)).zip
      (.group (((x.members .header).map (·.name)).zip header) ::
        .group (((x.members .body).map (·.name)).zip body) :: plain.map .plain)) := by
  have groups : x.annotated = x.members .header ++ x.members .body :=
    congrArg (x.members .header ++ ·) (List.append_nil _)
  have count : (header ++ body).length = x.annotated.length := by
    rw [groups, List.length_append, List.length_append, hh.length_eq, hb.length_eq]
  have names : ((x.plainFields.map (·.name)).map (·.name)).Nodup := by
    rw [List.map_map]
    exact x.accepted.names.sublist (List.filter_sublist.map _)
  obtain ⟨value, hvalue⟩ := exists_map_eq x.nodup_annotated count
  obtain ⟨initial, rfl⟩ := exists_map_eq (names.of_map _)
    (hp.length_eq.symm.trans (List.length_map ..).symm)
  rw [groups, List.map_append] at hvalue
  obtain ⟨rfl, rfl⟩ := List.append_inj hvalue (by rw [List.length_map, hh.length_eq])
  rw [List.forall₂_map_right_iff, List.forall₂_same] at hh hb
  rw [List.map_map, List.forall₂_map_right_iff, List.forall₂_same] at hp
  refine ⟨value, initial, ⟨?_, hp⟩, ?_⟩
  · rw [groups]
    exact List.forall_mem_append.2 ⟨hh, hb⟩
  · simp [Declaration.instanceOf, Declaration.groupOf, Role.all, List.zip_map',
      Function.comp_def]

section Laws

variable (regular : x.sample.Regular)
include regular

/-- A group is read member by member, each for the type of its field. -/
theorem exists_of_gives_group {r : Role} {slot : Slot Value} (h : (x.expectedGroup r).Gives slot) :
    ∃ values, List.Forall₂ (fun f v => x.Admits f.name v) (x.members r) values ∧
      slot = .group (((x.members r).map (·.name)).zip values) := by
  rcases h with ⟨j, read⟩ | missing
  · obtain ⟨values, parts, rfl⟩ := decode_expectedGroup read
    have keys : (((x.members r).map x.expectedMember).map (·.key)).Nodup := by
      rw [List.map_map]
      exact x.accepted.keys r
    have given := gives_decodeRecord keys parts
    rw [List.forall₂_map_left_iff] at given
    refine ⟨values, ((List.forall₂_and_left _ _).2 ⟨fun f hf => hf, given⟩).imp ?_, rfl⟩
    rintro f v ⟨hf, ⟨j, read⟩ | missing⟩
    · obtain ⟨t, type, -⟩ := exists_type regular (mem_group.1 hf).1
      rw [expectedMember, type] at read
      exact ⟨t, type, ValueType.admits_of_decode read⟩
    · cases missing
  · cases missing

theorem exists_of_gives_field {f : Field} (hf : f ∈ x.sample.declaration.fields) {slot : Slot Value}
    (h : (x.expectedField f).Gives slot) : ∃ v, x.Admits f.name v ∧ slot = .plain v := by
  obtain ⟨t, type, initial⟩ := exists_type regular hf
  unfold expectedField at h
  rw [type] at h
  rcases h with ⟨j, read⟩ | missing
  · obtain ⟨v, read, same⟩ := Outcome.map_eq_ok.1 read
    exact ⟨v, ⟨t, type, ValueType.admits_of_decode read⟩, same.symm⟩
  · dsimp only at missing
    split at missing
    · cases missing
      exact ⟨_, ⟨t, type, initial⟩, rfl⟩
    · cases missing

/-- **An instance that is read** holds a value for each field. -/
theorem isInstance_decode? {j : JsonValue} (h : x.decode? j = some (.ok i)) : x.IsInstance i := by
  unfold decode? at h
  split at h
  · obtain ⟨slots, read, rfl⟩ := Outcome.map_eq_ok.1 (Option.some.inj h)
    have plain : x.expansion.plainFields = x.plainFields := by rw [expansion_eq]; rfl
    have storage : x.expansion.storage.fieldOf = x.sample.config.storage := by
      funext r
      rw [expansion_eq, Declaration.fieldOf_expansion]
    have keys : ((Role.all.map x.expectedGroup ++ x.plainFields.map x.expectedField).map
        (·.key)).Nodup := by
      -- keys are the names of the fields of the struct
      have distinct := Declaration.nodup_fieldNames x.accepted regular.storage
      rw [List.map_append, List.map_map, List.map_map] at distinct ⊢
      rw [← storage] at distinct
      exact distinct
    rw [plain] at read
    have given := gives_decodeRecord keys read
    obtain ⟨_, _, first, behind, rfl⟩ := List.forall₂_cons_left_iff.1 given
    obtain ⟨_, _, second, rest, rfl⟩ := List.forall₂_cons_left_iff.1 behind
    obtain ⟨header, hh, rfl⟩ := exists_of_gives_group regular first
    obtain ⟨body, hb, rfl⟩ := exists_of_gives_group regular second
    obtain ⟨values, hp, rfl⟩ := exists_eq_map (List.forall₂_map_left_iff.1 rest) fun f hf _ =>
      exists_of_gives_field regular (mem_plainOf.1 hf).1
    rw [plain, storage]
    exact isInstance_of_values hh hb hp
  · cases h

/-! ### Reachable instances -/

theorem isInstance_construct? {arguments : List JsonValue} (h : x.construct? arguments = some i) :
    x.IsInstance i := by
  obtain ⟨value, read, rfl⟩ := (construct?_eq_some regular).1 h
  have admits := read.imp fun f j h => And.intro (admits_of_decodeField? h) h
  exact ⟨value, _, ⟨((List.forall₂_and_left _ _).1 admits).1,
    fun f hf => admits_initialOf regular (mem_plainOf.1 hf).1⟩, rfl⟩

theorem isInstance_default? (h : x.default? = some i) : x.IsInstance i := by
  obtain ⟨-, rfl⟩ := (default?_eq_some regular).1 h
  exact ⟨_, _, ⟨fun f hf => admits_initialOf regular (Declaration.flatMap_members_subset hf),
    fun f hf => admits_initialOf regular (mem_plainOf.1 hf).1⟩, rfl⟩

end Laws

/-- The instances that can be made: by the constructor, by default or from JSON, and from another
one where a plain field is set. -/
inductive Made (x : Expanded) : Instance Value → Prop where
  | construct {arguments : List JsonValue} {i : Instance Value}
      (h : x.construct? arguments = some i) : Made x i
  | default {i : Instance Value} (h : x.default? = some i) : Made x i
  | decode {j : JsonValue} {i : Instance Value} (h : x.decode? j = some (.ok i)) : Made x i
  | set {i i' : Instance Value} {n : String} {j : JsonValue} (hi : Made x i)
      (h : x.set? i n j = some i') : Made x i'

/-- **Every instance that is made** holds a value for each field. -/
theorem Made.isInstance (regular : x.sample.Regular) (h : x.Made i) : x.IsInstance i := by
  induction h with
  | construct h => exact isInstance_construct? regular h
  | default h => exact isInstance_default? regular h
  | decode h => exact isInstance_decode? regular h
  | set _ h ih => exact isInstance_set? ih h

/-- Under the name of a field a value of its type is found. -/
theorem IsInstance.get?_eq_some (regular : x.sample.Regular) (hi : x.IsInstance i) {m : Member}
    (hm : m ∈ x.sample.fields) :
    ∃ v, x.get? i m.name.spelling = some v ∧ m.type.Admits v := by
  obtain ⟨value, initial, fits, rfl⟩ := hi
  have hf : m.field ∈ x.sample.declaration.fields := List.mem_map_of_mem hm
  have admits : ∀ v, x.Admits m.field.name v → m.type.Admits v := by
    rintro v ⟨t, type, hv⟩
    cases type.symm.trans (type?_of_mem regular hm)
    exact hv
  have found := get?_instanceOf regular value initial m.field.name.spelling
  rw [field?_spelling regular hf, Option.map_some] at found
  refine ⟨_, found, admits _ ?_⟩
  cases hr : m.field.role? x.sample.config.markers with
  | none => exact fits.plain _ (mem_plainOf.2 ⟨hf, hr⟩)
  | some r =>
    exact fits.groups _ (List.mem_flatMap.2 ⟨r, Role.mem_all r, mem_group.2 ⟨hf, hr⟩⟩)

end Expanded

/-! ### The catalogue -/

theorem sample_of_expanded? {s : Sample} {x : Expanded} (h : s.expanded? = some x) :
    x.sample = s := by
  unfold expanded? at h
  split at h
  · cases h
    rfl
  · cases h

/-- **The requests of the catalogue** are found by their names. Their fields have values of their
types in every instance that is made. -/
theorem finds_catalogue : ∀ s ∈ catalogue, s.Regular ∧ ∃ x, find? s.name = some x ∧ x.sample = s ∧
    ∀ i, x.Made i → ∀ m ∈ s.fields, ∃ v, x.get? i m.name.spelling = some v ∧ m.type.Admits v := by
  have regular : ∀ s ∈ catalogue, s.Regular := by decide
  have expands : ∀ s ∈ catalogue, s.expanded?.isSome := by decide +kernel
  have names : (catalogue.map (·.name)).Nodup := by decide
  intro s hs
  obtain ⟨x, hx⟩ := Option.isSome_iff_exists.1 (expands s hs)
  obtain rfl := sample_of_expanded? hx
  have found : catalogue.find? (·.name == x.sample.name) = some x.sample :=
    find?_eq_some hs (beq_self_eq_true _) fun s' hs' same =>
      List.inj_on_of_nodup_map names hs' hs (eq_of_beq same)
  refine ⟨regular _ hs, x, by rw [find?, found, Option.bind_some, hx], rfl, fun i made m hm => ?_⟩
  exact (made.isInstance (regular _ hs)).get?_eq_some (regular _ hs) hm

end RequestGroups.Sample

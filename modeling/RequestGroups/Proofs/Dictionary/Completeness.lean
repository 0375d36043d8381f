import RequestGroups.Dictionary.Conversion
import RequestGroups.Proofs.Instance.Routing
import RequestGroups.Proofs.Text.Entries

/-! # No value is lost in a dictionary

The keys of a group are distinct, so no entry of its datum overwrites another one and each field has
an entry of its own in the dictionary.

* `objectOf_datum`: the JSON object of a group holds the encoded value of each field under its key;
* `headersOf_eq_ok`: a policy goes through the entries of an object one by one;
* `GroupRecord.Dictionaries` is what the dictionaries of a group hold, and `dictionaries_expand`
  says that they do for every expansion. -/

namespace RequestGroups

open Text

/-! ### Data of groups -/

namespace GroupRecord

/-- Values for the fields of a record in their order, under the keys of the fields. -/
def entries (g : GroupRecord) (values : List β) : List (String × β) := (g.keys.map (·.2)).zip values

/-- The datum of a group with the given values of its fields. -/
def datum (g : GroupRecord) (values : List Data) : Data := .record (g.entries values)

@[simp] theorem entries_nil (g : GroupRecord) : g.entries ([] : List β) = [] := by
  simp [entries]

theorem length_entries {g : GroupRecord} {values : List β} (h : values.length = g.fields.length) :
    (g.entries values).length = g.fields.length := by
  simp [entries, keys, h]

theorem nodup_entries {g : GroupRecord} {values : List β} (hk : (g.keys.map (·.2)).Nodup)
    (h : values.length = g.fields.length) : ((g.entries values).map (·.1)).Nodup := by
  rw [entries, List.map_fst_zip]
  · exact hk
  · simp [keys, h]

end GroupRecord

/-- Fields are encoded one by one. -/
theorem encodeFields_zip {keys : List String} {values : List Data} {encoded : List JsonValue}
    (h : List.Forall₂ (fun v j => v.encode = .ok j) values encoded) :
    encodeFields (keys.zip values) = .ok (keys.zip encoded) := by
  induction h generalizing keys with
  | nil => simp [encodeFields]
  | cons hv _ ih =>
    cases keys with
    | nil => rfl
    | cons k keys =>
      rw [List.zip_cons_cons, encodeFields, hv, ih]
      rfl

/-- The object of a group has the encoded values. -/
theorem objectOf_datum {r : Role} {g : GroupRecord} {values : List Data} {encoded : List JsonValue}
    (h : List.Forall₂ (fun v j => v.encode = .ok j) values encoded) :
    objectOf r (g.datum values) = .ok (.ofEntries (g.entries encoded)) := by
  have object : (g.datum values).encode = .ok (.ofEntries (g.entries encoded)) := by
    rw [GroupRecord.datum, Data.encode, GroupRecord.entries, encodeFields_zip h]
    rfl
  rw [objectOf, object]
  rfl

/-! ### Policies -/

namespace HeaderPolicy

/-- The text that a policy makes of a value. -/
def text? (p : HeaderPolicy) (v : JsonValue) : Option String :=
  match p.treat v with
  | .keep text => some text
  | .stringify text => some text
  | _ => none

/-- Whether a policy accepts a value. -/
def Admits (p : HeaderPolicy) (v : JsonValue) : Prop := ∀ found, p.treat v ≠ .refuse found

end HeaderPolicy

/-- **The dictionary of headers** has the texts that the policy makes, if it accepts all values. -/
theorem headersOf_eq_ok {p : HeaderPolicy} {m : KeyMap JsonValue} (h : ∀ e ∈ m, p.Admits e.2) :
    (headersOf p m).result = .ok (m.filterMap fun e => (p.text? e.2).map (e.1, ·)) := by
  induction m with
  | nil => rfl
  | cons e rest ih =>
    obtain ⟨key, v⟩ := e
    obtain ⟨hv, hrest⟩ := List.forall_mem_cons.1 h
    rw [headersOf, List.filterMap_cons, HeaderPolicy.text?]
    cases ht : p.treat v with
    | refuse found => exact absurd ht (hv found)
    | keep text => simp [ih hrest, Treatment.entries, Except.map]
    | stringify text => simp [ih hrest, Treatment.entries, Except.map]
    | drop => simp [ih hrest, Treatment.entries, Except.map]

/-- The text of a value as a header: a string as it is, any other value as JSON. -/
def JsonValue.headerText : JsonValue → String
  | .string s => s
  | v => v.text

/-- Whether a value has no parts. -/
def JsonValue.IsScalar (v : JsonValue) : Prop :=
  JsonKind.of v ∈ [JsonKind.string, .number, .bool, .null]

namespace HeaderPolicy

theorem admits_string (p : HeaderPolicy) (s : String) : p.Admits (.string s) := by
  intro found
  cases p <;> exact nofun

theorem text?_string (p : HeaderPolicy) (s : String) : p.text? (.string s) = some s := by
  cases p <;> rfl

/-- Values without parts become text, unless they are null. -/
theorem stringify_scalar {v : JsonValue} (h : v.IsScalar) :
    stringify.Admits v ∧
      stringify.text? v = if JsonKind.of v ≠ .null then some v.headerText else none := by
  cases v with
  | array items => exact absurd h (by simp [JsonValue.IsScalar, JsonKind.of])
  | object es => exact absurd h (by simp [JsonValue.IsScalar, JsonKind.of])
  | null => exact ⟨nofun, rfl⟩
  | bool b => exact ⟨nofun, rfl⟩
  | int n => exact ⟨nofun, rfl⟩
  | double x => exact ⟨nofun, rfl⟩
  | string s => exact ⟨nofun, rfl⟩

end HeaderPolicy

/-! ### Dictionaries -/

namespace GroupRecord

variable {g : GroupRecord} {values : List Data} {encoded : List JsonValue}

/-- **What the dictionaries of a group hold** if its fields have the given values, which are encoded
as given. -/
structure Dictionaries (g : GroupRecord) (values : List Data) (encoded : List JsonValue) :
    Prop where
  body : ∃ m, (bodyOrProblem (g.datum values)).result = .ok m ∧ m.length = g.fields.length ∧
    m.Holds (g.entries encoded) ∧ ∀ e ∈ g.entries encoded, m.find? e.1 = some e.2
  /-- Strings are kept by every policy. -/
  strings : ∀ policy texts, encoded = texts.map .string →
    ∃ m, (headersOrProblem policy (g.datum values)).result = .ok m ∧ m.Holds (g.entries texts)
  /-- Values without parts become text, and nulls are left out. -/
  scalars : (∀ v ∈ encoded, v.IsScalar) →
    ∃ m, (headersOrProblem .stringify (g.datum values)).result = .ok m ∧
      m.Holds (((g.entries encoded).filter fun e => JsonKind.of e.2 ≠ .null).map fun e =>
        (e.1, e.2.headerText))
  empty : g.fields = [] → (bodyOrProblem (g.datum values)).result = .ok [] ∧
    ∀ policy, (headersOrProblem policy (g.datum values)).result = .ok []

/-- The headers of a group are the texts that the policy makes of its values. -/
theorem headersOrProblem_datum {p : HeaderPolicy} (hk : (g.keys.map (·.2)).Nodup)
    (hlen : encoded.length = g.fields.length)
    (hv : List.Forall₂ (fun v j => v.encode = .ok j) values encoded)
    (hp : ∀ v ∈ encoded, p.Admits v) :
    ∃ m, (headersOrProblem p (g.datum values)).result = .ok m ∧
      m.Holds ((g.entries encoded).filterMap fun e => (p.text? e.2).map (e.1, ·)) := by
  have object := KeyMap.holds_ofEntries (nodup_entries hk hlen)
  refine ⟨_, ?_, object.filterMap p.text?⟩
  rw [headersOrProblem, objectOf_datum hv]
  exact headersOf_eq_ok fun e he => hp _ (List.of_mem_zip (object.perm.mem_iff.1 he)).2

/-- Strings are headers under every policy. -/
theorem strings_datum (p : HeaderPolicy) (texts : List String) (hk : (g.keys.map (·.2)).Nodup)
    (hlen : texts.length = g.fields.length)
    (hv : List.Forall₂ (fun v j => v.encode = .ok j) values (texts.map .string)) :
    ∃ m, (headersOrProblem p (g.datum values)).result = .ok m ∧ m.Holds (g.entries texts) := by
  obtain ⟨m, hm, hold⟩ := headersOrProblem_datum (p := p) hk (by simpa using hlen) hv (by
    simp [HeaderPolicy.admits_string])
  refine ⟨m, hm, ?_⟩
  simpa [entries, List.zip_map_right, List.filterMap_map, Function.comp_def,
    HeaderPolicy.text?_string] using hold

/-- Values without parts become headers, apart from nulls. -/
theorem scalars_datum (hk : (g.keys.map (·.2)).Nodup) (hlen : encoded.length = g.fields.length)
    (hv : List.Forall₂ (fun v j => v.encode = .ok j) values encoded)
    (hs : ∀ v ∈ encoded, v.IsScalar) :
    ∃ m, (headersOrProblem .stringify (g.datum values)).result = .ok m ∧
      m.Holds (((g.entries encoded).filter fun e => JsonKind.of e.2 ≠ .null).map fun e =>
        (e.1, e.2.headerText)) := by
  obtain ⟨m, hm, hold⟩ := headersOrProblem_datum (p := .stringify) hk hlen hv
    fun v hv => (HeaderPolicy.stringify_scalar (hs v hv)).1
  refine ⟨m, hm, ?_⟩
  rwa [filterMap_eq_map_filter fun e he => ?_] at hold
  rw [(HeaderPolicy.stringify_scalar (hs _ (List.of_mem_zip he).2)).2]
  by_cases h : JsonKind.of e.2 = .null <;> simp [h]

/-- **No value is lost** in the dictionaries of a group with distinct keys. -/
theorem dictionaries_of_nodup (hk : (g.keys.map (·.2)).Nodup)
    (hlen : values.length = g.fields.length)
    (hv : List.Forall₂ (fun v j => v.encode = .ok j) values encoded) :
    g.Dictionaries values encoded := by
  have hlen' : encoded.length = g.fields.length := hv.length_eq.symm.trans hlen
  have object := KeyMap.holds_ofEntries (nodup_entries hk hlen')
  constructor
  case body =>
    refine ⟨_, objectOf_datum hv, ?_, object, fun e he => object.find?_eq he⟩
    rw [object.length_eq, length_entries hlen']
  case strings =>
    rintro policy texts rfl
    exact strings_datum policy texts hk (by simpa using hlen') hv
  case scalars => exact scalars_datum hk hlen' hv
  case empty =>
    intro hg
    have none : encoded = [] := List.eq_nil_of_length_eq_zero (by rw [hlen', hg]; rfl)
    subst none
    refine ⟨?_, fun policy => ?_⟩
    · rw [bodyOrProblem, objectOf_datum hv, entries_nil]
      rfl
    · obtain ⟨m, hm, hold⟩ := strings_datum policy [] hk hlen' hv
      rw [entries_nil] at hold
      rw [hm, hold.eq_nil]

end GroupRecord

/-! ### Expansions -/

namespace Declaration

variable {d : Declaration} {c : Config}

theorem keys_expansion (r : Role) : (((d.expansion c).record r).keys.map (·.2)) =
    (d.members c r).map (Field.keyIn · c.markers) := by
  rw [record_expansion]
  simp [GroupRecord.keys, Field.grouped, Function.comp_def]

/-- The conversion of a group encodes the datum of the values that an instance keeps in it. -/
theorem groupData_instanceOf {renames : Grammar.Entry → Prop} (h : d.Acceptable renames c)
    (hs : c.headersStorage.name ≠ c.bodyStorage.name) (value : Field → α)
    (initial : Source.Ident → α) (present : GroupField → α → Data) (r : Role) :
    (d.expansion c).groupData (fun f v => some (present f v)) (d.instanceOf c value initial) r =
      ((d.expansion c).record r).datum
        ((d.members c r).map fun f => present (f.grouped c.markers) (value f)) := by
  rw [Expansion.groupData, fieldOf_expansion, members?_instanceOf h hs, record_expansion,
    Option.getD_some]
  unfold GroupRecord.dataOf GroupRecord.datum GroupRecord.entries GroupRecord.keys
  rw [List.map_map, List.map_map, List.zip_map', List.filterMap_map,
    filterMap_eq_map_filter (p := fun _ => true)
      (g := fun f => (f.keyIn c.markers, present (f.grouped c.markers) (value f)))]
  · rw [List.filter_true]
    rfl
  · intro f hf
    rw [Function.comp_apply, Field.grouped, lookup?_groupOf h.names value hf]
    rfl

/-- **No value is lost between a declaration and its dictionaries**: the keys of a group are those
of its fields, and whatever values the fields have, the dictionaries of the group hold all of
them. -/
theorem dictionaries_expand {e : Expansion} (h : d.expand c = .ok e) (r : Role)
    {values : List Data} {encoded : List JsonValue}
    (hlen : values.length = (e.record r).fields.length)
    (hv : List.Forall₂ (fun v j => v.encode = .ok j) values encoded) :
    (e.record r).keys.map (·.2) = (d.members c r).map (Field.keyIn · c.markers) ∧
      (e.record r).Dictionaries values encoded := by
  obtain ⟨ha, rfl⟩ := expand_eq_expansion h
  have keys := keys_expansion (d := d) (c := c) r
  exact ⟨keys, GroupRecord.dictionaries_of_nodup (keys ▸ ha.keys r) hlen hv⟩

theorem dictionaries_mixedStruct : ∃ e, mixedStruct.expand {} = .ok e ∧
    [Data.int 7, .string "t"].length = (e.record .header).fields.length ∧
    (e.record .header).Dictionaries [.int 7, .string "t"] [.int 7, .string "t"] := by
  have hlen : [Data.int 7, .string "t"].length =
      ((mixedStruct.expansion {}).record .header).fields.length := by decide
  have hv : List.Forall₂ (fun v j => v.encode = .ok j) [Data.int 7, .string "t"]
      [JsonValue.int 7, .string "t"] :=
    .cons (by simp [Data.encode, encodeInt, JsonValue.fits]) (.cons (by simp [Data.encode]) .nil)
  exact ⟨_, expand_mixedStruct, hlen, (dictionaries_expand expand_mixedStruct .header hlen hv).2⟩

end Declaration

end RequestGroups

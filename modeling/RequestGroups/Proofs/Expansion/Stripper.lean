import RequestGroups.Proofs.Expansion.Failure
import RequestGroups.Proofs.Grammar.StripTwice

/-! # Items stripped by marker tables

A table strips an item of the markers on its fields, at whatever depth the fields stand: in structs,
unions and variants, and in the items inside of modules, function bodies, closures and the lengths
of arrays.

* `Item.StripsAlike`: one table after another strips as the table of both does, so the order, the
  number of passes and the roles of the tags do not matter;
* `MarkerTable.Strips`: no field is left with a marker, and everything else stays;
* `stripped_of_read`: both hold of every item that is read, and of all tables. -/

namespace RequestGroups

open Source Grammar

/-! ### The tags of tables -/

namespace MarkerTable

/-- The tags of two tables; where both have a tag, the second one gives the role. -/
def union (s t : MarkerTable) : MarkerTable :=
  t.entries.foldl (fun u entry => u.register entry.1 entry.2) s

theorem isTag_register (t : MarkerTable) (tag : String) (role : Role) (s : String) :
    (t.register tag role).isTag s = (t.isTag s || s == tag) := by
  rw [isTag, isTag, find?_register]
  by_cases h : s = tag
  · rw [if_pos h, beq_iff_eq.2 h, Bool.or_true]
    rfl
  · rw [if_neg h, beq_false_of_ne h, Bool.or_false]

theorem isTag_union (s t : MarkerTable) (tag : String) :
    (s.union t).isTag tag = (s.isTag tag || t.isTag tag) := by
  obtain ⟨entries, sorted⟩ := t
  change (entries.foldl _ s).isTag tag = (s.isTag tag || (Text.KeyMap.find? tag entries).isSome)
  clear sorted
  induction entries generalizing s with
  | nil => exact (Bool.or_false _).symm
  | cons entry entries ih =>
    obtain ⟨key, role⟩ := entry
    rw [List.foldl_cons, ih, isTag_register, Text.KeyMap.find?]
    by_cases h : tag = key
    · rw [if_pos h, beq_iff_eq.2 h, Bool.or_true, Bool.true_or]
      exact (Bool.or_true _).symm
    · rw [if_neg h, beq_false_of_ne h, Bool.or_false]

end MarkerTable

/-! ### Tables one after the other -/

/-- What it means that the item is stripped alike, in whatever passes its markers are removed. -/
structure Grammar.Item.StripsAlike (i : Item) : Prop where
  /-- One table after another is one table with the tags of both. -/
  twice : ∀ s t u : MarkerTable, (∀ tag, u.isTag tag = (s.isTag tag || t.isTag tag)) →
    t.strip (s.strip i) = u.strip i
  union : ∀ s t : MarkerTable, t.strip (s.strip i) = (s.union t).strip i
  again : ∀ t : MarkerTable, t.strip (t.strip i) = t.strip i
  swapped : ∀ s t : MarkerTable, t.strip (s.strip i) = s.strip (t.strip i)
  /-- The roles of the tags do not matter. -/
  roles : ∀ s t : MarkerTable, (∀ tag, s.isTag tag = t.isTag tag) → s.strip i = t.strip i
  empty : MarkerTable.empty.strip i = i

theorem Grammar.Item.stripsAlike {i : Item} (h : i.FlatPaths) : i.StripsAlike := by
  have twice : ∀ s t u : MarkerTable, (∀ tag, u.isTag tag = (s.isTag tag || t.isTag tag)) →
      t.strip (s.strip i) = u.strip i := by
    intro s t u hu
    have tags : eitherOf s.isTag t.isTag = u.isTag := funext fun tag => (hu tag).symm
    rw [MarkerTable.strip, MarkerTable.strip, Item.strip_strip h, tags]
    rfl
  refine ⟨twice, ?union, ?again, ?swapped, ?roles, ?empty⟩
  case union => exact fun s t => twice s t _ (MarkerTable.isTag_union s t)
  case again => exact fun t => twice t t t fun tag => (Bool.or_self _).symm
  case swapped =>
    intro s t
    have left := twice s t _ (MarkerTable.isTag_union s t)
    have right := twice t s (s.union t) fun tag => by
      rw [MarkerTable.isTag_union, Bool.or_comm]
    exact left.trans right.symm
  case roles =>
    intro s t hst
    exact congrArg (Item.strip · i) (funext hst)
  case empty => exact Item.strip_none i

/-! ### What is left of an item -/

/-- What a table leaves of an item. -/
structure MarkerTable.Strips (t : MarkerTable) (i : Item) : Prop where
  /-- No field has a marker, wherever the fields stand in the item. -/
  clean : ∀ fs : Fields, fs.phrase.StandsIn (t.strip i).phrase →
    ∀ f ∈ fs.items, ∀ a ∈ f.attributes, t.isMarker a = false
  /-- No attribute that is marked as standing on a field is a marker, at any depth. -/
  depth : (t.strip i).phrase.isStripped t.isTag
  /-- All other field attributes stay in their order, without the markers inside of them. -/
  marks : (t.strip i).phrase.marks =
    (i.phrase.marks.filter fun m => !m.tag.any t.isTag).map (·.strip t.isTag)
  /-- All tokens outside of markers stay, in their order and at their places. -/
  tokens : (t.strip i).phrase.placed = i.phrase.placed.filter (Placed.isKept t.isTag)
  /-- What stands in no field attribute does not change. -/
  outside : (t.strip i).phrase.placed.filter (·.within.isEmpty) =
    i.phrase.placed.filter (·.within.isEmpty)
  /-- A struct keeps its own attributes, and of those on its fields the ones that are no markers. -/
  struct : ∀ s, i = .struct s → ∃ s', t.strip i = .struct s' ∧
    s'.attributes = s.attributes.map (·.strip t.isTag) ∧
    s'.fields.items.map (·.attributes) = s.fields.items.map (fun f =>
      (f.attributes.filter fun a => !t.isMarker a).map (·.strip t.isTag)) ∧
    ∀ f ∈ s'.fields.items, ∀ a ∈ f.attributes, t.isMarker a = false

theorem isKept_of_isEmpty {chosen : String → Bool} {p : Placed} (h : p.within.isEmpty) :
    p.isKept chosen := by
  rw [Placed.isKept, List.isEmpty_iff.1 h]
  rfl

/-- The fields of a struct stand in the struct. -/
theorem Grammar.StructItem.fields_standsIn (s : StructItem) :
    s.fields.phrase.StandsIn s.phrase := by
  unfold StructItem.phrase
  generalize Attribute.phraseOf s.attributes ++ s.visibility ++ Phrase.word "struct" ++
    Phrase.ident s.name ++ s.parameters = head
  generalize s.clause.getD [] = clause
  cases s.fields with
  | named l => simpa using Phrase.StandsIn.here (q := (Fields.named l).phrase) (head ++ clause) []
  | tuple l =>
    simpa using Phrase.StandsIn.here (q := (Fields.tuple l).phrase) head
      (clause ++ Phrase.sign ";")
  | unit =>
    simpa [Fields.phrase] using Phrase.StandsIn.here (q := []) (head ++ clause) (Phrase.sign ";")

theorem Grammar.Fields.items_strip (chosen : String → Bool) (fs : Fields) :
    (fs.strip chosen).items = fs.items.map (·.strip chosen) := by
  cases fs <;> rfl

theorem MarkerTable.strips {i : Item} (h : i.FlatPaths) (t : MarkerTable) : t.Strips i := by
  have phrase : (t.strip i).phrase = i.phrase.strip t.isTag := Item.phrase_strip h
  have depth : (t.strip i).phrase.isStripped t.isTag := phrase ▸ Phrase.isStripped_strip t.isTag _
  have tokens : (t.strip i).phrase.placed = i.phrase.placed.filter (Placed.isKept t.isTag) :=
    phrase ▸ Phrase.placed_strip t.isTag _
  have clean : ∀ fs : Fields, fs.phrase.StandsIn (t.strip i).phrase →
      ∀ f ∈ fs.items, ∀ a ∈ f.attributes, t.isMarker a = false := by
    intro fs hfs f hf a ha
    rw [MarkerTable.isMarker_eq]
    exact Fields.not_chosen_of_isStripped (Phrase.isStripped_of_standsIn hfs depth) f hf a ha
  refine ⟨clean, depth, phrase ▸ Phrase.marks_strip t.isTag _, tokens, ?outside, ?struct⟩
  case outside =>
    rw [tokens, List.filter_filter]
    refine List.filter_congr fun p _ => ?_
    cases hp : p.within.isEmpty
    · rfl
    · exact isKept_of_isEmpty hp
  case struct =>
    rintro s rfl
    refine ⟨s.strip t.isTag, rfl, rfl, ?_, clean _ (StructItem.fields_standsIn _)⟩
    change (s.fields.strip t.isTag).items.map (·.attributes) = _
    rw [Fields.items_strip, List.map_map]
    refine List.map_congr_left fun f _ => ?_
    simp only [Function.comp_apply, FieldItem.strip, MarkerTable.isMarker_eq]

/-! ### Items that are read -/

/-- **What tables make of an item**: they strip it alike in whatever passes, and leave all of it but
the markers on its fields. -/
theorem stripped_of_read {ts : List TokenTree} {i : Item} (h : Item.read ts = .ok i) :
    i.StripsAlike ∧ ∀ t : MarkerTable, t.Strips i :=
  ⟨Item.stripsAlike (Item.flatPaths_of_read h), MarkerTable.strips (Item.flatPaths_of_read h)⟩

section Module

variable (marker : String → Phrase)

/-- An attribute that is a name alone. -/
def plainAttribute (name : String) : Phrase :=
  Phrase.sign "#" ++ Phrase.group .bracket (Phrase.word name)

/-- A struct with one field, which has a marker and another attribute. -/
def markedStruct : Phrase :=
  Phrase.word "struct" ++ Phrase.word "Inner" ++ Phrase.group .brace
    (marker "header" ++ plainAttribute "key" ++ Phrase.word "id" ++ Phrase.sign ":" ++
      Phrase.word "u8")

/-- A module with a field in every kind of place; `marker` writes the markers of the fields. -/
def moduleWith : Phrase :=
  Phrase.word "mod" ++ Phrase.word "api" ++ Phrase.group .brace (
    plainAttribute "header" ++ markedStruct marker ++
    Phrase.word "struct" ++ Phrase.word "Pair" ++
      Phrase.group .paren (marker "body" ++ Phrase.word "u8") ++ Phrase.sign ";" ++
    Phrase.word "union" ++ Phrase.word "Either" ++
      Phrase.group .brace (marker "body" ++ Phrase.word "id" ++ Phrase.sign ":" ++
        Phrase.word "u8") ++
    Phrase.word "enum" ++ Phrase.word "Choice" ++
      Phrase.group .brace (plainAttribute "body" ++ Phrase.word "Start" ++
        Phrase.group .paren (marker "header" ++ Phrase.word "u8")) ++
    Phrase.word "fn" ++ Phrase.word "make" ++
      Phrase.group .paren (plainAttribute "header" ++ Phrase.word "id" ++ Phrase.sign ":" ++
        Phrase.word "u8") ++ Phrase.group .brace (markedStruct marker) ++
    Phrase.word "static" ++ Phrase.word "CALL" ++ Phrase.sign ":" ++ Phrase.word "Call" ++
      Phrase.sign "=" ++ Phrase.sign "||" ++ Phrase.group .brace (markedStruct marker) ++
      Phrase.sign ";" ++
    Phrase.word "type" ++ Phrase.word "Row" ++ Phrase.sign "=" ++
      Phrase.group .bracket (Phrase.word "u8" ++ Phrase.sign ";" ++
        Phrase.group .brace (markedStruct marker)) ++ Phrase.sign ";" ++
    Phrase.word "call" ++ Phrase.sign "!" ++ Phrase.group .brace (markedStruct plainAttribute))

end Module

/-- The tags of the field attributes of an item, and its words without the default markers. -/
def tagsAndRest (i : Item) : List (Option String) × List String :=
  (i.phrase.marks.map (·.tag), TokenTree.wordsOf (MarkerTable.default.strip i).trees)

theorem read_moduleWith : (Item.read (moduleWith plainAttribute).trees).toOption.map tagsAndRest =
    some (["header", "key", "body", "body", "header", "header", "key", "header", "key", "header",
      "key"].map some, TokenTree.wordsOf (moduleWith fun _ => []).trees) := by
  decide +kernel

theorem stripped_moduleWith : ∃ i, Item.read (moduleWith plainAttribute).trees = .ok i ∧
    (i.StripsAlike ∧ ∀ t : MarkerTable, t.Strips i) ∧
    i.phrase.marks.length = 11 ∧
    TokenTree.wordsOf (MarkerTable.default.strip i).trees =
      TokenTree.wordsOf (moduleWith fun _ => []).trees := by
  obtain ⟨i, hi, parts⟩ := Option.map_eq_some_iff.1 read_moduleWith
  have read := Outcome.toOption_eq_some.1 hi
  obtain ⟨tags, rest⟩ := Prod.mk.inj parts
  have count := congrArg List.length tags
  rw [List.length_map] at count
  exact ⟨i, read, stripped_of_read read, count, rest⟩

end RequestGroups

import RequestGroups.Proofs.Config.Arguments
import RequestGroups.Proofs.Expansion.Attributes

/-! # Names of types

An expansion declares three structs: the records of the two groups and the declared struct. Without
given names the records are named after the declared struct, which keeps the three names apart. A
given name is taken as it is: no check looks at it, so it may be one of the other two names.

* `name_groupName`: the names that records have without a given one;
* `apart_typeNames`: which given names keep the three structs apart;
* `expand_withTypes`: an expansion does not depend on the given names to succeed;
* `typeNames_expand` collects these facts, and `not_apart_sameNames` is a clash that is emitted. -/

namespace RequestGroups

open Source Grammar

variable {c : Config} {d : Declaration} {e : Expansion}

/-- The names of the structs that an expansion declares. -/
def Expansion.typeNames (e : Expansion) (c : Config) : List Ident := (e.structs c).map (·.name)

/-- The end of the name of a record that is not given. -/
def groupSuffix : Role → String
  | .header => "Headers"
  | .body => "Body"

namespace Config

/-- A configuration with other names for the records. -/
def withTypes (c : Config) (headers body : Option Ident) : Config :=
  { c with headersType := headers, bodyType := body }

/-- Whether every given name is neither the name of the declared struct nor the one of the other
record. -/
def NamesApart (c : Config) (declared : Ident) : Prop :=
  ∀ r name, c.givenName? r = some name → name.name ≠ declared.name ∧
    ∀ s, s ≠ r → name.name ≠ (c.groupName declared s).name

/-! ### Names that are not given -/

theorem camelCase_storage {ts : List TokenTree} (h : ofArguments ts = .ok c) (r : Role) :
    Text.camelCase (c.storage r).name = groupSuffix r := by
  obtain ⟨settings, -, rfl⟩ := ofArguments_eq_ok.1 h
  rw [(fixed_foldl settings {}).2 r]
  cases r <;> decide +kernel

/-- **The name of a record** that is not given starts with the name of the declared struct. -/
theorem name_groupName {ts : List TokenTree} (h : ofArguments ts = .ok c) {declared : Ident}
    {r : Role} (hr : c.givenName? r = none) :
    (c.groupName declared r).name = declared.name ++ groupSuffix r := by
  rw [groupName, hr, Option.getD_none, ← camelCase_storage h r]
  rfl

theorem append_groupSuffix_ne (name : String) (r : Role) : name ++ groupSuffix r ≠ name := by
  intro h
  have chars := congrArg String.toList h
  rw [String.toList_append] at chars
  have suffix : (groupSuffix r).toList = [] := List.append_right_eq_self.1 chars
  cases r <;> exact absurd suffix (by decide)

theorem append_groupSuffix_inj {name : String} {r s : Role}
    (h : name ++ groupSuffix r = name ++ groupSuffix s) : r = s := by
  have chars := congrArg String.toList h
  rw [String.toList_append, String.toList_append] at chars
  have suffixes := List.append_cancel_left chars
  cases r <;> cases s <;> first | rfl | exact absurd suffixes (by decide)

/-! ### Names of all structs -/

theorem groupName_of_given (declared : Ident) {name : Ident} {r : Role}
    (hr : c.givenName? r = some name) : c.groupName declared r = name := by
  rw [groupName, hr, Option.getD_some]

/-- Three names are apart if those of the records differ from each other and from the third. -/
theorem apart_groupNames {declared : Ident} :
    Apart [c.groupName declared .header, c.groupName declared .body, declared] ↔
      ∀ r, (c.groupName declared r).name ≠ declared.name ∧
        ∀ s, s ≠ r → (c.groupName declared r).name ≠ (c.groupName declared s).name := by
  simp only [Apart, List.map_cons, List.map_nil, List.nodup_cons, List.mem_cons, List.not_mem_nil,
    or_false, not_or, List.nodup_nil, not_false_eq_true, and_true]
  constructor
  · rintro ⟨⟨hgroups, hheader⟩, hbody⟩ r
    cases r with
    | header => exact ⟨hheader, fun s hs => by cases s <;> [exact absurd rfl hs; exact hgroups]⟩
    | body => exact ⟨hbody, fun s hs => by cases s <;> [exact Ne.symm hgroups; exact absurd rfl hs]⟩
  · intro h
    exact ⟨⟨(h .header).2 .body (by decide), (h .header).1⟩, (h .body).1⟩

/-- **Only given names clash**: the three structs have names of their own if every given name is
neither of the two others. -/
theorem apart_iff_namesApart {ts : List TokenTree} (h : ofArguments ts = .ok c) {declared : Ident} :
    Apart [c.groupName declared .header, c.groupName declared .body, declared] ↔
      c.NamesApart declared := by
  rw [apart_groupNames]
  constructor
  · intro hall r name hr
    rw [← groupName_of_given declared hr]
    exact hall r
  · intro hgiven r
    rcases hr : c.givenName? r with _ | name
    · rw [name_groupName h hr]
      refine ⟨append_groupSuffix_ne _ _, fun s hs => ?_⟩
      rcases hs' : c.givenName? s with _ | other
      · rw [name_groupName h hs']
        exact fun he => hs (append_groupSuffix_inj he).symm
      · rw [groupName_of_given _ hs', ← name_groupName h hr]
        exact ((hgiven s other hs').2 r hs.symm).symm
    · rw [groupName_of_given _ hr]
      exact hgiven r name hr

end Config

/-! ### Expansions -/

namespace Declaration

theorem typeNames_expansion : (d.expansion c).typeNames c =
    [c.groupName d.name .header, c.groupName d.name .body, d.name] := rfl

/-- The rules for declarations do not mention the names of the records. -/
theorem acceptable_withTypes {renames : Entry → Prop} (h : d.Acceptable renames c)
    (headers body : Option Ident) : d.Acceptable renames (c.withTypes headers body) :=
  ⟨h.kind, h.names, h.markers, h.storage, h.constructor, h.methods, h.attributes, h.keys⟩

theorem expand_withTypes (h : d.expand c = .ok e) (headers body : Option Ident) :
    d.expand (c.withTypes headers body) = .ok (d.expansion (c.withTypes headers body)) := by
  obtain ⟨ha, -⟩ := expand_eq_expansion h
  exact expand_eq_ok.2 ⟨acceptable_withTypes ha headers body, rfl⟩

end Declaration

/-- **The names of the types of an expansion.** -/
structure Expansion.TypeNames (e : Expansion) (d : Declaration) (c : Config) : Prop where
  /-- The output declares the three structs, and all else in it are implementations. -/
  output : e.emit c = (e.structs c).flatMap StructItem.phrase ++
    (e.implementations c).flatMap Implementation.phrase
  names : e.typeNames c = [c.groupName d.name .header, c.groupName d.name .body, d.name]
  /-- The names are apart exactly if every given name is apart from the others. -/
  apart : Apart (e.typeNames c) ↔ c.NamesApart d.name
  /-- So they are if no name is given. -/
  default : (∀ r, c.givenName? r = none) → Apart (e.typeNames c)
  /-- With other names for the records the declaration is expanded too, whether they clash or
  not. -/
  unchecked : ∀ headers body, ∃ e', d.expand (c.withTypes headers body) = .ok e' ∧
    e'.typeNames (c.withTypes headers body) = [(c.withTypes headers body).groupName d.name .header,
      (c.withTypes headers body).groupName d.name .body, d.name]

/-- **The types of an expansion** have names of their own, unless a given name is one of the
others. -/
theorem typeNames_expand {ts : List TokenTree} (hc : Config.ofArguments ts = .ok c)
    (h : d.expand c = .ok e) : e.TypeNames d c := by
  obtain ⟨-, rfl⟩ := Declaration.expand_eq_expansion h
  have apart : Apart ((d.expansion c).typeNames c) ↔ c.NamesApart d.name := by
    rw [Declaration.typeNames_expansion]
    exact Config.apart_iff_namesApart hc
  constructor
  case output => exact Expansion.emit_eq _ c
  case names => exact Declaration.typeNames_expansion
  case apart => exact apart
  case default => exact fun hnone => apart.2 fun r name hr => absurd (hr.symm.trans (hnone r)) nofun
  case unchecked =>
    intro headers body
    exact ⟨_, Declaration.expand_withTypes h headers body, Declaration.typeNames_expansion⟩

/-! ### Given names -/

/-- Arguments that give both records a name. -/
def bothNames (headers body : String) : List TokenTree :=
  assignment "headers" headers ++ [.punct ',' false .callSite] ++ assignment "body" body

/-- The names of the types of a declaration that is expanded with some arguments. -/
def typeNamesUnder? (ts : List TokenTree) (d : Declaration) : Option (List String) := do
  let c ← (Config.ofArguments ts).toOption
  let e ← (d.expand c).toOption
  return (e.typeNames c).map (·.name)

theorem typeNamesUnder?_eq_some {ts : List TokenTree} {names : List String}
    (h : typeNamesUnder? ts d = some names) : ∃ c e, Config.ofArguments ts = .ok c ∧
      d.expand c = .ok e ∧ (e.typeNames c).map (·.name) = names := by
  unfold typeNamesUnder? at h
  rcases hc : Config.ofArguments ts with fault | c
  · rw [hc] at h
    exact absurd h nofun
  · rcases he : d.expand c with problem | e
    · simp [hc, he, Except.toOption] at h
    · refine ⟨c, e, rfl, he, ?_⟩
      simpa [hc, he, Except.toOption] using h

theorem typeNamesUnder?_apart : typeNamesUnder? (bothNames "FetchMeta" "FetchJson") mixedStruct =
    some ["FetchMeta", "FetchJson", "Fetch"] := by
  decide +kernel

theorem typeNames_bothNames : ∃ c e,
    Config.ofArguments (bothNames "FetchMeta" "FetchJson") = .ok c ∧
      mixedStruct.expand c = .ok e ∧ e.TypeNames mixedStruct c ∧ Apart (e.typeNames c) := by
  obtain ⟨c, e, hc, he, names⟩ := typeNamesUnder?_eq_some typeNamesUnder?_apart
  refine ⟨c, e, hc, he, typeNames_expand hc he, ?_⟩
  rw [Apart, names]
  decide

theorem typeNamesUnder?_same : typeNamesUnder? (bothNames "X" "X") mixedStruct =
    some ["X", "X", "Fetch"] := by
  decide +kernel

/-- **One name for both records** is no problem of the expansion, which declares two structs of this
name. -/
theorem not_apart_sameNames : ∃ c e, Config.ofArguments (bothNames "X" "X") = .ok c ∧
    mixedStruct.expand c = .ok e ∧ ¬ Apart (e.typeNames c) := by
  obtain ⟨c, e, hc, he, names⟩ := typeNamesUnder?_eq_some typeNamesUnder?_same
  refine ⟨c, e, hc, he, ?_⟩
  rw [Apart, names]
  decide

end RequestGroups

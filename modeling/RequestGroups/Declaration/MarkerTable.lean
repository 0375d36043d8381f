import RequestGroups.Declaration.Role
import RequestGroups.Grammar.Attribute
import RequestGroups.Text.KeyMap

/-! # Marker tables

A marker table says which attributes mark a field, and with which role. Tags are compared as they
are written, so `r#header` and `header` are different tags.

* `MarkerTable.register` sets the role of a tag;
* `MarkerTable.roleOf` looks a tag up, `roleOfAttribute` the tag of an attribute;
* two tables are equal if they give every tag the same role (`MarkerTable.ext_role`). -/

namespace RequestGroups

open Source Grammar Text

/-- The roles of the marker attributes. -/
structure MarkerTable where
  entries : KeyMap Role
  sorted : entries.Sorted
  deriving DecidableEq

namespace MarkerTable

/-- The table without any tag. -/
def empty : MarkerTable := ⟨[], List.Pairwise.nil⟩

/-- Sets the role of a tag. -/
def register (t : MarkerTable) (tag : String) (role : Role) : MarkerTable :=
  ⟨t.entries.insert tag role, KeyMap.sorted_insert t.sorted tag role⟩

/-- The table in which each role has its own name as its tag. -/
def default : MarkerTable :=
  (empty.register Role.header.name .header).register Role.body.name .body

instance : Inhabited MarkerTable := ⟨default⟩

/-- The role of the tag that is spelled in a given way. -/
def find? (t : MarkerTable) (tag : String) : Option Role := t.entries.find? tag

/-- Whether a spelling is a tag. -/
def isTag (t : MarkerTable) (tag : String) : Bool := (t.find? tag).isSome

/-- The role of a tag. -/
def roleOf (t : MarkerTable) (tag : Ident) : Option Role := t.find? tag.spelling

/-- The role of an attribute whose path is a single identifier. -/
def roleOfAttribute (t : MarkerTable) (a : Attribute) : Option Role := a.tag?.bind t.roleOf

/-- Whether an attribute is a marker. -/
def isMarker (t : MarkerTable) (a : Attribute) : Bool := (t.roleOfAttribute a).isSome

@[simp] theorem find?_empty (tag : String) : empty.find? tag = none := rfl

theorem find?_register (t : MarkerTable) (tag : String) (role : Role) (s : String) :
    (t.register tag role).find? s = if s = tag then some role else t.find? s :=
  KeyMap.find?_insert tag role t.entries s

/-- Tables that give every tag the same role are equal. -/
theorem ext_role {s t : MarkerTable} (h : ∀ tag, s.find? tag = t.find? tag) : s = t := by
  obtain ⟨a, ha⟩ := s
  obtain ⟨b, hb⟩ := t
  have : a = b := ha.ext hb h
  subst this
  rfl

end MarkerTable

end RequestGroups

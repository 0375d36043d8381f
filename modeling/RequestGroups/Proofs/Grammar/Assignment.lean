import RequestGroups.Expansion.Code
import RequestGroups.Expansion.Validation
import RequestGroups.Proofs.Text.Quoted

/-! # Assignments in attributes are read back

An attribute that is written with an assignment of a string lists one entry: the name that is
assigned, with the string as its value (`entries?_attributeOf`). The reading goes through the rules
of the grammar from the inside out: path, argument, entry, list. No rule needs the readers of inner
phrases here, since the string stands alone behind the sign.

* `bind_eq`, `iterate_none`, `iterate_some`: how a reader goes on after a step that is known. -/

namespace RequestGroups

open Source Grammar Text

/-! ### Steps of readers -/

namespace Grammar.Reader

variable {i j : Input}

theorem bind_eq {r : Reader α} {a : α} (h : r i = .ok (a, j)) (f : α → Reader β) :
    (r >>= f) i = f a j := by
  change (r i).bind (fun p => f p.1 p.2) = f a j
  rw [h]
  rfl

theorem sees_eq {test : List TokenTree → Bool} {b : Bool} (h : test i.rest = b) :
    sees test i = .ok (b, i) := by
  rw [← h]
  rfl

theorem sign?_eq_none {text : String} (h : Look.sign text i.rest = false) :
    sign? text i = .ok (none, i) := by
  rw [sign?, bind_eq (sees_eq h)]
  rfl

theorem iterate_none {step : σ → Reader (Option σ)} {s : σ} (h : step s i = .ok (none, j)) :
    iterate step s i = .ok (s, j) := by
  rw [iterate.eq_def, h]

theorem iterate_some {step : σ → Reader (Option σ)} {s t : σ} (h : step s i = .ok (some t, j))
    (hj : j.rest.length < i.rest.length) : iterate step s i = iterate step t j := by
  rw [iterate.eq_def, h]
  exact if_pos hj

end Grammar.Reader

open Reader

/-- The input that consists of some trees. -/
def listInput (scope : Span) (ts : List TokenTree) : Input := ⟨ts, scope, none, none⟩

/-- Trees that a reader takes to their end are read. -/
theorem readAll_eq {scope : Span} {r : Nonterminals → Reader α} {ts : List TokenTree} {a : α}
    (h : r (grammar ts) (listInput scope ts) = .ok (a, listInput scope [])) :
    Grammar.readAll scope r ts = .ok a := by
  change (r (grammar ts) (listInput scope ts)).bind _ = _
  rw [h]
  rfl

/-! ### An entry that assigns a literal -/

section Entry

variable {n : Ident} {equals here scope : Span} {text : String} {g : Nonterminals}

/-- A name is a path in front of anything but the sign `::`. -/
theorem modPath_name (h : Look.isName n) {rest : List TokenTree} {within : Option Delimiter}
    {leftover : Option Fault} (hrest : Look.sign "::" rest = false) :
    Rules.modPath ⟨.ident n :: rest, scope, within, leftover⟩ =
      .ok (.ofIdent n, ⟨rest, scope, within, leftover⟩) := by
  rw [Rules.modPath, bind_eq (sign?_eq_none rfl),
    bind_eq (a := ([n], false)) (j := ⟨rest, scope, within, leftover⟩)]
  · rfl
  · rw [iterate_some (t := ([n], false)) (j := ⟨rest, scope, within, leftover⟩)]
    · exact iterate_none rfl
    · dsimp only
      have word : anyIdent ⟨.ident n :: rest, scope, within, leftover⟩ =
        .ok (n, ⟨rest, scope, within, leftover⟩) := rfl
      rw [bind_eq (sees_eq (b := true) (by simp [Look.ident, h]))]
      exact (bind_eq word _).trans (bind_eq (sign?_eq_none hrest) _)
    · exact Nat.lt_succ_self _

theorem entryPath_name (h : Look.isName n) (hu : n.spells "unsafe" = false)
    {rest : List TokenTree} {within : Option Delimiter} {leftover : Option Fault}
    (hrest : Look.sign "::" rest = false) :
    Rules.entryPath ⟨.ident n :: rest, scope, within, leftover⟩ =
      .ok (.ofIdent n, ⟨rest, scope, within, leftover⟩) := by
  rw [Rules.entryPath, bind_eq (sees_eq hu)]
  exact modPath_name h hrest

/-- A literal behind an equals sign is a value without further reading. -/
theorem entryArgument_literal :
    Rules.entryArgument g (listInput scope [.punct '=' false equals, .literal text here]) =
      .ok (.value equals [.verbatim (.literal text here)]
        (Rules.stringValue? [.literal text here]), listInput scope []) :=
  rfl

/-- The entry that assigns a literal to a name. -/
def assigned (n : Ident) (equals : Span) (text : String) (here : Span) : Entry :=
  ⟨.ofIdent n, .value equals [.verbatim (.literal text here)]
    (Rules.stringValue? [.literal text here]), n.span.through here⟩

theorem stringValue?_assigned : (assigned n equals text here).stringValue? =
    Rules.stringValue? [.literal text here] := rfl

theorem entry_literal (h : Look.isName n) (hu : n.spells "unsafe" = false) :
    Rules.entry g (listInput scope [.ident n, .punct '=' false equals, .literal text here]) =
      .ok (assigned n equals text here, listInput scope []) := by
  rw [Rules.entry, bind_eq (a := ((_, _), n.span.through here)) (j := listInput scope [])]
  · rfl
  · have path : Rules.entryPath (listInput scope
        [.ident n, .punct '=' false equals, .literal text here]) = .ok (.ofIdent n,
          listInput scope [.punct '=' false equals, .literal text here]) := entryPath_name h hu rfl
    rw [spanned, bind_eq path, bind_eq entryArgument_literal]
    rfl

theorem entries_literal (h : Look.isName n) (hu : n.spells "unsafe" = false) :
    entries g (listInput scope [.ident n, .punct '=' false equals, .literal text here]) =
      .ok ([assigned n equals text here], listInput scope []) := by
  rw [entries, listOf, iterate_some (j := listInput scope [])]
  · exact iterate_none rfl
  · dsimp only
    rw [atEnd, bind_eq (sees_eq rfl)]
    exact bind_eq (entry_literal h hu) _
  · exact Nat.succ_pos _

end Entry

/-! ### Written assignments -/

/-- The value of a written string is the string. -/
theorem stringValue?_quoted (value : String) : Rules.stringValue? [quoted value] = some value := by
  have isString : Look.isString (Quoted.write value) := by
    unfold Look.isString Quoted.write
    rw [String.toList_ofList]
    rfl
  rw [quoted, Rules.stringValue?, if_pos isString, Quoted.read?_write]
  rfl

/-- An attribute whose arguments assign a literal to a name lists this assignment. -/
theorem entries?_assigned {a : Grammar.Attribute} {d : Delimiter} {opens closes equals here : Span}
    {n : Ident} {text : String} (h : Look.isName n) (hu : n.spells "unsafe" = false)
    (ha : a.entry.argument =
      .list d opens closes [.ident n, .punct '=' false equals, .literal text here]) :
    a.entries? = some [assigned n equals text here] := by
  have read : Grammar.readAll closes entries
      [.ident n, .punct '=' false equals, .literal text here] = .ok [assigned n equals text here] :=
    readAll_eq (entries_literal h hu)
  rw [Grammar.Attribute.entries?, ha]
  dsimp only
  rw [read]
  rfl

/-- **An attribute that assigns a string** to a name lists this name with this string. -/
theorem entries?_attributeOf {name : String} (h : Look.isName (.plain name))
    (tag value : String) :
    ∃ x : Entry, (attributeOf tag (assignment name value)).entries? = some [x] ∧
      x.path = .ofNames false [name] ∧ x.stringValue? = some value := by
  have hu : (Ident.plain name).spells "unsafe" = false := by
    refine beq_eq_false_iff_ne.2 ?_
    rintro (rfl : name = "unsafe")
    exact absurd h (by decide)
  exact ⟨_, entries?_assigned h hu rfl, rfl,
    stringValue?_assigned.trans (stringValue?_quoted value)⟩

end RequestGroups

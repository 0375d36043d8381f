import RequestGroups.Proofs.Grammar.Reads
import RequestGroups.Proofs.Grammar.Stripping
import RequestGroups.Proofs.Search

/-! # Printed attributes are read back

`Attribute.ReadsBack` says that an attribute is read from its own tokens, up to the places that none
of the tokens has. Then it is also read in front of other trees, and so are attributes one after the
other (`reads_attributes`).

* `readsBack_name`, `readsBack_list`: attributes of a single name are read back, whatever tokens
  they have in delimiters. -/

namespace RequestGroups.Grammar

open RequestGroups.Source Reader

/-! ### Lists -/

theorem countOf_le_flatMap {g : α → List TokenTree} {as : List α} {a : α} (h : a ∈ as) :
    TokenTree.countOf (g a) ≤ TokenTree.countOf (as.flatMap g) := by
  induction as with
  | nil => cases h
  | cons b as ih =>
    rw [List.flatMap_cons, TokenTree.countOf_append]
    rcases List.mem_cons.1 h with rfl | h
    · omega
    · have := ih h
      omega

/-! ### Attributes -/

/-- The argument without the place of its equals sign. -/
def Argument.placeless : Argument → Argument
  | .value _ expression string? => .value .callSite expression string?
  | other => other

/-- The attribute without the places that no token of it has. -/
def Attribute.placeless (a : Attribute) : Attribute :=
  { a with entry := ⟨a.entry.path, a.entry.argument.placeless, .callSite⟩ }

/-- **An attribute is read back** from its tokens, by readers of any depth that is good for them. -/
def Attribute.ReadsBack (a : Attribute) : Prop :=
  ∀ n, 8 * (TokenTree.countOf a.trees + 2) ≤ n → ∃ b : Attribute, b.placeless = a.placeless ∧
    run .callSite (Rules.outerAttributes (level n)) a.trees = .ok [b]

theorem Attribute.trees_flatMap_fieldPhrase (as : List Attribute) :
    Phrase.trees (as.flatMap Attribute.fieldPhrase) = as.flatMap Attribute.trees := by
  induction as with
  | nil => rfl
  | cons a as ih =>
    rw [List.flatMap_cons, List.flatMap_cons, Phrase.trees_append, ih, Attribute.trees_fieldPhrase]
    rfl

theorem Attribute.trees_phraseOf (as : List Attribute) :
    (Attribute.phraseOf as).trees = as.flatMap Attribute.trees := by
  induction as with
  | nil => rfl
  | cons a as ih =>
    rw [Attribute.phraseOf, List.flatMap_cons, Phrase.trees_append, List.flatMap_cons, ← ih]
    rfl

theorem Attribute.trees_eq (a : Attribute) : a.trees = .punct '#' false .callSite ::
    ((if a.inner then [.punct '!' false .callSite] else []) ++
      [.group .bracket .callSite .callSite a.entry.phrase.trees]) := by
  obtain ⟨_ | _, e⟩ := a <;> rfl

namespace Rules

theorem outerAttribute_eq_ok {g : Nonterminals} {tail : List TokenTree} {i j : Input}
    {a : Attribute} (hi : i.rest = .punct '#' false .callSite :: tail) :
    outerAttribute g i = .ok (a, j) ↔
      a.inner = false ∧ inGroup .bracket (entry g) { i with rest := tail } = .ok (a.entry, j) := by
  obtain ⟨ts, scope, within, leftover⟩ := i
  obtain rfl : ts = _ := hi
  have hash : sign "#" ⟨.punct '#' false .callSite :: tail, scope, within, leftover⟩ =
      .ok (Phrase.sign "#", ⟨tail, scope, within, leftover⟩) := rfl
  rw [outerAttribute, bind_eq hash, bind_eq_ok]
  constructor
  · rintro ⟨e, k, hk, h⟩
    cases h
    exact ⟨rfl, hk⟩
  · rintro ⟨ha, hk⟩
    obtain ⟨inner, e⟩ := a
    obtain rfl : inner = false := ha
    exact ⟨e, j, hk, rfl⟩

/-- One step of the reader of attributes. -/
def attributeStep (g : Nonterminals) (done : List Attribute) :
    Reader (Option (List Attribute)) := do
  if !(← sees (Look.sign "#")) then return none
  return some (done ++ [← outerAttribute g])

theorem attributeStep_none {g : Nonterminals} {done : List Attribute} {i : Input}
    (h : Look.sign "#" i.rest = false) : attributeStep g done i = .ok (none, i) := by
  rw [attributeStep, bind_eq (sees_eq h)]
  rfl

theorem attributeStep_eq_ok {g : Nonterminals} {done : List Attribute} {i j : Input}
    {o : Option (List Attribute)} (h : Look.sign "#" i.rest = true) :
    attributeStep g done i = .ok (o, j) ↔
      ∃ a, outerAttribute g i = .ok (a, j) ∧ o = some (done ++ [a]) := by
  have step : attributeStep g done i = (do return some (done ++ [← outerAttribute g])) i := by
    rw [attributeStep, bind_eq (sees_eq h)]
    rfl
  rw [step, bind_eq_ok]
  constructor
  · rintro ⟨a, k, ha, hk⟩
    cases hk
    exact ⟨a, ha, rfl⟩
  · rintro ⟨a, ha, rfl⟩
    exact ⟨a, j, ha, rfl⟩

/-- An attribute that is read alone is read in front of anything. -/
theorem reads_outerAttribute {g : Nonterminals} {a b : Attribute}
    (h : run .callSite (outerAttributes g) a.trees = .ok [b]) :
    Reads (outerAttribute g) a.trees b fun _ => True := by
  obtain ⟨j, hj, hleft, -⟩ := run_eq_ok.1 h
  rw [Attribute.trees_eq] at hj ⊢
  change iterate (attributeStep g) [] (listInput .callSite _) = _ at hj
  rcases hs : attributeStep g [] (listInput .callSite (.punct '#' false .callSite ::
    ((if a.inner then [.punct '!' false .callSite] else []) ++
      [.group .bracket .callSite .callSite a.entry.phrase.trees]))) with fault | ⟨o, k⟩
  · rw [iterate.eq_def, hs] at hj
    exact absurd hj nofun
  · obtain ⟨c, hc, rfl⟩ := (attributeStep_eq_ok rfl).1 hs
    obtain ⟨hinner, hentry⟩ := (outerAttribute_eq_ok rfl).1 hc
    obtain ⟨opens, closes, contents, rest, l, htail, hl, rfl⟩ := inGroup_eq_ok.1 hentry
    -- the brackets stand right behind the sign, and nothing stands behind them
    have outer : a.inner = false := by
      rcases ha : a.inner with _ | _
      · rfl
      · rw [ha] at htail
        exact absurd htail nofun
    rw [outer] at htail hs ⊢
    cases htail
    rw [outer, iterate_some hs (by simp [listInput]), iterate_none (attributeStep_none rfl)] at hj
    cases hj
    intro rest scope within _
    refine (outerAttribute_eq_ok rfl).2 ⟨hinner, ?_⟩
    exact reads_inGroup hl hleft rest scope within trivial

/-- Attributes are read one after the other. -/
theorem reads_outerAttributes {g : Nonterminals} {as bs : List Attribute}
    (h : List.Forall₂ (fun a b => Reads (outerAttribute g) a.trees b fun _ => True) as bs) :
    Reads (outerAttributes g) (as.flatMap Attribute.trees) bs
      fun rest => Look.sign "#" rest = false := by
  intro rest scope within hrest
  have from_done : ∀ done, iterate (attributeStep g) done
      ⟨as.flatMap Attribute.trees ++ rest, scope, within, none⟩ =
        .ok (done ++ bs, ⟨rest, scope, within, none⟩) := by
    induction h with
    | nil =>
      intro done
      rw [List.append_nil]
      exact iterate_none (attributeStep_none hrest)
    | @cons a b as bs hab _ ih =>
      intro done
      have read := hab (as.flatMap Attribute.trees ++ rest) scope within trivial
      have start : Look.sign "#" (a.trees ++ (as.flatMap Attribute.trees ++ rest)) = true := by
        rw [Attribute.trees_eq]
        rfl
      have step : attributeStep g done
          ⟨a.trees ++ (as.flatMap Attribute.trees ++ rest), scope, within, none⟩ =
            .ok (some (done ++ [b]), ⟨as.flatMap Attribute.trees ++ rest, scope, within, none⟩) :=
        (attributeStep_eq_ok start).2 ⟨b, read, rfl⟩
      rw [List.flatMap_cons, List.append_assoc, iterate_some step, ih, List.append_assoc]
      · rfl
      · rw [Attribute.trees_eq]
        simp
        omega
  exact from_done []

end Rules

/-- Attributes that are read back are read in front of other trees. -/
theorem reads_attributes {as : List Attribute} (h : ∀ a ∈ as, a.ReadsBack) {n : Nat}
    (hn : 8 * (TokenTree.countOf (as.flatMap Attribute.trees) + 2) ≤ n) :
    ∃ bs : List Attribute, bs.map Attribute.placeless = as.map Attribute.placeless ∧
      List.Forall₂ (fun a b => Reads (Rules.outerAttribute (level n)) a.trees b fun _ => True)
        as bs := by
  have each : ∀ a ∈ as, ∃ b : Attribute, b.placeless = a.placeless ∧
      Reads (Rules.outerAttribute (level n)) a.trees b fun _ => True := by
    intro a ha
    have part := countOf_le_flatMap (g := Attribute.trees) ha
    obtain ⟨b, same, read⟩ := h a ha n (by omega)
    exact ⟨b, same, Rules.reads_outerAttribute read⟩
  obtain ⟨bs, hbs⟩ := exists_forall₂ each
  exact ⟨bs, forall₂_iff_map_eq.1 (hbs.imp fun _ _ hab => hab.1), hbs.imp fun _ _ hab => hab.2⟩

/-! ### Pieces that are read back -/

namespace Attribute

/-- An attribute is read back if its contents are, by any readers of inner phrases. -/
theorem readsBack_of_entry {a : Attribute} (ha : a.inner = false)
    (h : ∀ g, ∃ e, Attribute.placeless ⟨false, e⟩ = a.placeless ∧
      Rules.entry g ⟨a.entry.phrase.trees, .callSite, some .bracket, none⟩ =
        .ok (e, ⟨[], .callSite, some .bracket, none⟩)) : a.ReadsBack := by
  intro n _
  obtain ⟨e, same, read⟩ := h (level n)
  refine ⟨⟨false, e⟩, same, ?_⟩
  have contents : Reads (inGroup .bracket (Rules.entry (level n)))
      [.group .bracket .callSite .callSite a.entry.phrase.trees] e fun _ => True :=
    reads_inGroup read rfl
  have reads : Reads (Rules.outerAttribute (level n)) a.trees ⟨false, e⟩ fun _ => True := by
    intro rest scope within _
    rw [trees_eq, ha]
    exact (Rules.outerAttribute_eq_ok rfl).2 ⟨rfl, contents rest scope within trivial⟩
  have all := Rules.reads_outerAttributes (.cons reads .nil) [] .callSite none rfl
  rw [List.flatMap_singleton, List.append_nil] at all
  exact run_eq_ok.2 ⟨listInput .callSite [], all, rfl, rfl⟩

/-- An attribute of a name and an argument is read back if its argument is. -/
theorem readsBack_of_argument {n : Ident} (h : Look.isName n) {argument : Argument} (here : Span)
    (hnext : Look.sign "::" argument.phrase.trees = false)
    (hargument : ∀ g, Rules.entryArgument g
      ⟨argument.phrase.trees, .callSite, some .bracket, none⟩ =
        .ok (argument, ⟨[], .callSite, some .bracket, none⟩)) :
    ReadsBack ⟨false, ⟨.ofIdent n, argument, here⟩⟩ := by
  refine readsBack_of_entry rfl fun g => ?_
  have trees : (Entry.phrase ⟨.ofIdent n, argument, here⟩).trees =
      .ident n :: argument.phrase.trees := by
    rw [Entry.phrase, Phrase.trees_append]
    rfl
  have path : Rules.entryPath ⟨.ident n :: argument.phrase.trees, .callSite, some .bracket, none⟩ =
      .ok (.ofIdent n, ⟨argument.phrase.trees, .callSite, some .bracket, none⟩) :=
    entryPath_name h (Look.spells_keyword h (by decide)) hnext
  have both : (do let path ← Rules.entryPath; return (path, ← Rules.entryArgument g))
      ⟨.ident n :: argument.phrase.trees, .callSite, some .bracket, none⟩ =
        .ok ((.ofIdent n, argument), ⟨[], .callSite, some .bracket, none⟩) := by
    rw [bind_eq path]
    exact bind_eq (hargument g) _
  obtain ⟨span, hspan⟩ := spanned_eq both
  refine ⟨⟨.ofIdent n, argument, span⟩, rfl, ?_⟩
  rw [trees, Rules.entry]
  exact bind_eq hspan _

theorem readsBack_name {n : Ident} (h : Look.isName n) (here : Span) :
    ReadsBack ⟨false, ⟨.ofIdent n, .none, here⟩⟩ :=
  readsBack_of_argument h here rfl fun _ => rfl

theorem readsBack_list {n : Ident} (h : Look.isName n) (d : Delimiter) (opens closes here : Span)
    (tokens : List TokenTree) :
    ReadsBack ⟨false, ⟨.ofIdent n, .list d opens closes tokens, here⟩⟩ :=
  readsBack_of_argument h here rfl fun _ => rfl

end Attribute

end RequestGroups.Grammar

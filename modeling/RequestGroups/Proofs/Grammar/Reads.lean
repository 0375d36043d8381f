import RequestGroups.Proofs.Grammar.Results

/-! # Reading in front of other trees

`Reads r ts a next` says that a reader takes given trees in front of whatever satisfies `next`, and
no more. What is read to the end of a text can often be read in front of other trees too: this is
shown here for groups and for visibilities.

* `inGroup_eq_ok`: a group is read by its contents alone;
* `run_eq_ok`: what it means that trees are read to their end;
* `reads_visibility`: a visibility may stand in front of any word. -/

namespace RequestGroups.Grammar

open RequestGroups.Source Reader

/-! ### Reading in front of other trees -/

namespace Reader

/-- In front of any trees with a property, the reader takes all of the given trees and no more. -/
def Reads (r : Reader α) (ts : List TokenTree) (a : α) (next : List TokenTree → Prop) : Prop :=
  ∀ rest scope within, next rest →
    r ⟨ts ++ rest, scope, within, none⟩ = .ok (a, ⟨rest, scope, within, none⟩)

variable {ts : List TokenTree}

/-- A group is read if its contents are, and nothing of them is left over. -/
theorem inGroup_eq_ok {d : Delimiter} {r : Reader α} {i j : Input} {a : α} :
    inGroup d r i = .ok (a, j) ↔ ∃ opens closes inner rest k,
      i.rest = .group d opens closes inner :: rest ∧
      r ⟨inner, closes, some d, i.leftover⟩ = .ok (a, k) ∧
      j = { i with rest := rest, leftover := k.leftover <|> leftoverFault? k } := by
  obtain ⟨ts, scope, within, leftover⟩ := i
  constructor
  · intro h
    match ts, h with
    | .group e opens closes inner :: rest, h =>
      by_cases hd : d = e
      · subst hd
        unfold inGroup at h
        simp only [if_true] at h
        obtain ⟨⟨b, k⟩, hk, h⟩ := Outcome.bind_eq_ok.1 h
        cases h
        exact ⟨opens, closes, inner, rest, k, rfl, hk, rfl⟩
      · unfold inGroup at h
        simp only [hd, if_false] at h
        exact absurd h nofun
  · rintro ⟨opens, closes, inner, rest, k, rfl, hk, rfl⟩
    unfold inGroup
    simp only [if_true]
    rw [hk]
    rfl

theorem Gives.inGroup {P : α → Prop} {d : Delimiter} {r : Reader α} (hr : Gives P r) :
    Gives P (inGroup d r) := by
  intro i a j h
  obtain ⟨_, _, _, _, k, -, hk, -⟩ := inGroup_eq_ok.1 h
  exact hr _ _ _ hk

/-- **What is read of a group** does not depend on what stands behind it. -/
theorem reads_inGroup {d : Delimiter} {r : Reader α} {opens closes : Span}
    {inner : List TokenTree} {a : α} {k : Input}
    (h : r ⟨inner, closes, some d, none⟩ = .ok (a, k))
    (hk : (k.leftover <|> leftoverFault? k) = none) :
    Reads (inGroup d r) [.group d opens closes inner] a fun _ => True := by
  intro rest scope within _
  exact inGroup_eq_ok.2 ⟨opens, closes, inner, rest, k, rfl, h, by rw [hk]⟩

theorem leftover_eq_none {k : Input} :
    (k.leftover <|> leftoverFault? k) = none ↔ k.leftover = none ∧ k.rest = [] := by
  obtain ⟨ts, scope, within, _ | fault⟩ := k
  · cases ts <;> simp [leftoverFault?]
  · simp

theorem run_eq_ok {scope : Span} {r : Reader α} {a : α} : run scope r ts = .ok a ↔
    ∃ j, r (listInput scope ts) = .ok (a, j) ∧ j.leftover = none ∧ j.rest = [] := by
  unfold run
  rw [Outcome.bind_eq_ok]
  constructor
  · rintro ⟨⟨b, j⟩, hr, h⟩
    dsimp only at h
    split at h
    · exact absurd h nofun
    · next hj =>
      cases h
      exact ⟨j, hr, leftover_eq_none.1 hj⟩
  · rintro ⟨j, hr, hj⟩
    refine ⟨(a, j), hr, ?_⟩
    dsimp only
    rw [leftover_eq_none.2 hj]
    rfl

theorem reads_group {d : Delimiter} {r : Reader Phrase} {t : TokenTree} {tail : List TokenTree}
    {scope : Span} {within : Option Delimiter} {p : Phrase} {j : Input}
    (h : group d r ⟨t :: tail, scope, within, none⟩ = .ok (p, j)) (hleft : j.leftover = none) :
    j.rest = tail ∧ Reads (group d r) [t] p fun _ => True := by
  obtain ⟨q, k, hk, hj⟩ := bind_eq_ok.1 h
  obtain ⟨rfl, rfl⟩ := pure_eq_ok.1 hj
  obtain ⟨opens, closes, inner, rest, l, hi, hl, rfl⟩ := inGroup_eq_ok.1 hk
  cases hi
  refine ⟨rfl, fun rest scope' within' _ => ?_⟩
  exact bind_eq (reads_inGroup hl hleft rest scope' within' trivial) _

theorem word?_eq_none {name : String} {i : Input} (h : Look.word name i.rest = false) :
    word? name i = .ok (none, i) := by
  rw [word?, bind_eq (sees_eq h)]
  rfl

theorem word?_eq_some {name : String} {w : Ident} {i : Input} {rest : List TokenTree}
    (h : w.spells name) (hi : i.rest = .ident w :: rest) :
    word? name i = .ok (some (Phrase.ident w), { i with rest }) := by
  rw [word?, bind_eq (sees_eq (b := true) (by rw [hi]; exact h))]
  obtain ⟨ts, scope, within, leftover⟩ := i
  cases hi
  rfl

theorem ahead_eq (i : Input) : ahead i = .ok (i.rest, i) := rfl

theorem spanned_eq {r : Reader α} {i j : Input} {a : α} (h : r i = .ok (a, j)) :
    ∃ span, spanned r i = .ok ((a, span), j) :=
  ⟨_, by rw [spanned, h]⟩

theorem orAsWritten_some {keep : Phrase → α} {r : Reader (Option α)} {i j : Input} {a : α}
    (h : r i = .ok (some a, j)) : orAsWritten keep r i = .ok (a, j) := by
  rw [orAsWritten, h]

theorem ident_eq_ok {n : Ident} (h : Look.isName n) {rest : List TokenTree} {scope : Span}
    {within : Option Delimiter} :
    ident ⟨.ident n :: rest, scope, within, none⟩ = .ok (n, ⟨rest, scope, within, none⟩) :=
  if_pos h

end Reader

/-! ### Words -/

/-- A word that is no identifier does not spell one. -/
theorem Look.spells_keyword {i : Ident} (h : isName i) {name : String} (hk : name ∈ keywords) :
    i.spells name = false := by
  refine beq_eq_false_iff_ne.2 fun hs => ?_
  rw [Ident.spelling] at hs
  rcases hr : i.raw with _ | _
  · rw [hr, if_neg Bool.false_ne_true] at hs
    rw [isName, hr, hs, List.contains_iff_mem.2 hk] at h
    exact absurd h (by decide)
  · rw [hr, if_pos rfl] at hs
    have noMark : ∀ k ∈ keywords, k.toList.take 2 ≠ ['r', '#'] := by decide
    refine noMark name hk ?_
    rw [← hs, String.toList_append]
    rfl

/-- The names that fields may have. -/
def Look.namesField (i : Ident) : Bool := isName i || i.spells "_"

theorem Look.spells_keyword_of_namesField {i : Ident} (h : namesField i) {name : String}
    (hk : name ∈ keywords) (hu : name ≠ "_") : i.spells name = false := by
  rcases Bool.or_eq_true_iff.1 h with h | h
  · exact spells_keyword h hk
  · refine beq_eq_false_iff_ne.2 fun hs => hu ?_
    exact hs.symm.trans (beq_iff_eq.1 h)

/-! ### Visibilities -/

namespace Rules

/-- The restriction in a group of parentheses with given contents. -/
def restrictionOf (inner : List TokenTree) : Reader Phrase :=
  if seesModuleWord inner then
    if inner.length = 1 then Reader.group .paren (Phrase.ident <$> anyIdent) else return []
  else if Look.word "in" inner then
    Reader.group .paren do return (← word "in") ++ (← modPath).phrase
  else return []

theorem restriction_of_group {opens closes : Span} {inner rest : List TokenTree} {scope : Span}
    {within : Option Delimiter} :
    restriction ⟨.group .paren opens closes inner :: rest, scope, within, none⟩ =
      restrictionOf inner ⟨.group .paren opens closes inner :: rest, scope, within, none⟩ :=
  rfl

theorem restriction_of_not_group {i : Input} (h : Look.group .paren i.rest = false) :
    restriction i = .ok ([], i) := by
  have failed : ∃ fault, inGroup .paren ahead i = .error fault := by
    rcases hr : inGroup .paren ahead i with fault | ⟨a, j⟩
    · exact ⟨fault, rfl⟩
    · obtain ⟨opens, closes, inner, rest, k, hi, -⟩ := inGroup_eq_ok.1 hr
      rw [hi] at h
      exact absurd h nofun
  obtain ⟨fault, failed⟩ := failed
  have content : lookAhead (attempt (inGroup .paren ahead)) i = .ok (none, i) := by
    rw [lookAhead, attempt, failed]
  exact bind_eq content _

/-- A restriction that is read to the end is read in front of anything but another group. -/
theorem reads_restriction {ts : List TokenTree} {scope : Span} {within : Option Delimiter}
    {p : Phrase} {j : Input} (h : restriction ⟨ts, scope, within, none⟩ = .ok (p, j))
    (hleft : j.leftover = none) (hend : j.rest = []) :
    Reads restriction ts p fun rest => Look.group .paren rest = false := by
  match ts, h with
  | [], h =>
    cases h
    exact fun rest scope within hrest => restriction_of_not_group hrest
  | .group .paren opens closes inner :: tail, h =>
    rw [restriction_of_group] at h
    -- only a group that is taken leaves nothing behind
    have taken : ∃ r, restrictionOf inner = Reader.group .paren r := by
      unfold restrictionOf at h ⊢
      split_ifs at h ⊢
      · exact ⟨_, rfl⟩
      · cases h
        exact absurd hend nofun
      · exact ⟨_, rfl⟩
      · cases h
        exact absurd hend nofun
    obtain ⟨r, hr⟩ := taken
    rw [hr] at h
    obtain ⟨htail, reads⟩ := reads_group h hleft
    obtain rfl : tail = [] := htail.symm.trans hend
    intro rest scope' within' _
    have := reads rest scope' within' trivial
    rw [List.cons_append, restriction_of_group, hr]
    exact this
  | .group .bracket _ _ _ :: _, h | .group .brace _ _ _ :: _, h | .ident _ :: _, h
  | .punct .. :: _, h | .literal .. :: _, h =>
    cases h
    exact absurd hend nofun

/-- What may stand behind a visibility. -/
def EndsVisibility (ts : List TokenTree) : Prop :=
  Look.word "pub" ts = false ∧ Look.group .paren ts = false

/-- **A visibility that is read to the end** is read in front of a word. -/
theorem reads_visibility {v : Phrase} (h : visibilityOf v.trees = .ok v) :
    Reads visibility v.trees v EndsVisibility := by
  obtain ⟨j, hv, hleft, hend⟩ := run_eq_ok.1 h
  generalize v.trees = ts at hv
  rcases hp : Look.word "pub" ts with _ | _
  · rw [visibility, bind_eq (word?_eq_none hp)] at hv
    obtain ⟨rfl, rfl⟩ := pure_eq_ok.1 hv
    obtain rfl : ts = [] := hend
    intro rest scope within hrest
    exact bind_eq (word?_eq_none hrest.1) _
  · match ts, hp with
    | .ident w :: tail, hp =>
      rw [visibility, bind_eq (word?_eq_some hp rfl)] at hv
      obtain ⟨p, k, hk, hj⟩ := bind_eq_ok.1 hv
      obtain ⟨rfl, rfl⟩ := pure_eq_ok.1 hj
      have reads := reads_restriction hk hleft hend
      intro rest scope within hrest
      rw [visibility, bind_eq (word?_eq_some hp rfl)]
      exact bind_eq (reads rest scope within hrest.2) _

/-- A visibility is nothing or starts with a word. -/
theorem visibility_head {v : Phrase} (h : visibilityOf v.trees = .ok v) :
    v.trees = [] ∨ ∃ w tail, v.trees = .ident w :: tail ∧ w.spells "pub" := by
  obtain ⟨j, hv, -, hend⟩ := run_eq_ok.1 h
  generalize v.trees = ts at hv ⊢
  rcases hp : Look.word "pub" ts with _ | _
  · rw [visibility, bind_eq (word?_eq_none hp)] at hv
    obtain ⟨-, rfl⟩ := pure_eq_ok.1 hv
    exact Or.inl hend
  · match ts, hp with
    | .ident w :: tail, hp => exact Or.inr ⟨w, tail, rfl, hp⟩

theorem noSign_visibility {v : Phrase} (h : visibilityOf v.trees = .ok v) {rest : List TokenTree}
    (hrest : Look.sign "#" rest = false) : Look.sign "#" (v.trees ++ rest) = false := by
  rcases visibility_head h with hv | ⟨w, tail, hv, -⟩
  · rw [hv]
    exact hrest
  · rw [hv]
    rfl

end Rules

end RequestGroups.Grammar

import RequestGroups.Proofs.Grammar.Advancing
import RequestGroups.Proofs.Grammar.PathText

/-! # Paths that are read

A path that is read from a source text has at least one name, all its names are spelled, and
arguments are more than an empty phrase of another form (`Path.IsWritten`). The names stand at the
top of the tokens, since readers of arguments take tokens from the front only.

* `AreSpelled.of_suffix`, `AreSpelled.respanAll`: the rest of spelled tokens, at another place;
* `Rules.segment_isWritten` reads one name, `Rules.path_isWritten` a whole path. -/

namespace RequestGroups

open Source Grammar Reader

/-! ### Spelled tokens -/

namespace Source.AreSpelled

variable {ts us : List TokenTree}

theorem of_suffix (h : AreSpelled ts) (hu : us <:+ ts) : AreSpelled us :=
  fun i hi => h i (hu.subset hi)

/-- Identifiers are spelled wherever they stand. -/
theorem respanAll (h : AreSpelled ts) (s : Span) : AreSpelled (TokenTree.respanAll s ts) := by
  intro i hi
  induction ts with
  | nil => cases hi
  | cons t ts ih =>
    rcases List.mem_cons.1 hi with hi | hi
    · cases t with
      | ident n =>
        cases hi
        exact h n List.mem_cons_self
      | _ => cases hi
    · exact ih (fun j hj => h j (.tail t hj)) hi

end Source.AreSpelled

namespace Grammar

/-! ### Written paths -/

/-- The name is spelled, and arguments without tokens are none. -/
structure PathSegment.IsWritten (s : PathSegment) : Prop where
  spelled : s.ident.IsSpelled
  arguments : s.arguments.trees = [] → s.arguments = []

/-- There is a name, and all names are written. -/
structure Path.IsWritten (p : Path) : Prop where
  some : p.segments ≠ []
  all : ∀ s ∈ p.segments, s.IsWritten

theorem Path.IsWritten.isSpelled {p : Path} (h : p.IsWritten) : p.IsSpelled :=
  fun s hs => (h.all s hs).spelled

namespace Rules

variable {g : Nonterminals} {inExpr : Bool} {i j : Input}

/-- Generic arguments have tokens. -/
theorem gives_genericArguments : Gives (fun p : Phrase => p.trees ≠ []) (genericArguments g) := by
  intro i p j h
  obtain ⟨start, k, hstart, h⟩ := bind_eq_ok.1 h
  obtain ⟨elements, l, -, h⟩ := bind_eq_ok.1 h
  obtain ⟨stop, m, -, h⟩ := bind_eq_ok.1 h
  cases h
  obtain ⟨-, rfl, -⟩ := sign_eq_ok hstart
  exact nofun

theorem gives_arguments (n : Nat) : Gives (fun p : Phrase => p.trees ≠ []) (level n).arguments := by
  cases n with
  | zero => exact fun _ _ _ => nofun
  | succ n => exact gives_genericArguments

/-- A spelled name and the arguments that may stand behind it. -/
theorem gives_named {n : Nat} {name : Ident} (hname : name.IsSpelled)
    (test : List TokenTree → Bool) : Gives PathSegment.IsWritten do
      let ts ← ahead
      if test ts then
        let colons ← sign? "::"
        let arguments ← (level n).arguments
        return ⟨name, colons.getD [] ++ arguments⟩
      else return ⟨name, []⟩ := by
  refine .bind fun ts => .ite (.bind fun colons => ?_) (.pure ⟨hname, fun _ => rfl⟩)
  refine (gives_arguments n).map fun arguments filled => ⟨hname, fun none => ?_⟩
  rw [Phrase.trees_append] at none
  exact absurd (List.append_eq_nil_iff.1 none).2 filled

theorem segment_isWritten {n : Nat} {s : PathSegment} (hi : AreSpelled i.rest)
    (h : segment (level n) inExpr i = .ok (s, j)) : s.IsWritten := by
  unfold segment at h
  obtain ⟨place, k, hk, h⟩ := bind_eq_ok.1 h
  cases hk
  split at h
  · obtain ⟨name, k, hname, h⟩ := bind_eq_ok.1 h
    cases h
    exact ⟨hi name (by simp [rest_of_anyIdent hname]), fun _ => rfl⟩
  · obtain ⟨self, k, hk, h⟩ := bind_eq_ok.1 h
    cases hk
    dsimp only at h
    split at h
    · obtain ⟨name, k, hname, h⟩ := bind_eq_ok.1 h
      exact gives_named (hi name (by simp [rest_of_anyIdent hname])) _ _ _ _ h
    · obtain ⟨name, k, hname, h⟩ := bind_eq_ok.1 h
      exact gives_named (hi name (by simp [rest_of_anyIdent (anyIdent_of_ident hname)])) _ _ _ _ h

/-- More names are written if the ones before them are. -/
theorem moreSegments_isWritten {n : Nat} {names ss : List PathSegment} (hi : AreSpelled i.rest)
    (some : names ≠ []) (all : ∀ s ∈ names, s.IsWritten)
    (h : moreSegments (level n) inExpr names i = .ok (ss, j)) :
    ss ≠ [] ∧ ∀ s ∈ ss, s.IsWritten := by
  -- the tokens to come stay spelled, since the arguments of a name take theirs from the front
  refine (iterate_induction (P := fun done k => AreSpelled k.rest ∧ done ≠ [] ∧
    ∀ s ∈ done, s.IsWritten) ?_ h ⟨hi, some, all⟩).2
  rintro done k o l ⟨hk, some, all⟩ hstep
  obtain ⟨ts, m, hm, hstep⟩ := bind_eq_ok.1 hstep
  cases hm
  split at hstep
  · cases hstep
    exact ⟨hk, some, all⟩
  · obtain ⟨colons, m, hcolons, hstep⟩ := bind_eq_ok.1 hstep
    obtain ⟨s, m', hs, hstep⟩ := bind_eq_ok.1 hstep
    cases hstep
    have hm : AreSpelled m.rest := hk.of_suffix (Advances.suffix hcolons)
    refine ⟨hm.of_suffix (Advances.suffix hs), by simp, ?_⟩
    exact List.forall_mem_append.2 ⟨all, List.forall_mem_singleton.2 (segment_isWritten hm hs)⟩

theorem path_isWritten {n : Nat} {p : Path} (hi : AreSpelled i.rest)
    (h : path (level n) inExpr i = .ok (p, j)) : p.IsWritten := by
  unfold path at h
  obtain ⟨colons, k, hcolons, h⟩ := bind_eq_ok.1 h
  obtain ⟨s, l, hs, h⟩ := bind_eq_ok.1 h
  obtain ⟨ss, m, hss, h⟩ := bind_eq_ok.1 h
  cases h
  have hk : AreSpelled k.rest := hi.of_suffix (Advances.suffix hcolons)
  have first : ∀ t ∈ [s], t.IsWritten := List.forall_mem_singleton.2 (segment_isWritten hk hs)
  obtain ⟨some, all⟩ := moreSegments_isWritten (hk.of_suffix (Advances.suffix hs))
    (List.cons_ne_nil s []) first hss
  exact ⟨some, all⟩

end Rules

/-- **A path that is read** from spelled tokens is written. -/
theorem Path.isWritten_of_readAll {scope : Span} {ts : List TokenTree} {p : Path}
    (hts : AreSpelled ts) (h : readAll scope (fun g => Rules.path g false) ts = .ok p) :
    p.IsWritten := by
  obtain ⟨j, hj⟩ := readAll_eq_ok h
  exact Rules.path_isWritten hts hj

end Grammar

end RequestGroups

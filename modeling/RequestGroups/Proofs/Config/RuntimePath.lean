import RequestGroups.Proofs.Config.Arguments
import RequestGroups.Proofs.Config.Validity
import RequestGroups.Proofs.Grammar.PathWords
import RequestGroups.Proofs.Grammar.ReadPaths

/-! # The path of the library

The path of the library that generated code refers to is read from a string literal, so it is
written like any path that is read (`Path.IsAccepted.isWritten`). In the other direction, the text of
a path of words is accepted as this path (`Path.isAccepted_words`), and every configuration from
arguments has a path that is accepted, the default one included (`Config.isAccepted_ofArguments`). -/

namespace RequestGroups

open Source Grammar Reader

/-! ### Accepted paths -/

/-- Whether the path is what some string literal contains. -/
def Grammar.Path.IsAccepted (p : Path) : Prop := ∃ q : Quotation, q.path = .ok p

namespace Grammar.Path

theorem IsAccepted.isWritten {p : Path} (h : p.IsAccepted) : p.IsWritten := by
  obtain ⟨q, hq⟩ := h
  obtain ⟨-, ts, hts, hread⟩ := Quotation.path_eq_ok.1 hq
  exact isWritten_of_readAll ((areSpelled_of_tokenize hts).respanAll q.span) hread

/-- Words that stand in no source text stay where they are. -/
theorem respanAll_ofWords {rooted : Bool} {first : Ident} {more : List Ident}
    (here : ∀ i ∈ first :: more, i.span = .callSite) :
    TokenTree.respanAll .callSite (ofWords rooted first more).trees =
      (ofWords rooted first more).trees := by
  have word : ∀ i ∈ first :: more, (TokenTree.ident i).respan .callSite = .ident i := by
    intro i hi
    rw [TokenTree.respan, ← here i hi]
  obtain ⟨hfirst, hmore⟩ := List.forall_mem_cons.1 word
  have further : ∀ is : List Ident, (∀ i ∈ is, (TokenTree.ident i).respan .callSite = .ident i) →
      TokenTree.respanAll .callSite (furtherWords is) = furtherWords is := by
    intro is his
    induction is with
    | nil => rfl
    | cons i is ih =>
      obtain ⟨hi, his⟩ := List.forall_mem_cons.1 his
      have next : furtherWords (i :: is) =
          (Phrase.sign "::").trees ++ .ident i :: furtherWords is := rfl
      rw [next, TokenTree.respanAll_append, TokenTree.respanAll, hi, ih his]
      rfl
  rw [trees_ofWords, TokenTree.respanAll_append, TokenTree.respanAll, hfirst, further more hmore]
  cases rooted <;> rfl

/-- **The text of a path of words** is accepted as this path. -/
theorem isAccepted_words {rooted : Bool} {first : Ident} {more : List Ident}
    (words : ∀ i ∈ first :: more, Rules.isPathWord i ∧ i.IsSpelled ∧ i.span = .callSite) :
    (ofWords rooted first more).IsAccepted := by
  have spelled : (ofWords rooted first more).IsSpelled := by
    intro s hs
    obtain ⟨i, hi, rfl⟩ := List.mem_map.1 hs
    exact (words i hi).2.1
  have plain : (ofWords rooted first more).isPlain := by simp [ofWords, isPlain]
  obtain ⟨ts, hts, same⟩ := tokenize_text spelled
  rw [bare_eq_self plain, respanAll_ofWords fun i hi => (words i hi).2.2] at same
  obtain ⟨hfirst, hmore⟩ := List.forall_mem_cons.1 fun i hi => (words i hi).1
  refine ⟨⟨(ofWords rooted first more).text, "", .callSite⟩,
    Quotation.path_eq_ok.2 ⟨rfl, ts, hts, ?_⟩⟩
  rw [same]
  have reads : Reads (Rules.path (grammar (ofWords rooted first more).trees) false)
      (ofWords rooted first more).trees _ _ := Rules.path_words hfirst hmore
  have read := reads [] .callSite none ⟨rfl, rfl⟩
  rw [List.append_nil] at read
  exact readAll_eq read

end Grammar.Path

/-! ### Configurations -/

/-- What is assigned has a property, if it is a path. -/
def Setting.Paths (P : Path → Prop) : Setting → Prop
  | .runtime path => P path
  | .headersType _ | .bodyType _ | .constructor _ | .headerValues _ => True

theorem gives_setting_paths : Gives (Setting.Paths Path.IsAccepted) setting :=
  gives_setting_of (fun _ _ _ => ⟨trivial, trivial, trivial⟩) (fun _ => trivial)
    fun q _ h => ⟨q, h⟩

namespace Config

theorem isAccepted_assign {c : Config} {s : Setting} (hc : c.runtime.IsAccepted)
    (hs : s.Paths Path.IsAccepted) : (c.assign s).runtime.IsAccepted := by
  cases s with
  | runtime path => exact hs
  | _ => exact hc

/-- **The path of the library** is accepted, whatever the arguments are. -/
theorem isAccepted_ofArguments {ts : List TokenTree} {c : Config} (h : ofArguments ts = .ok c) :
    c.runtime.IsAccepted := by
  obtain ⟨settings, hread, rfl⟩ := ofArguments_eq_ok.1 h
  obtain ⟨j, hj, -⟩ := run_eq_ok.1 hread
  have accepted : ∀ s ∈ settings, s.Paths Path.IsAccepted := gives_setting_paths.listOf _ _ _ hj
  have default : (Path.ofWords true (.plain "request_model") []).IsAccepted :=
    Path.isAccepted_words (by decide)
  have start : (Config.runtime {}).IsAccepted := default
  exact List.foldlRecOn (motive := fun c => c.runtime.IsAccepted) settings assign start
    fun c hc s hs => isAccepted_assign hc (accepted s hs)

end Config

end RequestGroups

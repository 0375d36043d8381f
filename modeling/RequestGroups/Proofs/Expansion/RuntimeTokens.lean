import RequestGroups.Proofs.Config.RuntimePath
import RequestGroups.Proofs.Expansion.RepeatedDerives

/-! # Two forms of the path of the library

A record names the serialization library twice: with the tokens of a path in its derives, and with
the text of this path in a string literal. Arguments of names are no part of the text. So the
literal contains the tokens of the path exactly if no name of the configured path has arguments
(`Config.RendersRuntime`). -/

namespace RequestGroups

open Source Grammar Text

variable {c : Config}

namespace Config

/-! ### The path of the serialization library -/

/-- The path of the serialization library. -/
def serdePath (c : Config) : Path := c.runtimePath ["__private", "serde"]

/-- The text that stands for it in a literal. -/
def serdeText (c : Config) : String := c.runtime.text ++ "::__private::serde"

theorem text_serdePath (h : c.runtime.segments ≠ []) : c.serdePath.text = c.serdeText := by
  rw [serdePath, runtimePath, Path.text_append h (by decide), serdeText, String.append_assoc]
  rfl

/-- The trait is named behind the path of the library. -/
theorem trees_serializePath (c : Config) : (serializePath c).trees =
    c.serdePath.trees ++ ((Phrase.sign "::").trees ++ [.ident (.plain "Serialize")]) := by
  have longer : serializePath c = c.serdePath.append ["Serialize"] := by
    simp only [serializePath, serdePath, runtimePath, Path.append, List.append_assoc]
    rfl
  have some : c.serdePath.segments ≠ [] := by simp [serdePath, runtimePath, Path.append]
  rw [longer, Path.trees_append some (by decide)]
  rfl

theorem isWritten_serdePath (h : c.runtime.IsWritten) : c.serdePath.IsWritten where
  some := by simp [serdePath, runtimePath, Path.append]
  all := by
    have names : ∀ n ∈ ["__private", "serde"], (Ident.plain n).IsSpelled := by decide
    intro s hs
    rcases List.mem_append.1 hs with hs | hs
    · exact h.all s hs
    · obtain ⟨n, hn, rfl⟩ := List.mem_map.1 hs
      exact ⟨names n hn, fun _ => rfl⟩

/-- **The text has the tokens of the path** exactly if no name has arguments. -/
theorem tokenize_serdeText (h : c.runtime.IsWritten) :
    ∃ ts, tokenize c.serdeText = .ok ts ∧
      (TokenTree.respanAll .callSite ts = TokenTree.respanAll .callSite c.serdePath.trees ↔
        c.runtime.isPlain) ∧
      (TokenTree.wordsOf ts = TokenTree.wordsOf c.serdePath.trees ↔ c.runtime.isPlain) := by
  have written := isWritten_serdePath h
  obtain ⟨ts, hts, same⟩ := Path.tokenize_text written.isSpelled
  rw [text_serdePath h.some] at hts
  have plain : c.serdePath.isPlain = c.runtime.isPlain := Path.isPlain_append _
  have words : TokenTree.wordsOf ts = TokenTree.wordsOf c.serdePath.trees ↔ c.runtime.isPlain := by
    have read : TokenTree.wordsOf ts = TokenTree.wordsOf c.serdePath.bare.trees := by
      rw [← TokenTree.wordsOf_respanAll .callSite ts, same, TokenTree.wordsOf_respanAll]
    rw [read, ← plain]
    exact Path.words_bare_iff fun s hs => (written.all s hs).arguments
  refine ⟨ts, hts, ?_, words⟩
  constructor
  · intro h
    have sameWords := congrArg TokenTree.wordsOf h
    rw [TokenTree.wordsOf_respanAll, TokenTree.wordsOf_respanAll] at sameWords
    exact words.1 sameWords
  · intro h
    rw [same, Path.bare_eq_self (plain.trans h)]

/-! ### Records -/

/-- **The path of the library** in the two forms that records have of it. -/
structure RendersRuntime (c : Config) : Prop where
  /-- A record derives serialization from the path, and a literal has the text of the path. -/
  emitted : ∀ (e : Expansion) (r : Role), ∃ more after,
    ((e.record r).emit e.declaration c).trees =
      [.punct '#' false .callSite,
        .group .bracket .callSite .callSite [.ident (.plain "derive"),
          .group .paren .callSite .callSite (c.serdePath.trees ++
            ((Phrase.sign "::").trees ++ [.ident (.plain "Serialize")]) ++ more)],
        .punct '#' false .callSite,
        .group .bracket .callSite .callSite [.ident (.plain "serde"),
          .group .paren .callSite .callSite [.ident (.plain "crate"), .punct '=' false .callSite,
            .literal (Quoted.write c.serdeText) .callSite]]] ++ after
  /-- The contents of the literal are this text. -/
  contents : Quoted.read? (Quoted.write c.serdeText) = some (c.serdeText, "")
  /-- They are tokens, and the ones of the path exactly if no name has arguments. -/
  agree : ∃ ts, tokenize c.serdeText = .ok ts ∧
    (TokenTree.respanAll .callSite ts = TokenTree.respanAll .callSite c.serdePath.trees ↔
      c.runtime.isPlain) ∧
    (TokenTree.wordsOf ts = TokenTree.wordsOf c.serdePath.trees ↔ c.runtime.isPlain)
  /-- The names of the path are spelled, so that its text tells it apart. -/
  spelled : c.runtime.IsSpelled

theorem rendersRuntime_of_isWritten (h : c.runtime.IsWritten) : c.RendersRuntime where
  emitted e r := by
    refine ⟨(Derives.forwarded e.declaration.derives).flatMap fun p =>
      .punct ',' false .callSite :: p.trees,
      structTrees (e.record r).name ((e.record r).fields.map GroupRecord.fieldCode), ?_⟩
    rw [trees_record, trees_deriveAttribute, trees_serializePath]
    rfl
  contents := Quoted.read?_write _
  agree := tokenize_serdeText h
  spelled := h.isSpelled

/-- **Records name the library in two forms** that agree exactly for paths without arguments,
whatever path is configured, and arguments configure accepted paths only; paths without arguments
are told apart by their texts. -/
theorem rendersRuntime_of_isAccepted (h : c.runtime.IsAccepted) : c.RendersRuntime ∧
    (∀ ts c', ofArguments ts = .ok c' → c'.runtime.IsAccepted) ∧
    ∀ p q : Path, p.IsSpelled → q.IsSpelled → p.isPlain → q.isPlain → p.text = q.text →
      TokenTree.respanAll .callSite p.trees = TokenTree.respanAll .callSite q.trees := by
  refine ⟨rendersRuntime_of_isWritten h.isWritten, fun ts c' => isAccepted_ofArguments,
    fun p q hp hq plainP plainQ same => ?_⟩
  have bare := Path.trees_bare_of_text hp hq same
  rwa [Path.bare_eq_self plainP, Path.bare_eq_self plainQ] at bare

/-- A path from the root of the names, with a raw name. -/
def rawRuntime : Path := .ofWords true ⟨true, "try", .callSite⟩ [.plain "outer"]

theorem isAccepted_rawRuntime : rawRuntime.IsAccepted := Path.isAccepted_words (by decide)

/-- A literal with a path that has arguments. -/
def genericLiteral : Quotation := ⟨"outer::models<u8>", "", .callSite⟩

theorem isPlain_genericLiteral : genericLiteral.path.toOption.map Path.isPlain = some false := by
  decide +kernel

/-- Both cases occur. -/
theorem rendersRuntime_raw_and_generic :
    (rawRuntime.isPlain ∧ Config.RendersRuntime { runtime := rawRuntime } ∧
      rawRuntime.text = "::r#try::outer") ∧
    ∃ p : Path, genericLiteral.path = .ok p ∧ p.isPlain = false ∧
      Config.RendersRuntime { runtime := p } := by
  obtain ⟨p, hp, hplain⟩ := Option.map_eq_some_iff.1 isPlain_genericLiteral
  have accepted := Outcome.toOption_eq_some.1 hp
  exact ⟨⟨by decide, (rendersRuntime_of_isAccepted isAccepted_rawRuntime).1, by decide⟩,
    p, accepted, hplain, (rendersRuntime_of_isAccepted ⟨_, accepted⟩).1⟩

end Config

end RequestGroups

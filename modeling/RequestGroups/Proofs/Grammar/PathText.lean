import RequestGroups.Grammar.Path
import RequestGroups.Proofs.Source.Words

/-! # Paths as tokens and as text

The text of a path leaves the arguments of its names out. Read as source text, it has the tokens of
the path without its arguments, so it has those of the path itself exactly if there are none.

* `Path.ofWords` is a path of words without arguments, and `Path.trees_ofWords` its tokens;
* `Path.bare` drops all arguments, and `Path.words_bare_iff` tells from the tokens whether there are
  any;
* `Path.tokenize_text` reads the text of a path, and `Path.trees_bare_of_text` tells paths apart by
  their texts. -/

namespace RequestGroups.Grammar

open Source Text

variable {p q : Path} {s : PathSegment} {ss ts : List PathSegment} {names : List String}

/-- Words, each of them behind `::`. -/
def furtherWords (is : List Ident) : List TokenTree :=
  is.flatMap fun i => (Phrase.sign "::").trees ++ [.ident i]

/-- The name without its arguments. -/
def PathSegment.bare (s : PathSegment) : PathSegment := ⟨s.ident, []⟩

namespace Path

/-! ### The tokens of a path -/

theorem trees_segmentsPhrase_singleton (s : PathSegment) :
    (segmentsPhrase [s]).trees = .ident s.ident :: s.arguments.trees := by
  rw [segmentsPhrase, Phrase.trees_append]
  rfl

/-- The first name with its arguments, and the other ones behind it. -/
theorem trees_segmentsPhrase_cons (s : PathSegment) (some : ss ≠ []) :
    (segmentsPhrase (s :: ss)).trees = .ident s.ident ::
      (s.arguments.trees ++ ((Phrase.sign "::").trees ++ (segmentsPhrase ss).trees)) := by
  obtain ⟨t, ss, rfl⟩ := List.exists_cons_of_ne_nil some
  simp only [segmentsPhrase, Phrase.trees_append, List.append_assoc]
  rfl

theorem trees_segmentsPhrase_append (hs : ss ≠ []) (ht : ts ≠ []) :
    (segmentsPhrase (ss ++ ts)).trees =
      (segmentsPhrase ss).trees ++ ((Phrase.sign "::").trees ++ (segmentsPhrase ts).trees) := by
  induction ss with
  | nil => exact absurd rfl hs
  | cons s ss ih =>
    rw [List.cons_append, trees_segmentsPhrase_cons s (by simp [ht])]
    by_cases last : ss = []
    · rw [last, List.nil_append, trees_segmentsPhrase_singleton, List.cons_append]
    · rw [ih last, trees_segmentsPhrase_cons s last]
      simp only [List.cons_append, List.append_assoc]

theorem trees_eq (p : Path) : p.trees =
    (if p.rooted then (Phrase.sign "::").trees else []) ++ (segmentsPhrase p.segments).trees := by
  rw [trees, phrase, Phrase.trees_append]
  cases p.rooted <;> rfl

/-- A path of words without arguments. -/
def ofWords (rooted : Bool) (first : Ident) (more : List Ident) : Path :=
  ⟨rooted, (first :: more).map (⟨·, []⟩)⟩

theorem trees_segmentsPhrase_words (first : Ident) (more : List Ident) :
    (segmentsPhrase ((first :: more).map (⟨·, []⟩))).trees =
      .ident first :: furtherWords more := by
  induction more generalizing first with
  | nil => rfl
  | cons i more ih =>
    rw [List.map_cons, trees_segmentsPhrase_cons _ (by simp), ih]
    rfl

theorem trees_ofWords (rooted : Bool) (first : Ident) (more : List Ident) :
    (ofWords rooted first more).trees = (if rooted then (Phrase.sign "::").trees else []) ++
      .ident first :: furtherWords more := by
  rw [trees_eq, ofWords, trees_segmentsPhrase_words]

/-! ### Longer paths -/

/-- A path of some names goes on behind `::`. -/
theorem trees_append (some : p.segments ≠ []) (more : names ≠ []) : (p.append names).trees =
    p.trees ++ ((Phrase.sign "::").trees ++ (ofNames false names).trees) := by
  rw [trees_eq, trees_eq p, trees_eq (ofNames _ _), append,
    trees_segmentsPhrase_append some (by simpa using more), List.append_assoc]
  rfl

theorem text_append (some : p.segments ≠ []) (more : names ≠ []) :
    (p.append names).text = p.text ++ "::" ++ "::".intercalate names := by
  have plain : (names.map fun n => (⟨.plain n, []⟩ : PathSegment)).map (·.ident.spelling) =
      names := by
    rw [List.map_map]
    exact List.map_id names
  rw [text, text, append, List.map_append, plain,
    String.intercalate_append_of_ne_nil (by simpa using some) more]
  simp only [String.append_assoc]

theorem isPlain_append (names : List String) : (p.append names).isPlain = p.isPlain := by
  simp [isPlain, append]

/-! ### Paths without arguments -/

/-- The path without the arguments of its names. -/
def bare (p : Path) : Path := { p with segments := p.segments.map PathSegment.bare }

theorem bare_eq_self (h : p.isPlain) : p.bare = p := by
  have same : ∀ s ∈ p.segments, s.bare = s := by
    intro s hs
    have none := List.isEmpty_iff.1 (List.all_eq_true.1 h s hs)
    rw [PathSegment.bare, ← none]
  rw [bare, List.map_congr_left same, List.map_id']

/-- The tokens of the arguments stand between those of the names. -/
theorem length_words_segmentsPhrase (ss : List PathSegment) :
    (TokenTree.wordsOf (segmentsPhrase ss).trees).length =
      (TokenTree.wordsOf (segmentsPhrase (ss.map PathSegment.bare)).trees).length +
        (ss.flatMap fun s => TokenTree.wordsOf s.arguments.trees).length := by
  induction ss with
  | nil => rfl
  | cons s ss ih =>
    rw [List.map_cons, List.flatMap_cons, List.length_append]
    by_cases last : ss = []
    · rw [last, List.map_nil, trees_segmentsPhrase_singleton, trees_segmentsPhrase_singleton]
      simp [PathSegment.bare, TokenTree.wordsOf]
    · rw [trees_segmentsPhrase_cons s last, trees_segmentsPhrase_cons _ (by simpa using last)]
      simp only [TokenTree.wordsOf, TokenTree.wordsOf_append, List.length_append, ih]
      simp [PathSegment.bare, TokenTree.words, TokenTree.wordsOf]
      omega

theorem length_words (p : Path) : (TokenTree.wordsOf p.trees).length =
    (TokenTree.wordsOf p.bare.trees).length +
      (p.segments.flatMap fun s => TokenTree.wordsOf s.arguments.trees).length := by
  rw [trees_eq, trees_eq p.bare, TokenTree.wordsOf_append, TokenTree.wordsOf_append,
    List.length_append, List.length_append, length_words_segmentsPhrase, Nat.add_assoc]
  rfl

/-- **Without its arguments** a path has other tokens, unless there are none. -/
theorem words_bare_iff (h : ∀ s ∈ p.segments, s.arguments.trees = [] → s.arguments = []) :
    TokenTree.wordsOf p.bare.trees = TokenTree.wordsOf p.trees ↔ p.isPlain := by
  constructor
  · intro same
    -- as many tokens as without arguments leave none for them
    have none : (p.segments.flatMap fun s => TokenTree.wordsOf s.arguments.trees).length = 0 := by
      have total := length_words p
      rw [same] at total
      omega
    refine List.all_eq_true.2 fun s hs => List.isEmpty_iff.2 (h s hs ?_)
    exact TokenTree.wordsOf_eq_nil.1 (List.flatMap_eq_nil_iff.1 (List.length_eq_zero_iff.1 none) s hs)
  · intro plain
    rw [bare_eq_self plain]

/-! ### The text of a path -/

/-- Whether all names of the path are spelled. -/
def IsSpelled (p : Path) : Prop := ∀ s ∈ p.segments, s.ident.IsSpelled

/-- The names with colons between them. -/
def namesText (ss : List PathSegment) : String := "::".intercalate (ss.map (·.ident.spelling))

theorem toList_text (p : Path) :
    p.text.toList = (if p.rooted then [':', ':'] else []) ++ (namesText p.segments).toList := by
  rw [text, String.toList_append]
  cases p.rooted <;> rfl

theorem toList_namesText_cons (s : PathSegment) (some : ss ≠ []) : (namesText (s :: ss)).toList =
    s.ident.spelling.toList ++ ':' :: ':' :: (namesText ss).toList := by
  rw [namesText, List.map_cons, String.intercalate_cons_of_ne_nil (by simpa using some),
    String.append_assoc, String.toList_append, String.toList_append]
  rfl

/-- What the names start with starts an identifier. -/
theorem namesText_front (h : ∀ s ∈ ss, s.ident.IsSpelled) :
    ∀ c cs, (namesText ss).toList = c :: cs → isIdentStart c := by
  intro c cs hcs
  cases ss with
  | nil => cases hcs
  | cons s ss =>
    obtain ⟨rest, front⟩ : ∃ rest, (namesText (s :: ss)).toList =
        s.ident.spelling.toList ++ rest := by
      by_cases last : ss = []
      · exact ⟨[], by simp [last, namesText]⟩
      · exact ⟨_, toList_namesText_cons s last⟩
    obtain ⟨d, ds, hds, hd⟩ := (h s List.mem_cons_self).exists_start rest
    rw [front, hds] at hcs
    cases hcs
    exact hd

theorem sign?_namesText (h : ∀ s ∈ ss, s.ident.IsSpelled) :
    (sign? (namesText ss).toList).isSome = false := by
  have start := namesText_front h
  generalize (namesText ss).toList = text at start
  cases text with
  | nil => rfl
  | cons c cs => rw [sign?_of_isIdentStart (start c cs rfl), Option.isSome_none]

/-- **Names with colons between them** are read as the names of a path without arguments. -/
theorem lexes_namesText (h : ∀ s ∈ ss, s.ident.IsSpelled) : Lexes (namesText ss).toList
    (TokenTree.respanAll .callSite (segmentsPhrase (ss.map PathSegment.bare)).trees) := by
  induction ss with
  | nil => exact lexes_nil
  | cons s ss ih =>
    obtain ⟨hs, hss⟩ := List.forall_mem_cons.1 h
    -- a name ends at the end of the text, or at the colons behind it
    by_cases last : ss = []
    · subst last
      have alone := lexes_spelling hs (.inl rfl) lexes_nil
      rwa [List.append_nil] at alone
    · have more := lexes_colons (sign?_namesText hss) (ih hss)
      rw [toList_namesText_cons s last, List.map_cons,
        trees_segmentsPhrase_cons _ (by simpa using last)]
      exact lexes_spelling hs (.inr ⟨_, rfl⟩) more

theorem lexes_text (h : p.IsSpelled) :
    Lexes p.text.toList (TokenTree.respanAll .callSite p.bare.trees) := by
  have names := lexes_namesText h
  rw [trees_eq, TokenTree.respanAll_append, toList_text, bare]
  cases p.rooted with
  | false => exact names
  | true => exact lexes_colons (sign?_namesText h) names

/-- **The text of a path** has the tokens of the path without its arguments. -/
theorem tokenize_text (h : p.IsSpelled) : ∃ ts, tokenize p.text = .ok ts ∧
    TokenTree.respanAll .callSite ts = TokenTree.respanAll .callSite p.bare.trees := by
  refine (lexes_text h).tokenize ?_
  rw [toList_text]
  cases p.rooted with
  | true => exact nofun
  | false =>
    intro mark
    obtain ⟨cs, hcs⟩ := List.head?_eq_some_iff.1 mark
    have start := namesText_front h _ cs hcs
    rw [isIdentStart_byteOrderMark] at start
    cases start

/-- **Paths of the same text** are the same but for their arguments. -/
theorem trees_bare_of_text (hp : p.IsSpelled) (hq : q.IsSpelled) (h : p.text = q.text) :
    TokenTree.respanAll .callSite p.bare.trees = TokenTree.respanAll .callSite q.bare.trees := by
  obtain ⟨ts, hts, hp⟩ := tokenize_text hp
  obtain ⟨us, hus, hq⟩ := tokenize_text hq
  rw [h, hus] at hts
  cases hts
  rw [← hp, hq]

end Path

end RequestGroups.Grammar

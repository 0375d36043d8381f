import RequestGroups.Proofs.Search
import RequestGroups.Proofs.Source.Identifier

/-! # Words and colons are single tokens

A spelled identifier in front of nothing or of a colon is one piece for the lexer, and so is a
colon. In the other direction, all identifiers among the trees of a text are spelled.

* `isSeparator_of_isIdentStart`: what starts identifiers separates no tokens, by the tables of both;
* `scan_spelling` and `scan_colon` read one piece;
* `Lexes` is the reading of a whole text, wherever it stands, and `lexes_spelling`, `lexes_colons`
  put pieces in front;
* `areSpelled_of_tokenize`: the identifiers of a text. -/

namespace RequestGroups.Source

open RequestGroups.Text

variable {c : Char} {cs rest : List Char} {i : Ident}

/-! ### Characters -/

/-- What separates tokens beyond ASCII, and the byte order mark. -/
def separatorRanges : List (Nat × Nat) :=
  blankRanges.ranges ++ [(0x200e, 0x200e), (0x200f, 0x200f), (0xfeff, 0xfeff)]

/-- The tables of both classes have nothing in common. -/
theorem identStartRanges_disjoint : ∀ s ∈ separatorRanges,
    identStartRanges.ranges.all fun r => r.2 < s.1 || s.2 < r.1 := by
  decide +kernel

theorem not_isIdentStart_of_mem {s : Nat × Nat} (hs : s ∈ separatorRanges) (beyond : 128 ≤ c.toNat)
    (hc : s.1 ≤ c.toNat ∧ c.toNat ≤ s.2) : isIdentStart c = false := by
  rw [isIdentStart, if_neg (Nat.not_lt.2 beyond), CodeRanges.contains, List.any_eq_false]
  intro r hr within
  have apart := List.all_eq_true.1 (identStartRanges_disjoint s hs) r hr
  simp only [Bool.or_eq_true, Bool.and_eq_true, decide_eq_true_eq] at apart within
  omega

/-- A property that no ASCII character has which starts identifiers. -/
theorem eq_false_of_ascii {P : Char → Bool} (h : isIdentStart c) (ascii : c.toNat < 128)
    (table : ∀ n < 128, isIdentStart (.ofNat n) → P (.ofNat n) = false) : P c = false := by
  have entry := table c.toNat ascii
  rw [Char.ofNat_toNat] at entry
  exact entry h

/-- **What starts an identifier** separates no tokens. -/
theorem isSeparator_of_isIdentStart (h : isIdentStart c) : isSeparator c = false := by
  by_cases ascii : c.toNat < 128
  · exact eq_false_of_ascii h ascii (by decide)
  · have beyond : 128 ≤ c.toNat := Nat.not_lt.1 ascii
    rw [Bool.eq_false_iff]
    intro separates
    obtain ⟨s, hs, hc⟩ : ∃ s ∈ separatorRanges, s.1 ≤ c.toNat ∧ c.toNat ≤ s.2 := by
      rw [isSeparator, isBlank, if_neg ascii, Bool.or_eq_true, Bool.or_eq_true] at separates
      rcases separates with (blank | mark) | mark
      · obtain ⟨s, hs, hc⟩ := List.any_eq_true.1 blank
        refine ⟨s, List.mem_append_left _ hs, ?_⟩
        simpa only [Bool.and_eq_true, decide_eq_true_eq] using hc
      · exact ⟨(0x200e, 0x200e), by decide, (beq_iff_eq.1 mark).ge, (beq_iff_eq.1 mark).le⟩
      · exact ⟨(0x200f, 0x200f), by decide, (beq_iff_eq.1 mark).ge, (beq_iff_eq.1 mark).le⟩
    rw [not_isIdentStart_of_mem hs beyond hc] at h
    cases h

theorem isIdentStart_byteOrderMark : isIdentStart '\ufeff' = false :=
  not_isIdentStart_of_mem (s := (0xfeff, 0xfeff)) (by decide) (by decide) (by decide)

/-- A character that starts identifiers is none that does not. -/
theorem ne_of_isIdentStart {d : Char} (h : isIdentStart c) (hd : isIdentStart d = false) :
    c ≠ d := by
  rintro rfl
  rw [h] at hd
  cases hd

theorem isDigit_of_isIdentStart (h : isIdentStart c) : c.isDigit = false := by
  by_cases ascii : c.toNat < 128
  · exact eq_false_of_ascii h ascii (by decide)
  · rw [Bool.eq_false_iff]
    intro digit
    simp only [Char.isDigit, Bool.and_eq_true, decide_eq_true_eq] at digit
    have upper := UInt32.le_iff_toNat_le.1 digit.2
    exact ascii (Nat.lt_of_le_of_lt upper (by decide))

theorem sign?_of_isIdentStart (h : isIdentStart c) : sign? (c :: cs) = none := by
  have table : "~!@#$%^&*-=+|;:,<.>/?'".toList.contains c = false := by
    by_cases ascii : c.toNat < 128
    · exact eq_false_of_ascii h ascii (by decide)
    · rw [Bool.eq_false_iff]
      intro mem
      have all : ("~!@#$%^&*-=+|;:,<.>/?'".toList.all fun d => d.toNat < 128) = true := by decide
      exact ascii (decide_eq_true_iff.1 (List.all_eq_true.1 all c (List.contains_iff_mem.1 mem)))
  rw [sign?, table]
  rfl

/-! ### Literals start otherwise -/

/-- A reader behind a given start fails if it fails on every text with this start. -/
theorem dropStart_bind_eq_none {start : String} {f : List Char → Option (List Char)}
    (h : ∀ ds, cs = start.toList ++ ds → f ds = none) : (dropStart start cs >>= f) = none := by
  rw [Option.bind_eq_bind, Option.bind_eq_none_iff]
  intro ds hds
  obtain ⟨hstart, hds⟩ := Option.ite_none_right_eq_some.1 hds
  obtain ⟨more, rfl⟩ := List.isPrefixOf_iff_prefix.1 hstart
  cases hds
  exact h _ (by rw [← String.length_toList, List.drop_left])

/-- No raw literal starts where neither a quote nor a hash stands. -/
theorem dropRaw_eq_none {k : Quoted.Rules} (quote : cs.head? ≠ some '"')
    (hash : cs.head? ≠ some '#') : dropRaw k cs = none := by
  have none : cs.takeWhile (· == '#') = [] := by
    cases cs with
    | nil => rfl
    | cons d ds => exact List.takeWhile_cons_of_neg (by simpa using hash)
  unfold dropRaw
  rw [none]
  cases cs with
  | nil => rfl
  | cons d ds =>
    dsimp only [List.length_nil, List.drop_zero]
    split
    · next h =>
      cases h
      exact absurd rfl quote
    · rfl

theorem dropFloatDigits_of_isIdentStart (h : isIdentStart c) : dropFloatDigits (c :: cs) = none := by
  rw [dropFloatDigits, List.head?_cons, Option.any_some, isDigit_of_isIdentStart h]
  rfl

/-- A hexadecimal digit that starts identifiers is a letter. -/
theorem ten_le_of_digit? (h : isIdentStart c) {d : Nat} (hd : Hex.digit? c = some d) :
    ¬ d < 10 := by
  have noDigit := isDigit_of_isIdentStart h
  unfold Hex.digit? at hd
  split at hd
  · next digit =>
    have isDigit : c.isDigit := by
      rw [Char.isDigit, Bool.and_eq_true, decide_eq_true_iff, decide_eq_true_iff]
      exact digit
    rw [noDigit] at isDigit
    cases isDigit
  · split at hd
    · next letter =>
      cases hd
      have lower : 97 ≤ c.toNat := UInt32.le_iff_toNat_le.1 letter.1
      omega
    · split at hd
      · next letter =>
        cases hd
        have lower : 65 ≤ c.toNat := UInt32.le_iff_toNat_le.1 letter.1
        omega
      · cases hd

theorem dropIntegerDigits_of_isIdentStart (h : isIdentStart c) :
    dropIntegerDigits (c :: cs) = none := by
  have zero : c ≠ '0' := ne_of_isIdentStart h (by decide)
  have decimal : dropIntegerDigits (c :: cs) = dropDigits 10 false (c :: cs) := by
    unfold dropIntegerDigits
    split <;> simp_all
  have large : ∀ d, Hex.digit? c = some d → ¬ d < 10 := fun d hd => ten_le_of_digit? h hd
  rw [decimal, dropDigits, isDigit_of_isIdentStart h]
  by_cases low : c = '_'
  · simp [low]
  · rcases hd : Hex.digit? c with _ | d
    · simp [low]
    · simp [low, large d hd]

/-- **No literal** starts with a character that starts identifiers, unless a quote or hashes stand
behind one of the letters that mark literals. -/
theorem dropLiteral_of_isIdentStart (h : isIdentStart c) (quote : cs.head? ≠ some '"')
    (tick : cs.head? ≠ some '\'') (raw : c = 'r' → dropRaw .string cs = none)
    (more : ∀ ds k, cs = 'r' :: ds → dropRaw k ds = none) : dropLiteral (c :: cs) = none := by
  have first : ∀ {d : Char} {ds : List Char}, isIdentStart d = false → c :: cs ≠ d :: ds := by
    rintro d ds hd hds
    exact ne_of_isIdentStart h hd (List.cons.inj hds).1
  -- a quote behind a letter would stand at the front of the rest
  have second : ∀ {d q : Char} {ds : List Char}, cs.head? ≠ some q → c :: cs ≠ d :: q :: ds := by
    rintro d q ds hq hds
    rw [(List.cons.inj hds).2] at hq
    exact hq rfl
  unfold dropLiteral
  simp only [orElse_eq_none]
  refine ⟨?_, ?_, ?_, ?_, ?_, ?_, ?_, ?_, ?_, ?_⟩
  · exact dropStart_bind_eq_none fun ds hds => absurd hds (first (by decide))
  · exact dropStart_bind_eq_none fun ds hds => by cases hds; exact raw rfl
  · exact dropStart_bind_eq_none fun ds hds => absurd hds (second quote)
  · exact dropStart_bind_eq_none fun ds hds => more ds _ (List.cons.inj hds).2
  · exact dropStart_bind_eq_none fun ds hds => absurd hds (second quote)
  · exact dropStart_bind_eq_none fun ds hds => more ds _ (List.cons.inj hds).2
  · exact dropStart_bind_eq_none fun ds hds => absurd hds (second tick)
  · exact dropStart_bind_eq_none fun ds hds => absurd hds (first (by decide))
  · rw [dropFloatDigits_of_isIdentStart h]
    rfl
  · rw [dropIntegerDigits_of_isIdentStart h]
    rfl

/-! ### Words -/

/-- Whether a spelling ends here: at the end of the text or in front of a colon. -/
def FollowsWord (rest : List Char) : Prop := rest = [] ∨ ∃ more, rest = ':' :: more

theorem FollowsWord.endsWord (h : FollowsWord rest) : EndsWord rest := by
  rcases h with rfl | ⟨more, rfl⟩
  · exact endsWord_nil
  · exact endsWord_colon

/-- Up to the first colon, a word goes on. -/
theorem isIdentContinue_front {ds p : List Char} (hds : ∀ d ∈ ds, isIdentContinue d)
    (hrest : FollowsWord rest) (hp : p <+: ds ++ rest) (colon : ':' ∉ p) :
    ∀ d ∈ p, isIdentContinue d := by
  induction p generalizing ds with
  | nil => exact fun d hd => absurd hd List.not_mem_nil
  | cons x p ih =>
    cases ds with
    | nil =>
      rcases hrest with rfl | ⟨after, rfl⟩
      · exact absurd (List.prefix_nil.1 hp) (List.cons_ne_nil x p)
      · obtain ⟨rfl, -⟩ := List.cons_prefix_cons.1 hp
        exact absurd List.mem_cons_self colon
    | cons d ds =>
      obtain ⟨rfl, tail⟩ := List.cons_prefix_cons.1 hp
      obtain ⟨hx, hds⟩ := List.forall_mem_cons.1 hds
      exact List.forall_mem_cons.2 ⟨hx, ih hds tail fun mem => colon (.tail x mem)⟩

/-- A sign that a word does not go on with does not stand at its end either. -/
theorem head?_word {ds : List Char} (hds : ∀ d ∈ ds, isIdentContinue d) (hrest : FollowsWord rest)
    {q : Char} (hq : isIdentContinue q = false) (colon : ':' ≠ q) :
    (ds ++ rest).head? ≠ some q := by
  intro h
  obtain ⟨more, h⟩ := List.head?_eq_some_iff.1 h
  have front : [q] <+: ds ++ rest := ⟨more, h.symm⟩
  rw [isIdentContinue_front hds hrest front (by simpa using colon) q List.mem_cons_self] at hq
  cases hq

/-- What stands behind the first letter of a word is no start of a literal. -/
theorem dropRaw_word {ds : List Char} (hds : ∀ d ∈ ds, isIdentContinue d) (hrest : FollowsWord rest)
    {k : Quoted.Rules} : dropRaw k (ds ++ rest) = none :=
  dropRaw_eq_none (head?_word hds hrest (by decide) (by decide))
    (head?_word hds hrest (by decide) (by decide))

theorem dropLiteral_word {w : List Char} (hw : IsWord w) (hrest : FollowsWord rest) :
    dropLiteral (w ++ rest) = none := by
  obtain ⟨c, ds, rfl, hc, hds⟩ := hw
  refine dropLiteral_of_isIdentStart hc (head?_word hds hrest (by decide) (by decide))
    (head?_word hds hrest (by decide) (by decide)) (fun _ => dropRaw_word hds hrest) ?_
  intro es k hes
  cases ds with
  | nil =>
    -- the word would end in front of the letter
    rcases hrest with rfl | ⟨more, rfl⟩ <;> cases hes
  | cons d ds =>
    cases hes
    exact dropRaw_word (fun d hd => hds d (List.mem_cons_of_mem _ hd)) hrest

theorem dropLiteral_mark {w : List Char} (hw : IsWord w) :
    dropLiteral ("r#".toList ++ (w ++ rest)) = none := by
  obtain ⟨c, ds, rfl, hc, -⟩ := hw
  have quote : c ≠ '"' := ne_of_isIdentStart hc (by decide)
  have hash : c ≠ '#' := ne_of_isIdentStart hc (by decide)
  change dropLiteral ('r' :: '#' :: c :: (ds ++ rest)) = none
  refine dropLiteral_of_isIdentStart (by decide) (by simp) (by simp) (fun _ => ?_) ?_
  · have hashes : ('#' :: c :: (ds ++ rest)).takeWhile (· == '#') = ['#'] := by simp [hash]
    unfold dropRaw
    rw [hashes]
    dsimp only [List.length_cons, List.length_nil, List.drop_succ_cons, List.drop_zero]
    split
    · next h =>
      cases h
      exact absurd rfl quote
    · rfl
  · rintro es k ⟨⟩

/-- No literal starts like a word. -/
theorem literalStarts_word {w : List Char} (hw : IsWord w) (hrest : FollowsWord rest) :
    (literalStarts.any fun s => s.toList.isPrefixOf (w ++ rest)) = false := by
  obtain ⟨c, ds, rfl, -, hds⟩ := hw
  have signs : ∀ s ∈ literalStarts, ':' ∉ s.toList.tail ∧
      (s.toList.tail.any fun d => !isIdentContinue d) := by decide
  rw [List.any_eq_false]
  intro s hs front
  obtain ⟨colon, stops⟩ := signs s hs
  obtain ⟨d, hd, stops⟩ := List.any_eq_true.1 stops
  have tail : s.toList.tail <+: ds ++ rest := by
    have front := List.isPrefixOf_iff_prefix.1 front
    generalize s.toList = p at hd front ⊢
    cases p with
    | nil => cases hd
    | cons x p => exact (List.cons_prefix_cons.1 front).2
  rw [isIdentContinue_front hds hrest tail colon d hd] at stops
  exact absurd stops (by decide)

theorem literalStarts_mark {w : List Char} (hw : IsWord w) :
    (literalStarts.any fun s => s.toList.isPrefixOf ("r#".toList ++ (w ++ rest))) = false := by
  obtain ⟨c, ds, rfl, hc, -⟩ := hw
  have quote : '"' ≠ c := (ne_of_isIdentStart hc (by decide)).symm
  have hash : '#' ≠ c := (ne_of_isIdentStart hc (by decide)).symm
  simp [literalStarts, List.isPrefixOf, quote, hash]

theorem scan_of_isIdentStart (h : isIdentStart c) : scan (c :: cs) = token (c :: cs) := by
  have comment : startsComment (c :: cs) = false := by
    have slash : '/' ≠ c := (ne_of_isIdentStart h (by decide)).symm
    simp [startsComment, List.isPrefixOf, slash]
  have error : errorLiteral.toList.isPrefixOf (c :: cs) = false := by
    have bracket : '(' ≠ c := (ne_of_isIdentStart h (by decide)).symm
    simp [errorLiteral, List.isPrefixOf, bracket]
  unfold scan
  dsimp only
  rw [isSeparator_of_isIdentStart h, comment, error]
  simp only [Bool.false_eq_true, if_false]
  split
  all_goals first | rfl | exact absurd h (by decide)

/-- A spelling starts like an identifier, raw or not. -/
theorem Ident.IsSpelled.exists_start (hi : i.IsSpelled) (rest : List Char) :
    ∃ c cs, i.spelling.toList ++ rest = c :: cs ∧ isIdentStart c := by
  obtain ⟨⟨c, ds, hw, hc, -⟩, -⟩ := Ident.isSpelled_iff.1 hi
  rw [Ident.toList_spelling, hw]
  cases i.raw
  · exact ⟨c, ds ++ rest, rfl, hc⟩
  · exact ⟨'r', _, rfl, by decide⟩

/-- **A spelled identifier** is one piece. -/
theorem scan_spelling (hi : i.IsSpelled) (hrest : FollowsWord rest) :
    scan (i.spelling.toList ++ rest) = some (.ident i.raw i.name, rest) := by
  obtain ⟨hw, hn⟩ := Ident.isSpelled_iff.1 hi
  have hash : rest.head? ≠ some '#' := by
    rcases hrest with rfl | ⟨more, rfl⟩ <;> simp
  have read := Ident.ident?_spelling hw hn hrest.endsWord hash
  obtain ⟨c, cs, hcs, hc⟩ := hi.exists_start rest
  -- literals and signs are tried first
  have noLiteral : dropLiteral (i.spelling.toList ++ rest) = none ∧
      (literalStarts.any fun s => s.toList.isPrefixOf (i.spelling.toList ++ rest)) = false := by
    rw [Ident.toList_spelling]
    cases i.raw
    · exact ⟨dropLiteral_word hw hrest, literalStarts_word hw hrest⟩
    · rw [if_pos rfl, List.append_assoc]
      exact ⟨dropLiteral_mark hw, literalStarts_mark hw⟩
  rw [hcs] at read noLiteral ⊢
  rw [scan_of_isIdentStart hc, token, noLiteral.1, sign?_of_isIdentStart hc, noLiteral.2, read]
  rfl

/-! ### Colons -/

/-- **A colon** is one piece, joint if another sign follows. -/
theorem scan_colon (cs : List Char) :
    scan (':' :: cs) = some (.punct ':' (sign? cs).isSome, cs) := by
  have noLiteral : dropLiteral (':' :: cs) = none := rfl
  have isToken : scan (':' :: cs) = token (':' :: cs) := rfl
  rw [isToken, token, noLiteral]
  rfl

/-! ### Texts -/

/-- A text has the given trees, but for their places, wherever it stands. -/
def Lexes (cs : List Char) (us : List TokenTree) : Prop :=
  ∀ p, ∃ ts, lexemes p cs = ts.map .tree ∧ TokenTree.respanAll .callSite ts = us

theorem lexes_nil : Lexes [] [] := by
  intro p
  refine ⟨[], ?_, rfl⟩
  rw [lexemes]
  rfl

/-- A piece that is one tree stands in front of the trees of the rest. -/
theorem Lexes.cons {piece : Piece} {t : TokenTree} {us : List TokenTree}
    (hscan : scan cs = some (piece, rest)) (shorter : rest.length < cs.length)
    (hpiece : ∀ text span, piece.lexemes text span = [.tree (t.respan span)])
    (h : Lexes rest us) : Lexes cs (t.respan .callSite :: us) := by
  intro p
  have filled : cs ≠ [] := by
    rintro rfl
    exact absurd shorter (Nat.not_lt_zero _)
  obtain ⟨ts, hts, same⟩ := h (p.advance (before cs rest))
  refine ⟨t.respan ⟨p, p.advance (before cs rest)⟩ :: ts, ?_, ?_⟩
  · rw [lexemes, if_neg filled, hscan]
    dsimp only
    rw [if_pos shorter, hpiece, hts]
    rfl
  · rw [TokenTree.respanAll, TokenTree.respan_respan, same]

theorem lexes_spelling {us : List TokenTree} (hi : i.IsSpelled) (hrest : FollowsWord rest)
    (h : Lexes rest us) :
    Lexes (i.spelling.toList ++ rest) (.respan .callSite (.ident i) :: us) := by
  refine .cons (scan_spelling hi hrest) ?_ (fun _ _ => rfl) h
  obtain ⟨c, cs, hcs, -⟩ := hi.exists_start []
  rw [List.append_nil] at hcs
  rw [hcs, List.length_append, List.length_cons]
  omega

/-- Two colons are joined to one sign. -/
theorem lexes_colons {us : List TokenTree} (hrest : (sign? rest).isSome = false)
    (h : Lexes rest us) :
    Lexes (':' :: ':' :: rest)
      (.punct ':' true .callSite :: .punct ':' false .callSite :: us) := by
  have second : Lexes (':' :: rest) (.punct ':' false .callSite :: us) :=
    .cons (t := .punct ':' false .callSite) (hrest ▸ scan_colon rest) (Nat.lt_succ_self _)
      (fun _ _ => rfl) h
  exact .cons (t := .punct ':' true .callSite) (scan_colon (':' :: rest)) (Nat.lt_succ_self _)
    (fun _ _ => rfl) second

/-- A text of trees that lie side by side is these trees. -/
theorem trees_map_tree (inside ts : List TokenTree) :
    trees [] inside (ts.map .tree) = .ok (inside.reverse ++ ts) := by
  induction ts generalizing inside with
  | nil => exact congrArg Except.ok (List.append_nil _).symm
  | cons t ts ih =>
    rw [List.map_cons, trees, ih, List.reverse_cons, List.append_assoc, List.singleton_append]

/-- **A text** that starts with no byte order mark has its trees, but for their places. -/
theorem Lexes.tokenize {text : String} {us : List TokenTree} (h : Lexes text.toList us)
    (noMark : text.toList.head? ≠ some '\ufeff') :
    ∃ ts, tokenize text = .ok ts ∧ TokenTree.respanAll .callSite ts = us := by
  obtain ⟨ts, hts, same⟩ := h .start
  refine ⟨ts, ?_, same⟩
  have plain : Source.tokenize text = trees [] [] (lexemes .start text.toList) := by
    unfold Source.tokenize
    split
    · next h =>
      rw [h] at noMark
      exact absurd rfl noMark
    · rfl
  rw [plain, hts, trees_map_tree]
  rfl

/-! ### The identifiers of a text -/

/-- Whether the identifiers among some trees are spelled; the contents of groups do not matter. -/
def AreSpelled (ts : List TokenTree) : Prop := ∀ i, .ident i ∈ ts → i.IsSpelled

/-- Documentation is no identifier. -/
theorem docComment_ne_ident {start : String} {inner raw : Bool} {name : String} :
    docComment start inner cs ≠ some (.ident raw name, rest) := by
  intro h
  obtain ⟨body, -, h⟩ := Option.bind_eq_some_iff.1 h
  dsimp only at h
  split at h
  · obtain ⟨⟨text, after⟩, -, h⟩ := Option.bind_eq_some_iff.1 h
    obtain ⟨-, h⟩ := Option.ite_none_right_eq_some.1 h
    cases h
  · obtain ⟨after, -, h⟩ := Option.bind_eq_some_iff.1 h
    obtain ⟨⟨text, after⟩, -, h⟩ := Option.bind_eq_some_iff.1 h
    obtain ⟨-, h⟩ := Option.ite_none_right_eq_some.1 h
    cases h

theorem comment_ne_ident {raw : Bool} {name : String} :
    comment cs ≠ some (.ident raw name, rest) := by
  intro h
  unfold comment at h
  dsimp only at h
  repeat' split at h
  all_goals first
    | exact docComment_ne_ident h
    | cases h
    | obtain ⟨after, -, h⟩ := Option.map_eq_some_iff.1 h
      cases h

theorem ident?_of_token {raw : Bool} {name : String}
    (h : token cs = some (.ident raw name, rest)) : ident? cs = some (raw, name, rest) := by
  unfold token at h
  repeat' split at h
  all_goals first
    | cases h
    | obtain ⟨⟨raw', name', rest'⟩, hident, h⟩ := Option.map_eq_some_iff.1 h
      cases h
      exact hident

/-- A piece that is an identifier is read as one. -/
theorem ident?_of_scan {raw : Bool} {name : String}
    (h : scan cs = some (.ident raw name, rest)) : ident? cs = some (raw, name, rest) := by
  unfold scan at h
  repeat' split at h
  all_goals first
    | exact ident?_of_token h
    | exact absurd h comment_ne_ident
    | cases h

/-- The trees of a piece that is no identifier have none at their top. -/
theorem ident_of_mem_lexemes {piece : Piece} {text : List Char} {span : Span}
    (h : .tree (.ident i) ∈ piece.lexemes text span) : piece = .ident i.raw i.name := by
  cases piece with
  | doc inner contents =>
    cases inner <;> simp [Piece.lexemes, docAttribute] at h
  | ident raw name =>
    simp only [Piece.lexemes, List.mem_singleton, Lexeme.tree.injEq, TokenTree.ident.injEq] at h
    rw [h]
  | _ => simp [Piece.lexemes] at h

theorem isSpelled_of_mem_lexemes {p : Position} (h : .tree (.ident i) ∈ lexemes p cs) :
    i.IsSpelled := by
  induction p, cs using lexemes.induct with
  | case1 p =>
    rw [lexemes] at h
    simp at h
  | case2 p cs filled piece rest hscan shorter text stop ih =>
    rw [lexemes, if_neg filled, hscan] at h
    dsimp only at h
    rw [if_pos shorter] at h
    rcases List.mem_append.1 h with h | h
    · have read : piece = .ident i.raw i.name := ident_of_mem_lexemes h
      rw [read] at hscan
      exact Ident.isSpelled_of_ident? (ident?_of_scan hscan) i.span
    · exact ih h
  | case3 p cs filled piece rest hscan shorter =>
    rw [lexemes, if_neg filled, hscan] at h
    dsimp only at h
    rw [if_neg shorter] at h
    simp at h
  | case4 p cs filled hscan =>
    rw [lexemes, if_neg filled, hscan] at h
    simp at h

/-- Matching delimiters puts no identifiers in. -/
theorem areSpelled_of_trees {stack : List OpenGroup} {inside ts : List TokenTree} {ls : List Lexeme}
    (hls : ∀ i, .tree (.ident i) ∈ ls → i.IsSpelled) (hinside : AreSpelled inside)
    (hstack : ∀ g ∈ stack, AreSpelled g.outside) (h : trees stack inside ls = .ok ts) :
    AreSpelled ts := by
  -- what is read stays spelled, inside of the innermost open group and outside of every other one
  induction ls generalizing stack inside with
  | nil =>
    cases stack with
    | nil =>
      cases h
      exact fun i hi => hinside i (List.mem_reverse.1 hi)
    | cons g stack => cases h
  | cons l ls ih =>
    have hrest : ∀ i, .tree (.ident i) ∈ ls → i.IsSpelled := fun i hi => hls i (.tail l hi)
    cases l with
    | tree t =>
      refine ih hrest ?_ hstack h
      intro i hi
      rcases List.mem_cons.1 hi with rfl | hi
      · exact hls i List.mem_cons_self
      · exact hinside i hi
    | opens d s =>
      exact ih hrest (fun i hi => absurd hi List.not_mem_nil)
        (List.forall_mem_cons.2 ⟨hinside, hstack⟩) h
    | closes d s =>
      cases stack with
      | nil => cases h
      | cons g stack =>
        obtain ⟨hg, hstack⟩ := List.forall_mem_cons.1 hstack
        rw [trees] at h
        split at h
        · refine ih hrest ?_ hstack h
          intro i hi
          rcases List.mem_cons.1 hi with hi | hi
          · cases hi
          · exact hg i hi
        · cases h
    | invalid p => cases h

/-- **The identifiers of a text** are spelled. -/
theorem areSpelled_of_tokenize {text : String} {ts : List TokenTree} (h : tokenize text = .ok ts) :
    AreSpelled ts := by
  have side : ∀ p cs, trees [] [] (lexemes p cs) = .ok ts → AreSpelled ts := fun p cs =>
    areSpelled_of_trees (fun _ => isSpelled_of_mem_lexemes) (fun i hi => absurd hi List.not_mem_nil)
      (fun g hg => absurd hg List.not_mem_nil)
  unfold tokenize at h
  split at h
  · exact side _ _ h
  · exact side _ _ h

end RequestGroups.Source

import RequestGroups.Instance.Basic
import RequestGroups.Proofs.Expansion.MethodTokens
import RequestGroups.Proofs.Grammar.PathText
import RequestGroups.Proofs.Search

/-! # Bodies of methods are read back

The body of a generated method is a list of tokens. Read as an expression, it is the code that is run
on instances, so what a method does is told by its tokens alone.

* `pieces` takes a list with commas apart;
* `Projection.read?`, `ConstructorCode.read?` and `ConversionCall.read?` read the three kinds of
  bodies, and `MethodTokens.gives?`, `MethodTokens.builds?` and `MethodTokens.attempt?` run what is
  read;
* `read?_accessor`, `read?_constructor` and `read?_conversion`: the bodies of an expansion are read
  as its code. -/

namespace RequestGroups

open Source Grammar
open TokenTree (word sign within colons listed)

variable {c : Config} {e : Expansion}

/-! ### Lists -/

/-- Whether a tree is a comma. -/
def Source.TokenTree.isComma : TokenTree → Bool
  | .punct ',' _ _ => true
  | _ => false

/-- The pieces of a list with commas between them. The last piece may have a comma behind it. -/
def pieces (ts : List TokenTree) : List (List TokenTree) :=
  let ps := ts.splitOnP TokenTree.isComma
  if ps.getLast?.any List.isEmpty then ps.dropLast else ps

/-- A piece of a list: it has tokens, none of which is a comma. -/
def IsPiece (p : List TokenTree) : Prop := p ≠ [] ∧ ∀ t ∈ p, t.isComma = false

theorem splitOnP_cons_comma {p : List TokenTree} (h : IsPiece p) (rest : List TokenTree) :
    (p ++ sign ',' :: rest).splitOnP TokenTree.isComma =
      p :: rest.splitOnP TokenTree.isComma :=
  List.splitOnP_append_cons_of_forall_mem h.2 (sign ',') rfl rest

theorem pieces_flatMap {ps : List (List TokenTree)} (h : ∀ p ∈ ps, IsPiece p) :
    pieces (ps.flatMap (· ++ [sign ','])) = ps := by
  have split : (ps.flatMap (· ++ [sign ','])).splitOnP TokenTree.isComma = ps ++ [[]] := by
    induction ps with
    | nil => rfl
    | cons p ps ih =>
      obtain ⟨hp, hps⟩ := List.forall_mem_cons.1 h
      rw [List.flatMap_cons, List.append_assoc, List.singleton_append, splitOnP_cons_comma hp,
        ih hps, List.cons_append]
  simp [pieces, split]

theorem pieces_listed {ps : List (List TokenTree)} (h : ∀ p ∈ ps, IsPiece p) :
    pieces (listed ps) = ps := by
  by_cases none : ps = []
  · subst none
    rfl
  have split : (listed ps).splitOnP TokenTree.isComma = ps := by
    induction ps with
    | nil => exact absurd rfl none
    | cons p ps ih =>
      obtain ⟨hp, hps⟩ := List.forall_mem_cons.1 h
      cases ps with
      | nil => simpa using List.splitOnP_eq_singleton hp.2
      | cons q qs =>
        rw [listed, List.intercalate_cons_cons, List.append_assoc, List.singleton_append,
          splitOnP_cons_comma hp, ih hps (List.cons_ne_nil q qs)]
  -- the last piece is not empty, so it is kept
  have last : ps.getLast?.any List.isEmpty = false := by
    rw [List.getLast?_eq_some_getLast none]
    have filled := (h _ (List.getLast_mem none)).1
    simpa using filled
  rw [pieces, split, last]
  rfl

/-! ### Accessors -/

/-- Reads the group in a field, by reference, in front of other tokens. -/
def readGroup? : List TokenTree → Option (Ident × List TokenTree)
  | .punct '&' _ _ :: .ident self :: .punct '.' _ _ :: .ident storage :: rest =>
    if self.spells "self" then some (storage, rest) else none
  | _ => none

theorem readGroup?_groupTokens (storage : Ident) (rest : List TokenTree) :
    readGroup? (groupTokens storage ++ rest) = some (storage, rest) := rfl

/-- Reads a reference to a member of a group. -/
def Projection.read? (ts : List TokenTree) : Option Projection :=
  match readGroup? ts with
  | some (storage, [.punct '.' _ _, .ident name]) => some ⟨storage, name⟩
  | _ => none

/-- **The body of an accessor** is read as its projection. -/
theorem read?_accessor (a : Accessor) (e : Expansion) :
    Projection.read? (a.tokens e).body = some (e.projection a) := rfl

/-! ### Constructors -/

/-- Reads a name. -/
def readName? : List TokenTree → Option Ident
  | [.ident name] => some name
  | _ => none

/-- Reads a literal of a record, each field of which is the variable of its name. -/
def GroupLiteral.read? : List TokenTree → Option GroupLiteral
  | [.ident record, .group .brace _ _ inner] =>
    ((pieces inner).mapM readName?).map (⟨record, ·⟩)
  | _ => none

/-- Reads what a field is set to: a literal, or the default of its type. -/
def Initializer.read? (ts : List TokenTree) : Option Initializer :=
  (GroupLiteral.read? ts).map .group <|>
    if TokenTree.wordsOf ts = TokenTree.wordsOf defaultTokens then some .default else none

/-- Reads a field of a literal. -/
def readField? : List TokenTree → Option (Ident × Initializer)
  | .ident name :: .punct ':' _ _ :: value => (Initializer.read? value).map (name, ·)
  | _ => none

/-- Reads a literal of the struct. -/
def ConstructorCode.read? : List TokenTree → Option ConstructorCode
  | [.ident self, .group .brace _ _ inner] =>
    if self.spells "Self" then ((pieces inner).mapM readField?).map (⟨·⟩) else none
  | _ => none

theorem read?_groupLiteral (l : GroupLiteral) :
    GroupLiteral.read? [.ident l.record,
      within .brace (listed (l.names.map fun n => [.ident n]))] = some l := by
  have names : pieces (listed (l.names.map fun n => [.ident n])) =
      l.names.map fun n => [.ident n] := by
    refine pieces_listed fun p hp => ?_
    obtain ⟨n, -, rfl⟩ := List.mem_map.1 hp
    exact ⟨List.cons_ne_nil _ _, by simp [TokenTree.isComma]⟩
  have read : (l.names.map fun n => [TokenTree.ident n]).mapM readName? = some l.names := by
    have each : l.names.mapM (readName? ∘ fun n => [TokenTree.ident n]) = some (l.names.map id) :=
      mapM_eq_some_map fun _ _ => rfl
    rw [List.mapM_map, each, List.map_id]
  rw [GroupLiteral.read?, names, read]
  rfl

/-- What a field is set to, in tokens. -/
def Initializer.tokens : Initializer → List TokenTree
  | group l => [.ident l.record, within .brace (listed (l.names.map fun n => [.ident n]))]
  | default => defaultTokens

theorem read?_initializer (i : Initializer) : Initializer.read? i.tokens = some i := by
  cases i with
  | default =>
    have noLiteral : GroupLiteral.read? defaultTokens = none := rfl
    rw [Initializer.read?, Initializer.tokens, noLiteral, if_pos rfl]
    rfl
  | group l =>
    rw [Initializer.read?, Initializer.tokens, read?_groupLiteral]
    rfl

/-- A field of the constructor in tokens, without the comma behind it. -/
def fieldPiece (f : Ident × Initializer) : List TokenTree := [.ident f.1, sign ':'] ++ f.2.tokens

theorem isPiece_fieldPiece (f : Ident × Initializer) : IsPiece (fieldPiece f) := by
  obtain ⟨n, i⟩ := f
  refine ⟨List.cons_ne_nil _ _, ?_⟩
  cases i with
  | default => simp [fieldPiece, Initializer.tokens, defaultTokens, TokenTree.isComma]
  | group l => simp [fieldPiece, Initializer.tokens, TokenTree.isComma]

theorem readField?_fieldPiece (f : Ident × Initializer) : readField? (fieldPiece f) = some f := by
  have read : (Initializer.read? f.2.tokens).map (f.1, ·) = some f := by
    rw [read?_initializer, Option.map_some]
  exact read

theorem body_constructorTokens (e : Expansion) : e.constructorTokens.body = [word "Self",
    within .brace ((e.constructorCode.fields.map fieldPiece).flatMap (· ++ [sign ',']))] := by
  simp only [Expansion.constructorTokens, Expansion.constructorCode, List.map_append, List.map_map,
    List.flatMap_append, List.flatMap_map]
  rfl

/-- **The body of the constructor** is read as its code. -/
theorem read?_constructor (e : Expansion) :
    ConstructorCode.read? e.constructorTokens.body = some e.constructorCode := by
  have split : pieces ((e.constructorCode.fields.map fieldPiece).flatMap (· ++ [sign ','])) =
      e.constructorCode.fields.map fieldPiece :=
    pieces_flatMap (List.forall_mem_map.2 fun f _ => isPiece_fieldPiece f)
  have fields : (e.constructorCode.fields.map fieldPiece).mapM readField? =
      some (e.constructorCode.fields.map id) := by
    rw [List.mapM_map]
    exact mapM_eq_some_map fun f _ => readField?_fieldPiece f
  have self : (Ident.plain "Self").spells "Self" = true := by decide
  rw [body_constructorTokens, ConstructorCode.read?, if_pos self, split, fields, List.map_id]
  rfl

/-! ### Conversions -/

/-- The function and the arguments of a call. -/
def readCall? (ts : List TokenTree) : Option (List TokenTree × List TokenTree) :=
  match ts.getLast? with
  | some (.group .paren _ _ arguments) => some (ts.dropLast, arguments)
  | _ => none

/-- Reads the policy in the settings behind a group, of which there may be none. -/
def readPolicy? (c : Config) (ts : List TokenTree) : Option (Option HeaderPolicy) :=
  [none, some .strict, some .stringify].find? fun policy =>
    TokenTree.wordsOf ts = TokenTree.wordsOf (policy.elim [] (ConversionCall.settingsTokens c))

/-- Reads the name of a conversion of the library. -/
def readRole? (c : Config) (ts : List TokenTree) : Option Role :=
  Role.all.find? fun r =>
    TokenTree.wordsOf ts = TokenTree.wordsOf (c.runtimePath ["conversion", fallibleName r]).trees

/-- Reads a call of a conversion of the library. -/
def ConversionCall.read? (c : Config) (ts : List TokenTree) : Option ConversionCall := do
  let (function, arguments) ← readCall? ts
  let (storage, settings) ← readGroup? arguments
  return ⟨← readRole? c function, storage, ← readPolicy? c settings⟩

theorem getLast?_words_append (p : Path) (names : List String) (last : String) :
    (TokenTree.wordsOf (p.append (names ++ [last])).trees).getLast? = some last := by
  have path : ∃ front, (p.append (names ++ [last])).trees = front ++ [word last] := by
    rw [Path.trees_eq, Path.append, List.map_append, ← List.append_assoc, List.map_singleton]
    by_cases none : p.segments ++ names.map (fun n => ⟨.plain n, []⟩) = []
    · rw [none]
      exact ⟨_, rfl⟩
    · rw [Path.trees_segmentsPhrase_append none (List.cons_ne_nil _ _), ← List.append_assoc,
        ← List.append_assoc]
      exact ⟨_, rfl⟩
  obtain ⟨front, trees⟩ := path
  rw [trees, TokenTree.wordsOf_append, List.getLast?_append]
  rfl

theorem readRole?_conversion (c : Config) (r : Role) :
    readRole? c (c.runtimePath ["conversion", fallibleName r]).trees = some r := by
  refine find?_eq_some (Role.mem_all r) (by simp) fun s _ same => ?_
  -- the two paths end with the names of their conversions
  have last := congrArg List.getLast? (of_decide_eq_true same)
  have names : ∀ r, (TokenTree.wordsOf
      (c.runtimePath ["conversion", fallibleName r]).trees).getLast? = some (fallibleName r) :=
    fun r => getLast?_words_append c.runtime ["conversion"] (fallibleName r)
  rw [names, names] at last
  cases r <;> cases s <;> first | rfl | exact absurd last (by decide)

theorem eq_of_words_settings {p q : HeaderPolicy}
    (h : TokenTree.wordsOf (ConversionCall.settingsTokens c p) =
      TokenTree.wordsOf (ConversionCall.settingsTokens c q)) : p = q := by
  simp only [ConversionCall.settingsTokens, TokenTree.wordsOf_append, TokenTree.wordsOf,
    TokenTree.words, List.append_cancel_left_eq, List.append_cancel_right_eq, List.cons.injEq,
    true_and] at h
  -- what is left is the path of the policy, which ends with its name
  have last := congrArg List.getLast? h
  have names : ∀ p : HeaderPolicy, (TokenTree.wordsOf
      (c.runtimePath ["config", "HeaderValuePolicy",
        if p = .strict then "Strict" else "Stringify"]).trees).getLast? =
        some (if p = .strict then "Strict" else "Stringify") :=
    fun _ => getLast?_words_append c.runtime ["config", "HeaderValuePolicy"] _
  rw [names, names] at last
  cases p <;> cases q <;> first | rfl | exact absurd last (by decide)

theorem readPolicy?_settings (c : Config) (policy : Option HeaderPolicy) :
    readPolicy? c (policy.elim [] (ConversionCall.settingsTokens c)) = some policy := by
  refine find?_eq_some ?_ (by simp) fun q _ same => ?_
  · rcases policy with _ | _ | _ <;> decide
  · have same := of_decide_eq_true same
    cases policy with
    | none =>
      cases q with
      | none => rfl
      | some q => exact absurd same nofun
    | some p =>
      cases q with
      | none => exact absurd same nofun
      | some q => rw [eq_of_words_settings same]

/-- **The body of a conversion** that may fail is read as its call. -/
theorem read?_conversion (v : ConversionCall) (c : Config) :
    ConversionCall.read? c (v.tokens c).body = some v := by
  have call : readCall? (v.tokens c).body =
      some ((c.runtimePath ["conversion", fallibleName v.role]).trees,
        groupTokens v.storage ++ v.policy.elim [] (ConversionCall.settingsTokens c)) := by
    rw [readCall?, ConversionCall.tokens, List.getLast?_concat, List.dropLast_concat]
  simp only [ConversionCall.read?, call, readGroup?_groupTokens, readRole?_conversion,
    readPolicy?_settings, Option.bind_eq_bind, Option.bind_some]
  rfl

/-! ### What methods do -/

namespace MethodTokens

/-- The member that a method gives for an instance, if its body refers to one. -/
def gives? (m : MethodTokens) (i : Instance α) : Option α :=
  (Projection.read? m.body).bind (·.run i)

/-- The instance that a method builds from its arguments, if its body is a literal of the struct. -/
def builds? (m : MethodTokens) (arguments : List (Ident × α)) (initial : Ident → Option α) :
    Option (Instance α) :=
  (ConstructorCode.read? m.body).bind (·.run arguments initial)

/-- The members of a group that a method hands over, if its body calls a conversion of the library,
and the group that they belong to. -/
def handsOver? (m : MethodTokens) (c : Config) (i : Instance α) :
    Option (Role × List (Ident × α)) :=
  (ConversionCall.read? c m.body).bind fun v => (v.argument? i).map (v.role, ·)

/-- What a method attempts for an instance, if its body calls a conversion of the library. -/
def attempt? (m : MethodTokens) (e : Expansion) (c : Config)
    (present : GroupField → α → Option Data) (i : Instance α) : Option ((r : Role) × Attempt r) :=
  (ConversionCall.read? c m.body).map fun v => ⟨v.role, v.run (e.record v.role) present i⟩

end MethodTokens

end RequestGroups

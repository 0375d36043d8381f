import RequestGroups.Config.Arguments
import RequestGroups.Proofs.Grammar.Lists
import RequestGroups.Proofs.Grammar.Reads

/-! # Arguments as they are written

An argument is written as a key, the sign `=` and a value. What it assigns, or what is wrong with
it, depends on nothing else: neither on the arguments in front of it nor on anything behind it.

* `WrittenArgument.setting` is what an argument assigns, and `setting_written` says that it is read
  so in front of any trees;
* `WrittenArgument.Assigns` lists the values that are valid for each key;
* `read_spelled`: a list of arguments is read as what they assign, up to the first fault;
* `read_refused`: this fault is the outcome whatever follows it. -/

namespace RequestGroups

open Source Grammar Reader

/-! ### Keys -/

/-- The sign `::` as it is written. -/
structure Colons where
  joint : Bool
  first : Span
  second : Span

def Colons.trees (c : Colons) : List TokenTree :=
  [.punct ':' true c.first, .punct ':' c.joint c.second]

/-- A key as it is written: names with `::` between them, and perhaps in front of them. -/
structure WrittenKey where
  root : Option Colons
  first : Ident
  more : List (Colons × Ident)

namespace WrittenKey

def moreTrees (more : List (Colons × Ident)) : List TokenTree :=
  more.flatMap fun m => m.1.trees ++ [.ident m.2]

def trees (k : WrittenKey) : List TokenTree :=
  k.root.elim [] Colons.trees ++ .ident k.first :: moreTrees k.more

def path (k : WrittenKey) : Path :=
  ⟨k.root.isSome, (k.first :: k.more.map (·.2)).map fun n => ⟨n, []⟩⟩

end WrittenKey

/-- The keys of arguments. -/
inductive ArgumentKey where
  | headers
  | body
  | constructor
  | headerValues
  | runtime
  deriving DecidableEq, Repr

namespace ArgumentKey

/-- The word for a key. -/
def name : ArgumentKey → String
  | headers => "headers"
  | body => "body"
  | constructor => "constructor"
  | headerValues => "header_values"
  | runtime => "crate"

def all : List ArgumentKey := [headers, body, constructor, headerValues, runtime]

/-- The key that a path is. -/
def ofPath? (p : Path) : Option ArgumentKey := all.find? (p.isName ·.name)

/-- What a string literal assigns to a key. -/
def assign : ArgumentKey → Quotation → Except Fault Setting
  | headers, q => q.ident.map .headersType
  | body, q => q.ident.map .bodyType
  | constructor, q => q.ident.map .constructor
  | headerValues, q => q.policy.map .headerValues
  | runtime, q => q.path.map .runtime

end ArgumentKey

/-! ### Arguments -/

/-- The string literal that a tree is. -/
def quotation? : TokenTree → Option Quotation
  | .literal text span =>
    if Look.isString text then
      (Text.Quoted.read? text).map fun (value, suffix) => ⟨value, suffix, span⟩
    else none
  | _ => none

/-- A tree as a string literal. -/
def quotationOf (t : TokenTree) : Except Fault Quotation :=
  match quotation? t with
  | some q => .ok q
  | none => .error ⟨.expected ["string literal"], t.headSpan⟩

/-- An argument as it is written. -/
structure WrittenArgument where
  key : WrittenKey
  joint : Bool
  equals : Span
  value : TokenTree

namespace WrittenArgument

def trees (a : WrittenArgument) : List TokenTree :=
  a.key.trees ++ [.punct '=' a.joint a.equals, a.value]

/-- The known key of an argument. -/
def key? (a : WrittenArgument) : Option ArgumentKey := ArgumentKey.ofPath? a.key.path

/-- What an argument assigns. -/
def setting (a : WrittenArgument) : Except Fault Setting :=
  match a.key? with
  | some k => quotationOf a.value >>= k.assign
  | none => .error ⟨.unknownArgument, a.key.path.span⟩

end WrittenArgument

/-! ### Reading a key -/

section Key

variable {scope : Span} {within : Option Delimiter} {leftover : Option Fault}
  {rest : List TokenTree}

theorem sign?_colons (c : Colons) :
    sign? "::" ⟨c.trees ++ rest, scope, within, leftover⟩ =
      .ok (some (Phrase.sign "::"), ⟨rest, scope, within, leftover⟩) := by
  have seen : Look.sign "::" (c.trees ++ rest) := rfl
  rw [Reader.sign?, bind_eq (sees_eq seen)]
  rfl

/-- The names of a key behind the first one. -/
theorem iterate_names (hrest : Look.sign "::" rest = false) (more : List (Colons × Ident))
    (names : List Ident) :
    iterate (fun names => do
        if (← sign? "::").isNone then return none
        return some (names ++ [← anyIdent])) names
      ⟨WrittenKey.moreTrees more ++ rest, scope, within, leftover⟩ =
      .ok (names ++ more.map (·.2), ⟨rest, scope, within, leftover⟩) := by
  induction more generalizing names with
  | nil =>
    rw [List.map_nil, List.append_nil]
    exact iterate_none (bind_eq (sign?_eq_none hrest) _)
  | cons m more ih =>
    obtain ⟨c, n⟩ := m
    have shape : WrittenKey.moreTrees ((c, n) :: more) ++ rest =
        c.trees ++ .ident n :: (WrittenKey.moreTrees more ++ rest) := by
      simp [WrittenKey.moreTrees]
    rw [shape, iterate_some (t := names ++ [n])
      (j := ⟨WrittenKey.moreTrees more ++ rest, scope, within, leftover⟩), ih]
    · simp
    · exact bind_eq (sign?_colons c) _
    · simp only [Colons.trees, List.length_append, List.length_cons]
      omega

/-- **A key is read** in front of anything that does not go on with `::`. -/
theorem argumentPath_written (k : WrittenKey) (hrest : Look.sign "::" rest = false) :
    argumentPath ⟨k.trees ++ rest, scope, within, leftover⟩ =
      .ok (k.path, ⟨rest, scope, within, leftover⟩) := by
  obtain ⟨root, first, more⟩ := k
  have word : anyIdent
      ⟨.ident first :: (WrittenKey.moreTrees more ++ rest), scope, within, leftover⟩ =
    .ok (first, ⟨WrittenKey.moreTrees more ++ rest, scope, within, leftover⟩) := rfl
  cases root with
  | none =>
    refine (bind_eq (sign?_eq_none rfl) _).trans ?_
    refine (bind_eq (ahead_eq _) _).trans ((bind_eq word _).trans ?_)
    exact bind_eq (iterate_names hrest more [first]) _
  | some c =>
    have shape : WrittenKey.trees ⟨some c, first, more⟩ ++ rest =
        c.trees ++ .ident first :: (WrittenKey.moreTrees more ++ rest) := by
      simp [WrittenKey.trees]
    rw [shape]
    refine (bind_eq (sign?_colons c) _).trans ?_
    refine (bind_eq (ahead_eq _) _).trans ((bind_eq word _).trans ?_)
    exact bind_eq (iterate_names hrest more [first]) _

end Key

/-! ### Reading an argument -/

section Argument

variable {scope : Span} {within : Option Delimiter} {rest : List TokenTree}

theorem quotation_eq (t : TokenTree) : quotation ⟨t :: rest, scope, within, none⟩ =
    (quotationOf t).map (·, ⟨rest, scope, within, none⟩) := by
  cases t with
  | literal text span =>
    rw [quotation, quotationOf, quotation?]
    dsimp only
    by_cases isString : Look.isString text
    · rw [if_pos isString, if_pos isString]
      rcases Text.Quoted.read? text with _ | ⟨value, suffix⟩ <;> rfl
    · rw [if_neg isString, if_neg isString]
      rfl
  | _ => rfl

/-- The value of an argument is read behind the sign `=`. -/
theorem argumentValue_written (value : Quotation → Except Fault α) (joint : Bool) (equals : Span)
    (t : TokenTree) :
    argumentValue value ⟨.punct '=' joint equals :: t :: rest, scope, within, none⟩ =
      (quotationOf t >>= value).map (·, ⟨rest, scope, within, none⟩) := by
  have sign : Reader.sign "=" ⟨.punct '=' joint equals :: t :: rest, scope, within, none⟩ =
    .ok (Phrase.sign "=", ⟨t :: rest, scope, within, none⟩) := rfl
  rw [argumentValue, bind_eq sign]
  have quoted : quotation ⟨t :: rest, scope, within, none⟩ =
      (quotationOf t).map (·, ⟨rest, scope, within, none⟩) := quotation_eq t
  rcases hq : quotationOf t with fault | q
  · rw [hq] at quoted
    exact bind_fault quoted
  · rw [hq] at quoted
    refine (bind_eq quoted _).trans ?_
    change (value q).bind _ = (value q).map _
    cases value q <;> rfl

theorem argumentValue_map {β : Type} (make : β → Setting) (value : Quotation → Except Fault β) :
    (do return make (← argumentValue value)) = argumentValue fun q => (value q).map make := by
  unfold argumentValue
  simp only [bind_assoc]
  congr 1
  funext _
  congr 1
  funext q i
  generalize value q = x
  cases x <;> rfl

/-- The reader of arguments by the table of keys. -/
theorem setting_eq : setting = argumentPath >>= fun p =>
    match ArgumentKey.ofPath? p with
    | some k => argumentValue k.assign
    | none => fun _ => .error ⟨.unknownArgument, p.span⟩ := by
  unfold setting
  congr 1
  funext p
  unfold ArgumentKey.ofPath? ArgumentKey.all
  simp only [List.find?_cons, ArgumentKey.name]
  -- one step for each key, behind the tests for the keys before it
  split_ifs with h1 h2 h3 h4 h5
  · simp only [h1]
    exact argumentValue_map _ _
  · simp only [h1, h2]
    exact argumentValue_map _ _
  · simp only [h1, h2, h3]
    exact argumentValue_map _ _
  · simp only [h1, h2, h3, h4]
    exact argumentValue_map _ _
  · simp only [h1, h2, h3, h4, h5]
    exact argumentValue_map _ _
  · simp only [h1, h2, h3, h4, h5]
    rfl

/-- **An argument is read** as what it assigns, in front of any trees. -/
theorem setting_written (a : WrittenArgument) :
    setting ⟨a.trees ++ rest, scope, within, none⟩ =
      a.setting.map (·, ⟨rest, scope, within, none⟩) := by
  have shape : a.trees ++ rest =
      a.key.trees ++ (.punct '=' a.joint a.equals :: a.value :: rest) := by
    simp [WrittenArgument.trees]
  have key : argumentPath
      ⟨a.key.trees ++ (.punct '=' a.joint a.equals :: a.value :: rest), scope, within, none⟩ =
    .ok (a.key.path, ⟨.punct '=' a.joint a.equals :: a.value :: rest, scope, within, none⟩) :=
    argumentPath_written a.key rfl
  rw [shape, setting_eq, bind_eq key, WrittenArgument.setting, WrittenArgument.key?]
  rcases ArgumentKey.ofPath? a.key.path with _ | k
  · rfl
  · exact argumentValue_written _ _ _ _

/-- A key that is unknown is a fault in front of anything. -/
theorem setting_unknown (k : WrittenKey) (hk : ArgumentKey.ofPath? k.path = none)
    (hrest : Look.sign "::" rest = false) :
    setting ⟨k.trees ++ rest, scope, within, none⟩ = .error ⟨.unknownArgument, k.path.span⟩ := by
  rw [setting_eq, bind_eq (argumentPath_written k hrest), hk]

theorem WrittenArgument.trees_ne_nil (a : WrittenArgument) : a.trees ≠ [] := by
  simp [trees]

end Argument

/-! ### Lists of arguments -/

/-- Some arguments are written as a list, perhaps with a comma behind the last one. -/
inductive Spells : List WrittenArgument → List TokenTree → Prop where
  | nil : Spells [] []
  | last (a : WrittenArgument) : Spells [a] a.trees
  | cons (a : WrittenArgument) (joint : Bool) (comma : Span) {as : List WrittenArgument}
    {ts : List TokenTree} (tail : Spells as ts) :
    Spells (a :: as) (a.trees ++ .punct ',' joint comma :: ts)

/-- Some arguments stand in front of something else, with a comma behind each of them. -/
inductive Precedes : List WrittenArgument → List TokenTree → Prop where
  | nil : Precedes [] []
  | cons (a : WrittenArgument) (joint : Bool) (comma : Span) {as : List WrittenArgument}
    {ts : List TokenTree} (tail : Precedes as ts) :
    Precedes (a :: as) (a.trees ++ .punct ',' joint comma :: ts)

/-- Trees start with an argument that is refused: its key is unknown, or its value is not valid. -/
inductive Refused : List TokenTree → Fault → Prop where
  | key (k : WrittenKey) (hk : ArgumentKey.ofPath? k.path = none) {rest : List TokenTree}
    (hrest : Look.sign "::" rest = false) :
    Refused (k.trees ++ rest) ⟨.unknownArgument, k.path.span⟩
  | value (a : WrittenArgument) {fault : Fault} (h : a.setting = .error fault)
    (rest : List TokenTree) : Refused (a.trees ++ rest) fault

variable {as : List WrittenArgument} {ts : List TokenTree} {scope : Span}

/-- An argument with a comma comes in front of the others. -/
theorem listOf_setting_comma (a : WrittenArgument) (joint : Bool) (comma : Span)
    (ts : List TokenTree) :
    listOf setting (listInput scope (a.trees ++ .punct ',' joint comma :: ts)) =
      a.setting.bind fun s =>
        (listOf setting (listInput scope ts)).map fun p => (s :: p.1, p.2) := by
  have step : setting (listInput scope (a.trees ++ .punct ',' joint comma :: ts)) =
      a.setting.map (·, listInput scope (.punct ',' joint comma :: ts)) := setting_written a
  have more : a.trees ++ .punct ',' joint comma :: ts ≠ [] := by simp
  rcases hs : a.setting with fault | s
  · rw [hs] at step
    exact listOf_fault more step
  · rw [hs] at step
    refine listOf_comma more step rfl ?_
    simp only [listInput, List.length_append]
    omega

/-- **A list of arguments is read** as what they assign, one after the other. -/
theorem listOf_setting (h : Spells as ts) : listOf setting (listInput scope ts) =
    (as.mapM WrittenArgument.setting).map (·, listInput scope []) := by
  induction h with
  | nil => exact listOf_nil rfl
  | last a =>
    have step : setting (listInput scope (a.trees ++ [])) =
        a.setting.map (·, listInput scope []) := setting_written a
    rw [List.append_nil] at step
    rw [List.mapM_cons, List.mapM_nil]
    rcases hs : a.setting with fault | s
    · rw [hs] at step
      exact listOf_fault a.trees_ne_nil step
    · rw [hs] at step
      exact listOf_last a.trees_ne_nil step rfl
  | cons a joint comma _ ih =>
    rw [listOf_setting_comma, ih, List.mapM_cons]
    rcases a.setting with fault | s
    · rfl
    · rename_i as _ _
      rcases as.mapM WrittenArgument.setting with fault | settings <;> rfl

theorem setting_refused {within : Option Delimiter} {fault : Fault} (h : Refused ts fault) :
    setting ⟨ts, scope, within, none⟩ = .error fault := by
  cases h with
  | key k hk hrest => exact setting_unknown k hk hrest
  | value a h rest => rw [setting_written, h]; rfl

theorem Refused.ne_nil {fault : Fault} (h : Refused ts fault) : ts ≠ [] := by
  cases h with
  | key k _ _ => simp [WrittenKey.trees]
  | value a _ _ => simp [WrittenArgument.trees]

/-- **The first fault ends the list**, whatever follows it. -/
theorem listOf_refused {tail : List TokenTree} {fault : Fault} (h : Precedes as ts)
    (valid : ∀ a ∈ as, ∃ s, a.setting = .ok s) (hf : Refused tail fault) :
    listOf setting (listInput scope (ts ++ tail)) = .error fault := by
  induction h with
  | nil => exact listOf_fault hf.ne_nil (setting_refused hf)
  | cons a joint comma _ ih =>
    obtain ⟨⟨s, hs⟩, rest⟩ := List.forall_mem_cons.1 valid
    rw [List.append_assoc, List.cons_append, listOf_setting_comma, hs, ih rest]
    rfl

end RequestGroups

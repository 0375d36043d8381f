import Mathlib.Data.List.Induction
import RequestGroups.Proofs.Config.Arguments
import RequestGroups.Proofs.Config.Validity

/-! # The last assignment counts

A configuration from arguments is made by one assignment after the other, each of which sets the
value of one key. So each key has the value that is assigned to it last.

* `Config.ofLast` is the configuration of the last values, and `foldl_assign` says that the
  assignments give it;
* `ofLast_congr`: only the last argument with each key matters;
* `lastAssignments_ofArguments` collects what becomes of written arguments. -/

namespace RequestGroups

open Source Grammar Reader

/-! ### Last values -/

namespace Setting

/-- The key that is assigned. -/
def key : Setting → ArgumentKey
  | .headersType _ => .headers
  | .bodyType _ => .body
  | .constructor _ => .constructor
  | .headerValues _ => .headerValues
  | .runtime _ => .runtime

/-- The name that is assigned. -/
def name? : Setting → Option Ident
  | .headersType name | .bodyType name | .constructor name => some name
  | _ => none

def policy? : Setting → Option HeaderPolicy
  | .headerValues policy => some policy
  | _ => none

def path? : Setting → Option Path
  | .runtime path => some path
  | _ => none

end Setting

/-- The last of some settings for a key. -/
def lastSetting (k : ArgumentKey) (settings : List Setting) : Option Setting :=
  settings.reverse.find? (·.key = k)

/-- The default configuration, in which each key has the last value that is assigned to it. -/
def Config.ofLast (settings : List Setting) : Config where
  headersType := (lastSetting .headers settings).bind Setting.name?
  bodyType := (lastSetting .body settings).bind Setting.name?
  constructor := ((lastSetting .constructor settings).bind Setting.name?).getD (.plain "new")
  runtime := ((lastSetting .runtime settings).bind Setting.path?).getD
    (.ofNames true ["request_model"])
  headerValues := ((lastSetting .headerValues settings).bind Setting.policy?).getD .strict

theorem lastSetting_concat (k : ArgumentKey) (settings : List Setting) (s : Setting) :
    lastSetting k (settings ++ [s]) = if s.key = k then some s else lastSetting k settings := by
  unfold lastSetting
  rw [List.reverse_append, List.reverse_singleton, List.singleton_append, List.find?_cons]
  by_cases h : s.key = k <;> simp [h]

/-- **Assignments one after the other** leave each key with its last value. -/
theorem foldl_assign (settings : List Setting) :
    settings.foldl Config.assign {} = .ofLast settings := by
  induction settings using List.reverseRecOn with
  | nil => rfl
  | append_singleton settings s ih =>
    rw [List.foldl_concat, ih]
    unfold Config.ofLast
    simp only [lastSetting_concat]
    -- the last setting decides about its own key and leaves the others
    cases s <;> rfl

/-! ### Last arguments -/

/-- The last of some arguments with a key. -/
def lastWith (k : ArgumentKey) (as : List WrittenArgument) : Option WrittenArgument :=
  as.reverse.find? (·.key? = some k)

variable {as bs : List WrittenArgument} {settings : List Setting} {ts us : List TokenTree}

theorem WrittenArgument.Assigns.key?_eq {a : WrittenArgument} {s : Setting} (h : a.Assigns s) :
    a.key? = some s.key := by
  cases h <;> exact ArgumentKey.ofPath?_eq_some.2 ‹_›

/-- The last setting for a key is what the last argument with this key assigns. -/
theorem lastSetting_eq (k : ArgumentKey) (h : List.Forall₂ WrittenArgument.Assigns as settings) :
    lastSetting k settings = (lastWith k as).bind fun a => a.setting.toOption := by
  unfold lastSetting lastWith
  replace h := List.forall₂_reverse_iff.2 h
  generalize as.reverse = as at h
  generalize settings.reverse = settings at h
  induction h with
  | nil => rfl
  | @cons a s as settings ha _ ih =>
    have read : a.setting = .ok s := WrittenArgument.setting_eq_ok.2 ha
    rw [List.find?_cons, List.find?_cons, ha.key?_eq]
    by_cases hk : s.key = k
    · simp [hk, read, Except.toOption]
    · simp [hk, ih]

/-- **Only the last argument with each key matters.** -/
theorem ofLast_congr {settings' : List Setting}
    (ha : List.Forall₂ WrittenArgument.Assigns as settings)
    (hb : List.Forall₂ WrittenArgument.Assigns bs settings')
    (last : ∀ k, lastWith k as = lastWith k bs) :
    Config.ofLast settings = Config.ofLast settings' := by
  have same : ∀ k, lastSetting k settings = lastSetting k settings' := by
    intro k
    rw [lastSetting_eq k ha, lastSetting_eq k hb, last]
  simp only [Config.ofLast, same]

variable {front : List WrittenArgument} {a b : WrittenArgument}

theorem lastWith_append (k : ArgumentKey) (as bs : List WrittenArgument) :
    lastWith k (as ++ bs) = (lastWith k bs).or (lastWith k as) := by
  unfold lastWith
  rw [List.reverse_append, List.find?_append]

theorem lastWith_cons (k : ArgumentKey) (a : WrittenArgument) (as : List WrittenArgument) :
    lastWith k (a :: as) = (lastWith k as).or (if a.key? = some k then some a else none) := by
  rw [← List.singleton_append, lastWith_append]
  congr 1
  unfold lastWith
  by_cases h : a.key? = some k <;> simp [h]

/-- Neighbours with different keys may change places. -/
theorem lastWith_swap (h : a.key? ≠ b.key?) (k : ArgumentKey) :
    lastWith k (front ++ a :: b :: as) = lastWith k (front ++ b :: a :: as) := by
  simp only [lastWith_append, lastWith_cons]
  by_cases ha : a.key? = some k
  · have hb : b.key? ≠ some k := fun hb => h (ha.trans hb.symm)
    simp [ha, hb]
  · simp [ha]

/-- An argument may be left out in front of another one with its key. -/
theorem lastWith_drop (hb : b ∈ as) (h : a.key? = b.key?) (k : ArgumentKey) :
    lastWith k (front ++ a :: as) = lastWith k (front ++ as) := by
  simp only [lastWith_append, lastWith_cons]
  by_cases ha : a.key? = some k
  · have later : (lastWith k as).isSome := by
      unfold lastWith
      rw [List.find?_isSome]
      exact ⟨b, List.mem_reverse.2 hb, by simp [← h, ha]⟩
    obtain ⟨last, hlast⟩ := Option.isSome_iff_exists.1 later
    simp [hlast]
  · simp [ha]

/-! ### Configurations -/

/-- Every argument has a meaning. -/
def Valid (as : List WrittenArgument) : Prop := ∀ a ∈ as, ∃ s, a.Assigns s

theorem read_spelled (h : Spells as ts) :
    Setting.read ts = as.mapM WrittenArgument.setting := by
  have read : listOf setting (listInput .callSite ts) =
      (as.mapM WrittenArgument.setting).map (·, listInput .callSite []) := listOf_setting h
  unfold Setting.read run
  change (listOf setting (listInput .callSite ts)).bind _ = _
  rw [read]
  rcases as.mapM WrittenArgument.setting with fault | settings <;> rfl

theorem read_refused {tail : List TokenTree} {fault : Fault} (h : Precedes as ts)
    (valid : Valid as) (hf : Refused tail fault) : Setting.read (ts ++ tail) = .error fault := by
  have readable : ∀ a ∈ as, ∃ s, a.setting = .ok s := by
    intro a ha
    obtain ⟨s, hs⟩ := valid a ha
    exact ⟨s, WrittenArgument.setting_eq_ok.2 hs⟩
  have read : listOf setting (listInput .callSite (ts ++ tail)) = .error fault :=
    listOf_refused h readable hf
  unfold Setting.read run
  change (listOf setting (listInput .callSite (ts ++ tail))).bind _ = _
  rw [read]
  rfl

theorem mapM_eq_ok (h : List.Forall₂ WrittenArgument.Assigns as settings) :
    as.mapM WrittenArgument.setting = .ok settings :=
  Outcome.mapM_eq_ok.2 (h.imp fun _ _ => WrittenArgument.setting_eq_ok.2)

theorem ofArguments_spelled (h : Spells as ts) : Config.ofArguments ts =
    (as.mapM WrittenArgument.setting).map (List.foldl Config.assign {}) := by
  unfold Config.ofArguments
  rw [read_spelled h]
  rfl

theorem ofArguments_valid (h : Spells as ts)
    (ha : List.Forall₂ WrittenArgument.Assigns as settings) :
    Config.ofArguments ts = .ok (.ofLast settings) := by
  rw [ofArguments_spelled h, mapM_eq_ok ha, Except.map, foldl_assign]

/-- Lists of arguments with the same last argument for each key give the same configuration. -/
theorem ofArguments_congr (ha : Spells as ts) (hb : Spells bs us) (va : Valid as) (vb : Valid bs)
    (last : ∀ k, lastWith k as = lastWith k bs) :
    Config.ofArguments us = Config.ofArguments ts := by
  obtain ⟨settings, hs⟩ := exists_forall₂ va
  obtain ⟨settings', hs'⟩ := exists_forall₂ vb
  rw [ofArguments_valid ha hs, ofArguments_valid hb hs', ofLast_congr hs hs' last]

/-- **What becomes of written arguments.** -/
structure ArgumentsAssign (as : List WrittenArgument) (ts : List TokenTree) : Prop where
  /-- They are read from left to right, up to the first one that has no meaning. -/
  fold : Config.ofArguments ts =
    (as.mapM WrittenArgument.setting).map (List.foldl Config.assign {})
  /-- If all are valid, each key has the value of its last argument. -/
  valid : ∀ settings, List.Forall₂ WrittenArgument.Assigns as settings →
    Config.ofArguments ts = .ok (.ofLast settings)
  /-- Nothing else is ever changed. -/
  fixed : ∀ c, Config.ofArguments ts = .ok c →
    c.markers = .default ∧ c.headersStorage = .plain "headers" ∧ c.bodyStorage = .plain "body"
  /-- Other arguments give the same if they have the same last argument for each key, however the
  commas stand. -/
  last : Valid as → ∀ bs us, Spells bs us → Valid bs → (∀ k, lastWith k as = lastWith k bs) →
    Config.ofArguments us = Config.ofArguments ts
  /-- Neighbours with different keys may change places. -/
  swap : Valid as → ∀ front a b rest us, as = front ++ a :: b :: rest → a.key? ≠ b.key? →
    Spells (front ++ b :: a :: rest) us → Config.ofArguments us = Config.ofArguments ts
  /-- An argument may be left out in front of another one with its key. -/
  drop : Valid as → ∀ front a rest us, as = front ++ a :: rest → (∃ b ∈ rest, a.key? = b.key?) →
    Spells (front ++ rest) us → Config.ofArguments us = Config.ofArguments ts

theorem argumentsAssign (h : Spells as ts) : ArgumentsAssign as ts := by
  constructor
  case fold => exact ofArguments_spelled h
  case valid => exact fun settings => ofArguments_valid h
  case fixed =>
    intro c hc
    rw [ofArguments_spelled h] at hc
    obtain ⟨settings, -, rfl⟩ := Outcome.map_eq_ok.1 hc
    rw [foldl_assign]
    exact ⟨rfl, rfl, rfl⟩
  case last => exact fun va bs us hb vb last => ofArguments_congr h hb va vb last
  case swap =>
    rintro va front a b rest us rfl hkeys hb
    have vb : Valid (front ++ b :: a :: rest) := by
      intro x hx
      refine va x ?_
      simp only [List.mem_append, List.mem_cons] at hx ⊢
      tauto
    exact ofArguments_congr h hb va vb (lastWith_swap hkeys)
  case drop =>
    rintro va front a rest us rfl ⟨b, hmem, hkeys⟩ hb
    have vb : Valid (front ++ rest) := by
      intro x hx
      refine va x ?_
      simp only [List.mem_append, List.mem_cons] at hx ⊢
      tauto
    exact ofArguments_congr h hb va vb (lastWith_drop hmem hkeys)

/-- **The last assignment counts.** Written arguments give the default configuration with the last
value for each key. The first argument that is not valid is the outcome, whatever follows it. -/
theorem lastAssignments_ofArguments :
    (∀ as ts, Spells as ts → ArgumentsAssign as ts) ∧
    (∀ (a : WrittenArgument), (∀ s, a.setting = .ok s ↔ a.Assigns s) ∧
      ∀ fault, a.setting = .error fault ↔ a.Rejects fault) ∧
    ∀ as ts tail fault, Precedes as ts → Valid as → Refused tail fault →
      Config.ofArguments (ts ++ tail) = .error fault := by
  refine ⟨fun as ts => argumentsAssign, fun a => ?_, fun as ts tail fault h valid hf => ?_⟩
  · exact ⟨fun s => WrittenArgument.setting_eq_ok, fun fault => WrittenArgument.setting_eq_error⟩
  · unfold Config.ofArguments
    rw [read_refused h valid hf]
    rfl

/-! ### A list with a repeated key -/

/-- An argument with a word for the key and an emitted literal for the value. -/
def quotedArgument (key value : String) : WrittenArgument :=
  ⟨⟨none, .plain key, []⟩, false, .callSite, quoted value⟩

theorem quotation?_quoted (value : String) :
    quotation? (quoted value) = some ⟨value, "", .callSite⟩ := by
  have isString : Look.isString (Text.Quoted.write value) := by
    unfold Look.isString Text.Quoted.write
    rw [String.toList_ofList]
    rfl
  rw [quoted, quotation?, if_pos isString, Text.Quoted.read?_write]
  rfl

/-- The name of the headers is given twice. -/
def twiceNamed : List WrittenArgument :=
  [quotedArgument "headers" "Old", quotedArgument "constructor" "make",
    quotedArgument "headers" "New"]

theorem forall₂_twiceNamed : List.Forall₂ WrittenArgument.Assigns twiceNamed
    [.headersType (.plain "Old"), .constructor (.plain "make"), .headersType (.plain "New")] := by
  have holds (name : String) (span : Span)
      (h : (tokenize name).toOption.bind Quotation.onlyIdent? = some ⟨false, name, span⟩)
      (isName : Look.isName ⟨false, name, span⟩) :
      Quotation.HoldsIdent ⟨name, "", .callSite⟩ (.plain name) :=
    ⟨rfl, _, Quotation.eq_ok_of_onlyIdent? h, isName, rfl⟩
  have old := holds "Old" ⟨⟨1, 0⟩, ⟨1, 3⟩⟩ (by decide +kernel) (by decide)
  have make := holds "make" ⟨⟨1, 0⟩, ⟨1, 4⟩⟩ (by decide +kernel) (by decide)
  have new := holds "New" ⟨⟨1, 0⟩, ⟨1, 3⟩⟩ (by decide +kernel) (by decide)
  exact .cons (.headersType rfl (quotation?_quoted _) old)
    (.cons (.constructor rfl (quotation?_quoted _) make)
      (.cons (.headersType rfl (quotation?_quoted _) new) .nil))

theorem lastAssignments_twiceNamed : ∃ ts, Spells twiceNamed ts ∧
    Config.ofArguments ts =
      .ok { headersType := some (.plain "New"), constructor := .plain "make" } := by
  have spelled := Spells.cons (quotedArgument "headers" "Old") false .callSite
    (.cons (quotedArgument "constructor" "make") false .callSite
      (.cons (quotedArgument "headers" "New") false .callSite .nil))
  exact ⟨_, spelled, (lastAssignments_ofArguments.1 _ _ spelled).valid _ forall₂_twiceNamed⟩

end RequestGroups

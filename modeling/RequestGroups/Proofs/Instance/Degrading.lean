import RequestGroups.Proofs.Dictionary.Completeness
import RequestGroups.Proofs.Dictionary.Headers
import RequestGroups.Proofs.Expansion.MethodCalls

/-! # Conversions that never fail

A dictionary can be asked for in three ways that never fail: from the function of the library, from
a request model by default, and from the method of an expanded struct. All of them make the attempt
that may fail, and where it does, they give an empty dictionary and log a warning after everything
that the attempt has logged.

* `Degrades`: one outcome is the other with an empty dictionary in place of a problem;
* `degrades_orEmpty`: this is what `orEmpty` does, and `quiet_dictionaryOrProblem`: the attempts log
  no warnings of their own, so that there is one warning at most;
* `orProblem_requestModel`, `orEmpty_requestModel`: an expanded struct gives what the functions of
  the library give for the record of the group;
* `attempt?_conversion`: the bodies of the methods of the trait attempt the same, run as tokens;
* `orProblem_congr`, `orEmpty_congr`: a group has its outcome whatever the other group holds;
* `degrading_expand` collects these facts for every expansion. -/

namespace RequestGroups

open Source Grammar Text
open TokenTree (within)

variable {α : Type u} {c : Config} {d : Declaration} {e : Expansion}

/-! ### Empty dictionaries for problems -/

/-- A warning that a group has no dictionary: it names the group and says why. -/
def LogRecord.WarnsOf (w : LogRecord) (r : Role) (problem : DictionaryProblem) : Prop :=
  w.level = .warning ∧ w.message =
    r.groupName ++ " conversion failed, returning an empty mapping: " ++ problem.message

/-- **An outcome that degrades another one**: the same dictionary and the same log, or an empty
dictionary and one warning more. -/
structure Degrades {r : Role} (attempt : Attempt r) (total : Logged (KeyMap r.Value)) : Prop where
  ok : ∀ m, attempt.result = .ok m → total.result = m ∧ total.log = attempt.log
  error : ∀ problem, attempt.result = .error problem → total.result = [] ∧
    ∃ w, w.WarnsOf r problem ∧ total.log = attempt.log ++ [w]

/-- Nothing in a log is a warning. -/
def Quiet (log : List LogRecord) : Prop := ∀ w ∈ log, w.level = .debug

/-- The warnings in a log. -/
def warnings (log : List LogRecord) : List LogRecord := log.filter (·.level = .warning)

theorem degrades_orEmpty {r : Role} (attempt : Attempt r) :
    Degrades attempt (orEmpty r attempt) := by
  obtain ⟨result, log⟩ := attempt
  cases result with
  | ok m =>
    constructor
    · rintro _ ⟨⟩
      exact ⟨rfl, rfl⟩
    · exact nofun
  | error problem =>
    constructor
    · exact nofun
    · rintro _ ⟨⟩
      exact ⟨rfl, .degraded r problem, ⟨rfl, rfl⟩, rfl⟩

theorem warnings_of_quiet {log : List LogRecord} (h : Quiet log) : warnings log = [] := by
  refine List.filter_eq_nil_iff.2 fun w hw => ?_
  rw [h w hw]
  decide

/-- **One warning at most**: none with a dictionary, and the one about the problem without. -/
theorem Degrades.length_warnings {r : Role} {attempt : Attempt r} {total : Logged (KeyMap r.Value)}
    (h : Degrades attempt total) (quiet : Quiet attempt.log) :
    (warnings total.log).length = if attempt.result.isOk then 0 else 1 := by
  have none : warnings attempt.log = [] := warnings_of_quiet quiet
  cases hr : attempt.result with
  | ok m => rw [(h.ok m hr).2, none]; rfl
  | error problem =>
    obtain ⟨-, w, ⟨level, -⟩, log⟩ := h.error problem hr
    have one : warnings [w] = [w] := List.filter_eq_self.2 (by simp [level])
    rw [log, warnings, List.filter_append, ← warnings, none, ← warnings, one]
    rfl

/-! ### The functions of the library -/

theorem quiet_dictionaryOrProblem (p : HeaderPolicy) (r : Role) (data : Data) :
    Quiet (dictionaryOrProblem p r data).log := by
  intro w hw
  cases r with
  | header =>
    obtain ⟨entry, -, note⟩ := mem_log (conversion_headersOrProblem_of p data) hw
    exact level_headerNote? note
  | body => exact absurd hw List.not_mem_nil

theorem dictionaryOrEmpty_eq (p : HeaderPolicy) (r : Role) (data : Data) :
    dictionaryOrEmpty p r data = orEmpty r (dictionaryOrProblem p r data) := by
  cases r <;> rfl

theorem degrades_dictionaryOrEmpty (p : HeaderPolicy) (r : Role) (data : Data) :
    Degrades (dictionaryOrProblem p r data) (dictionaryOrEmpty p r data) := by
  rw [dictionaryOrEmpty_eq]
  exact degrades_orEmpty _

/-! ### Expanded structs -/

section Struct

variable {present present' : GroupField → α → Option Data} {i i' : Instance α} {r : Role}

/-- The struct converts the record of a group with the configured policy. -/
theorem orProblem_requestModel (e : Expansion) (c : Config)
    (present : GroupField → α → Option Data) (r : Role) (i : Instance α) :
    (e.requestModel c present).orProblem r i =
      dictionaryOrProblem c.headerValues r (e.groupData present i r) := by
  -- the call of the body has no policy, which its conversion does not look at
  cases r <;> rfl

/-- **The methods of the trait** attempt what the struct does as a request model: their bodies are
calls of the library. -/
theorem attempt?_conversion (e : Expansion) (c : Config) (present : GroupField → α → Option Data)
    (r : Role) (i : Instance α) :
    ((e.conversionCall c r).tokens c).attempt? e c present i =
      some ⟨r, (e.requestModel c present).orProblem r i⟩ := by
  rw [MethodTokens.attempt?, read?_conversion]
  rfl

theorem orEmpty_requestModel (e : Expansion) (c : Config)
    (present : GroupField → α → Option Data) (r : Role) (i : Instance α) :
    (e.requestModel c present).orEmpty r i =
      dictionaryOrEmpty c.headerValues r (e.groupData present i r) := by
  rw [RequestModel.orEmpty, orProblem_requestModel, dictionaryOrEmpty_eq]

theorem run_conversion (e : Expansion) (c : Config) (present : GroupField → α → Option Data)
    (v : Conversion) (i : Instance α) :
    v.run e c present i = dictionaryOrEmpty c.headerValues v.role (e.groupData present i v.role) :=
  orEmpty_requestModel e c present v.role i

theorem groupData_congr
    (members : i.members? (e.storage.fieldOf r) = i'.members? (e.storage.fieldOf r))
    (fields : ∀ f ∈ (e.record r).fields, present f = present' f) :
    e.groupData present i r = e.groupData present' i' r := by
  unfold Expansion.groupData GroupRecord.dataOf
  rw [members]
  refine congrArg Data.record (List.filterMap_congr fun f hf => ?_)
  rw [fields f hf]

/-- **The attempt of a group** has its outcome whatever else the instance holds. -/
theorem orProblem_congr
    (members : i.members? (e.storage.fieldOf r) = i'.members? (e.storage.fieldOf r))
    (fields : ∀ f ∈ (e.record r).fields, present f = present' f) :
    (e.requestModel c present).orProblem r i = (e.requestModel c present').orProblem r i' := by
  rw [orProblem_requestModel, orProblem_requestModel, groupData_congr members fields]

theorem orEmpty_congr
    (members : i.members? (e.storage.fieldOf r) = i'.members? (e.storage.fieldOf r))
    (fields : ∀ f ∈ (e.record r).fields, present f = present' f) :
    (e.requestModel c present).orEmpty r i = (e.requestModel c present').orEmpty r i' :=
  congrArg (orEmpty r) (orProblem_congr members fields)

end Struct

namespace Declaration

theorem groupOf_congr {value value' : Field → α} {r : Role}
    (h : ∀ f ∈ d.members c r, value f = value' f) :
    d.groupOf c value r = d.groupOf c value' r :=
  List.map_congr_left fun f hf => congrArg (f.name, ·) (h f hf)

/-! ### Calls by name -/

/-- The struct has a method with the name of each conversion that does not fail. -/
theorem isSome_ownMethod? (r : Role) :
    ((d.expansion c).ownMethod? c (conversionName r)).isSome := by
  rw [Expansion.ownMethod?, List.find?_isSome]
  refine ⟨(Conversion.ofRole r).method (d.expansion c) c, ?_, ?_⟩
  · rw [receiving_expansion]
    exact List.mem_append_right _ (List.mem_map_of_mem (Role.mem_all r))
  · exact beq_self_eq_true _

theorem ownMethod?_conversionName {renames : Entry → Prop} (h : d.Acceptable renames c) (r : Role) :
    ∃ m, (d.expansion c).ownMethod? c (conversionName r) = some m ∧
      m.body.trees = forwardTokens c (.plain (conversionName r)) := by
  obtain ⟨m, hm⟩ := Option.isSome_iff_exists.1 (isSome_ownMethod? (d := d) (c := c) r)
  have body : m.body = ((Conversion.ofRole r).method (d.expansion c) c).body :=
    reaches_conversionName h r m hm
  exact ⟨m, hm, by rw [body, Conversion.trees_body]; rfl⟩

end Declaration

/-- The struct does not implement the conversions that do not fail. -/
theorem name_ne_conversionName {m : Method} (h : m ∈ e.traitMethods c) (r : Role) :
    m.name.name ≠ conversionName r := by
  obtain ⟨s, -, rfl⟩ := List.mem_map.1 h
  exact fallibleName_ne_conversionName s r

/-! ### Whole expansions -/

/-- **The conversions of an expanded struct** that do not fail, where `present` is how the values of
its fields are presented to the encoder. -/
structure Expansion.Degrading (e : Expansion) (d : Declaration) (c : Config)
    (present : GroupField → α → Option Data) : Prop where
  /-- The output consists of the structs and of methods with the bodies that are run. -/
  output : (e.emit c).trees = e.tokens c
  /-- The method of the struct calls the conversion of the trait, which is the default, since the
  struct implements those that may fail only: they call the library for the stored group, the one
  for headers with the configured policy. -/
  code : ∀ r, (∃ m, e.ownMethod? c (conversionName r) = some m ∧
      m.body.trees = forwardTokens c (.plain (conversionName r))) ∧
    (∀ m ∈ e.traitMethods c, m.name.name ≠ conversionName r) ∧
    ∃ m ∈ e.traitMethods c, m.name.name = fallibleName r ∧
      m.body.trees = (c.runtimePath ["conversion", fallibleName r]).trees ++
        [within .paren (groupTokens (c.storage r) ++
          if r = .header then ConversionCall.settingsTokens c c.headerValues else [])] ∧
      ConversionCall.read? c m.body.trees = some (e.conversionCall c r) ∧
      (e.conversionCall c r).storage = c.storage r ∧
      (r = .header → (e.conversionCall c r).policy = some c.headerValues)
  /-- Run as tokens, the methods of the trait make the attempts. -/
  runs : ∀ r i, ((e.conversionCall c r).tokens c).attempt? e c present i =
    some ⟨r, (e.requestModel c present).orProblem r i⟩
  /-- All ways give what the library gives for the record of the group. -/
  attempts : ∀ r i, (e.requestModel c present).orProblem r i =
    dictionaryOrProblem c.headerValues r (e.groupData present i r)
  defaults : ∀ r i, (e.requestModel c present).orEmpty r i =
    dictionaryOrEmpty c.headerValues r (e.groupData present i r)
  methods : [e.headersConversion, e.bodyConversion].map (·.role) = Role.all ∧
    ∀ (v : Conversion) i, v.run e c present i =
      dictionaryOrEmpty c.headerValues v.role (e.groupData present i v.role)
  /-- A group has its outcome whatever the instance holds beside it and however that is presented,
  be it that the other group has no dictionary. -/
  isolated : ∀ r i i' present', i.members? (c.storage r) = i'.members? (c.storage r) →
    (∀ f ∈ (e.record r).fields, present f = present' f) →
    (e.requestModel c present).orProblem r i = (e.requestModel c present').orProblem r i' ∧
      (e.requestModel c present).orEmpty r i = (e.requestModel c present').orEmpty r i'
  /-- In a constructed instance it depends on the values of the fields of the group only. -/
  constructed : c.headersStorage.name ≠ c.bodyStorage.name →
    ∀ r (value value' : Field → α) (initial initial' : Ident → α),
      (∀ f ∈ d.members c r, value f = value' f) →
      ∃ i i', e.construct (fun n => some (initial n)) (d.arguments c value) = some i ∧
        e.construct (fun n => some (initial' n)) (d.arguments c value') = some i' ∧
        (e.requestModel c present).orProblem r i = (e.requestModel c present).orProblem r i' ∧
        (e.requestModel c present).orEmpty r i = (e.requestModel c present).orEmpty r i'
  /-- The record that is converted then holds the values under their keys. -/
  record : c.headersStorage.name ≠ c.bodyStorage.name →
    ∀ r (value : Field → α) (initial : Ident → α) (data : GroupField → α → Data),
      (present = fun f v => some (data f v)) →
      ∃ i, e.construct (fun n => some (initial n)) (d.arguments c value) = some i ∧
        (e.requestModel c present).orProblem r i = dictionaryOrProblem c.headerValues r
          ((e.record r).datum ((d.members c r).map fun f => data (f.grouped c.markers) (value f)))

theorem Declaration.trees_conversionCall (r : Role) :
    (((d.expansion c).conversionCall c r).method c).body.trees =
      (c.runtimePath ["conversion", fallibleName r]).trees ++
        [within .paren (groupTokens (c.storage r) ++
          if r = .header then ConversionCall.settingsTokens c c.headerValues else [])] := by
  have body : (((d.expansion c).conversionCall c r).method c).body.trees =
      (((d.expansion c).conversionCall c r).tokens c).body :=
    congrArg MethodTokens.body (ConversionCall.tokens_method _ c)
  rw [body]
  cases r <;> rfl

theorem Declaration.degrading_expansion (h : d.Acceptable (Entry.isRename ·) c)
    (present : GroupField → α → Option Data) : (d.expansion c).Degrading d c present := by
  constructor
  case output => exact Expansion.trees_emit _ c
  case code =>
    refine fun r => ⟨ownMethod?_conversionName h r, fun m hm => name_ne_conversionName hm r,
      ((d.expansion c).conversionCall c r).method c, List.mem_map_of_mem (Role.mem_all r), rfl,
      trees_conversionCall r, ?_, fieldOf_expansion r, ?_⟩
    · have body := congrArg MethodTokens.body
        (ConversionCall.tokens_method ((d.expansion c).conversionCall c r) c)
      exact (congrArg _ body).trans (read?_conversion _ c)
    · rintro rfl
      rfl
  case runs => exact attempt?_conversion _ c present
  case attempts => exact orProblem_requestModel _ c present
  case defaults => exact orEmpty_requestModel _ c present
  case methods => exact ⟨rfl, run_conversion _ c present⟩
  case isolated =>
    intro r i i' present' members fields
    rw [← fieldOf_expansion (d := d)] at members
    exact ⟨orProblem_congr members fields, orEmpty_congr members fields⟩
  case constructed =>
    intro hs r value value' initial initial' equal
    have members : (d.instanceOf c value initial).members? ((d.expansion c).storage.fieldOf r) =
        (d.instanceOf c value' initial').members? ((d.expansion c).storage.fieldOf r) := by
      rw [fieldOf_expansion, members?_instanceOf h hs, members?_instanceOf h hs,
        groupOf_congr equal]
    exact ⟨_, _, construct_expansion h.names value initial,
      construct_expansion h.names value' initial', orProblem_congr members fun _ _ => rfl,
      orEmpty_congr members fun _ _ => rfl⟩
  case record =>
    rintro hs r value initial data rfl
    refine ⟨_, construct_expansion h.names value initial, ?_⟩
    rw [orProblem_requestModel, groupData_instanceOf h hs]

/-- **Conversions degrade**: those that do not fail are those that may fail, with an empty
dictionary and one warning in place of a problem. This holds of the library, of every request model
by default and of every expanded struct, whose groups do so independently of each other. -/
theorem degrading_expand :
    (∀ p r data, Degrades (dictionaryOrProblem p r data) (dictionaryOrEmpty p r data) ∧
      Quiet (dictionaryOrProblem p r data).log ∧
      (warnings (dictionaryOrEmpty p r data).log).length =
        if (dictionaryOrProblem p r data).result.isOk then 0 else 1) ∧
    LogRecord.target = "request_model::conversion" ∧
    (∀ (σ : Type u) (m : RequestModel σ) r x, Degrades (m.orProblem r x) (m.orEmpty r x)) ∧
    ∀ d c e, Declaration.expand d c = .ok e →
      ∀ (α : Type u) (present : GroupField → α → Option Data), e.Degrading d c present := by
  refine ⟨fun p r data => ?_, rfl, fun σ m r x => degrades_orEmpty _, fun d c e h α present => ?_⟩
  · have degrades := degrades_dictionaryOrEmpty p r data
    have quiet := quiet_dictionaryOrProblem p r data
    exact ⟨degrades, quiet, degrades.length_warnings quiet⟩
  · obtain ⟨accepted, rfl⟩ := Declaration.expand_eq_expansion h
    exact Declaration.degrading_expansion accepted present

/-- Numbers are no headers for a strict policy, but the body of the struct has its dictionary. -/
theorem degrading_mixedStruct : ∃ e i, mixedStruct.expand {} = .ok e ∧
    e.Degrading mixedStruct {} (fun _ n => some (.int n)) ∧
    e.construct (fun _ => some 0) [7, 8, 9] = some i ∧
    (e.requestModel {} fun _ n => some (.int n)).orEmpty .header i =
      ⟨[], [⟨.warning, "headers conversion failed, returning an empty mapping: " ++
        "header \"X-Id\" encoded to number, expected a string"⟩]⟩ ∧
    (e.requestModel {} fun _ n => some (.int n)).orEmpty .body i =
      ⟨[("type", JsonValue.int 9)], []⟩ :=
  ⟨_, _, expand_mixedStruct, degrading_expand.2.2.2 _ _ _ expand_mixedStruct Int _, rfl, rfl, rfl⟩

end RequestGroups

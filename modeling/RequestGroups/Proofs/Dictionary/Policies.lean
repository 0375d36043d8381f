import RequestGroups.Proofs.Dictionary.Headers

/-! # The policies and the groups agree

Both policies go through the same object, and `stringify` accepts whatever `strict` does. So a
dictionary under `strict` stays the same under `stringify`, and a header that `stringify` refuses
does not come before the first one that `strict` refuses. Under `strict` the headers are the body as
an object of strings.

* `headersOrProblem_cases`: the three ways through the headers of a datum, for either policy;
* `result_eq_ok`, `result_eq_refused`, `result_eq_error`: which result belongs to which way;
* `DictionariesAgree` lists what the dictionaries of one datum have in common, and
  `dictionaries_agree` says that they always have it. -/

namespace RequestGroups

open Text

variable {p : HeaderPolicy} {d : Data}

/-! ### Objects -/

theorem objectOf_eq_ok {r : Role} {m : KeyMap JsonValue} :
    objectOf r d = .ok m ↔ d.encode = .ok (.object m) := by
  unfold objectOf
  rcases d.encode with problem | v
  · exact ⟨nofun, nofun⟩
  · cases v <;> simp

/-- A datum without an object is not the fault of a header. -/
theorem objectOf_ne_headerIsNoText {r : Role} {key : String} {found : JsonKind} :
    objectOf r d ≠ .error (.headerIsNoText key found) := by
  unfold objectOf
  rcases d.encode with problem | v
  · exact nofun
  · cases v <;> exact nofun

theorem headersOrProblem_of_object {m : KeyMap JsonValue} (h : d.encode = .ok (.object m)) :
    headersOrProblem p d = headersOf p m := by
  unfold headersOrProblem
  rw [objectOf_eq_ok.2 h]

theorem result_bodyOrProblem_eq_ok {m : KeyMap JsonValue} :
    (bodyOrProblem d).result = .ok m ↔ d.encode = .ok (.object m) :=
  objectOf_eq_ok

/-! ### Ways through the headers -/

/-- **The three ways** through the headers: there is no object, every header is accepted, or there
is a first one that is not. -/
theorem headersOrProblem_cases (p : HeaderPolicy) (d : Data) :
    (∃ problem, objectOf .header d = .error problem ∧
      headersOrProblem p d = ⟨.error problem, []⟩) ∨
    (∃ m, d.encode = .ok (.object m) ∧ (∀ e ∈ m, p.Accepts e.2) ∧
      headersOrProblem p d = ⟨.ok (headerTexts m), m.filterMap headerNote?⟩) ∨
    ∃ before e after, d.encode = .ok (.object (before ++ e :: after)) ∧
      (∀ x ∈ before, p.Accepts x.2) ∧ ¬ p.Accepts e.2 ∧
      headersOrProblem p d =
        ⟨.error (.headerIsNoText e.1 (.of e.2)), before.filterMap headerNote?⟩ := by
  rcases ho : objectOf .header d with problem | m
  · exact Or.inl ⟨problem, rfl, by rw [headersOrProblem, ho]⟩
  · have object := objectOf_eq_ok.1 ho
    have headers : headersOrProblem p d = headersOf p m := headersOrProblem_of_object object
    rcases hf : List.find? (fun e => ¬ p.Accepts e.2) m with _ | e
    · have all : ∀ e ∈ m, p.Accepts e.2 := by simpa using hf
      exact Or.inr (Or.inl ⟨m, object, all, headers.trans (headersOf_accepted all)⟩)
    · obtain ⟨he, before, after, rfl, hb⟩ := List.find?_eq_some_iff_append.1 hf
      have he : ¬ p.Accepts e.2 := by simpa using he
      have hb : ∀ x ∈ before, p.Accepts x.2 := by simpa using hb
      exact Or.inr (Or.inr ⟨before, e, after, object, hb, he,
        headers.trans (headersOf_refused hb he)⟩)

/-- **The headers have a dictionary** if the policy accepts all values of their object. -/
theorem result_eq_ok {texts : KeyMap String} : (headersOrProblem p d).result = .ok texts ↔
    ∃ m, d.encode = .ok (.object m) ∧ (∀ e ∈ m, p.Accepts e.2) ∧ texts = headerTexts m := by
  constructor
  · intro h
    rcases headersOrProblem_cases p d with
      ⟨problem, -, he⟩ | ⟨m, object, all, he⟩ | ⟨before, e, after, -, -, -, he⟩ <;> rw [he] at h
    · exact absurd h nofun
    · exact ⟨m, object, all, (Except.ok.inj h).symm⟩
    · exact absurd h nofun
  · rintro ⟨m, object, all, rfl⟩
    rw [headersOrProblem_of_object object, headersOf_accepted all]

/-- **A header is refused** if it is the first one that the policy does not accept. -/
theorem result_eq_refused {key : String} {found : JsonKind} :
    (headersOrProblem p d).result = .error (.headerIsNoText key found) ↔
      ∃ before e after, d.encode = .ok (.object (before ++ e :: after)) ∧
        (∀ x ∈ before, p.Accepts x.2) ∧ ¬ p.Accepts e.2 ∧ e.1 = key ∧ JsonKind.of e.2 = found := by
  constructor
  · intro h
    rcases headersOrProblem_cases p d with
      ⟨problem, ho, he⟩ | ⟨m, -, -, he⟩ | ⟨before, e, after, object, hb, hn, he⟩ <;> rw [he] at h
    · cases h
      exact absurd ho objectOf_ne_headerIsNoText
    · exact absurd h nofun
    · cases h
      exact ⟨before, e, after, object, hb, hn, rfl, rfl⟩
  · rintro ⟨before, e, after, object, hb, hn, rfl, rfl⟩
    rw [headersOrProblem_of_object object, headersOf_refused hb hn]

/-- Any other problem is one of the datum, whatever the policy is. -/
theorem result_eq_error {problem : DictionaryProblem}
    (hp : ∀ key found, problem ≠ .headerIsNoText key found) :
    (headersOrProblem p d).result = .error problem ↔ objectOf .header d = .error problem := by
  constructor
  · intro h
    rcases headersOrProblem_cases p d with
      ⟨problem, ho, he⟩ | ⟨m, -, -, he⟩ | ⟨before, e, after, -, -, -, he⟩ <;> rw [he] at h
    · cases h
      exact ho
    · exact absurd h nofun
    · cases h
      exact absurd rfl (hp _ _)
  · intro ho
    rw [headersOrProblem, ho]

/-! ### Strings -/

/-- A strict policy accepts strings and nothing else. -/
theorem accepts_strict {v : JsonValue} :
    HeaderPolicy.strict.Accepts v ↔ JsonKind.of v = .string := by
  simp [HeaderPolicy.Accepts]

/-- Every policy accepts strings. -/
theorem HeaderPolicy.Accepts.of_strict {v : JsonValue} (h : HeaderPolicy.strict.Accepts v) :
    p.Accepts v :=
  Or.inl (accepts_strict.1 h)

theorem eq_string_of_kind {v : JsonValue} (h : JsonKind.of v = .string) :
    v = .string v.headerText := by
  cases v <;> first | rfl | exact absurd h nofun

/-- Nothing is logged for strings. -/
theorem filterMap_headerNote?_strings {m : KeyMap JsonValue}
    (h : ∀ e ∈ m, HeaderPolicy.strict.Accepts e.2) : m.filterMap headerNote? = [] :=
  List.filterMap_eq_nil_iff.2 fun e he => headerNote?_strict (h e he)

/-- The object of strings with the entries of a dictionary of headers. -/
def stringObject (texts : KeyMap String) : KeyMap JsonValue := texts.map fun t => (t.1, .string t.2)

theorem kind_stringObject {texts : KeyMap String} :
    ∀ e ∈ stringObject texts, JsonKind.of e.2 = .string := by
  intro e he
  obtain ⟨t, -, rfl⟩ := List.mem_map.1 he
  rfl

theorem headerTexts_stringObject (texts : KeyMap String) :
    headerTexts (stringObject texts) = texts := by
  simp [headerTexts, stringObject, List.filter_map, Function.comp_def, JsonKind.of,
    JsonValue.headerText]

theorem stringObject_headerTexts {m : KeyMap JsonValue} (h : ∀ e ∈ m, JsonKind.of e.2 = .string) :
    stringObject (headerTexts m) = m := by
  have noNull : m.filter (fun e => JsonKind.of e.2 ≠ .null) = m :=
    List.filter_eq_self.2 fun e he => by simp [h e he]
  rw [headerTexts, noNull, stringObject, List.map_map]
  conv_rhs => rw [← List.map_id m]
  exact List.map_congr_left fun e he => Prod.ext rfl (eq_string_of_kind (h e he)).symm

/-- **Under a strict policy** the headers are the entries of an object of strings. -/
theorem result_strict_eq_ok {texts : KeyMap String} :
    (headersOrProblem .strict d).result = .ok texts ↔
      (bodyOrProblem d).result = .ok (stringObject texts) := by
  rw [result_eq_ok, result_bodyOrProblem_eq_ok]
  constructor
  · rintro ⟨m, object, all, rfl⟩
    rw [stringObject_headerTexts fun e he => accepts_strict.1 (all e he)]
    exact object
  · intro object
    exact ⟨stringObject texts, object, fun e he => accepts_strict.2 (kind_stringObject e he),
      (headerTexts_stringObject texts).symm⟩

/-! ### Keys -/

theorem kind_eq_null {v : JsonValue} : JsonKind.of v = .null ↔ v = .null := by
  cases v <;> simp [JsonKind.of]

/-- A key of an object has one value, so it is lost only if this value is null. -/
theorem lost_headerTexts {m : KeyMap JsonValue} (h : KeyMap.Sorted m) {e : String × JsonValue}
    (he : e ∈ m) : (∀ t ∈ headerTexts m, t.1 ≠ e.1) ↔ e.2 = .null := by
  rw [← kind_eq_null]
  constructor
  · intro lost
    by_contra hv
    have kept : e ∈ m.filter fun e => JsonKind.of e.2 ≠ .null :=
      List.mem_filter.2 ⟨he, by simpa using hv⟩
    exact lost _ (List.mem_map.2 ⟨e, kept, rfl⟩) rfl
  · intro hv t ht key
    obtain ⟨x, hx, rfl⟩ := List.mem_map.1 ht
    obtain ⟨hx, hnot⟩ := List.mem_filter.1 hx
    have found := h.find?_eq hx
    rw [key, h.find?_eq he] at found
    rw [← Option.some.inj found] at hnot
    simp [hv] at hnot

/-! ### One datum -/

/-- **What the dictionaries of one datum have in common**: the headers under both policies and the
body. -/
structure DictionariesAgree (d : Data) : Prop where
  /-- What a strict policy makes, the other one makes too, and neither logs anything. -/
  strict : ∀ texts, (headersOrProblem .strict d).result = .ok texts →
    headersOrProblem .strict d = ⟨.ok texts, []⟩ ∧ headersOrProblem .stringify d = ⟨.ok texts, []⟩
  /-- Where a header is refused in spite of `stringify`, the strict policy refuses this header or
  one in front of it. -/
  refused : ∀ key found,
    (headersOrProblem .stringify d).result = .error (.headerIsNoText key found) →
    ∃ key' found', (headersOrProblem .strict d).result = .error (.headerIsNoText key' found') ∧
      bytes key' ≤ bytes key
  /-- All other problems are the same. -/
  problems : ∀ problem, (∀ key found, problem ≠ .headerIsNoText key found) →
    (headersOrProblem .stringify d).result = .error problem →
    (headersOrProblem .strict d).result = .error problem
  /-- A strict policy makes a dictionary if the body is an object of strings. -/
  strings : (∃ texts, (headersOrProblem .strict d).result = .ok texts) ↔
    ∃ m, (bodyOrProblem d).result = .ok m ∧ ∀ e ∈ m, ∃ s, e.2 = .string s
  /-- The object of strings has the entries of the dictionary. -/
  entries : ∀ texts, (headersOrProblem .strict d).result = .ok texts ↔
    (bodyOrProblem d).result = .ok (stringObject texts)
  /-- Keys get lost with null values only. -/
  keys : ∀ texts, (headersOrProblem .stringify d).result = .ok texts →
    ∃ m, (bodyOrProblem d).result = .ok m ∧ (∀ t ∈ texts, ∃ e ∈ m, e.1 = t.1) ∧
      ∀ e ∈ m, (∀ t ∈ texts, t.1 ≠ e.1) ↔ e.2 = .null

/-- A header that is refused in spite of `stringify` is refused by a strict policy at the latest. -/
theorem refused_strict {key : String} {found : JsonKind}
    (h : (headersOrProblem .stringify d).result = .error (.headerIsNoText key found)) :
    ∃ key' found', (headersOrProblem .strict d).result = .error (.headerIsNoText key' found') ∧
      bytes key' ≤ bytes key := by
  obtain ⟨before, e, after, object, -, he, rfl, rfl⟩ := result_eq_refused.1 h
  have strictly : ¬ HeaderPolicy.strict.Accepts e.2 := fun hs => he hs.of_strict
  generalize hm : before ++ e :: after = m at object
  have mem : e ∈ m := by simp [← hm]
  rcases headersOrProblem_cases .strict d with
    ⟨problem, ho, -⟩ | ⟨m', hm', all, -⟩ | ⟨before', e', after', hm', hb, -, result⟩
  · rw [objectOf_eq_ok.2 object] at ho
    exact absurd ho nofun
  · cases object.symm.trans hm'
    exact absurd (all e mem) strictly
  · cases object.symm.trans hm'
    refine ⟨e'.1, _, by rw [result], ?_⟩
    have order := ascending_of_sorted (sorted_of_encode d hm')
    rcases least_of_ascending order hb e mem strictly with rfl | lt
    · exact List.le_refl _
    · exact List.le_of_lt lt

/-- **The dictionaries of a datum** agree. -/
theorem dictionaries_agree (d : Data) : DictionariesAgree d := by
  constructor
  case strict =>
    intro texts h
    obtain ⟨m, object, all, rfl⟩ := result_eq_ok.1 h
    have every : ∀ e ∈ m, HeaderPolicy.stringify.Accepts e.2 := fun e he => (all e he).of_strict
    rw [headersOrProblem_of_object object, headersOrProblem_of_object object,
      headersOf_accepted all, headersOf_accepted every, filterMap_headerNote?_strings all]
    exact ⟨rfl, rfl⟩
  case refused => exact fun key found h => refused_strict h
  case problems =>
    intro problem hp h
    exact (result_eq_error hp).2 ((result_eq_error hp).1 h)
  case strings =>
    constructor
    · rintro ⟨texts, h⟩
      refine ⟨_, result_strict_eq_ok.1 h, fun e he => ?_⟩
      obtain ⟨t, -, rfl⟩ := List.mem_map.1 he
      exact ⟨t.2, rfl⟩
    · rintro ⟨m, hm, all⟩
      refine ⟨headerTexts m, result_strict_eq_ok.2 ?_⟩
      rw [stringObject_headerTexts]
      · exact hm
      · intro e he
        obtain ⟨s, hs⟩ := all e he
        rw [hs]
        rfl
  case entries => exact fun texts => result_strict_eq_ok
  case keys =>
    intro texts h
    obtain ⟨m, object, -, rfl⟩ := result_eq_ok.1 h
    refine ⟨m, result_bodyOrProblem_eq_ok.2 object, fun t ht => ?_, fun e he => ?_⟩
    · obtain ⟨e, he, rfl⟩ := List.mem_map.1 ht
      exact ⟨e, (List.mem_filter.1 he).1, rfl⟩
    · exact lost_headerTexts (sorted_of_encode d object) he

end RequestGroups

import RequestGroups.Proofs.Dictionary.Completeness
import RequestGroups.Proofs.Text.ByteOrder

/-! # The conversion of headers

The headers of a group are taken one after the other, in the order of the bytes of their keys, up to
the first value that the policy does not accept. `HeaderConversion` lists how this may end and what
is in the log then.

* `HeaderPolicy.Accepts` says which values a policy accepts, `HeaderText` what text they become, and
  `headerNote?` what is logged for them;
* `sorted_of_encode`: an encoded object has its entries in order;
* `headersOf_append`: accepted headers come before the result for the others, which gives the two
  ways through an object (`headersOf_accepted`, `headersOf_refused`);
* `conversion_headersOrProblem`: the conversion ends in one of the listed ways, and its log belongs
  to `stringify` and has no warning. -/

namespace RequestGroups

open Text

/-! ### Rules -/

/-- Whether a policy accepts a value: strings always, and values without parts if they may become
text. -/
def HeaderPolicy.Accepts (p : HeaderPolicy) (v : JsonValue) : Prop :=
  JsonKind.of v = .string ∨ p = .stringify ∧ JsonKind.of v ∈ [JsonKind.number, .bool, .null]

instance (p : HeaderPolicy) (v : JsonValue) : Decidable (p.Accepts v) :=
  inferInstanceAs (Decidable (_ ∨ _))

/-- A whole number in decimal digits. -/
def decimal (n : Int) : String :=
  (if n < 0 then "-" else "") ++ .ofList (Nat.toDigits 10 n.natAbs)

/-- The text of an accepted value that is not null. -/
inductive HeaderText : JsonValue → String → Prop where
  | string (s : String) : HeaderText (.string s) s
  | true : HeaderText (.bool Bool.true) "true"
  | false : HeaderText (.bool Bool.false) "false"
  | int (n : Int) : HeaderText (.int n) (decimal n)
  | double (x : Number.Binary) : HeaderText (.double x) (JsonValue.numberText .double x)

/-- What is logged for an accepted header: that it is left out, or that it became text. -/
def headerNote? (e : String × JsonValue) : Option LogRecord :=
  match JsonKind.of e.2 with
  | .null => some (.dropped e.1)
  | .bool => some (.stringified e.1 e.2.text)
  | .number => some (.stringified e.1 e.2.text)
  | _ => none

/-- Entries in the order of the bytes of their keys. -/
def Ascending (m : List (String × JsonValue)) : Prop :=
  m.Pairwise fun a b => bytes a.1 < bytes b.1

/-- **How the conversion of headers may end**, with its log. -/
inductive HeaderConversion (p : HeaderPolicy) (d : Data) :
    Logged (Except DictionaryProblem (KeyMap String)) → Prop where
  /-- The headers have no JSON value. -/
  | unencodable {problem : EncodingProblem} (h : d.encode = .error problem) :
    HeaderConversion p d ⟨.error (.encoding problem), []⟩
  /-- The headers are no object. -/
  | noObject {v : JsonValue} (h : d.encode = .ok v) (hv : JsonKind.of v ≠ .object) :
    HeaderConversion p d ⟨.error (.notAnObject .header (.of v)), []⟩
  /-- All values are accepted: each but the nulls has its text under its key. -/
  | accepted {m : KeyMap JsonValue} {texts : KeyMap String} (h : d.encode = .ok (.object m))
    (order : Ascending m) (all : ∀ e ∈ m, p.Accepts e.2)
    (each : List.Forall₂ (fun e t => t.1 = e.1 ∧ HeaderText e.2 t.2)
      (m.filter fun e => JsonKind.of e.2 ≠ .null) texts) :
    HeaderConversion p d ⟨.ok texts, m.filterMap headerNote?⟩
  /-- Some value is not accepted: the one with the smallest key is reported. -/
  | refused {before after : KeyMap JsonValue} {e : String × JsonValue}
    (h : d.encode = .ok (.object (before ++ e :: after))) (order : Ascending (before ++ e :: after))
    (others : ∀ x ∈ before, p.Accepts x.2) (he : ¬ p.Accepts e.2)
    (least : ∀ x ∈ before ++ e :: after, ¬ p.Accepts x.2 → x = e ∨ bytes e.1 < bytes x.1) :
    HeaderConversion p d ⟨.error (.headerIsNoText e.1 (.of e.2)), before.filterMap headerNote?⟩

/-! ### Encoded objects -/

theorem sorted_of_ofEntries {entries : List (String × JsonValue)} {m : KeyMap JsonValue}
    (h : JsonValue.ofEntries entries = .object m) : KeyMap.Sorted m := by
  cases h
  exact KeyMap.sorted_ofEntries _

theorem sorted_of_array {items : List JsonValue} {m : KeyMap JsonValue}
    (h : JsonValue.array items = .object m) : KeyMap.Sorted m := by
  cases h

theorem sorted_of_variantObject {name : String} {v : JsonValue} {m : KeyMap JsonValue}
    (h : variantObject name v = .object m) : KeyMap.Sorted m := by
  cases h
  exact List.pairwise_singleton _ _

theorem sorted_of_canonical {v : JsonValue} {m : KeyMap JsonValue} (h : v.canonical = .object m) :
    KeyMap.Sorted m := by
  cases v with
  | object es => exact sorted_of_ofEntries (by rwa [JsonValue.canonical] at h)
  | _ => simp [JsonValue.canonical] at h

theorem sorted_of_map {x : Except ε α} {f : α → JsonValue} {m : KeyMap JsonValue}
    (h : x.map f = .ok (.object m)) (hf : ∀ a, f a = .object m → KeyMap.Sorted m) :
    KeyMap.Sorted m := by
  cases x with
  | error e => exact absurd h nofun
  | ok a => exact hf a (Except.ok.inj h)

/-- **An encoded object** has its entries in the order of their keys. -/
theorem sorted_of_encode {m : KeyMap JsonValue} (d : Data) (h : d.encode = .ok (.object m)) :
    KeyMap.Sorted m := by
  cases d with
  | some v =>
    rw [Data.encode] at h
    exact sorted_of_encode v h
  | wrapper v =>
    rw [Data.encode] at h
    exact sorted_of_encode v h
  | map es =>
    rw [Data.encode] at h
    exact sorted_of_map h fun _ => sorted_of_ofEntries
  | record fields =>
    rw [Data.encode] at h
    exact sorted_of_map h fun _ => sorted_of_ofEntries
  | wrapperVariant name v =>
    rw [Data.encode] at h
    exact sorted_of_map h fun _ => sorted_of_variantObject
  | tupleVariant name items =>
    rw [Data.encode] at h
    exact sorted_of_map h fun _ => sorted_of_variantObject
  | recordVariant name fields =>
    rw [Data.encode] at h
    exact sorted_of_map h fun _ => sorted_of_variantObject
  | json v =>
    rw [Data.encode] at h
    exact sorted_of_canonical (Except.ok.inj h)
  | sequence items =>
    rw [Data.encode] at h
    exact sorted_of_map h fun _ => sorted_of_array
  | tuple items =>
    rw [Data.encode] at h
    exact sorted_of_map h fun _ => sorted_of_array
  | int n =>
    rw [Data.encode, encodeInt] at h
    split at h <;> cases h
  | single x =>
    rw [Data.encode] at h
    cases hx : x.convert .double <;> rw [hx] at h <;> cases h
  | double x =>
    rw [Data.encode] at h
    cases x <;> cases h
  | _ =>
    rw [Data.encode] at h
    cases h
termination_by structural d

/-! ### Going through the headers -/

/-- The texts of some headers that are accepted. -/
def headerTexts (m : KeyMap JsonValue) : KeyMap String :=
  (m.filter fun e => JsonKind.of e.2 ≠ .null).map fun e => (e.1, e.2.headerText)

variable {p : HeaderPolicy}

/-- An accepted header adds its text and its record to those of the others. -/
theorem headersOf_cons {e : String × JsonValue} (h : p.Accepts e.2) (rest : KeyMap JsonValue) :
    headersOf p (e :: rest) = ⟨(headersOf p rest).result.map (headerTexts [e] ++ ·),
      [e].filterMap headerNote? ++ (headersOf p rest).log⟩ := by
  obtain ⟨key, v⟩ := e
  unfold HeaderPolicy.Accepts at h
  cases p <;> cases v <;> first | rfl | simp [JsonKind.of] at h

/-- Any other header ends the conversion. -/
theorem headersOf_cons_of_not {e : String × JsonValue} (h : ¬ p.Accepts e.2)
    (rest : KeyMap JsonValue) :
    headersOf p (e :: rest) = ⟨.error (.headerIsNoText e.1 (.of e.2)), []⟩ := by
  obtain ⟨key, v⟩ := e
  unfold HeaderPolicy.Accepts at h
  cases p <;> cases v <;> first | rfl | simp [JsonKind.of] at h

/-- **Headers that are accepted** come before the result for the others. -/
theorem headersOf_append {before : KeyMap JsonValue} (h : ∀ e ∈ before, p.Accepts e.2)
    (rest : KeyMap JsonValue) : headersOf p (before ++ rest) =
      ⟨(headersOf p rest).result.map (headerTexts before ++ ·),
        before.filterMap headerNote? ++ (headersOf p rest).log⟩ := by
  induction before with
  | nil =>
    rw [List.nil_append]
    cases hr : (headersOf p rest).result <;> simp [headerTexts, Except.map, ← hr]
  | cons e before ih =>
    obtain ⟨he, hb⟩ := List.forall_mem_cons.1 h
    have texts : headerTexts (e :: before) = headerTexts [e] ++ headerTexts before := by
      rw [headerTexts, ← List.singleton_append, List.filter_append, List.map_append]
      rfl
    have notes : (e :: before).filterMap headerNote? =
        [e].filterMap headerNote? ++ before.filterMap headerNote? := by
      rw [← List.filterMap_append, List.singleton_append]
    rw [List.cons_append, headersOf_cons he, ih hb, texts, notes]
    cases (headersOf p rest).result <;> simp [Except.map]

theorem headersOf_accepted {m : KeyMap JsonValue} (h : ∀ e ∈ m, p.Accepts e.2) :
    headersOf p m = ⟨.ok (headerTexts m), m.filterMap headerNote?⟩ := by
  have all := headersOf_append h []
  rw [List.append_nil] at all
  simp [all, headersOf, Except.map]

theorem headersOf_refused {before after : KeyMap JsonValue} {e : String × JsonValue}
    (h : ∀ x ∈ before, p.Accepts x.2) (he : ¬ p.Accepts e.2) :
    headersOf p (before ++ e :: after) =
      ⟨.error (.headerIsNoText e.1 (.of e.2)), before.filterMap headerNote?⟩ := by
  rw [headersOf_append h, headersOf_cons_of_not he]
  simp [Except.map]

/-! ### Texts and records -/

theorem toString_eq_decimal (n : Int) : toString n = decimal n := by
  rw [Int.toString_eq_repr, Int.repr_eq_if, decimal]
  by_cases hn : 0 ≤ n
  · have abs : n.natAbs = n.toNat := by omega
    rw [if_pos hn, if_neg (by omega), String.empty_append, abs]
    rfl
  · have abs : n.natAbs = (-n).toNat := by omega
    rw [if_neg hn, if_pos (by omega), abs]
    rfl

/-- An accepted value that is not null has a text. -/
theorem headerText_of_accepts {v : JsonValue} (h : p.Accepts v) (hv : JsonKind.of v ≠ .null) :
    HeaderText v v.headerText := by
  cases v with
  | null => exact absurd rfl hv
  | bool b =>
    cases b
    · exact .false
    · exact .true
  | int n =>
    have := HeaderText.int n
    rwa [← toString_eq_decimal] at this
  | double x => exact .double x
  | string s => exact .string s
  | array items => simp [HeaderPolicy.Accepts, JsonKind.of] at h
  | object es => simp [HeaderPolicy.Accepts, JsonKind.of] at h

theorem forall₂_headerTexts {m : KeyMap JsonValue} (h : ∀ e ∈ m, p.Accepts e.2) :
    List.Forall₂ (fun e t => t.1 = e.1 ∧ HeaderText e.2 t.2)
      (m.filter fun e => JsonKind.of e.2 ≠ .null) (headerTexts m) := by
  rw [headerTexts, List.forall₂_map_right_iff, List.forall₂_same]
  intro e he
  obtain ⟨hm, hv⟩ := List.mem_filter.1 he
  exact ⟨rfl, headerText_of_accepts (h e hm) (by simpa using hv)⟩

/-- Only a policy that makes texts leaves records. -/
theorem headerNote?_strict {e : String × JsonValue} (h : HeaderPolicy.strict.Accepts e.2) :
    headerNote? e = none := by
  rcases h with h | ⟨h, -⟩
  · rw [headerNote?, h]
  · exact absurd h nofun

theorem level_headerNote? {e : String × JsonValue} {r : LogRecord} (h : headerNote? e = some r) :
    r.level = .debug := by
  unfold headerNote? at h
  split at h <;> cases h <;> rfl

theorem ascending_of_sorted {m : KeyMap JsonValue} (h : KeyMap.Sorted m) : Ascending m :=
  h.imp bytes_lt_bytes.2

/-- The first header that is not accepted has the smallest key of these. -/
theorem least_of_ascending {before after : KeyMap JsonValue} {e : String × JsonValue}
    (order : Ascending (before ++ e :: after)) (h : ∀ x ∈ before, p.Accepts x.2) :
    ∀ x ∈ before ++ e :: after, ¬ p.Accepts x.2 → x = e ∨ bytes e.1 < bytes x.1 := by
  intro x hx not
  rcases List.mem_append.1 hx with hx | hx
  · exact absurd (h x hx) not
  · have later := (List.pairwise_cons.1 (List.pairwise_append.1 order).2.1).1
    exact (List.mem_cons.1 hx).imp_right (later x)

theorem conversion_headersOf {d : Data} {m : KeyMap JsonValue} (h : d.encode = .ok (.object m)) :
    HeaderConversion p d (headersOf p m) := by
  have order := ascending_of_sorted (sorted_of_encode d h)
  rcases hf : List.find? (fun e => ¬ p.Accepts e.2) m with _ | e
  · have all : ∀ e ∈ m, p.Accepts e.2 := by simpa using hf
    rw [headersOf_accepted all]
    exact .accepted h order all (forall₂_headerTexts all)
  · obtain ⟨he, before, after, rfl, hb⟩ := List.find?_eq_some_iff_append.1 hf
    have he : ¬ p.Accepts e.2 := by simpa using he
    have others : ∀ x ∈ before, p.Accepts x.2 := by simpa using hb
    rw [headersOf_refused others he]
    exact .refused h order others he (least_of_ascending order others)

theorem conversion_headersOrProblem_of (p : HeaderPolicy) (d : Data) :
    HeaderConversion p d (headersOrProblem p d) := by
  unfold headersOrProblem objectOf
  cases h : d.encode with
  | error problem => exact .unencodable h
  | ok v =>
    cases v with
    | object m => exact conversion_headersOf h
    | _ => exact .noObject h nofun

/-- Whatever is logged is logged for a header that is accepted. -/
theorem mem_log {l : Logged (Except DictionaryProblem (KeyMap String))} {d : Data}
    (h : HeaderConversion p d l) {r : LogRecord} (hr : r ∈ l.log) :
    ∃ e : String × JsonValue, p.Accepts e.2 ∧ headerNote? e = some r := by
  cases h with
  | unencodable => exact absurd hr List.not_mem_nil
  | noObject => exact absurd hr List.not_mem_nil
  | accepted _ _ all _ =>
    obtain ⟨e, he, hn⟩ := List.mem_filterMap.1 hr
    exact ⟨e, all e he, hn⟩
  | refused _ _ others _ _ =>
    obtain ⟨e, he, hn⟩ := List.mem_filterMap.1 hr
    exact ⟨e, others e he, hn⟩

end RequestGroups

import RequestGroups.Config.Arguments
import RequestGroups.Proofs.Grammar.Reads

/-! # What arguments assign

No argument names a marker or a storage field: a configuration from arguments has the default marker
table (`markers_ofArguments`) and keeps the groups in the two default fields
(`storage_ofArguments`). The names that arguments give to other things are identifiers
(`names_ofArguments`), since each of them is read as one. -/

namespace RequestGroups

open Source Grammar Reader

namespace Config

/-- An assignment changes neither the markers nor the storage. -/
theorem fixed_assign (c : Config) (s : Setting) :
    (c.assign s).markers = c.markers ∧ ∀ r, (c.assign s).storage r = c.storage r := by
  cases s <;> exact ⟨rfl, fun _ => rfl⟩

/-- No number of assignments does. -/
theorem fixed_foldl (settings : List Setting) (c : Config) :
    (settings.foldl assign c).markers = c.markers ∧
      ∀ r, (settings.foldl assign c).storage r = c.storage r := by
  induction settings generalizing c with
  | nil => exact ⟨rfl, fun _ => rfl⟩
  | cons s settings ih =>
    obtain ⟨markers, storage⟩ := ih (c.assign s)
    exact ⟨markers.trans (fixed_assign c s).1, fun r => (storage r).trans ((fixed_assign c s).2 r)⟩

theorem ofArguments_eq_ok {ts : List TokenTree} {c : Config} :
    ofArguments ts = .ok c ↔ ∃ settings, Setting.read ts = .ok settings ∧
      settings.foldl assign {} = c := by
  unfold ofArguments
  rw [Outcome.bind_eq_ok]
  simp [pure, Except.pure]

/-- **The markers** are the default ones, whatever the arguments are. -/
theorem markers_ofArguments {ts : List TokenTree} {c : Config}
    (h : ofArguments ts = .ok c) : c.markers = .default := by
  obtain ⟨settings, -, rfl⟩ := ofArguments_eq_ok.1 h
  exact (fixed_foldl settings {}).1

/-- **The groups** are stored in two fields of different names. -/
theorem storage_ofArguments {ts : List TokenTree} {c : Config}
    (h : ofArguments ts = .ok c) : c.headersStorage.name ≠ c.bodyStorage.name := by
  obtain ⟨settings, -, rfl⟩ := ofArguments_eq_ok.1 h
  have header := (fixed_foldl settings {}).2 .header
  have body := (fixed_foldl settings {}).2 .body
  simp only [storage] at header body
  rw [header, body]
  decide

end Config

/-! ### Names -/

/-- What is assigned has a property, if it is a name. -/
def Setting.Names (P : Ident → Prop) : Setting → Prop
  | .headersType name | .bodyType name | .constructor name => P name
  | .headerValues _ | .runtime _ => True

theorem Quotation.isName_of_ident {q : Quotation} {n : Ident} (h : q.ident = .ok n) :
    Look.isName n := by
  unfold Quotation.ident Quotation.contents at h
  split at h
  · exact absurd h nofun
  · obtain ⟨a, ha, h⟩ := Outcome.bind_eq_ok.1 h
    obtain ⟨j, hj⟩ := readAll_eq_ok ha
    split at h
    · cases h
      exact Gives.ident _ _ _ hj
    · exact absurd h nofun

/-- What is read from the contents of a literal has the properties of such contents. -/
theorem gives_argumentValue {P : α → Prop} {value : Quotation → Except Fault α}
    (h : ∀ q a, value q = .ok a → P a) : Gives P (argumentValue value) := by
  refine Gives.bind fun _ => Gives.bind fun q => ?_
  intro i a j hi
  cases hq : value q with
  | error fault =>
    rw [hq] at hi
    exact absurd hi nofun
  | ok b =>
    rw [hq] at hi
    cases hi
    exact h q _ hq

/-- An assignment has a property if it has it for every value that its key allows. -/
theorem gives_setting_of {P : Setting → Prop}
    (names : ∀ q n, Quotation.ident q = .ok n →
      P (.headersType n) ∧ P (.bodyType n) ∧ P (.constructor n))
    (policies : ∀ p, P (.headerValues p)) (paths : ∀ q p, Quotation.path q = .ok p → P (.runtime p)) :
    Gives P setting := by
  have assigned : ∀ {α : Type} (assign : α → Setting) (value : Quotation → Except Fault α),
      (∀ q a, value q = .ok a → P (assign a)) →
        Gives P do return assign (← argumentValue value) :=
    fun assign value h => (gives_argumentValue h).map fun _ ha => ha
  refine Gives.bind fun p => ?_
  refine Gives.ite (assigned _ _ fun q n h => (names q n h).1) ?_
  refine Gives.ite (assigned _ _ fun q n h => (names q n h).2.1) ?_
  refine Gives.ite (assigned _ _ fun q n h => (names q n h).2.2) ?_
  exact Gives.ite (assigned _ _ fun _ p _ => policies p) (Gives.ite (assigned _ _ paths) Gives.fault)

theorem gives_setting : Gives (Setting.Names (Look.isName ·)) setting :=
  gives_setting_of (fun _ _ h => have name := Quotation.isName_of_ident h; ⟨name, name, name⟩)
    (fun _ => trivial) fun _ _ _ => trivial

namespace Config

/-- The names that a configuration gives have a property. -/
structure Names (P : Ident → Prop) (c : Config) : Prop where
  headersType : ∀ name ∈ c.headersType, P name
  bodyType : ∀ name ∈ c.bodyType, P name
  constructor : P c.constructor

theorem Names.givenName? {P : Ident → Prop} {c : Config} (h : c.Names P) {r : Role} {name : Ident}
    (hr : c.givenName? r = some name) : P name := by
  cases r with
  | header => exact h.headersType name hr
  | body => exact h.bodyType name hr

theorem Names.assign {P : Ident → Prop} {c : Config} {s : Setting} (hc : c.Names P)
    (hs : s.Names P) : (c.assign s).Names P := by
  obtain ⟨headers, body, constructor⟩ := hc
  cases s with
  | headersType name => exact ⟨fun _ h => Option.some.inj h ▸ hs, body, constructor⟩
  | bodyType name => exact ⟨headers, fun _ h => Option.some.inj h ▸ hs, constructor⟩
  | constructor name => exact ⟨headers, body, hs⟩
  | headerValues policy => exact ⟨headers, body, constructor⟩
  | runtime path => exact ⟨headers, body, constructor⟩

/-- **The names that arguments give** are identifiers. -/
theorem names_ofArguments {ts : List TokenTree} {c : Config} (h : ofArguments ts = .ok c) :
    c.Names (Look.isName ·) := by
  obtain ⟨settings, hread, rfl⟩ := ofArguments_eq_ok.1 h
  obtain ⟨j, hj, -⟩ := run_eq_ok.1 hread
  have identifiers : ∀ s ∈ settings, s.Names (Look.isName ·) := gives_setting.listOf _ _ _ hj
  have start : Names (Look.isName ·) {} :=
    ⟨nofun, nofun, (by decide : Look.isName (.plain "new"))⟩
  exact List.foldlRecOn settings assign start fun c hc s hs => hc.assign (identifiers s hs)

end Config

end RequestGroups

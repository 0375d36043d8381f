import RequestGroups.Proofs.Grammar.Assignment
import RequestGroups.Proofs.Outcome

/-! # What readers give and take

Facts about a reader that hold of every input: of what it gives (`Reader.Gives`) and of the trees
that it takes (`Reader.Takes`). Both are shown rule by rule, along the steps of the reader.

* `bind_eq_ok` and `readAll_eq_ok`: the steps of a reader that succeeds;
* `iterate_induction`: what every step of a repetition keeps, the repetition keeps;
* `listOf_cons`: the first of some values is the first thing that is read. -/

namespace RequestGroups.Grammar.Reader

open RequestGroups.Source

variable {i j k : Input} {r : Reader α} {f : α → Reader β}

theorem bind_eq_ok {b : β} :
    (r >>= f) i = .ok (b, k) ↔ ∃ a j, r i = .ok (a, j) ∧ f a j = .ok (b, k) := by
  change (r i).bind (fun p => f p.1 p.2) = _ ↔ _
  rcases r i with fault | ⟨a, j⟩
  · exact ⟨nofun, nofun⟩
  · constructor
    · intro h
      exact ⟨a, j, rfl, h⟩
    · rintro ⟨a, j, h, hf⟩
      cases h
      exact hf

theorem pure_eq_ok {a b : α} : (pure a : Reader α) i = .ok (b, j) ↔ a = b ∧ i = j := by
  constructor
  · intro h
    cases h
    exact ⟨rfl, rfl⟩
  · rintro ⟨rfl, rfl⟩
    rfl

theorem sign_eq_ok {text : String} {p : Phrase} (h : sign text i = .ok (p, j)) :
    Look.sign text i.rest = true ∧ p = Phrase.sign text ∧
      j = { i with rest := i.rest.drop text.length } := by
  rcases hs : Look.sign text i.rest with _ | _
  · rw [sign, bind_eq (sign?_eq_none hs)] at h
    exact absurd h nofun
  · rw [sign, sign?, bind_assoc, bind_eq (sees_eq hs)] at h
    obtain ⟨rfl, rfl⟩ := pure_eq_ok.1 h
    exact ⟨rfl, rfl, rfl⟩

theorem readAll_eq_ok {scope : Span} {r : Nonterminals → Reader α} {ts : List TokenTree} {a : α}
    (h : Grammar.readAll scope r ts = .ok a) :
    ∃ j, r (grammar ts) (listInput scope ts) = .ok (a, j) := by
  obtain ⟨⟨b, j⟩, hread, hrest⟩ := Outcome.bind_eq_ok.1 h
  dsimp only at hrest
  split at hrest
  · exact absurd hrest nofun
  · obtain rfl := Except.ok.inj hrest
    exact ⟨j, hread⟩

/-! ### Repetitions -/

/-- **What every step keeps** holds at the end of a repetition. -/
theorem iterate_induction {step : σ → Reader (Option σ)} {P : σ → Input → Prop}
    (keep : ∀ s i o j, P s i → step s i = .ok (o, j) → P (o.getD s) j) {s t : σ}
    (h : iterate step s i = .ok (t, j)) (start : P s i) : P t j := by
  induction s, i using iterate.induct step with
  | case1 s i fault hs =>
    rw [iterate.eq_def, hs] at h
    exact absurd h nofun
  | case2 s i k hs =>
    rw [iterate.eq_def, hs] at h
    cases h
    exact keep _ i none _ start hs
  | case3 s i u k hs shorter ih =>
    rw [iterate_some hs shorter] at h
    exact ih h (keep s i (some u) k start hs)
  | case4 s i u k hs shorter =>
    rw [iterate.eq_def, hs] at h
    dsimp only at h
    rw [if_neg shorter] at h
    cases h
    exact keep s i (some _) _ start hs

/-- Each step of a list with commas adds a value at its end, or is the last one. -/
theorem listOf_step {done : List α} {o : Option (List α)}
    (h : (do
      if ← atEnd then return none
      let item ← r
      if !(← atEnd) then let _ ← sign ","
      return some (done ++ [item])) i = .ok (o, j)) :
    o = none ∧ j = i ∨ ∃ a k, r i = .ok (a, k) ∧ o = some (done ++ [a]) := by
  obtain ⟨stop, k, hstop, h⟩ := bind_eq_ok.1 h
  cases hstop
  split at h
  · cases h
    exact Or.inl ⟨rfl, rfl⟩
  · obtain ⟨a, k, ha, h⟩ := bind_eq_ok.1 h
    refine Or.inr ⟨a, k, ha, ?_⟩
    obtain ⟨stop, l, -, h⟩ := bind_eq_ok.1 h
    split at h
    · obtain ⟨comma, m, -, h⟩ := bind_eq_ok.1 h
      cases h
      rfl
    · cases h
      rfl

theorem listOf_cons {a : α} {as : List α} (h : listOf r i = .ok (a :: as, j)) :
    ∃ k, r i = .ok (a, k) := by
  have added := iterate_induction (P := fun done k => (done = [] → k = i) ∧
    ∀ b bs, done = b :: bs → ∃ l, r i = .ok (b, l)) ?_ h ⟨fun _ => rfl, nofun⟩
  · exact added.2 a as rfl
  rintro done k o l ⟨atStart, atHead⟩ hstep
  rcases listOf_step hstep with ⟨rfl, rfl⟩ | ⟨b, m, hb, rfl⟩
  · exact ⟨atStart, atHead⟩
  · cases done with
    | nil =>
      obtain rfl := atStart rfl
      refine ⟨nofun, ?_⟩
      rintro _ _ ⟨⟩
      exact ⟨m, hb⟩
    | cons c cs =>
      refine ⟨nofun, ?_⟩
      rintro _ _ ⟨⟩
      exact atHead c cs rfl

/-! ### Values -/

/-- Whatever the input is, the value satisfies `P`. -/
def Gives (P : α → Prop) (r : Reader α) : Prop := ∀ i a j, r i = .ok (a, j) → P a

namespace Gives

theorem pure {P : α → Prop} {a : α} (h : P a) : Gives P (Pure.pure a) := by
  intro i b j hb
  obtain ⟨rfl, -⟩ := pure_eq_ok.1 hb
  exact h

theorem bind {P : β → Prop} (h : ∀ a, Gives P (f a)) : Gives P (r >>= f) := by
  intro i b k hb
  obtain ⟨a, j, -, hf⟩ := bind_eq_ok.1 hb
  exact h a j b k hf

/-- What the first reader gives may be used for the second one. -/
theorem andThen {P : α → Prop} {Q : β → Prop} (hr : Gives P r) (hf : ∀ a, P a → Gives Q (f a)) :
    Gives Q (r >>= f) := by
  intro i b k hb
  obtain ⟨a, j, ha, hb⟩ := bind_eq_ok.1 hb
  exact hf a (hr i a j ha) j b k hb

theorem ite {P : α → Prop} {c : Prop} [Decidable c] {s : Reader α} (hr : Gives P r)
    (hs : Gives P s) : Gives P (if c then r else s) := by
  split
  · exact hr
  · exact hs

theorem fault {P : α → Prop} {e : Input → Fault} : Gives P fun i => .error (e i) :=
  fun _ _ _ => nofun

theorem map {P : α → Prop} {Q : β → Prop} {g : α → β} (hr : Gives P r) (hg : ∀ a, P a → Q (g a)) :
    Gives Q (do return g (← r)) :=
  andThen hr fun a ha => pure (hg a ha)

theorem orAsWritten {P : α → Prop} {keep : Phrase → α} {r : Reader (Option α)}
    (hr : Gives (fun o => ∀ a ∈ o, P a) r) (hkeep : ∀ p, P (keep p)) :
    Gives P (orAsWritten keep r) := by
  intro i a j h
  unfold Reader.orAsWritten at h
  split at h
  · next hi =>
    cases h
    exact hr i _ j hi _ rfl
  · cases h
    exact hkeep _
  · exact absurd h nofun

theorem ident : Gives (Look.isName ·) ident := by
  intro i n j h
  unfold Reader.ident at h
  split at h
  · split at h
    · next hn =>
      cases h
      exact hn
    · exact absurd h nofun
  · exact absurd h nofun

theorem listOf {P : α → Prop} (hr : Gives P r) : Gives (fun as => ∀ a ∈ as, P a) (listOf r) := by
  intro i as j h
  refine iterate_induction (P := fun done _ => ∀ a ∈ done, P a) ?_ h (List.forall_mem_nil P)
  intro done k o l hdone hstep
  rcases listOf_step hstep with ⟨rfl, -⟩ | ⟨a, m, ha, rfl⟩
  · exact hdone
  · exact List.forall_mem_append.2 ⟨hdone, List.forall_mem_singleton.2 (hr k a m ha)⟩

end Gives

/-! ### Trees -/

/-- Whatever the input is, all trees that are taken from it satisfy `P`. -/
def Takes (P : TokenTree → Prop) (r : Reader α) : Prop :=
  ∀ i a j, r i = .ok (a, j) → ∃ ts, i.rest = ts ++ j.rest ∧ ∀ t ∈ ts, P t

namespace Takes

variable {P : TokenTree → Prop}

theorem pure {a : α} : Takes P (Pure.pure a : Reader α) := by
  intro i b j hb
  obtain ⟨-, rfl⟩ := pure_eq_ok.1 hb
  exact ⟨[], rfl, nofun⟩

theorem sees (test : List TokenTree → Bool) : Takes P (sees test) := by
  intro i b j hb
  cases hb
  exact ⟨[], rfl, nofun⟩

theorem bind (hr : Takes P r) (hf : ∀ a, Takes P (f a)) : Takes P (r >>= f) := by
  intro i b k hb
  obtain ⟨a, j, ha, hb⟩ := bind_eq_ok.1 hb
  obtain ⟨ts, hi, hts⟩ := hr i a j ha
  obtain ⟨us, hj, hus⟩ := hf a j b k hb
  refine ⟨ts ++ us, by rw [hi, hj, List.append_assoc], fun t ht => ?_⟩
  exact (List.mem_append.1 ht).elim (hts t) (hus t)

theorem ite {c : Prop} [Decidable c] {s : Reader α} (hr : Takes P r) (hs : Takes P s) :
    Takes P (if c then r else s) := by
  split
  · exact hr
  · exact hs

theorem iterate {step : σ → Reader (Option σ)} (h : ∀ s, Takes P (step s)) (s : σ) :
    Takes P (iterate step s) := by
  intro i t j ht
  refine iterate_induction (P := fun _ k => ∃ ts, i.rest = ts ++ k.rest ∧ ∀ t ∈ ts, P t)
    ?_ ht ⟨[], rfl, nofun⟩
  rintro s k o l ⟨ts, hi, hts⟩ hs
  obtain ⟨us, hk, hus⟩ := h s k o l hs
  refine ⟨ts ++ us, by rw [hi, hk, List.append_assoc], fun t ht => ?_⟩
  exact (List.mem_append.1 ht).elim (hts t) (hus t)

end Takes

end RequestGroups.Grammar.Reader

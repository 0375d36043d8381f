import RequestGroups.Proofs.Config.Written
import RequestGroups.Proofs.Search

/-! # Valid arguments

Which values are valid for each key, and what is wrong with the others.

* `Quotation.HoldsIdent` and `Quotation.HoldsPath` say what a string literal contains;
* `WrittenArgument.Assigns` lists the valid arguments with what they assign (`setting_eq_ok`);
* `WrittenArgument.Rejects` lists the others with their faults (`setting_eq_error`). -/

namespace RequestGroups

open Source Grammar Reader

/-! ### Contents of literals -/

namespace Quotation

/-- The literal contains an identifier and nothing else, apart from blanks. -/
def HoldsIdent (q : Quotation) (n : Ident) : Prop :=
  q.suffix = "" ∧ ∃ m, tokenize q.value = .ok [.ident m] ∧ Look.isName m ∧
    n = { m with span := q.span }

/-- The literal contains a path and nothing else. -/
def HoldsPath (q : Quotation) (p : Path) : Prop :=
  q.suffix = "" ∧ ∃ ts, tokenize q.value = .ok ts ∧
    Grammar.readAll q.span (fun g => Rules.path g false) (TokenTree.respanAll q.span ts) = .ok p

variable {q : Quotation}

theorem contents_eq_ok {r : Nonterminals → Reader α} {a : α} : q.contents r = .ok a ↔
    q.suffix = "" ∧ ∃ ts, tokenize q.value = .ok ts ∧
      Grammar.readAll q.span r (TokenTree.respanAll q.span ts) = .ok a := by
  unfold contents
  rcases tokenize q.value with p | ts
  · exact ⟨nofun, nofun⟩
  · by_cases suffix : q.suffix = ""
    · simp [suffix]
    · simp [suffix, Outcome.bind_eq_ok]

/-- An identifier is read to the end if it is all there is. -/
theorem run_ident_eq_ok {scope : Span} {ts : List TokenTree} {n : Ident} :
    run scope Reader.ident ts = .ok n ↔ ts = [.ident n] ∧ Look.isName n := by
  rw [run_eq_ok]
  constructor
  · rintro ⟨j, hj, -, hend⟩
    unfold Reader.ident at hj
    split at hj
    · next _ m rest hts =>
      split at hj
      · next hname =>
        cases hj
        have whole : ts = .ident _ :: rest := hts
        have ended : rest = [] := hend
        exact ⟨by rw [whole, ended], hname⟩
      · exact absurd hj nofun
    · exact absurd hj nofun
  · rintro ⟨rfl, hname⟩
    exact ⟨_, Reader.ident_eq_ok hname, rfl, rfl⟩

theorem respanAll_eq_ident {span : Span} {ts : List TokenTree} {n : Ident} :
    TokenTree.respanAll span ts = [.ident n] ↔
      ∃ m, ts = [.ident m] ∧ n = { m with span := span } := by
  constructor
  · intro h
    match ts, h with
    | [.ident m], h =>
      simp only [TokenTree.respanAll, TokenTree.respan, List.cons.injEq, TokenTree.ident.injEq] at h
      exact ⟨m, rfl, h.1.symm⟩
    | .ident _ :: _ :: _, h => simp [TokenTree.respanAll] at h
    | .punct .. :: _, h | .literal .. :: _, h | .group .. :: _, h =>
      simp [TokenTree.respanAll, TokenTree.respan] at h
  · rintro ⟨m, rfl, rfl⟩
    rfl

theorem ident_eq_ok {n : Ident} : q.ident = .ok n ↔ q.HoldsIdent n := by
  rw [ident, contents_eq_ok, HoldsIdent]
  refine and_congr_right fun _ => ?_
  constructor
  · rintro ⟨ts, hts, hread⟩
    obtain ⟨hrespan, hname⟩ := run_ident_eq_ok.1 hread
    obtain ⟨m, rfl, rfl⟩ := respanAll_eq_ident.1 hrespan
    exact ⟨m, hts, hname, rfl⟩
  · rintro ⟨m, hm, hname, rfl⟩
    exact ⟨_, hm, run_ident_eq_ok.2 ⟨rfl, hname⟩⟩

/-- The identifier that some trees are. -/
def onlyIdent? : List TokenTree → Option Ident
  | [.ident n] => some n
  | _ => none

theorem eq_ok_of_onlyIdent? {x : Except ε (List TokenTree)} {n : Ident}
    (h : x.toOption.bind onlyIdent? = some n) : x = .ok [.ident n] := by
  obtain ⟨ts, hx, hts⟩ := Option.bind_eq_some_iff.1 h
  rw [Outcome.toOption_eq_some.1 hx]
  unfold onlyIdent? at hts
  split at hts
  · cases hts
    rfl
  · exact absurd hts nofun

theorem policy_eq_ok {p : HeaderPolicy} : q.policy = .ok p ↔ q.value = p.name := by
  unfold policy
  constructor
  · intro h
    split at h
    · next hp =>
      cases h
      unfold HeaderPolicy.ofName? at hp
      have found := List.find?_some hp
      exact (eq_of_beq found).symm
    · exact absurd h nofun
  · intro h
    rw [h, HeaderPolicy.ofName?_name]
    rfl

theorem path_eq_ok {p : Path} : q.path = .ok p ↔ q.HoldsPath p := contents_eq_ok

end Quotation

/-! ### Keys -/

namespace ArgumentKey

theorem name_injective {k l : ArgumentKey} (h : k.name = l.name) : k = l := by
  revert h
  cases k <;> cases l <;> decide

theorem ofPath?_eq_some {p : Path} {k : ArgumentKey} : ofPath? p = some k ↔ p.isName k.name := by
  unfold ofPath?
  constructor
  · intro h
    have found := List.find?_some h
    exact found
  · intro h
    have mem : k ∈ all := by cases k <;> decide
    refine find?_eq_some mem h fun l _ hl => ?_
    unfold Path.isName at h hl
    obtain ⟨n, hn, hk⟩ := (Option.any_eq_true ..).1 h
    obtain ⟨m, hm, hl⟩ := (Option.any_eq_true ..).1 hl
    cases hn.symm.trans hm
    exact name_injective ((eq_of_beq hl).symm.trans (eq_of_beq hk))

end ArgumentKey

/-! ### Arguments -/

namespace WrittenArgument

variable {a : WrittenArgument}

/-- **A valid argument** with what it assigns. -/
inductive Assigns (a : WrittenArgument) : Setting → Prop where
  | headersType {q : Quotation} {n : Ident} (key : a.key.path.isName "headers")
    (value : quotation? a.value = some q) (h : q.HoldsIdent n) : Assigns a (.headersType n)
  | bodyType {q : Quotation} {n : Ident} (key : a.key.path.isName "body")
    (value : quotation? a.value = some q) (h : q.HoldsIdent n) : Assigns a (.bodyType n)
  | constructor {q : Quotation} {n : Ident} (key : a.key.path.isName "constructor")
    (value : quotation? a.value = some q) (h : q.HoldsIdent n) : Assigns a (.constructor n)
  | headerValues {q : Quotation} {p : HeaderPolicy} (key : a.key.path.isName "header_values")
    (value : quotation? a.value = some q) (h : q.value = p.name) : Assigns a (.headerValues p)
  | runtime {q : Quotation} {p : Path} (key : a.key.path.isName "crate")
    (value : quotation? a.value = some q) (h : q.HoldsPath p) : Assigns a (.runtime p)

theorem quotationOf_eq_ok {t : TokenTree} {q : Quotation} :
    quotationOf t = .ok q ↔ quotation? t = some q := by
  unfold quotationOf
  cases quotation? t <;> simp

theorem setting_eq_ok_iff {s : Setting} : a.setting = .ok s ↔
    ∃ k : ArgumentKey, a.key.path.isName k.name ∧
      ∃ q, quotation? a.value = some q ∧ k.assign q = .ok s := by
  unfold setting key?
  constructor
  · intro h
    split at h
    · next k hk =>
      obtain ⟨q, hq, hs⟩ := Outcome.bind_eq_ok.1 h
      exact ⟨k, ArgumentKey.ofPath?_eq_some.1 hk, q, quotationOf_eq_ok.1 hq, hs⟩
    · exact absurd h nofun
  · rintro ⟨k, hk, q, hq, hs⟩
    rw [ArgumentKey.ofPath?_eq_some.2 hk]
    exact Outcome.bind_eq_ok.2 ⟨q, quotationOf_eq_ok.2 hq, hs⟩

/-- **What is read of an argument** is what it assigns if it is valid. -/
theorem setting_eq_ok {s : Setting} : a.setting = .ok s ↔ a.Assigns s := by
  rw [setting_eq_ok_iff]
  constructor
  · rintro ⟨k, hk, q, hq, hs⟩
    cases k with
    | headers =>
      obtain ⟨n, hn, rfl⟩ := Outcome.map_eq_ok.1 hs
      exact .headersType hk hq (Quotation.ident_eq_ok.1 hn)
    | body =>
      obtain ⟨n, hn, rfl⟩ := Outcome.map_eq_ok.1 hs
      exact .bodyType hk hq (Quotation.ident_eq_ok.1 hn)
    | constructor =>
      obtain ⟨n, hn, rfl⟩ := Outcome.map_eq_ok.1 hs
      exact .constructor hk hq (Quotation.ident_eq_ok.1 hn)
    | headerValues =>
      obtain ⟨p, hp, rfl⟩ := Outcome.map_eq_ok.1 hs
      exact .headerValues hk hq (Quotation.policy_eq_ok.1 hp)
    | runtime =>
      obtain ⟨p, hp, rfl⟩ := Outcome.map_eq_ok.1 hs
      exact .runtime hk hq (Quotation.path_eq_ok.1 hp)
  · intro h
    cases h with
    | headersType hk hq h =>
      exact ⟨.headers, hk, _, hq, Outcome.map_eq_ok.2 ⟨_, Quotation.ident_eq_ok.2 h, rfl⟩⟩
    | bodyType hk hq h =>
      exact ⟨.body, hk, _, hq, Outcome.map_eq_ok.2 ⟨_, Quotation.ident_eq_ok.2 h, rfl⟩⟩
    | constructor hk hq h =>
      exact ⟨.constructor, hk, _, hq, Outcome.map_eq_ok.2 ⟨_, Quotation.ident_eq_ok.2 h, rfl⟩⟩
    | headerValues hk hq h =>
      exact ⟨.headerValues, hk, _, hq, Outcome.map_eq_ok.2 ⟨_, Quotation.policy_eq_ok.2 h, rfl⟩⟩
    | runtime hk hq h =>
      exact ⟨.runtime, hk, _, hq, Outcome.map_eq_ok.2 ⟨_, Quotation.path_eq_ok.2 h, rfl⟩⟩

/-- **An argument that is not valid** with its fault, which comes from the key, from the value or
from the contents of the value. -/
inductive Rejects (a : WrittenArgument) : Fault → Prop where
  | key (h : a.key? = none) : Rejects a ⟨.unknownArgument, a.key.path.span⟩
  | value {k : ArgumentKey} (h : a.key? = some k) (hq : quotation? a.value = none) :
    Rejects a ⟨.expected ["string literal"], a.value.headSpan⟩
  | contents {k : ArgumentKey} {q : Quotation} {fault : Fault} (h : a.key? = some k)
    (hq : quotation? a.value = some q) (hf : k.assign q = .error fault) : Rejects a fault

theorem setting_eq_error {fault : Fault} : a.setting = .error fault ↔ a.Rejects fault := by
  unfold setting
  constructor
  · intro h
    rcases hk : a.key? with _ | k
    · rw [hk] at h
      cases h
      exact .key hk
    · rw [hk] at h
      unfold quotationOf at h
      rcases hq : quotation? a.value with _ | q
      · rw [hq] at h
        cases h
        exact .value hk hq
      · rw [hq] at h
        exact .contents hk hq h
  · rintro (hk | ⟨hk, hq⟩ | ⟨hk, hq, hf⟩)
    · rw [hk]
    · rw [hk, quotationOf, hq]
      rfl
    · rw [hk, quotationOf, hq]
      exact hf

end WrittenArgument

end RequestGroups

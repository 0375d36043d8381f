import RequestGroups.Declaration.Derives
import RequestGroups.Proofs.Grammar.PathReading
import RequestGroups.Proofs.Search

/-! # Derives of several attributes

The derives of attributes are the paths of one derive attribute after the other, so they do not
depend on how the paths are distributed over attributes.

* `ofAttributes_cons`: what one more attribute adds;
* `ofAttributes_append` and `ofAttributes_eq_error`: attributes together list the paths of both
  parts, and the first malformed derive is the fault;
* `ofAttributes_written`: paths that are written into derive attributes are listed;
* `Derives.OfFlattened` collects what follows for two lists of attributes. -/

namespace RequestGroups.Derives

open Source Grammar

variable {as xs ys : List Attribute} {a : Attribute} {ps qs : List Path} {fault : Fault}

/-! ### One attribute after the other -/

/-- The paths that an attribute adds: those of a derive, and none otherwise. -/
def added (a : Attribute) : Except Fault (List Path) :=
  if isDerive a then ofAttribute a else .ok []

/-- An attribute adds its paths in front of those of the attributes behind it. -/
theorem ofAttributes_cons (a : Attribute) (as : List Attribute) :
    ofAttributes (a :: as) = do return (← added a) ++ (← ofAttributes as) := by
  unfold ofAttributes added
  by_cases h : isDerive a
  · rw [List.filter_cons_of_pos h, if_pos h, List.mapM_cons]
    cases ofAttribute a with
    | error fault => rfl
    | ok ps => cases (as.filter isDerive).mapM ofAttribute <;> rfl
  · rw [List.filter_cons_of_neg h, if_neg h]
    cases (as.filter isDerive).mapM ofAttribute <;> rfl

/-- **Attributes together** list the paths of the first ones and then those of the others. -/
theorem ofAttributes_append (xs ys : List Attribute) :
    ofAttributes (xs ++ ys) = do return (← ofAttributes xs) ++ (← ofAttributes ys) := by
  induction xs with
  | nil =>
    change ofAttributes ys = (ofAttributes ys).bind fun qs => .ok ([] ++ qs)
    cases ofAttributes ys <;> rfl
  | cons a xs ih =>
    rw [List.cons_append, ofAttributes_cons, ofAttributes_cons, ih]
    cases added a with
    | error fault => rfl
    | ok ps =>
      cases ofAttributes xs with
      | error fault => rfl
      | ok qs =>
        cases ofAttributes ys with
        | error fault => rfl
        | ok rs => exact congrArg Except.ok (List.append_assoc ps qs rs).symm

/-! ### Malformed derives -/

/-- A derive that lists no paths. -/
def Malformed (a : Attribute) : Prop := isDerive a ∧ ∀ ps, ofAttribute a ≠ .ok ps

theorem added_eq_error : added a = .error fault ↔ Malformed a ∧ ofAttribute a = .error fault := by
  unfold added Malformed
  constructor
  · intro h
    obtain ⟨hd, h⟩ : isDerive a ∧ ofAttribute a = .error fault := by
      by_cases hd : isDerive a
      · exact ⟨hd, by rwa [if_pos hd] at h⟩
      · rw [if_neg hd] at h
        cases h
    exact ⟨⟨hd, fun ps hps => by rw [hps] at h; cases h⟩, h⟩
  · rintro ⟨⟨hd, -⟩, h⟩
    rw [if_pos hd, h]

theorem not_malformed_iff : ¬ Malformed a ↔ ∃ ps, added a = .ok ps := by
  rcases h : added a with fault | ps
  · exact ⟨fun hm => absurd (added_eq_error.1 h).1 hm, nofun⟩
  · refine ⟨fun _ => ⟨ps, rfl⟩, ?_⟩
    rintro - ⟨hd, fails⟩
    rw [added, if_pos hd] at h
    exact fails ps h

/-- **The first malformed derive** is the fault. -/
theorem ofAttributes_eq_error : ofAttributes as = .error fault ↔
    ∃ a, IsFirst Malformed as a ∧ ofAttribute a = .error fault := by
  induction as with
  | nil => exact ⟨nofun, fun ⟨a, ha, _⟩ => absurd ha not_isFirst_nil⟩
  | cons b as ih =>
    rw [ofAttributes_cons, Outcome.bind_eq_error]
    simp only [isFirst_cons]
    -- the first attribute is malformed, or it lists paths and the other ones decide
    constructor
    · rintro (h | ⟨ps, hps, h⟩)
      · obtain ⟨hb, h⟩ := added_eq_error.1 h
        exact ⟨b, .inl ⟨hb, rfl⟩, h⟩
      · rcases Outcome.bind_eq_error.1 h with h | ⟨qs, -, h⟩
        · obtain ⟨a, ha, h⟩ := ih.1 h
          exact ⟨a, .inr ⟨not_malformed_iff.2 ⟨ps, hps⟩, ha⟩, h⟩
        · cases h
    · rintro ⟨a, ⟨hb, rfl⟩ | ⟨hb, ha⟩, h⟩
      · exact .inl (added_eq_error.2 ⟨hb, h⟩)
      · obtain ⟨ps, hps⟩ := not_malformed_iff.1 hb
        exact .inr ⟨ps, hps, Outcome.bind_eq_error.2 (.inl (ih.2 ⟨a, ha, h⟩))⟩

/-! ### Written derives -/

/-- The paths of a written derive are read back if each of them is. -/
theorem ofAttribute_written (h : ∀ p ∈ ps, p.StandsInList) :
    ofAttribute (GroupRecord.deriveAttribute ps) = .ok ps := by
  refine readAll_eq (listOf_commas fun p hp => ?_)
  obtain ⟨filled, read⟩ := h p hp
  have part : TokenTree.countOf p.trees ≤ TokenTree.countOf (commas (ps.map Path.phrase)).trees :=
    countOf_le_commas (List.mem_map_of_mem hp)
  exact ⟨filled, read _ (by omega)⟩

/-- **Written derives** list all their paths, however these are distributed. -/
theorem ofAttributes_written {pss : List (List Path)} (h : ∀ ps ∈ pss, ∀ p ∈ ps, p.StandsInList) :
    ofAttributes (pss.map GroupRecord.deriveAttribute) = .ok pss.flatten := by
  induction pss with
  | nil => rfl
  | cons ps pss ih =>
    obtain ⟨hps, hpss⟩ := List.forall_mem_cons.1 h
    have first : added (GroupRecord.deriveAttribute ps) = .ok ps := ofAttribute_written hps
    rw [List.map_cons, ofAttributes_cons, first, ih hpss]
    rfl

/-! ### Lists that are put together -/

/-- **Derives count as one list of paths**, for attributes `xs` and `ys`. -/
structure OfFlattened (xs ys : List Attribute) : Prop where
  /-- Together they list the paths of both. -/
  append : ∀ ps qs, ofAttributes xs = .ok ps → ofAttributes ys = .ok qs →
    ofAttributes (xs ++ ys) = .ok (ps ++ qs)
  /-- If either of them lists none, the first malformed derive is the fault. -/
  fault : ¬ ((∃ ps, ofAttributes xs = .ok ps) ∧ ∃ qs, ofAttributes ys = .ok qs) →
    ∃ a fault, IsFirst Malformed (xs ++ ys) a ∧ ofAttribute a = .error fault ∧
      ofAttributes (xs ++ ys) = .error fault
  /-- Attributes that are no derives do not matter. -/
  others : xs.filter isDerive = ys.filter isDerive → ofAttributes xs = ofAttributes ys
  /-- If they list the same paths, they may stand for each other among any attributes. -/
  regroup : ∀ before after ps, ofAttributes xs = .ok ps → ofAttributes ys = .ok ps →
    ofAttributes (before ++ xs ++ after) = ofAttributes (before ++ ys ++ after)
  /-- Written paths may be split up over derives and merged again. -/
  written : ∀ before after (pss qss : List (List Path)),
    (∀ ps ∈ pss, ∀ p ∈ ps, p.StandsInList) → (∀ ps ∈ qss, ∀ p ∈ ps, p.StandsInList) →
    pss.flatten = qss.flatten →
    ofAttributes (before ++ pss.map GroupRecord.deriveAttribute ++ after) =
      ofAttributes (before ++ qss.map GroupRecord.deriveAttribute ++ after)

theorem ofAttributes_regroup (before after : List Attribute)
    (h : ofAttributes xs = ofAttributes ys) :
    ofAttributes (before ++ xs ++ after) = ofAttributes (before ++ ys ++ after) := by
  simp only [ofAttributes_append, h]

theorem ofFlattened (xs ys : List Attribute) : OfFlattened xs ys where
  append ps qs hx hy := by
    rw [ofAttributes_append, hx, hy]
    rfl
  fault h := by
    rcases hxy : ofAttributes (xs ++ ys) with fault | ps
    · obtain ⟨a, ha, hf⟩ := ofAttributes_eq_error.1 hxy
      exact ⟨a, fault, ha, hf, rfl⟩
    · rw [ofAttributes_append] at hxy
      obtain ⟨ps, hx, hxy⟩ := Outcome.bind_eq_ok.1 hxy
      obtain ⟨qs, hy, -⟩ := Outcome.bind_eq_ok.1 hxy
      exact absurd ⟨⟨ps, hx⟩, qs, hy⟩ h
  others h := by rw [ofAttributes, ofAttributes, h]
  regroup before after ps hx hy := ofAttributes_regroup before after (hx.trans hy.symm)
  written before after pss qss hp hq h := by
    refine ofAttributes_regroup before after ?_
    rw [ofAttributes_written hp, ofAttributes_written hq, h]

end RequestGroups.Derives

import LoopLang.Proofs.Number.Order
import LoopLang.Proofs.Scope.Suggestion

/-!
The ranking of candidates. The one that is suggested is the greatest by similarity and then by text,
so that it does not matter in which order the candidates are listed.
-/

namespace LoopLang

/-- Similarities are numbers without a sign. -/
theorem Similarity.ratio_unsigned (similarity : Similarity) : IsUnsigned similarity.ratio := by
  unfold ratio
  split
  · exact .ofScientific ..
  · exact .pack (.div (.pack (.mul (IsUnsigned.ofScientific ..) (IsUnsigned.ofScientific ..)))
      (IsUnsigned.ofScientific ..))

namespace Ranked

/-- A candidate is ranked no higher than another one: by its similarity, then by its text. -/
def Within (left right : Ranked) : Prop :=
  Prod.Lex (· < ·) (· ≤ ·) (left.similarity.ratio, left.candidate)
    (right.similarity.ratio, right.candidate)

variable {left middle right : Ranked}

/-- A candidate is ranked no higher than itself. -/
theorem Within.refl (ranked : Ranked) : ranked.Within ranked := Prod.Lex.refl_right ..

/-- What is ranked no higher than a second candidate is ranked no higher than what that is ranked no
higher than. -/
theorem Within.trans (first : left.Within middle) (second : middle.Within right) :
    left.Within right :=
  Prod.Lex.trans first second

/-- Neither of two candidates is ranked higher than the better one of them. -/
theorem within_better (one : IsNumber left.similarity.ratio)
    (other : IsNumber right.similarity.ratio) :
    left.Within (left.better right) ∧ right.Within (left.better right) := by
  unfold better Similarity.below
  simp only [decide_eq_true_eq]
  -- The better one of the two is at least as similar as either.
  split
  · exact ⟨.left _ _ ‹_›, .refl right⟩
  · split
    · exact ⟨.refl left, .left _ _ ‹_›⟩
    -- As neither similarity is below the other, they are the same, and the texts decide.
    · have same : left.similarity.ratio = right.similarity.ratio := by
        rcases left.similarity.ratio_unsigned.lt_or_eq_or_lt right.similarity.ratio_unsigned
          one other with
            below | same | above
        · contradiction
        · exact same
        · contradiction
      split
      · exact ⟨Prod.lex_iff.mpr (.inr ⟨same, le_of_lt ‹_›⟩), .refl right⟩
      · exact ⟨.refl left, Prod.lex_iff.mpr (.inr ⟨same.symm, not_lt.mp ‹_›⟩)⟩

end Ranked

/-- No candidate is ranked higher than the best one. -/
theorem within_bestRanked? {candidates : List Ranked} {best : Ranked}
    (found : bestRanked? candidates = some best)
    (numbers : ∀ ranked ∈ candidates, IsNumber ranked.similarity.ratio) :
    ∀ other ∈ candidates, other.Within best := by
  cases candidates with
  | nil => cases found
  | cons first rest =>
    cases found
    induction rest generalizing first with
    | nil => exact List.forall_mem_singleton.mpr (.refl first)
    | cons next rest ih =>
      simp only [List.forall_mem_cons] at numbers ih ⊢
      obtain ⟨one, other, further⟩ := numbers
      -- The better one of the first two candidates takes the place of both.
      obtain ⟨first_within, next_within⟩ := Ranked.within_better one other
      have better : IsNumber (first.better next).similarity.ratio := by
        rcases first.better_eq next with same | same <;> rw [same] <;> assumption
      obtain ⟨better_within, rest_within⟩ := ih (first.better next) ⟨better, further⟩
      exact ⟨first_within.trans better_within, next_within.trans better_within, rest_within⟩

/-- There is a best one unless there are no candidates. -/
theorem bestRanked?_eq_none_iff {candidates : List Ranked} :
    bestRanked? candidates = none ↔ candidates = [] := by
  cases candidates <;> simp [bestRanked?]

/-- The candidates that are ranked are those that reach the cutoff. -/
theorem mem_similarCandidates {name : String} {listed : List String} {cutoff : Float}
    {ranked : Ranked} :
    ranked ∈ similarCandidates name listed cutoff ↔
      ∃ candidate ∈ listed, cutoff ≤ (Similarity.between candidate name).ratio ∧
      ⟨.between candidate name, candidate⟩ = ranked := by
  unfold similarCandidates
  constructor
  -- Candidates below the cutoff are left out, all others are ranked.
  · intro member
    obtain ⟨given, similar⟩ := List.mem_filter.mp member
    obtain ⟨candidate, inside, rfl⟩ := List.mem_map.mp given
    exact ⟨candidate, inside, of_decide_eq_true similar, rfl⟩
  · rintro ⟨candidate, inside, similar, rfl⟩
    exact List.mem_filter.mpr ⟨List.mem_map_of_mem inside, decide_eq_true similar⟩

/-- A list has the given names and no others, in whatever order and however often. -/
def Enumerates (listed : List String) (names : Set String) : Prop :=
  ∀ name, name ∈ listed ↔ name ∈ names

/-- What a candidate for a name is ranked by: its similarity to the name, then its text. -/
def rankFor (name candidate : String) : Float × String :=
  ((Similarity.between candidate name).ratio, candidate)

/-- The names that are similar enough to a name to be suggested for it. -/
def similarNames (cutoff : Float) (name : String) (names : Set String) : Set String :=
  {candidate ∈ names | cutoff ≤ (Similarity.between candidate name).ratio}

/-- What is to be suggested for a name, given the names that there are. -/
inductive IsSuggestion (cutoff : Float) (name : String) (names : Set String) : Option String → Prop
  /-- A name that there is needs no suggestion. -/
  | known (member : name ∈ names) : IsSuggestion cutoff name names none
  /-- There is none where no name is similar enough. -/
  | nothing (apart : similarNames cutoff name names = ∅) : IsSuggestion cutoff name names none
  /-- Of the names that are similar enough the one that is ranked highest is suggested. -/
  | highest {best : String} (absent : name ∉ names)
      (similar : best ∈ similarNames cutoff name names)
      (highest : ∀ other ∈ similarNames cutoff name names,
        Prod.Lex (· < ·) (· ≤ ·) (rankFor name other) (rankFor name best)) :
      IsSuggestion cutoff name names (some best)

variable {cutoff : Float} {name : String} {names : Set String} {first second : Option String}

/-- There are no two ways to suggest something. -/
theorem IsSuggestion.unique (one : IsSuggestion cutoff name names first)
    (other : IsSuggestion cutoff name names second) :
    first = second := by
  cases one with
  | known member =>
    cases other with
    | known | nothing => rfl
    | highest absent => exact absurd member absent
  | nothing apart =>
    cases other with
    | known | nothing => rfl
    | highest _ similar => exact absurd similar (apart ▸ Set.notMem_empty _)
  | highest absent similar highest =>
    cases other with
    | known member => exact absurd member absent
    | nothing apart => exact absurd similar (apart ▸ Set.notMem_empty _)
    | highest _ similar_too highest_too =>
      -- Two names that are ranked no higher than each other are the same.
      have same := antisymm_of (Prod.Lex (· < ·) (· ≤ ·)) (highest_too _ similar)
        (highest _ similar_too)
      exact congrArg (some ·.2) same

/-- What is suggested is what is to be suggested, in whatever order the names are listed. -/
theorem suggestAbove_isSuggestion {listed : List String} (enumerates : Enumerates listed names) :
    IsSuggestion cutoff name names (suggestAbove cutoff name listed) := by
  unfold suggestAbove
  split
  -- A name that is there is suggested as it is.
  · rename_i member
    exact .known ((enumerates name).mp (List.contains_iff_mem.mp member))
  · rename_i absent
    cases found : bestRanked? (similarCandidates name listed cutoff) with
    -- No candidate is similar, or else it would have been ranked.
    | none =>
      refine .nothing (Set.eq_empty_of_forall_notMem fun candidate ⟨inside, similar⟩ => ?_)
      have ranked := mem_similarCandidates.mpr
        ⟨candidate, (enumerates candidate).mpr inside, similar, rfl⟩
      rw [bestRanked?_eq_none_iff.mp found] at ranked
      cases ranked
    | some best =>
      obtain ⟨candidate, inside, similar, rfl⟩ := mem_similarCandidates.mp (bestRanked?_mem found)
      refine .highest (fun member =>
        absent (List.contains_iff_mem.mpr ((enumerates name).mpr member)))
        ⟨(enumerates candidate).mp inside, similar⟩ fun other ⟨given, similar_too⟩ => ?_
      -- What reaches the cutoff is a number.
      refine within_bestRanked? found (fun ranked member => ?_) _
        (mem_similarCandidates.mpr ⟨other, (enumerates other).mpr given, similar_too, rfl⟩)
      obtain ⟨_, -, reaches, rfl⟩ := mem_similarCandidates.mp member
      exact isNumber_of_le reaches

/-- So the same is suggested for all lists of the same names. -/
theorem suggestAbove_congr {first second : List String} (one : Enumerates first names)
    (other : Enumerates second names) :
    suggestAbove cutoff name first = suggestAbove cutoff name second :=
  (suggestAbove_isSuggestion one).unique (suggestAbove_isSuggestion other)

end LoopLang

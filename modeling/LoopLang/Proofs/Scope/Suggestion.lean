import LoopLang.Parser.Basic
import LoopLang.Proofs.Layout.Session

/-! Suggestions: a hint names what some open frame declares, which need not be what can be used
there. -/

namespace LoopLang

open Code (Name)

/-- The better one of two candidates is one of them. -/
theorem Ranked.better_eq (left right : Ranked) :
    left.better right = left ∨ left.better right = right := by
  unfold better
  repeat' split
  all_goals simp

/-- The best one of some candidates is one of them. -/
theorem bestRanked?_mem {candidates : List Ranked} {best : Ranked}
    (found : bestRanked? candidates = some best) :
    best ∈ candidates := by
  cases candidates with
  | nil => cases found
  | cons first rest =>
    cases found
    -- By induction on the candidates that are still to be compared with the best one so far.
    induction rest generalizing first with
    | nil => simp
    | cons next rest ih =>
      rw [List.foldl_cons]
      rcases first.better_eq next with same | same <;> rw [same]
      · rcases List.mem_cons.mp (ih first) with first_best | later
        · rw [first_best]
          exact List.mem_cons_self
        · exact List.mem_cons_of_mem _ (List.mem_cons_of_mem _ later)
      · exact List.mem_cons_of_mem _ (ih next)

/-- A suggestion is one of the candidates, and the name that was looked for is none. -/
theorem suggest_mem {name suggestion : String} {candidates : List String}
    (made : suggest name candidates = some suggestion) :
    suggestion ∈ candidates ∧ name ∉ candidates := by
  unfold suggest suggestAbove at made
  split at made
  · cases made
  · rename_i absent
    -- The best one is among those ranked, and these are the candidates.
    obtain ⟨best, found, rfl⟩ := Option.map_eq_some_iff.mp made
    obtain ⟨ranked, -⟩ := List.mem_filter.mp (bestRanked?_mem found)
    obtain ⟨candidate, member, rfl⟩ := List.mem_map.mp ranked
    exact ⟨member, by simpa using absent⟩

namespace Scopes

end Scopes

namespace Cause

variable {cause : Cause} {suggestion : String}

end Cause

namespace Scopes

variable {scopes : Scopes} {name suggestion : String}

end Scopes

namespace Builder

variable {moment : Builder} {name suggestion : String} {place : Location}

end Builder

namespace Session

/-- Where compiling a tree fails, the failure has arisen at a moment behind which only frames have
been closed. -/
theorem compile_arises {session : Session} {tree : Tree} {failure : Failure}
    (failed : (session.compile tree).1 = .error failure) :
    ∃ moment, session.builder.ComesTo Placement.Any moment ∧ moment.Unwinds
      (session.compile tree).2.builder ∧ failure.ArisesAt moment := by
  obtain ⟨result, builder⟩ := session.compile_outcome tree
  have takes := Tree.lowerProgram_takes session.settings.entryName tree session.builder
  rw [builder]
  rw [result] at failed
  -- A compilation that fails is a lowering that fails, which says where the failure has arisen.
  unfold Lowering.Ends at takes
  split at takes <;> rename_i outcome <;> rw [outcome] at failed ⊢ <;> cases failed
  exact takes

/-- What holds of the program that a text is, holds of some program. -/
theorem parsed_of_any {text : String} {holds : Program → Bool}
    (checked : (Program.parse text).toOption.any holds = true) :
    ∃ program, Program.parse text = .ok program ∧ holds program = true := by
  cases parsed : Program.parse text with
  | ok program =>
    rw [parsed] at checked
    exact ⟨program, rfl, checked⟩
  | error error =>
    rw [parsed] at checked
    cases checked

end Session

end LoopLang

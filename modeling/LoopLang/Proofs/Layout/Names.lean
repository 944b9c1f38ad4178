import LoopLang.Proofs.Calls.Record
import LoopLang.Proofs.Layout.Session

/-! Names of functions: all of them are texts if the one that a program's function is to have is a
text. -/

namespace LoopLang

namespace Placement

/-- If a function is created, its name is a text. -/
def NamesText (placement : Placement) : Prop := ∀ name ∈ placement.created?, name.value? = none

/-- Whatever code is lowered, the names that functions are given are texts. -/
theorem Admits.namesText : Admits NamesText :=
  ⟨fun _ _ => nofun, fun _ _ _ => nofun, fun _ _ created => Option.some.inj created ▸ rfl⟩

end Placement

/-- A module has no misnomer exactly if the names of all its functions are texts. -/
theorem Code.Module.misnomer?_eq_none {module : Module} :
    module.misnomer? = none ↔ ∀ name ∈ module.handles, name.value? = none := by
  simp [misnomer?, handles]

/-- Where only texts are given as names, no misnomer arises. -/
theorem Builder.ComesTo.misnomer? {start later : Builder}
    (way : start.ComesTo Placement.NamesText later) (texts : start.code.misnomer? = none) :
    later.code.misnomer? = none := by
  obtain ⟨placements, steps, named⟩ := way
  rw [Code.Module.misnomer?_eq_none] at texts ⊢
  intro name member
  rw [steps.handles] at member
  -- A function was there before, or its creation is one of the placements.
  rcases List.mem_append.mp member with old | new
  · exact texts name old
  · obtain ⟨placement, inside, created⟩ := List.mem_filterMap.mp new
    exact named placement inside name created

/-- Whatever tree is compiled where programs are called by a text, and however that ends, the code
has no misnomer. -/
theorem Session.compile_misnomer? {session : Session} {entry : String}
    (named : session.settings.entryName = .text entry)
    (texts : session.builder.code.misnomer? = none) (tree : Tree) :
    (session.compile tree).2.builder.code.misnomer? = none := by
  refine (compile_comesTo_of
    (tree.lowerProgram_takes_of .namesText _ fun read found names => ?_)).misnomer? texts
  -- The only name that is not from the text is the one in the settings.
  have same : read = .text entry := by
    rw [named] at found
    injection congrArg (fun action : Lowering Code.Name => (action.outcome .empty).1)
      found with same
    exact same.symm
  rw [same, names.registerName_text]
  exact Placement.Admits.namesText.text _

end LoopLang

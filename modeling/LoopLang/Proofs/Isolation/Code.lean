import LoopLang.Proofs.Code.ModuleGrowth
import LoopLang.Proofs.Isolation.Renaming

/-! Building the same code twice: in a module of its own, and behind the functions of an older
module. -/

namespace LoopLang

open Code (Name Instruction Block Function Module)

/-- Functions under names that are all different and all taken. -/
structure Code.Module.Named (module : Module) : Prop where
  distinct : module.handles.Nodup
  used : ∀ function ∈ module.functions, function.name ∈ module.names.used

namespace Code.Module

variable {module : Module}

/-- The functions of a tidy module have names of their own. -/
theorem Tidy.named (tidy : module.Tidy) : module.Named := ⟨tidy.distinct, tidy.used⟩

/-- Changes within a function leave the names of all functions. -/
theorem Named.inFunction (named : module.Named) (name : Name)
    {change : Function → String × Function}
    (keeps : ∀ function, (change function).2.name = function.name) :
    (module.inFunction name change).2.Named := by
  refine ⟨(handles_inFunction module name keeps).symm ▸ named.distinct, fun function member => ?_⟩
  obtain ⟨before, inside, rfl⟩ := List.mem_map.mp member
  dsimp only
  -- The function that is changed keeps its name.
  split
  · rw [keeps before]
    exact named.used before inside
  · exact named.used before inside

/-- No function has the name that is free for another one. -/
theorem Named.fresh (named : module.Named) (base : Name) :
    (module.names.registerName base).1 ∉ module.handles := by
  intro member
  obtain ⟨function, held, same⟩ := List.mem_map.mp member
  exact module.names.registerName_fresh base (same ▸ named.used function held)

/-- A function more has a name of its own too. -/
theorem Named.addFunction (named : module.Named) (base : Name)
    (parameters : List (String × ValueKind)) (result : ExactKind) :
    (module.addFunction base parameters result).2.Named := by
  refine ⟨?_, fun function member => ?_⟩
  -- The new name is none of those in use.
  · rw [handles_addFunction]
    refine List.nodup_append.mpr
      ⟨named.distinct, List.pairwise_singleton .., fun left inside right last same => ?_⟩
    exact named.fresh base (List.mem_singleton.mp last ▸ same ▸ inside)
  -- It is in use from now on.
  · show function.name ∈ (module.names.registerName base).2.used
    rw [Names.registerName_used]
    rcases List.mem_append.mp member with old | new
    · exact List.mem_cons_of_mem _ (named.used function old)
    · exact List.mem_singleton.mp new ▸ List.mem_cons_self

end Code.Module

namespace Renaming

/-- What is first found in two lists that are related item by item is related, if both are asked
alike. -/
theorem rel_find? {α β : Type} {related : α → β → Prop} {first : α → Bool} {second : β → Bool}
    (same : ∀ item other, related item other → first item = second other) {items : List α}
    {others : List β} (alike : List.Forall₂ related items others) :
    Option.Rel related (items.find? first) (others.find? second) := by
  induction alike with
  | nil => exact .none
  | cons head _ rest =>
    simp only [List.find?_cons, ← same _ _ head]
    -- Either both heads are found, or the search goes on in both lists.
    split
    · exact .some head
    · exact rest

/-- Items that are related stand in their lists. -/
theorem forall₂_mem {α β : Type} {related : α → β → Prop} {items : List α} {others : List β}
    (alike : List.Forall₂ related items others) :
    List.Forall₂ (fun item other => item ∈ items ∧ other ∈ others ∧ related item other) items
      others := by
  obtain ⟨lengths, zipped⟩ := List.forall₂_iff_zip.mp alike
  exact List.forall₂_iff_zip.mpr ⟨lengths, fun {_ _} both =>
    ⟨(List.of_mem_zip both).1, (List.of_mem_zip both).2, zipped both⟩⟩

variable {naming larger : Renaming}

/-- Functions that stand for each other, in which only names in use do so. -/
structure Pairs (naming : Renaming) (function other : Function) :
    Prop extends naming.Functions function other where
  used : ∀ name another, naming.locals function.name name another →
    .text name ∈ function.names.used ∧ .text another ∈ other.names.used

/-- Functions go on to stand for each other where a larger renaming says no more about their
names. -/
theorem Pairs.grow {function other : Function} (pairs : naming.Pairs function other)
    (grows : naming.Grows larger)
    (same : ∀ name another, larger.locals function.name name another →
      naming.locals function.name name another) :
    larger.Pairs function other :=
  ⟨pairs.toFunctions.mono grows,
    fun name another held => pairs.used name another (same name another held)⟩

/-- The names that two functions give next, whatever is wanted, stood for nothing before. -/
theorem Pairs.fresh {function other : Function} (pairs : naming.Pairs function other)
    (base another : String) :
    (∀ second, ¬ naming.locals function.name (function.names.register base).1 second) ∧
      ∀ first, ¬ naming.locals function.name first (other.names.register another).1 :=
  ⟨fun _ held => function.names.register_fresh base (pairs.used _ _ held).1,
    fun _ held => other.names.register_fresh another (pairs.used _ _ held).2⟩

section Changes

variable {function other : Function} (pairs : naming.Pairs function other) (base another : String)

/-- The renaming in which the names that two functions give next stand for each other. -/
def afterNames (naming : Renaming) (function other : Function) (base another : String) : Renaming :=
  naming.withLocal function.name (function.names.register base).1 (other.names.register another).1

/-- The two new names stand for each other. -/
theorem afterNames_locals : (naming.afterNames function other base another).locals function.name
    (function.names.register base).1 (other.names.register another).1 :=
  .inr ⟨rfl, rfl, rfl⟩

/-- Two functions take another name each, and their blocks change alike. -/
theorem Pairs.change {blocks others : List Block} (pairs : naming.Pairs function other)
    (alike : List.Forall₂ ((naming.afterNames function other base another).Blocks function.name)
      blocks others) :
    (naming.afterNames function other base another).Pairs
      { function with blocks, names := (function.names.register base).2 }
      { other with blocks := others, names := (other.names.register another).2 } where
  names := pairs.names
  parameters := (pairs.toFunctions.mono (grows_withLocal ..)).parameters
  result := pairs.result
  blocks := alike
  used := fun name target held => by
    simp only [Code.Names.register_used]
    -- The names in use are those that were, and the one that was given.
    rcases held with held | ⟨-, rfl, rfl⟩
    · exact (pairs.used name target held).imp (List.mem_cons_of_mem _) (List.mem_cons_of_mem _)
    · exact ⟨List.mem_cons_self, List.mem_cons_self⟩

/-- The same instruction is appended to blocks that stand for each other. -/
theorem Pairs.append (unique : naming.OneToOne) (pairs : naming.Pairs function other)
    {label target : String} (labels : naming.locals function.name label target)
    {make create : String → Instruction}
    (alike : (naming.afterNames function other base another).Instructions function.name
      (make (function.names.register base).1) (create (other.names.register another).1)) :
    (naming.afterNames function other base another).Pairs
      (function.append label base make).2 (other.append target another create).2 := by
  refine pairs.change base another ?_
  refine List.forall₂_map_left_iff.mpr
    (List.forall₂_map_right_iff.mpr (pairs.blocks.imp fun block standing same => ?_))
  have later := same.mono (grows_withLocal naming function.name (function.names.register base).1
    (other.names.register another).1)
  -- Labels that stand for each other are both the wanted one, or neither is.
  by_cases here : block.label = label
  · have there : standing.label = target := (unique.locals _).2 same.labels (here ▸ labels)
    rw [if_pos here, if_pos there]
    exact ⟨later.labels, List.rel_append later.instructions (.cons alike .nil)⟩
  · have elsewhere : standing.label ≠ target := fun there =>
      here ((unique.locals _).1 same.labels (there ▸ labels))
    rw [if_neg here, if_neg elsewhere]
    exact later

/-- A slot of one kind is reserved in both functions. -/
theorem Pairs.addSlot (pairs : naming.Pairs function other) (kind : ValueKind) :
    (naming.afterNames function other base another).Pairs
      (function.addSlot base kind).2 (other.addSlot another kind).2 := by
  refine pairs.change base another ?_
  have alike := pairs.blocks
  revert alike
  generalize function.blocks = blocks, other.blocks = others
  rintro (_ | ⟨first, rest⟩)
  · exact .nil
  · have grows := grows_withLocal naming function.name (function.names.register base).1
      (other.names.register another).1
    -- The slot comes first in the first block, in front of all that stands there.
    exact .cons ⟨(first.mono grows).labels,
      .cons (.alloca kind (afterNames_locals base another)) (first.mono grows).instructions⟩
      (rest.imp fun _ _ same => same.mono grows)

/-- An empty block is appended to both functions. -/
theorem Pairs.addBlock (pairs : naming.Pairs function other) :
    (naming.afterNames function other base another).Pairs (function.addBlock base).2
      (other.addBlock another).2 := by
  refine pairs.change base another ?_
  -- The two labels become a pair, and older pairs stay.
  have grows := grows_withLocal naming function.name (function.names.register base).1
    (other.names.register another).1
  exact List.rel_append (pairs.blocks.imp fun _ _ same => same.mono grows)
    (.cons ⟨afterNames_locals base another, .nil⟩ .nil)

end Changes

/-- New functions with the same parameters and result stand for each other. -/
theorem pairs_declared (naming : Renaming) (name other : Name)
    (wanted : List (String × ValueKind)) (result : ExactKind)
    (empty : ∀ first second, ¬ naming.locals name first second) :
    (naming.withFunction name other (Function.declared name wanted result).names.used).Pairs
      (Function.declared name wanted result) (Function.declared other wanted result) where
  names := .inr ⟨rfl, rfl⟩
  parameters := by
    refine List.forall₂_same.mpr fun parameter member => ⟨.inr ⟨rfl, rfl, ?_⟩, rfl⟩
    -- The names of parameters are taken when the function is declared.
    exact (Function.registerParameters_spec .empty wanted).2.1 _ (List.mem_map_of_mem member)
  result := rfl
  blocks := .nil
  used := fun first second held => by
    rcases held with held | ⟨-, rfl, taken⟩
    · exact absurd held (empty _ _)
    · exact ⟨taken, taken⟩

/--
Code that is built twice: in a module of its own, and in one that had functions before. The older
functions are as they were, and behind them stand those of the first module, up to their names.
-/
structure Alongside (old : List Function) (naming : Renaming) (fresh later : Module) : Prop where
  unique : naming.OneToOne
  created : ∃ created, later.functions = old ++ created ∧
    List.Forall₂ naming.Pairs fresh.functions created
  known : ∀ function other, naming.functions function other → function ∈ fresh.handles
  within : ∀ function name other, naming.locals function name other → function ∈ fresh.handles
  named : fresh.Named
  renamed : later.Named

namespace Alongside

variable {old : List Function} {fresh later : Module}

/-- An empty module is built alongside any other one. -/
theorem empty {module : Module} (named : module.Named) :
    Alongside module.functions .nothing .empty module where
  unique := ⟨⟨nofun, nofun⟩, fun _ => ⟨nofun, nofun⟩⟩
  created := ⟨[], (List.append_nil _).symm, .nil⟩
  known := nofun
  within := nofun
  named := Module.Tidy.empty.named
  renamed := named

/-- A function that stands for one is among those that have been created. -/
theorem find_created (along : Alongside old naming fresh later) {name other : Name}
    (related : naming.functions name other) {created : List Function}
    (alike : List.Forall₂ naming.Pairs fresh.functions created) :
    ∃ function another, fresh.function? name = some function ∧
      created.find? (·.name = other) = some another ∧ naming.Pairs function another := by
  have found : Option.Rel naming.Pairs (fresh.function? name) (created.find? (·.name = other)) :=
    -- Names that stand for each other are both the wanted one, or neither is.
    rel_find? (fun item another pairs =>
      decide_eq_decide.mpr ⟨fun named => along.unique.functions.2 (named ▸ pairs.names) related,
        fun named => along.unique.functions.1 (named ▸ pairs.names) related⟩) alike
  obtain ⟨function, member, rfl⟩ := List.mem_map.mp (along.known name other related)
  have there : fresh.function? function.name = some function :=
    Module.find?_name along.named.distinct member
  rw [there] at found
  generalize held : created.find? (·.name = other) = standing at found
  -- The function is there in the new module, and so is the one that stands for it.
  cases found with
  | some same => exact ⟨function, _, there, rfl, same⟩

/-- No older function stands for anything. -/
theorem newer (along : Alongside old naming fresh later) {name other : Name}
    (related : naming.functions name other) :
    other ∉ old.map Function.name := by
  obtain ⟨created, split, alike⟩ := along.created
  obtain ⟨_, another, _, found, _⟩ := along.find_created related alike
  have distinct := along.renamed.distinct
  rw [Module.handles, split, List.map_append] at distinct
  have named : another.name = other := by simpa using List.find?_some found
  -- What has been created has another name than everything older.
  exact fun older => (List.nodup_append.mp distinct).2.2 _ older _
    (List.mem_map_of_mem (List.mem_of_find?_eq_some found)) named.symm

/-- The functions that stand for each other can be found. -/
theorem function? (along : Alongside old naming fresh later) {name other : Name}
    (related : naming.functions name other) :
    ∃ function another, fresh.function? name = some function ∧
    later.function? other = some another ∧
      naming.Pairs function another := by
  obtain ⟨created, split, alike⟩ := along.created
  obtain ⟨function, another, found, standing, pairs⟩ := along.find_created related alike
  -- The search passes all older functions, for none of them has the name.
  have none_older : old.find? (·.name = other) = none :=
    List.find?_eq_none.mpr fun older member named =>
      along.newer related (List.mem_map.mpr ⟨older, member, of_decide_eq_true named⟩)
  exact ⟨function, another,
    found, by rw [Module.function?, split, List.find?_append, none_older, standing]; rfl, pairs⟩

/-- Blocks of functions that stand for each other have their terminators alike. -/
theorem isTerminated (along : Alongside old naming fresh later) {block other : BlockRef}
    (related : naming.functions block.function other.function)
    (labels : naming.locals block.function block.label other.label) :
    later.isTerminated other = fresh.isTerminated block := by
  obtain ⟨function, another, found, standing, pairs⟩ := along.function? related
  have named : function.name = block.function := Module.function?_name found
  -- Labels stand for each other one to one, so both searches stop at the same block.
  have alike : Option.Rel (naming.Blocks function.name) (function.block? block.label)
      (another.block? other.label) :=
    rel_find? (fun first second same => decide_eq_decide.mpr
      ⟨fun here => (along.unique.locals _).2 (here ▸ same.labels) (named ▸ labels),
        fun here => (along.unique.locals _).1 (here ▸ same.labels) (named ▸ labels)⟩) pairs.blocks
  simp only [Module.isTerminated, found, standing, Option.bind_some]
  generalize function.block? block.label = first, another.block? other.label = second at alike ⊢
  cases alike with
  | none => rfl
  | some same => exact same.isTerminated

/-- Two functions that stand for each other change alike, and give a name each. -/
theorem inFunction (along : Alongside old naming fresh later) {name other : Name}
    (related : naming.functions name other) {base another : String}
    {change alter : Function → String × Function}
    (gives : ∀ function, (change function).1 = (function.names.register base).1)
    (givesToo : ∀ function, (alter function).1 = (function.names.register another).1)
    (keeps : ∀ function, (change function).2.name = function.name)
    (keepsToo : ∀ function, (alter function).2.name = function.name)
    (alike : ∀ function standing, function.name = name → naming.Pairs function standing →
      (naming.afterNames function standing base another).Pairs (change function).2
        (alter standing).2) :
    ∃ larger, naming.Grows larger ∧ Alongside old larger (fresh.inFunction name change).2
      (later.inFunction other alter).2 ∧
      larger.locals name (fresh.inFunction name change).1 (later.inFunction other alter).1 := by
  obtain ⟨function, standing, found, held, pairs⟩ := along.function? related
  obtain rfl : function.name = name := Module.function?_name found
  obtain rfl : standing.name = other := Module.function?_name held
  -- Behind the older functions, both modules hold functions that correspond one by one.
  obtain ⟨created, split, both⟩ := along.created
  -- Each side registers a name that is fresh there, and the two are paired.
  obtain ⟨new, free⟩ := pairs.fresh base another
  have grows : naming.Grows (naming.afterNames function standing base another) := grows_withLocal ..
  refine ⟨naming.afterNames function standing base another, grows,
    ⟨along.unique.withLocal new free, ?created, ?known, ?within, along.named.inFunction _ keeps,
      along.renamed.inFunction _ keepsToo⟩, ?given⟩
  case created =>
    refine ⟨created.map fun item => if item.name = standing.name then (alter item).2
      else item, ?_, ?_⟩
    -- No older function is changed.
    · have untouched : (old.map fun item => if item.name = standing.name then (alter item).2
          else item) = old := by
        conv_rhs => rw [← List.map_id old]
        exact List.map_congr_left fun item member => if_neg fun named =>
          along.newer related (List.mem_map.mpr ⟨item, member, named⟩)
      simp only [Module.inFunction, Module.updateFunction, split, List.map_append, untouched]
    · refine List.forall₂_map_left_iff.mpr
        (List.forall₂_map_right_iff.mpr ((forall₂_mem both).imp ?_))
      rintro first second ⟨inside, there, same⟩
      by_cases named : first.name = function.name
      -- There is one function of the name, and one that stands for it.
      · have renamed : second.name = standing.name :=
          along.unique.functions.2 same.names (named ▸ pairs.names)
        obtain rfl : function = first := Option.some.inj
          (found.symm.trans (named ▸ Module.find?_name along.named.distinct inside))
        obtain rfl : standing = second := Option.some.inj (held.symm.trans
          (renamed ▸ Module.find?_name along.renamed.distinct
            (split ▸ List.mem_append_right old there)))
        rw [if_pos rfl, if_pos rfl]
        exact alike function standing rfl pairs
      -- All other functions are left as they are in both.
      · have renamed : second.name ≠ standing.name := fun here =>
          named (along.unique.functions.1 (here ▸ same.names) pairs.names)
        rw [if_neg named, if_neg renamed]
        exact same.grow grows fun _ _ locals => locals.resolve_right fun held => named held.1
  case known =>
    exact fun first second held =>
      (Module.handles_inFunction fresh _ keeps).symm ▸ along.known first second held
  case within =>
    intro owner first second locals
    rw [Module.handles_inFunction fresh _ keeps]
    rcases locals with locals | ⟨rfl, -, -⟩
    · exact along.within _ _ _ locals
    -- The names that are new stand in a function that was known.
    · exact along.known _ _ related
  case given =>
    simp only [Module.inFunction, found, held, Option.map_some, Option.getD_some, gives, givesToo]
    exact afterNames_locals base another

/-- The same instruction is appended to blocks that stand for each other. -/
theorem append (along : Alongside old naming fresh later) {block other : BlockRef}
    (base another : String) {make create : String → Instruction}
    (related : naming.functions block.function other.function)
    (labels : naming.locals block.function block.label other.label)
    (alike : ∀ larger, naming.Grows larger → ∀ name target,
      larger.locals block.function name target → larger.Instructions block.function (make name)
        (create target)) :
    ∃ larger, naming.Grows larger ∧
      Alongside old larger (fresh.append block base make).2 (later.append other another create).2 ∧
      larger.locals block.function (fresh.append block base make).1
        (later.append other another create).1 := by
  refine along.inFunction related (fun _ => rfl) (fun _ => rfl) (fun _ => rfl) (fun _ => rfl)
    fun _ _ named pairs => ?_
  -- The instructions are alike under any naming that pairs the new names too.
  exact pairs.append base another along.unique (named ▸ labels)
    (named ▸ alike _ (grows_withLocal ..) _ _ (named ▸ afterNames_locals base another))

/-- A slot of one kind is reserved in functions that stand for each other. -/
theorem addSlot (along : Alongside old naming fresh later) {name other : Name}
    (related : naming.functions name other) (base another : String) (kind : ValueKind) :
    ∃ larger, naming.Grows larger ∧
      Alongside old larger (fresh.addSlot name base kind).2 (later.addSlot other another kind).2 ∧
      larger.locals name (fresh.addSlot name base kind).1 (later.addSlot other another kind).1 :=
  along.inFunction related (fun _ => rfl) (fun _ => rfl) (fun _ => rfl) (fun _ => rfl)
    fun _ _ _ pairs => pairs.addSlot base another kind

/-- An empty block is appended to functions that stand for each other. -/
theorem addBlock (along : Alongside old naming fresh later) {name other : Name}
    (related : naming.functions name other) (base another : String) :
    ∃ larger, naming.Grows larger ∧
      Alongside old larger (fresh.addBlock name base).2 (later.addBlock other another).2 ∧
      larger.locals name (fresh.addBlock name base).1 (later.addBlock other another).1 :=
  along.inFunction related (fun _ => rfl) (fun _ => rfl) (fun _ => rfl) (fun _ => rfl)
    fun _ _ _ pairs => pairs.addBlock base another

/-- A function is created in both modules, whatever other functions are called. -/
theorem addFunction (along : Alongside old naming fresh later) (base : Name)
    (wanted : List (String × ValueKind)) (result : ExactKind) :
    ∃ larger, naming.Grows larger ∧
      Alongside old larger (fresh.addFunction base wanted result).2
        (later.addFunction base wanted result).2 ∧
      larger.Pairs (fresh.addFunction base wanted result).1
        (later.addFunction base wanted result).1 := by
  have new := along.named.fresh base
  have free := along.renamed.fresh base
  -- Nothing stands for the new functions, or is known within them.
  have unknown : ∀ other, ¬ naming.functions (fresh.names.registerName base).1 other :=
    fun other held =>
      new (along.known _ _ held)
  have unmet : ∀ name, ¬ naming.functions name (later.names.registerName base).1 :=
    fun name held => by
      obtain ⟨_, another, _, found, _⟩ := along.function? held
      exact free (List.mem_map.mpr
        ⟨another, Module.function?_mem found, Module.function?_name found⟩)
  have empty : ∀ first second, ¬ naming.locals (fresh.names.registerName base).1 first second :=
    fun _ _ held =>
      new (along.within _ _ _ held)
  have grows := grows_withFunction naming (fresh.names.registerName base).1
    (later.names.registerName base).1
    (Function.declared (fresh.names.registerName base).1 wanted result).names.used
  have pairs := naming.pairs_declared (fresh.names.registerName base).1
    (later.names.registerName base).1 wanted result empty
  obtain ⟨created, split, alike⟩ := along.created
  refine ⟨_, grows, ⟨along.unique.withFunction _ unknown unmet empty,
    ⟨created ++ [(later.addFunction base wanted result).1], ?_, ?_⟩, ?known, ?within,
    along.named.addFunction .., along.renamed.addFunction ..⟩, pairs⟩
  · simp only [Module.addFunction, split, List.append_assoc]
  · refine List.rel_append ((forall₂_mem alike).imp ?_) (.cons pairs .nil)
    rintro first second ⟨inside, _, same⟩
    -- The new function has a name of its own, so nothing is new within the others.
    exact same.grow grows fun _ _ held => held.resolve_right fun added =>
      new (added.1 ▸ List.mem_map_of_mem inside)
  case known =>
    intro function other held
    rw [Module.handles_addFunction]
    rcases held with held | ⟨rfl, -⟩
    · exact List.mem_append_left _ (along.known _ _ held)
    · exact List.mem_append_right _ (List.mem_singleton.mpr rfl)
  case within =>
    intro function first second held
    rw [Module.handles_addFunction]
    rcases held with held | ⟨rfl, -⟩
    · exact List.mem_append_left _ (along.within _ _ _ held)
    · exact List.mem_append_right _ (List.mem_singleton.mpr rfl)

end Alongside

end Renaming

end LoopLang

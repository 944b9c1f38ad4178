import LoopLang.Proofs.Code.Growth

/-! Growth of modules: every change touches one function, or adds one under a name of its own. -/

namespace LoopLang.Code

namespace Module

/-- The body of a block. -/
def body? (module : Module) (block : BlockRef) : Option (List Instruction) :=
  (module.function? block.function).bind (·.body? block.label)

/-- The names of all functions, in order. -/
def handles (module : Module) : List Name := module.functions.map Function.name

/-- What a module had is still there later, in the same order. -/
structure Grows (module later : Module) : Prop where
  order : ∃ more, later.handles = module.handles ++ more
  functions : ∀ name function, module.function? name = some function →
    ∃ grown, later.function? name = some grown ∧ function.Grows grown

/-- A module as it is has lost nothing. -/
theorem Grows.refl (module : Module) : module.Grows module :=
  ⟨⟨[], (List.append_nil _).symm⟩, fun _ function found => ⟨function, found, .refl function⟩⟩

/-- What is kept twice is kept. -/
theorem Grows.trans {module middle later : Module} (first : module.Grows middle)
    (second : middle.Grows later) :
    module.Grows later where
  order := by
    obtain ⟨more, kept⟩ := first.order
    obtain ⟨rest, held⟩ := second.order
    exact ⟨more ++ rest, by rw [held, kept, List.append_assoc]⟩
  functions := fun name function found => by
    obtain ⟨between, held, grown⟩ := first.functions name function found
    obtain ⟨last, kept, further⟩ := second.functions name between held
    exact ⟨last, kept, grown.trans further⟩

/-- Bodies only get longer. -/
theorem Grows.body? {module later : Module} (grows : module.Grows later) {block : BlockRef}
    {body : List Instruction} (found : module.body? block = some body) :
    ∃ more, later.body? block = some (body ++ more) := by
  obtain ⟨function, held, inside⟩ := Option.bind_eq_some_iff.mp found
  obtain ⟨grown, kept, more⟩ := grows.functions _ function held
  obtain ⟨rest, longer⟩ := more.bodies _ body inside
  exact ⟨rest, by simp [Module.body?, kept, longer]⟩

/-- A block that is not there later was not there before. -/
theorem Grows.body?_eq_none {module later : Module} (grows : module.Grows later) {block : BlockRef}
    (absent : later.body? block = none) : module.body? block = none := by
  cases found : module.body? block with
  | none => rfl
  | some body =>
    -- A block that is there does not disappear.
    obtain ⟨more, held⟩ := grows.body? found
    rw [absent] at held
    exact absurd held (by simp)

/-- Functions that are tidy each, under names that are all different and all taken. -/
structure Tidy (module : Module) : Prop where
  distinct : module.handles.Nodup
  used : ∀ function ∈ module.functions, function.name ∈ module.names.used
  functions : ∀ function ∈ module.functions, function.Tidy

/-- A module without functions is tidy. -/
theorem Tidy.empty : Module.empty.Tidy :=
  ⟨List.nodup_nil, by simp [Module.empty], by simp [Module.empty]⟩

/-- A function that is found has the name it was looked up by. -/
theorem function?_name {module : Module} {name : Name} {function : Function}
    (found : module.function? name = some function) : function.name = name := by
  simpa using List.find?_some found

/-- A function that is found is one of the module's functions. -/
theorem function?_mem {module : Module} {name : Name} {function : Function}
    (found : module.function? name = some function) : function ∈ module.functions :=
  List.mem_of_find?_eq_some found

/-- Among functions with different names each one is the first of its name. -/
theorem find?_name {functions : List Function} {function : Function}
    (distinct : (functions.map Function.name).Nodup) (member : function ∈ functions) :
    functions.find? (·.name = function.name) = some function := by
  -- The search stops at the first function of this name, which is the only one.
  induction functions with
  | nil => cases member
  | cons first rest ih =>
    obtain ⟨outside, distinct⟩ := List.nodup_cons.mp distinct
    rcases List.mem_cons.mp member with rfl | later
    · simp
    · have apart : first.name ≠ function.name := fun same =>
        outside (List.mem_map.mpr ⟨function, later, same.symm⟩)
      rw [List.find?_cons_of_neg (by simpa using apart)]
      exact ih distinct later

/-- In a tidy module every function is found under its name. -/
theorem Tidy.function?_eq {module : Module} (tidy : module.Tidy) {function : Function}
    (member : function ∈ module.functions) : module.function? function.name = some function :=
  find?_name tidy.distinct member

/-- Changing one function changes what is found under its name only. -/
theorem function?_inFunction (module : Module) (name other : Name)
    (change : Function → String × Function)
    (keeps : ∀ function, (change function).2.name = function.name) :
    (module.inFunction name change).2.function? other =
      if other = name then (module.function? name).map (fun function => (change function).2)
      else module.function? other := by
  -- Changed or not, every function keeps its name.
  have same : ∀ function : Function,
      (if function.name = name then (change function).2 else function).name = function.name := by
    intro function
    split
    · exact keeps function
    · rfl
  have mapped : (module.inFunction name change).2.function? other = (module.function? other).map
      fun function => if function.name = name then (change function).2 else function := by
    simp only [inFunction, updateFunction, function?, List.find?_map, Function.comp_def, same]
  -- Functions are found by their names, which the change keeps.
  rw [mapped]
  -- Either there was no such function, or it is the changed one or another.
  cases found : module.function? other with
  | none =>
    split
    · rename_i here
      simp [← here, found]
    · rfl
  | some function =>
    have named := function?_name found
    split
    · rename_i here
      simp [← here, found, named]
    · rename_i elsewhere
      simp [named, elsewhere]

/-- Changing a function leaves the names of all functions. -/
theorem handles_inFunction (module : Module) (name : Name) {change : Function → String × Function}
    (keeps : ∀ function, (change function).2.name = function.name) :
    (module.inFunction name change).2.handles = module.handles := by
  simp only [handles, inFunction, updateFunction, List.map_map]
  refine List.map_congr_left fun function _ => ?_
  simp only [Function.comp_apply]
  -- Only the function of that name is changed, and it keeps the name.
  split
  · exact keeps function
  · rfl

/-- No function is found under a name that none has. -/
theorem function?_eq_none {module : Module} {name : Name} :
    module.function? name = none ↔ name ∉ module.handles := by
  simp [function?, handles, List.find?_eq_none]

/-- The fresh name of a change is the one that the changed function has made. -/
theorem inFunction_fresh {module : Module} {name : Name} {function : Function}
    (found : module.function? name = some function) (change : Function → String × Function) :
    (module.inFunction name change).1 = (change function).1 := by
  simp [inFunction, found]

/-- A change that loses nothing in its function loses nothing in the module. -/
theorem inFunction_grows (module : Module) (name : Name) {change : Function → String × Function}
    (keeps : ∀ function, (change function).2.name = function.name)
    (grows : ∀ function, module.function? name = some function →
      function.Grows (change function).2) :
    module.Grows (module.inFunction name change).2 where
  order := ⟨[], by rw [handles_inFunction module name keeps, List.append_nil]⟩
  functions := fun other function found => by
    rw [function?_inFunction module name other change keeps]
    -- Only the function of this name is changed.
    split
    · rename_i here
      subst here
      exact ⟨_, by rw [found, Option.map_some], grows function found⟩
    · exact ⟨function, found, .refl function⟩

/-- A change that keeps functions tidy keeps the module tidy. -/
theorem Tidy.inFunction {module : Module} (tidy : module.Tidy) (name : Name)
    {change : Function → String × Function}
    (keeps : ∀ function, (change function).2.name = function.name)
    (stays : ∀ function : Function, function.Tidy → (change function).2.Tidy) :
    (module.inFunction name change).2.Tidy := by
  -- The change keeps all names, so the names of functions stay apart and in use.
  have same := handles_inFunction module name keeps
  refine ⟨same ▸ tidy.distinct, fun function member => ?_, fun function member => ?_⟩
  · have named : function.name ∈ module.handles := same ▸ List.mem_map.mpr ⟨function, member, rfl⟩
    obtain ⟨old, held, equal⟩ := List.mem_map.mp named
    exact equal ▸ tidy.used old held
  · obtain ⟨old, held, rfl⟩ := List.mem_map.mp member
    split
    · exact stays old (tidy.functions old held)
    · exact tidy.functions old held

/-- What a change does to the bodies of one function it does to those of the module. -/
theorem body?_inFunction (module : Module) (block other : BlockRef)
    {change : Function → String × Function}
    (keeps : ∀ function, (change function).2.name = function.name)
    {altered : Option (List Instruction)}
    (inside : ∀ function, module.function? block.function = some function → ∀ label,
      (change function).2.body? label = if label = block.label then altered
        else function.body? label)
    (outside : module.function? block.function = none → altered = none) :
    (module.inFunction block.function change).2.body? other =
      if other = block then altered else module.body? other := by
  rcases other with ⟨name, label⟩
  simp only [body?, function?_inFunction module block.function name change keeps]
  -- Another block may be one of the same function under another label, or one of another function.
  by_cases same : name = block.function
  · subst same
    cases found : module.function? block.function with
    | none => simp [outside found]
    | some function =>
      -- In the changed function the label decides.
      have changed := inside function found label
      by_cases here : label = block.label
      · subst here
        simpa using changed
      · have apart : (⟨block.function, label⟩ : BlockRef) ≠ block :=
          fun equal => here (by rw [← equal])
        simpa [apart, here] using changed
  -- A block of another function is not touched.
  · have apart : (⟨name, label⟩ : BlockRef) ≠ block := fun equal => same (by rw [← equal])
    simp [same, apart]

section Append

variable (module : Module) (block : BlockRef) (base : String) {make : String → Instruction}

/-- Appending an instruction loses nothing. -/
theorem append_grows (plain : Function.IsPlain make) :
    module.Grows (module.append block base make).2 :=
  module.inFunction_grows block.function (fun _ => rfl) fun function _ =>
    function.append_grows block.label base plain

/-- Appending an instruction keeps a module tidy. -/
theorem Tidy.append {module : Module} (tidy : module.Tidy) (plain : Function.IsPlain make) :
    (module.append block base make).2.Tidy :=
  tidy.inFunction block.function (fun _ => rfl) fun _ inner => inner.append block.label base plain

/-- The body of a block that an instruction is appended to grows by that instruction. -/
theorem body?_append (plain : Function.IsPlain make) (other : BlockRef) :
    (module.append block base make).2.body? other =
      if other = block then (module.body? block).map (· ++ [make (module.append block base make).1])
      else module.body? other := by
  -- The instruction goes into one block of one function, under a name that this function gives.
  refine module.body?_inFunction block other (fun _ => rfl) (fun function found label => ?_)
    fun absent => ?_
  · rw [function.body?_append block.label base label plain.reserved]
    simp [Module.body?, found, Module.append, inFunction_fresh found, Function.append]
  · simp [Module.body?, absent]

end Append

section Slots

variable {module : Module} {owner : Name} {function : Function} (base : String) (kind : ValueKind)

/-- Reserving a slot loses nothing. -/
theorem addSlot_grows (module : Module) (owner : Name) :
    module.Grows (module.addSlot owner base kind).2 :=
  module.inFunction_grows owner (fun _ => rfl) fun function _ => function.addSlot_grows base kind

/-- Reserving a slot keeps a module tidy. -/
theorem Tidy.addSlot (tidy : module.Tidy) (owner : Name) :
    (module.addSlot owner base kind).2.Tidy :=
  tidy.inFunction owner (fun _ => rfl) fun _ inner => inner.addSlot base kind

/-- Reserving a slot leaves every body as it is. -/
theorem body?_addSlot (module : Module) (owner : Name) (block : BlockRef) :
    (module.addSlot owner base kind).2.body? block = module.body? block := by
  simp only [body?, addSlot,
    function?_inFunction module owner block.function (fun function => function.addSlot base kind)
    fun _ => rfl]
  split
  -- Slots are not among the instructions of a body.
  · rename_i here
    rw [here]
    cases module.function? owner <;> simp [Function.body?_addSlot]
  · rfl

/-- A new slot is among those of its function, under a name that was free. -/
theorem Tidy.slot_addSlot (tidy : module.Tidy) (found : module.function? owner = some function)
    (started : function.blocks ≠ []) :
    (module.addSlot owner base kind).1 ∉ function.definedNames ∧
      ∃ later, (module.addSlot owner base kind).2.function? owner = some later ∧
        later.slots = ((module.addSlot owner base kind).1, kind) :: function.slots := by
  -- The module looks the function up, and the function registers the name.
  have fresh : (module.addSlot owner base kind).1 = (function.names.register base).1 :=
    inFunction_fresh found fun function => function.addSlot base kind
  rw [fresh]
  refine ⟨(tidy.functions _ (function?_mem found)).register_not_mem base,
    (function.addSlot base kind).2, ?_, ?_⟩
  · simp [Module.addSlot, found,
      function?_inFunction module owner owner (fun function => function.addSlot base kind)
      fun _ => rfl]
  · exact function.slots_addSlot base kind started

end Slots

section Blocks

variable {module : Module} {owner : Name} {function : Function} (base : String)

/-- A new block loses nothing. -/
theorem Tidy.addBlock_grows (tidy : module.Tidy) (owner : Name) :
    module.Grows (module.addBlock owner base).2 :=
  module.inFunction_grows owner (fun _ => rfl) fun _ found =>
    Function.addBlock_grows (tidy.functions _ (function?_mem found)) base

/-- A new block keeps a module tidy. -/
theorem Tidy.addBlock (tidy : module.Tidy) (owner : Name) : (module.addBlock owner base).2.Tidy :=
  tidy.inFunction owner (fun _ => rfl) fun _ inner => inner.addBlock base

/-- A new block has a label that was free. -/
theorem Tidy.addBlock_fresh (tidy : module.Tidy) (owner : Name) :
    module.body? ⟨owner, (module.addBlock owner base).1⟩ = none := by
  cases found : module.function? owner with
  | none => simp [Module.body?, found]
  | some function =>
    -- The label comes from the names of the function, which never give one twice.
    have fresh : (module.addBlock owner base).1 = (function.names.register base).1 :=
      inFunction_fresh found fun function => function.addBlock base
    simp [Module.body?, found, fresh, (tidy.functions _ (function?_mem found)).body?_register base]

/-- A new block is empty, and every other one is as before. -/
theorem Tidy.body?_addBlock (tidy : module.Tidy) (found : module.function? owner = some function)
    (block : BlockRef) :
    (module.addBlock owner base).2.body? block =
      if block = ⟨owner, (module.addBlock owner base).1⟩ then some [] else module.body? block := by
  -- In any other function nothing happens; in this one the label is fresh.
  refine module.body?_inFunction ⟨owner, (module.addBlock owner base).1⟩ block (fun _ => rfl)
    (fun function found label => ?_) fun absent => ?_
  · have fresh : (module.addBlock owner base).1 = (function.names.register base).1 :=
      inFunction_fresh found fun function => function.addBlock base
    rw [fresh]
    exact function.body?_addBlock base label
      ((tidy.functions _ (function?_mem found)).body?_register base)
  · rw [found] at absent
    exact absurd absent (by simp)

end Blocks

/-- A new function has a name that no function had. -/
theorem Tidy.function?_registerName {module : Module} (tidy : module.Tidy) (base : Name) :
    module.function? (module.names.registerName base).1 = none := by
  cases found : module.function? (module.names.registerName base).1 with
  | none => rfl
  | some function =>
    -- The name of a function is in use, and a new one is not.
    have taken := tidy.used function (function?_mem found)
    rw [function?_name found] at taken
    exact absurd taken (module.names.registerName_fresh base)

/-- A new function is found under its name, and everything else as before. -/
theorem Tidy.function?_addFunction {module : Module} (tidy : module.Tidy) (base other : Name)
    (parameters : List (String × ValueKind)) (result : ExactKind) :
    (module.addFunction base parameters result).2.function? other =
      if other = (module.names.registerName base).1
        then some (module.addFunction base parameters result).1
      else module.function? other := by
  -- The new function stands last, but nothing in front of it has its name.
  have absent := tidy.function?_registerName base
  unfold function? at absent
  by_cases here : other = (module.names.registerName base).1
  · simp [addFunction, function?, List.find?_append, here, absent, Function.declared]
  · have apart : (module.names.registerName base).1 ≠ other := fun same => here same.symm
    simp [addFunction, function?, List.find?_append, here, apart, Function.declared]

/-- A new function has no blocks, and every other one keeps its own. -/
theorem Tidy.body?_addFunction {module : Module} (tidy : module.Tidy) (base : Name)
    (parameters : List (String × ValueKind)) (result : ExactKind) (block : BlockRef) :
    (module.addFunction base parameters result).2.body? block = module.body? block := by
  simp only [Module.body?, tidy.function?_addFunction]
  split
  -- The new function has no blocks, and its name meant nothing before.
  · rename_i here
    rw [here, tidy.function?_registerName base]
    rfl
  · rfl

/-- The name of a new function comes behind those of the others. -/
theorem handles_addFunction (module : Module) (base : Name) (parameters : List (String × ValueKind))
    (result : ExactKind) : (module.addFunction base parameters result).2.handles =
      module.handles ++ [(module.names.registerName base).1] := by
  simp [handles, addFunction, Function.declared]

/-- A new function loses nothing. -/
theorem Tidy.addFunction_grows {module : Module} (tidy : module.Tidy) (base : Name)
    (parameters : List (String × ValueKind)) (result : ExactKind) :
    module.Grows (module.addFunction base parameters result).2 where
  order := ⟨[(module.names.registerName base).1], handles_addFunction module base parameters result⟩
  functions := fun other function found => by
    rw [tidy.function?_addFunction base other parameters result]
    split
    -- Its name is new, so no function is hidden by it.
    · rename_i here
      rw [here, tidy.function?_registerName base] at found
      exact absurd found (by simp)
    · exact ⟨function, found, .refl function⟩

end Module

namespace Function

/-- What registering one parameter after another keeps: different names that are all taken, and the
kinds. -/
theorem registerParameters_spec (names : Names) (wanted : List (String × ValueKind)) :
    ((registerParameters names wanted).1.map Prod.fst).Nodup ∧
      (∀ name ∈ (registerParameters names wanted).1.map Prod.fst,
        Name.text name ∈ (registerParameters names wanted).2.used) ∧
      (registerParameters names wanted).1.map Prod.snd = wanted.map Prod.snd := by
  unfold registerParameters
  -- Unnamed registers are counted first, which only uses up numbers.
  generalize (List.replicate (wanted.length + 1) ()).foldl
    (fun names _ => names.registerUnnamed) names = start
  -- The parameters done so far have these properties, whatever is still to come.
  suffices loop : ∀ (rest done : List (String × ValueKind)) (names : Names),
      (done.map Prod.fst).Nodup → (∀ name ∈ done.map Prod.fst, Name.text name ∈ names.used) →
      let final := rest.foldl (fun (state : List (String × ValueKind) × Names)
          (entry : String × ValueKind) =>
        (state.1 ++ [((state.2.register entry.1).1, entry.2)], (state.2.register entry.1).2))
        (done, names)
      (final.1.map Prod.fst).Nodup ∧
        (∀ name ∈ final.1.map Prod.fst, Name.text name ∈ final.2.used) ∧
        final.1.map Prod.snd = done.map Prod.snd ++ rest.map Prod.snd by
    simpa using loop wanted [] start List.nodup_nil (by simp)
  intro rest
  induction rest with
  | nil =>
    intro done names distinct used
    exact ⟨distinct, used, by simp⟩
  | cons entry rest ih =>
    intro done names distinct used
    -- The next name is new, so it differs from those of the parameters before.
    have fresh : (names.register entry.1).1 ∉ done.map Prod.fst :=
      fun member => names.register_fresh entry.1 (used _ member)
    -- One parameter more is done, and the rest is done by induction.
    have longer := ih (done ++ [((names.register entry.1).1, entry.2)]) (names.register entry.1).2
      (by
        rw [List.map_append, List.map_singleton]
        exact List.nodup_append.mpr
          ⟨distinct, List.pairwise_singleton .., fun a left b right same =>
            fresh (List.mem_singleton.mp right ▸ same ▸ left)⟩)
      (by
        intro name member
        rw [Names.register_used]
        rw [List.map_append, List.map_singleton] at member
        rcases List.mem_append.mp member with old | new
        · exact List.mem_cons_of_mem _ (used name old)
        · rw [List.mem_singleton.mp new]
          exact List.mem_cons_self)
    simpa using longer

/-- The parameters of a new function keep their kinds. -/
theorem declared_kinds (name : Name) (wanted : List (String × ValueKind)) (result : ExactKind) :
    (declared name wanted result).parameters.map Prod.snd = wanted.map Prod.snd :=
  (registerParameters_spec .empty wanted).2.2

/-- A new function is tidy. -/
theorem declared_tidy (name : Name) (wanted : List (String × ValueKind)) (result : ExactKind) :
    (declared name wanted result).Tidy := by
  obtain ⟨distinct, used, -⟩ := registerParameters_spec .empty wanted
  have names : (declared name wanted result).definedNames =
      (registerParameters .empty wanted).1.map Prod.fst := by
    simp [definedNames, declared]
  exact ⟨trivial, names ▸ distinct, names ▸ used⟩

end Function

/-- A new function keeps a module tidy. -/
theorem Module.Tidy.addFunction {module : Module} (tidy : module.Tidy) (base : Name)
    (parameters : List (String × ValueKind)) (result : ExactKind) :
    (module.addFunction base parameters result).2.Tidy := by
  have fresh : (module.names.registerName base).1 ∉ module.handles := by
    intro member
    obtain ⟨function, held, named⟩ := List.mem_map.mp member
    exact module.names.registerName_fresh base (named ▸ tidy.used function held)
  refine ⟨?_, fun function member => ?_, fun function member => ?_⟩
  · rw [Module.handles_addFunction]
    refine List.nodup_append.mpr
      ⟨tidy.distinct, List.pairwise_singleton .., fun a left b right same => ?_⟩
    have new : b = (module.names.registerName base).1 := List.mem_singleton.mp right
    rw [same, new] at left
    exact fresh left
  · show function.name ∈ (module.names.registerName base).2.used
    rw [Names.registerName_used]
    -- A name that is taken stays taken.
    rcases List.mem_append.mp member with old | new
    · exact List.mem_cons_of_mem _ (tidy.used function old)
    · rw [List.mem_singleton.mp new]
      exact List.mem_cons_self
  · rcases List.mem_append.mp member with old | new
    · exact tidy.functions function old
    · rw [List.mem_singleton.mp new]
      exact Function.declared_tidy ..

end LoopLang.Code

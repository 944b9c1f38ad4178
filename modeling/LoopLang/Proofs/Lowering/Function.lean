import LoopLang.Proofs.Lowering.Declaration
import LoopLang.Proofs.Lowering.Flow

/-! Lowering functions: their blocks are their own, and emission goes on outside as if nothing had
happened. -/

namespace LoopLang

open Code (Module Name Instruction Operand Unended)

namespace Builder

/-- The parameters of a function are declared as variables, each with the register of its argument
as its first value. -/
inductive Stores : Builder → List (String × ValueKind) → List Lowering.TypedName → Builder → Prop
  | nil (builder : Builder) : Stores builder [] [] builder
  | cons {builder middle later : Builder} {register name : String} {kind : ValueKind}
      {place : Location} {registers : List (String × ValueKind)}
      {parameters : List Lowering.TypedName} (lacks : builder.Lacks name)
      (binds : builder.Binds middle name (.exact kind.exact) (some (.register register kind)))
      (sound : middle.Sound) (rest : Stores middle registers parameters later) :
      Stores builder ((register, kind) :: registers) (⟨place, name, kind⟩ :: parameters) later

/-- The names of parameters can be declared: they differ, and none is there already. -/
def Accepts (builder : Builder) (parameters : List Lowering.TypedName) : Prop :=
  (parameters.map Lowering.TypedName.name).Nodup ∧ ∀ parameter ∈ parameters,
    builder.Lacks parameter.name

/-- The first of some parameters and the others can be declared if the others can be declared behind
the first. -/
theorem Binds.accepts {builder later : Builder} (first : Lowering.TypedName)
    (rest : List Lowering.TypedName) {kind : Kind} {answer : Option Operand}
    (binds : builder.Binds later first.name kind answer) (lacks : builder.Lacks first.name) :
    later.Accepts rest ↔ builder.Accepts (first :: rest) := by
  unfold Accepts
  simp only [binds.lacks, List.map_cons, List.nodup_cons, List.forall_mem_cons, List.mem_map,
    not_exists, not_and]
  -- The first name is missing before, and every other one is missing both before and behind it.
  constructor
  · rintro ⟨distinct, apart⟩
    exact ⟨⟨fun other member => (apart other member).2, distinct⟩, lacks,
      fun other member => (apart other member).1⟩
  · rintro ⟨⟨apart, distinct⟩, _, lack⟩
    exact ⟨distinct, fun other member => ⟨lack other member, apart other member⟩⟩

/-- What is defined stays defined behind the declaration of a variable. -/
theorem Binds.holds {builder later : Builder} {name : String} {kind : Kind}
    {answer : Option Operand} (binds : builder.Binds later name kind answer) {operand : Operand}
    (holds : builder.Holds operand) :
    later.Holds operand := by
  -- Declaring a name leaves the code as it is.
  have declared : ∀ {middle : Builder} {binding : Binding}, middle.Declares later name binding →
      middle.Holds operand → later.Holds operand := by
    rintro middle binding declares ⟨block, function, body, here, owner, found, defined⟩
    exact ⟨block, function, body, declares.current.trans here, declares.code ▸ owner,
      declares.code ▸ found, defined⟩
  -- Storing a value only adds to the block.
  cases binds with
  | void declares => exact declared declares holds
  | stored _ _ _ adds declares =>
    exact declared declares (Extends.holds ⟨_, adds, .single rfl⟩ holds)

/-- Every function but one has a block. -/
def StartedBut (builder : Builder) (except : Name) : Prop :=
  ∀ name, name = except ∨ builder.code.function? name = none ∨
    ∃ label body, builder.code.body? ⟨name, label⟩ = some body

end Builder

namespace Lowering

variable {α β : Type} {base start : Builder} {here : BlockRef} {waiting : List BlockRef}

/-- Each parameter is stored in a slot of its own, unless two of them have the same name. -/
theorem Stage.storeParameters (stage : Stage base start here waiting)
    (here_open : start.HasOpen here) {registers : List (String × ValueKind)}
    {parameters : List TypedName} (kinds : registers.map Prod.snd = parameters.map TypedName.kind)
    (holds : ∀ entry ∈ registers, start.Holds (.register entry.1 entry.2)) :
    (storeParameters registers parameters).Ends start
      (fun _ finish => Stage base finish here waiting ∧ finish.HasOpen here ∧
        start.Accepts parameters ∧ start.Stores registers parameters finish)
      (fun failure finish => Fails base failure finish ∧ ¬ start.Accepts parameters) := by
  -- By induction on the registers: a parameter is stored before the others are.
  induction registers generalizing parameters start with
  | nil =>
    obtain rfl : parameters = [] := List.map_eq_nil_iff.mp kinds.symm
    exact ⟨stage, here_open, ⟨List.nodup_nil, List.forall_mem_nil _⟩, .nil start⟩
  | cons entry registers ih =>
    cases parameters with
    -- There are as many parameters as registers.
    | nil => cases kinds
    | cons parameter parameters =>
      obtain ⟨register, kind⟩ := entry
      obtain ⟨place, name, wanted⟩ := parameter
      obtain ⟨same, rest_kinds⟩ := List.cons.inj kinds
      have same : kind = wanted := same
      subst same
      have stores := stage.declareVariable here_open name ("argument." ++ name) kind
        (holds _ List.mem_cons_self) place
      refine .bind (stores.imp (fun _ _ held => held) fun _ _ held => ?_) fun _ stored held => ?_
      -- A parameter is refused only where its name is taken, for its kind is that of the register.
      · exact ⟨held.1, fun accepts => held.2 (accepts.2 _ List.mem_cons_self) rfl⟩
      · obtain ⟨stage, here_open, lacks, _, binds⟩ := held
        -- The others must have other names than the first one.
        have same := Builder.Binds.accepts ⟨place, name, kind⟩ parameters binds lacks
        refine (ih stage here_open rest_kinds fun entry member =>
          binds.holds (holds entry (List.mem_cons_of_mem _ member))).imp (fun _ _ held => ?_)
            fun _ _ held => ?_
        · exact ⟨held.1, held.2.1, same.mp held.2.2.1, .cons lacks binds stage.sound held.2.2.2⟩
        · exact ⟨held.1, fun accepts => held.2 (same.mpr accepts)⟩

/-- What a function returns where control falls off its end. -/
def closing (result : ExactKind) : Instruction :=
  match result with
  | .void => .returnVoid
  | .num | .bool => .returnValue (Code.zeroOperand result)

/-- Control that falls off the end of a function returns what the function promises. -/
theorem Stage.closeFunction {failed : Failure → Builder → Prop}
    (stage : Stage base start here waiting) {function : Code.Function}
    (owner : start.code.function? here.function = some function) :
    (closeFunction function.result).Ends start (fun _ finish => Stage base finish here waiting ∧
      ¬ finish.HasOpen here ∧ ∃ more,
        start.Adds finish more ∧ (start.HasOpen here → more = [closing function.result]))
      failed := by
  -- What is added is the same for each kind of result, but for the value that is returned.
  have ends_with : start.code.isTerminated here = false →
      (closing function.result).reserved? = none →
      (closing function.result).result? = none → (closing function.result).isTerminator = true →
      (start.HasOpen here → start.Admits fun _ => closing function.result) →
      (Lowering.terminate (closing function.result)).Ends start
      (fun _ finish => Stage base finish here waiting ∧
        ¬ finish.HasOpen here ∧ ∃ more,
        start.Adds finish more ∧ (start.HasOpen here → more = [closing function.result]))
        failed := by
    intro seen reserved given stops fits
    have here_open := (hasOpen_iff stage.sound stage.current).mpr seen
    refine (terminate_adds stage.sound stage.current here_open reserved given (fits here_open)).imp
      (fun _ finish held => ?_) fun _ _ held => held
    exact ⟨stage.adds held.1 held.2,
      held.2.finished stage.current (List.mem_singleton_self _) stops, _, held.2, fun _ => rfl⟩
  unfold Lowering.closeFunction
  rw [bind_ends, isTerminated_ends stage.sound stage.current]
  -- A block that has its terminator gets no other one.
  cases seen : start.code.isTerminated here with
  | true =>
    have finished : ¬ start.HasOpen here := fun here_open => by
      rw [(hasOpen_iff stage.sound stage.current).mp here_open] at seen
      cases seen
    exact ⟨stage, finished, [], .refl start, fun here_open => absurd here_open finished⟩
  | false =>
    have value_fits : ∀ value : Operand, (∀ name kind, value ≠ .register name kind) →
        value.kind.exact = function.result → start.HasOpen here → start.Admits fun _ =>
          .returnValue value :=
      fun value constant kind here_open =>
        returnValue_admits stage.current owner
          ((stage.ready here_open).holds_constant constant) kind
    -- A constant needs no definition, so that it can be returned anywhere.
    cases result : function.result with
    | void =>
      rw [result] at ends_with
      exact ends_with seen rfl rfl rfl fun _ => returnVoid_admits stage.current owner result
    | num =>
      rw [result] at ends_with
      exact ends_with seen rfl rfl rfl (value_fits (Code.zeroOperand .num) nofun result.symm)
    | bool =>
      rw [result] at ends_with
      exact ends_with seen rfl rfl rfl (value_fits (Code.zeroOperand .bool) nofun result.symm)

/-- The frame of a function. -/
def functionOptions (function : Code.Function) : FrameOptions :=
  { function := some function.name, isFunction := true, result := some (.exact function.result) }

/-- The body of a function begins behind its parameters, in a block and a frame of its own. -/
structure Begins (start : Builder) (function : Code.Function) (parameters : List TypedName)
    (entry : BlockRef) (begun : Builder) : Prop where
  stage : Stage begun begun entry []
  entered : begun.HasOpen entry
  opened : ∃ opened grown, start.Makes opened entry ∧ entry.function = function.name ∧
    opened.code.function? function.name = some grown ∧ grown.start? = some entry.label ∧
    (opened.pushed entry (functionOptions function)).Sound ∧
    (opened.pushed entry (functionOptions function)).Stores function.parameters parameters begun

/-- A body is closed: where control falls off its end, the function returns. -/
structure Ended (ended finish : Builder) (result : ExactKind) : Prop where
  code : ended.code.Grows finish.code
  handles : finish.code.handles = ended.code.handles
  falls : ∀ last body, ended.block? = some last → ended.code.body? last = some body → Unended body →
    finish.code.body? last = some (body ++ [closing result])

/-- A function is closed behind its body, and emission goes on outside where it was. -/
structure Closes (start ended finish : Builder) (result : ExactKind) : Prop where
  closed : Ended ended finish result
  others : ∀ block body, start.code.body? block = some body → finish.code.body? block = some body
  current : finish.block? = start.block?
  frames : Builder.Continues [] start.scopes.frames finish.scopes.frames

/-- The first block that is made for a function is where it starts. -/
theorem entry_starts {finish : Builder} {entry : BlockRef} {function grown : Code.Function}
    (makes : start.Makes finish entry)
    (owner : start.code.function? entry.function = some function) (empty : function.blocks = [])
    (kept : finish.code.function? entry.function = some grown) :
    grown.start? = some entry.label := by
  have made : finish.code.body? entry = some [] := by rw [makes.bodies, if_pos rfl]
  have standing : grown.body? entry.label = some [] := by simpa [Module.body?, kept] using made
  obtain ⟨first, body, begun, found⟩ := Code.Function.start?_of_body? standing
  -- A function starts in the first of its blocks.
  by_cases same : (⟨entry.function, first⟩ : BlockRef) = entry
  · rw [begun, ← same]
  -- Any other block would have been there before, when the function had none.
  · have later : finish.code.body? ⟨entry.function, first⟩ = some body := by
      simp [Module.body?, kept, found]
    have earlier : start.code.body? ⟨entry.function, first⟩ = none := by
      simp [Module.body?, owner, Code.Function.body?, Code.Function.block?, empty]
    rw [makes.bodies, if_neg same, earlier] at later
    cases later

/-- The frame of a function is opened at a block of it, outside of which no frame belongs to it. -/
theorem pushedFunction_sound (sound : start.Sound) {entry : BlockRef}
    {function grown : Code.Function} (belongs : entry.function = function.name)
    (placed : ∃ body, start.code.body? entry = some body)
    (kept : start.code.function? function.name = some grown)
    (result : grown.result = function.result)
    (outside : ∀ frame ∈ start.scopes.frames, frame.home ≠ function.name) :
    (start.pushed entry (functionOptions function)).Sound := by
  obtain ⟨body, found⟩ := placed
  have home : (Frame.opened (some entry) (functionOptions function) start.scopes.current?).home =
      function.name := rfl
  refine sound.push ⟨⟨entry, body, rfl, congrArg some belongs.symm, found⟩, List.forall_mem_nil _,
    nofun, nofun, nofun, fun _ => ?_⟩ ⟨?_, sound.enclosed⟩
  -- The frame knows the result of its function.
  · exact ⟨grown, home ▸ kept, by simp [Frame.opened, functionOptions, result]⟩
  -- No frame outside belongs to the new function, so its frames begin here.
  · rw [if_pos (by simp [Frame.opened, functionOptions])]
    exact outside

/-- What is within a function: its parameters, its body, and its end. -/
theorem Stage.functionInside {function : Code.Function} {parameters : List TypedName}
    {body : Lowering Unit} {done : Builder → Prop} {refused : Failure → Prop}
    (stage : Stage start start here []) (here_open : start.HasOpen here) {grown : Code.Function}
    (kept : start.code.function? here.function = some grown)
    (result : grown.result = function.result)
    (kinds : function.parameters.map Prod.snd = parameters.map TypedName.kind)
    (holds : ∀ parameter ∈ function.parameters, start.Holds (.register parameter.1 parameter.2))
    (rest : start.Accepts parameters → ∀ begun, Stage begun begun here [] → begun.HasOpen here →
      start.Stores function.parameters parameters begun → body.LowersTo begun here done refused)
    (clash : ¬ start.Accepts parameters → ∀ failure, refused failure) :
    (do
      Lowering.storeParameters function.parameters parameters
      body
      Lowering.closeFunction function.result : Lowering Unit).Ends start
      (fun _ finish => finish.Sound ∧ start.Grows finish ∧ start.Leaves finish [] ∧
        ∃ ended, Ended ended finish function.result ∧ done ended)
      (fun failure finish => Fails start failure finish ∧ refused failure) := by
  refine .bind ((stage.storeParameters here_open kinds holds).imp (fun _ _ held => held)
    fun failure _ held =>
      ⟨held.1, clash held.2 failure⟩) fun _ begun held => ?_
  obtain ⟨stage, here_open, accepted, stores⟩ := held
  have body_lowers := rest accepted begun (.refl stage.sound stage.current) here_open stores
  -- Behind the parameters comes the body, and behind the body what closes the function.
  refine bind_ends.mpr
    (body_lowers.imp (fun _ ended held => ?_) fun _ _ held => ⟨held.1.through stage.kept, held.2⟩)
  obtain ⟨⟨last, owner, inner⟩, answered⟩ := held
  -- The body has gone on from the parameters to the block that is current now.
  have stage := stage.through inner owner
  obtain ⟨final, found, further⟩ := stage.kept.code.functions here.function grown kept
  rw [← owner] at found
  refine (further.result.trans result ▸ stage.closeFunction found).imp (fun _ closed held => ?_)
    fun _ _ held => held
  obtain ⟨stage, finished, more, adds, falls⟩ := held
  refine ⟨stage.sound, stage.kept, stage.leaves.finish finished, ended,
    ⟨adds.code, adds.handles, fun other body at_ held body_open => ?_⟩, answered⟩
  -- Where that block is open, it is ended as the result of the function requires.
  cases at_.symm.trans inner.current
  rw [← falls ⟨body, held, body_open⟩]
  exact adds.current at_ held

/-- The parameters and the body of a new function are lowered in blocks of its own, all of which are
finished. -/
theorem lowerFunctionBody_ends {function : Code.Function} {parameters : List TypedName}
    {body : Lowering Unit} {done : Builder → Prop} {refused : Failure → Prop}
    (sound : start.Sound) (owner : start.code.function? function.name = some function)
    (empty : function.blocks = [])
    (outside : ∀ frame ∈ start.scopes.frames, frame.home ≠ function.name)
    (kinds : function.parameters.map Prod.snd = parameters.map TypedName.kind)
    (rest : (parameters.map TypedName.name).Nodup → ∀ entry begun,
      Begins start function parameters entry begun → body.LowersTo begun entry
        (fun ended => ∀ finish, Closes start ended finish function.result → done finish) refused)
    (clash : ¬ (parameters.map TypedName.name).Nodup → ∀ failure, refused failure) :
    (lowerFunctionBody function parameters body).Ends start
      (fun _ finish => (finish.Sound ∧ start.Grows finish ∧ finish.block? = start.block? ∧
        (∀ block, finish.HasOpen block → start.HasOpen block) ∧
        (start.StartedBut function.name → finish.Started)) ∧ done finish)
      (fun failure finish => Fails start failure finish ∧ refused failure) := by
  unfold lowerFunctionBody
  -- The entry block comes first, as an empty one.
  refine .bind (addBlock_makes sound owner "entry")
    fun entry opened ⟨opened_sound, makes, belongs⟩ => ?_
  obtain ⟨grown, kept, larger⟩ := makes.code.functions _ function owner
  have made : opened.code.body? entry = some [] := by rw [makes.bodies, if_pos rfl]
  have starts := entry_starts makes (belongs ▸ owner) empty (belongs ▸ kept)
  -- The frame of the function is pushed where the entry block is.
  have inner_sound := pushedFunction_sound opened_sound belongs ⟨[], made⟩ kept larger.result
    (makes.scopes ▸ outside)
  -- A new frame has no names, so the parameters have only to differ from each other.
  have accepts : (opened.pushed entry (functionOptions function)).Accepts parameters ↔
      (parameters.map TypedName.name).Nodup :=
    ⟨fun held => held.1, fun distinct => ⟨distinct, fun parameter _ frame innermost => by
      cases innermost
      rfl⟩⟩
  have holds : ∀ parameter ∈ function.parameters,
      (opened.pushed entry (functionOptions function)).Holds (.register parameter.1 parameter.2) :=
    fun parameter member =>
      ⟨entry, grown, [], rfl, belongs ▸ kept, made, .inl (larger.parameters ▸ member)⟩
  -- The frame of the function is open while its inside is lowered, and closed behind it.
  have inside := Stage.functionInside (.refl inner_sound rfl) ⟨[], made, .nil⟩
    (belongs ▸ kept) larger.result kinds holds
    (fun accepted begun stage begun_open stores => rest (accepts.mp accepted) entry begun
      ⟨stage, begun_open, opened, grown, makes, belongs, kept, starts, inner_sound, stores⟩)
    fun clashes => clash fun distinct => clashes (accepts.mpr distinct)
  have grows := (Builder.Grows.refl start).makes makes
  refine (withFrame_ends grows (.inr makes.fresh)
    (inside.imp (fun _ _ held => held) fun _ _ held => held)).imp
    (fun _ finish held => ?_) fun _ _ held => held
  obtain ⟨sound, finish_grows, frames, inner, inner_grows, ⟨leaves, ended, closed, closes⟩,
    same_code, current⟩ := held
  have current : finish.block? = start.block? := by rw [current, ← makes.block?]; rfl
  refine ⟨⟨sound, finish_grows, current, fun block block_open => ?_, fun started => ?_⟩,
    closes finish ?_⟩
  -- No block of the function is left open, and the others are what they were.
  · rw [Builder.HasOpen, same_code] at block_open
    rcases leaves.blocks block block_open with none_left | ⟨earlier, apart⟩
    · exact absurd none_left List.not_mem_nil
    · obtain ⟨body, found, body_open⟩ := earlier
      have found : opened.code.body? block = some body := found
      rw [makes.bodies, if_neg (fun equal => apart (by rw [equal]; rfl))] at found
      exact ⟨body, found, body_open⟩
  -- The function has its entry now, and any other one what it had.
  · have begun : (opened.pushed entry (functionOptions function)).Started := by
      intro name
      by_cases own : name = function.name
      · exact .inr ⟨entry.label, [], by rw [own, ← belongs]; exact made⟩
      · rcases started name with equal | absent | ⟨label, body, found⟩
        · exact absurd equal own
        · rw [Module.function?_eq_none] at absent
          exact .inl (Module.function?_eq_none.mpr (makes.handles ▸ absent))
        · obtain ⟨more, longer⟩ := makes.code.body? found
          exact .inr ⟨label, _, longer⟩
    have ended := leaves.functions begun
    simpa only [Builder.Started, same_code] using ended
  -- The bodies of other functions are what they were when the frame was opened.
  · refine ⟨⟨same_code ▸ closed.code, same_code ▸ closed.handles, same_code ▸ closed.falls⟩,
      fun block body found => ?_, current, makes.scopes ▸ frames⟩
    rw [same_code]
    refine inner_grows.others block body (makes.others found) fun same => ?_
    have fresh := makes.fresh
    rw [show entry = block from Option.some.inj same, found] at fresh
    cases fresh

/-- A function was added that was not there and has no blocks yet; all else is as before. -/
structure Creates (start finish : Builder) (parameters : List TypedName) (result : ExactKind)
    (function : Code.Function) : Prop where
  sound : finish.Sound
  grows : start.Grows finish
  frames : finish.scopes.frames = start.scopes.frames
  absent : start.code.function? function.name = none
  found : finish.code.function? function.name = some function
  result : function.result = result
  kinds : function.parameters.map Prod.snd = parameters.map TypedName.kind
  empty : function.blocks = []
  handles : finish.code.handles = start.code.handles ++ [function.name]
  bodies : ∀ block, finish.code.body? block = start.code.body? block
  started : start.Started → finish.StartedBut function.name

/-- A function is created for its parameters and its result. -/
theorem createTypedFunction_ends {failed : Failure → Builder → Prop} (sound : start.Sound)
    (name : Name) (parameters : List TypedName) (result : ExactKind) :
    (createTypedFunction name parameters result).Ends start
      (fun function finish => Creates start finish parameters result function) failed := by
  unfold createTypedFunction
  rw [bind_ends, createFunction_ends, bind_ends, note_ends]
  generalize listed : (parameters.map fun parameter => (parameter.name, parameter.kind)) = wanted
  -- A new function changes no body and no other function.
  have bodies := sound.tidy.body?_addFunction name wanted result
  have grows := sound.tidy.addFunction_grows name wanted result
  have found := fun other => sound.tidy.function?_addFunction name other wanted result
  -- The function has no blocks yet, so no body has to be checked.
  have added : Builder.Sound { start with code := (start.code.addFunction name wanted result).2 } :=
    sound.withCode grows (sound.tidy.addFunction name wanted result)
      (sound.valid.addFunction sound.tidy name wanted result)
  exact {
    sound := added.note _
    grows := ((Builder.Grows.refl start).withCode grows fun block body held _ =>
      (bodies block).trans held).note _
    frames := rfl
    absent := sound.tidy.function?_registerName name
    found := (found _).trans (if_pos rfl)
    result := rfl
    kinds := by
      refine (Code.Function.declared_kinds _ wanted result).trans ?_
      rw [← listed, List.map_map]
      rfl
    empty := rfl
    handles := Module.handles_addFunction ..
    bodies := bodies
    -- Of all functions, only the new one has not started.
    started := fun started other => by
      by_cases own : other = (start.code.addFunction name wanted result).1.name
      · exact .inl own
      · rcases started other with absent | ⟨label, body, held⟩
        · exact .inr (.inl ((found other).trans ((if_neg own).trans absent)))
        · exact .inr (.inr ⟨label, body, (bodies _).trans held⟩) }

/-- No frame belongs to a function that is new. -/
theorem Creates.outside {finish later : Builder} {parameters : List TypedName}
    {result : ExactKind} {function : Code.Function}
    (creates : Creates start finish parameters result function) (sound : later.Sound)
    (code : later.code = finish.code) :
    ∀ frame ∈ later.scopes.frames, frame.home ≠ function.name := by
  intro frame member same
  -- The block of a frame stands in a function that was there before.
  have fits := sound.fits frame member
  obtain ⟨block, body, here, _, found⟩ := fits.placed
  rw [code, creates.bodies] at found
  obtain ⟨_, held, _⟩ := Option.bind_eq_some_iff.mp found
  rw [← fits.home_eq here, same, creates.absent] at held
  cases held

/-- What the declaration of a function does once its parameters and its result are checked. -/
def functionAs (place : Location) (name : String) (parameters : List TypedName) (result : ExactKind)
    (body : Lowering Unit) : Lowering Unit := do
  if (← currentFrame).has name then refuse (.functionAlreadyDefined name) place
  let function ← createTypedFunction (.text name) parameters result
  let kinds := parameters.map fun parameter => parameter.kind.exact
  declare name (.fn function.name (.exact result) kinds) place
  lowerFunctionBody function parameters body

/-- Parameters and result are checked before anything is lowered. -/
theorem lowerFunction_eq (place : Location) (name arguments result : Tree) (body : Lowering Unit) :
    lowerFunction place name arguments result body = (do
      let parameters ← typedNames arguments
      let result ← statedResult name.shown result place
      let name ← declaredName name
      functionAs place name parameters result body) := rfl

/-- A function is declared in front of its body, unless its name is taken or two of its parameters
have one name. -/
theorem Stage.functionAs {parameters : List TypedName} {result : ExactKind} {body : Lowering Unit}
    {done : Builder → Prop} {refused : Failure → Prop} (stage : Stage start start here [])
    (here_open : start.HasOpen here) (place : Location) (name : String)
    (rest : start.Lacks name → (parameters.map TypedName.name).Nodup → ∀ function created declared,
      Creates start created parameters result function → declared.Sound →
      created.Declares declared name
        (.fn function.name (.exact result) (parameters.map fun parameter => parameter.kind.exact)) →
        ∀ entry begun, Begins declared function parameters entry begun → body.LowersTo begun entry
          (fun ended => ∀ finish, Closes declared ended finish result → done finish) refused)
    (clash : ¬ (start.Lacks name ∧ (parameters.map TypedName.name).Nodup) → ∀ failure,
      refused failure) :
    (functionAs place name parameters result body).LowersTo start here done refused := by
  obtain ⟨frame, innermost, _⟩ := stage.current?
  unfold LowersTo Lowering.functionAs
  refine bind_ends.mpr ((currentFrame_ends innermost).mpr ?_)
  dsimp only
  split
  -- A name that is taken in the frame is refused.
  · rename_i known
    refine bind_ends.mpr ⟨stage.fails here_open id, clash (fun accepted => ?_) _⟩
    rw [accepted.1 frame innermost] at known
    cases known
  · rename_i new
    have lacks : start.Lacks name := fun other member => by
      cases innermost.symm.trans member
      simpa using new
    -- The function is there before its body is lowered, so that the body can call it.
    refine .bind (createTypedFunction_ends stage.sound (.text name) parameters result)
      fun function created creates => ?_
    -- The builder stays where it is.
    have current : created.block? = some here := by
      rw [Builder.block?, Scopes.current?, creates.frames]
      exact stage.current
    have still : created.scopes.current? = some frame := by
      rw [Scopes.current?, creates.frames]
      exact innermost
    -- The name is bound to the function as it was created.
    have fits : (Binding.fn function.name (.exact result)
        (parameters.map fun parameter => parameter.kind.exact)).Fits
        created.code here.function := by
      refine ⟨function, creates.found, by rw [creates.result], ?_⟩
      have kinds := congrArg (List.map ValueKind.exact) creates.kinds
      simpa [Function.comp_def] using kinds.symm
    refine .bind (declare_declares creates.sound current still (lacks frame innermost) fits
      (fun slot bound => by cases bound) place) fun _ declared held => ?_
    obtain ⟨sound, declares⟩ := held
    have kept := creates.grows.declares declares
    have body_ends := lowerFunctionBody_ends sound (declares.code ▸ creates.found) creates.empty
      (creates.outside sound declares.code) creates.kinds
      (fun distinct entry begun begins =>
        creates.result ▸ rest lacks distinct function created declared creates sound
        declares entry begun begins)
      fun repeated => clash fun accepted => repeated accepted.2
    refine Ends.imp body_ends (fun _ finish held => ?_) fun _ _ held =>
      ⟨held.1.through kept, held.2⟩
    obtain ⟨⟨sound, further, same, opens, started⟩, answered⟩ := held
    -- The declaration itself touches no block.
    have before : ∀ block, declared.HasOpen block → start.HasOpen block := by
      intro block block_open
      simpa only [Builder.HasOpen, declares.code, creates.bodies] using block_open
    refine ⟨⟨here, rfl, sound, kept.trans further, same.trans (declares.current.trans current),
      ⟨fun block block_open => ?_,
      fun begun => ?_⟩, List.forall_mem_nil _, List.forall_mem_nil _, List.nodup_nil⟩, answered⟩
    -- Of the blocks none is left open that was not open before.
    · exact (Builder.Leaves.refl stage.current).blocks block (before block (opens block block_open))
    · have ready := creates.started begun
      exact started (by simpa only [Builder.StartedBut, declares.code] using ready)

/-- The declaration of a function lowers if its body does. -/
theorem lowerFunction_lowers (place : Location) (name arguments result : Tree)
    {body : Lowering Unit} (lowers : Lowers body) :
    Lowers (lowerFunction place name arguments result body) := by
  intro start here stage here_open
  obtain ⟨frame, innermost, _⟩ := stage.current?
  -- The list of parameters may be refused for many reasons, none of them internal.
  have given : ∀ failure, ParametersFail start.scopes arguments failure →
      ¬ failure.IsInternal ∧ True := by
    rintro failure (odd | rfl | ⟨items, _, item, _, nowhere | odd | ⟨_, _, rfl⟩ | rfl⟩)
    · exact ⟨odd.not_isInternal, trivial⟩
    · exact ⟨id, trivial⟩
    · cases innermost.symm.trans nowhere.2
    · exact ⟨odd.not_isInternal, trivial⟩
    · exact ⟨id, trivial⟩
    · exact ⟨id, trivial⟩
  -- The kind of the result may be refused as well.
  have stated : ∀ failure : Failure,
      failure.IsOfTree ∨ failure = .refused (.noResultKind name.shown) place →
      ¬ failure.IsInternal ∧ True := by
    rintro failure (odd | rfl)
    · exact ⟨odd.not_isInternal, trivial⟩
    · exact ⟨id, trivial⟩
  -- First everything is read from the tree, then the function is made.
  rw [lowerFunction_eq]
  refine .bind (stage.looks here_open (.typedNames arguments) given)
    fun parameters read ⟨_, same⟩ => ?_
  subst read
  refine .bind (stage.looks here_open (.statedResult _ result place) stated)
    fun stated read ⟨_, same⟩ => ?_
  subst read
  refine .bind (stage.named here_open name fun _ _ => trivial) fun word read ⟨_, same⟩ => ?_
  subst read
  refine stage.functionAs here_open place word (fun _ _ _ _ _ _ _ _ entry begun begins => ?_)
    fun _ _ => trivial
  exact (lowers begun entry begins.stage begins.entered).imp
    (fun _ _ held => ⟨held.1, fun _ _ => trivial⟩) fun _ _ held => held

end Lowering

end LoopLang

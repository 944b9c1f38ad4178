import LoopLang.Proofs.Execution.Evaluation
import LoopLang.Proofs.Execution.Machine
import LoopLang.Proofs.Lowering.Growth

/-! Evaluations step by step, and the variables that they work on as the slots of a call hold
them. -/

namespace LoopLang

open Code (assign lookup_assign)

namespace Evaluation

variable {α β : Type} {locals : Variables} {name : String}

/-- An evaluation ends with a result as wanted, or it is cut short; it is never without meaning. -/
def Ends (evaluation : Evaluation α) (locals : Variables) (done : α → Variables → Prop)
    (cut : Prop) : Prop :=
  match evaluation.run locals with
  | .ok (result, after) => done result after
  | .error .outOfFuel => cut
  | .error .meaningless => False

/-- What is found among variables of which one has got another value. -/
theorem lookup_replaced (layer : List (String × Option Value)) (name other : String)
    (value : Option Value) :
    (layer.map fun (first, old) => (first, if first = name then value else old)).lookup other =
      (layer.lookup other).map fun old => if other = name then value else old := by
  -- By induction on the entries: those of the name change, the others stay where they are.
  induction layer with
  | nil => rfl
  | cons entry rest ih =>
    rw [List.map_cons, List.lookup_cons, List.lookup_cons]
    split
    · rename_i same
      rw [beq_iff_eq.mp same]
      rfl
    · exact ih

section Steps

variable {evaluation : Evaluation α} {next : α → Evaluation β} {done wanted : α → Variables → Prop}
  {cut sooner : Prop}

/-- Less may be wanted of an evaluation. -/
theorem Ends.imp (ends : evaluation.Ends locals done cut)
    (results : ∀ result after, done result after → wanted result after) (stops : cut → sooner) :
    evaluation.Ends locals wanted sooner := by
  unfold Ends at *
  split <;> simp_all

/-- How two evaluations end, one after the other. -/
theorem bind_ends {done : β → Variables → Prop} : (evaluation >>= next).Ends locals done cut ↔
    evaluation.Ends locals (fun result after => (next result).Ends after done cut) cut := by
  -- The second evaluation runs only where the first one has a result.
  have run : (evaluation >>= next).run locals =
      match evaluation.run locals with
      | .ok (result, after) => (next result).run after
      | .error stop => .error stop := by
    show (evaluation.run locals >>= fun state => (next state.1).run state.2) = _
    rcases evaluation.run locals with _ | ⟨_, _⟩ <;> rfl
  unfold Ends
  rw [run]
  rcases evaluation.run locals with ⟨_ | _⟩ | ⟨_, _⟩ <;> rfl

/-- What is decided on the way is decided before what depends on it. -/
theorem decided_ends {test : α → Evaluation Bool} {next : Bool → Evaluation β}
    {done : β → Variables → Prop} :
    (evaluation >>= fun result => test result >>= next).Ends locals done cut ↔
      (evaluation >>= test).Ends locals
        (fun holds after => (next holds).Ends after done cut) cut := by
  simp only [bind_ends]

/-- A result leaves the variables as they are. -/
@[simp] theorem pure_ends {result : α} :
    (pure result : Evaluation α).Ends locals done cut ↔ done result locals :=
  Iff.rfl

/-- What has its outcome leaves the variables as they are. -/
theorem lift_ends {outcome : Except Stop α} : (liftM outcome : Evaluation α).Ends locals done cut ↔
    match outcome with
    | .ok result => done result locals
    | .error .outOfFuel => cut
    | .error .meaningless => False := by
  rcases outcome with ⟨_ | _⟩ | _ <;> rfl

/-- The variables are seen as they stand. -/
@[simp] theorem get_ends {done : Variables → Variables → Prop} :
    (get : Evaluation Variables).Ends locals done cut ↔ done locals locals := Iff.rfl

/-- The value of a variable is the one that the innermost variable of its name has. -/
theorem load_ends {value : Value} {done : Value → Variables → Prop}
    (found : locals.findSome? (·.lookup name) = some (some value)) :
    (load name).Ends locals done cut ↔ done value locals := by
  unfold load
  rw [bind_ends, get_ends, found]
  exact Iff.rfl

/-- A variable gets another value. -/
theorem store_ends {value : Value} {after : Variables} {done : Unit → Variables → Prop}
    (replaced : replace? name value locals = some after) :
    (store name value).Ends locals done cut ↔ done () after := by
  unfold store
  rw [bind_ends, get_ends, replaced]
  exact Iff.rfl

/-- What is in a frame of its own begins without variables there, and leaves those around it. -/
theorem within_ends {body : Evaluation Signal} {done : Signal → Variables → Prop} :
    (within body).Ends locals done cut ↔
      body.Ends ([] :: locals) (fun signal after => done signal after.tail) cut := by
  show (body >>= fun signal => modify List.tail >>= fun _ => pure signal).Ends
      ([] :: locals) done cut ↔ _
  rw [bind_ends]
  exact Iff.rfl

/-- What stands behind is performed where control comes there. -/
theorem Ends.thereafter {first rest : Evaluation Signal}
    {between done : Signal → Variables → Prop} (ends : first.Ends locals between cut)
    (behind : ∀ after, between .next after → rest.Ends after done cut)
    (elsewhere : ∀ signal after, signal ≠ .next → between signal after → done signal after) :
    (thereafter first rest).Ends locals done cut := by
  unfold Evaluation.thereafter
  rw [bind_ends]
  refine ends.imp (fun signal after held => ?_) id
  -- Only control that comes to the end of the first part meets the second one.
  cases signal with
  | next => exact behind after held
  | _ => exact elsewhere _ after (by simp) held

end Steps

end Evaluation

/--
What a name is bound to agrees with its variable: one with a slot has the value that the slot holds,
a void one has no value, and a function is no variable.
-/
inductive Stored (slots : List (String × Option Value)) :
    Option Binding → Option (Option Value) → Prop
  | nothing : Stored slots none none
  | function (handle : Code.Name) (result : Kind) (parameters : List ExactKind) :
      Stored slots (some (.fn handle result parameters)) none
  | void (kind : ExactKind) : Stored slots (some (.var kind none)) (some none)
  | value {slot : Slot} {value : Value} (held : slots.lookup slot.name = some (some value)) :
      Stored slots (some (.var value.kind.exact (some slot))) (some (some value))

namespace Stored

variable {slots later : List (String × Option Value)} {binding : Option Binding}
  {found : Option (Option Value)}

/-- The agreement depends on the slot of the variable only. -/
theorem imp (stored : Stored slots binding found)
    (same : ∀ kind slot, binding = some (.var kind (some slot)) →
      later.lookup slot.name = slots.lookup slot.name) :
    Stored later binding found := by
  -- A slot is looked up only for a variable that has one.
  cases stored with
  | nothing => exact .nothing
  | function => exact .function ..
  | void => exact .void _
  | value held => exact .value ((same _ _ rfl).trans held)

/-- Where a name is not bound, there is no variable. -/
theorem of_none (stored : Stored slots none found) : found = none := by
  cases stored
  rfl

/-- Where a name is bound to a variable with a slot, there is one with a value. -/
theorem of_slot {kind : ExactKind} {slot : Slot}
    (stored : Stored slots (some (.var kind (some slot))) found) :
    ∃ value : Value, kind = value.kind.exact ∧ found = some (some value) ∧
      slots.lookup slot.name = some (some value) := by
  cases stored with
  | value held => exact ⟨_, rfl, rfl, held⟩

end Stored

/-- The names of a frame agree with the variables in it. -/
def Frame.Keeps (slots : List (String × Option Value)) (frame : Frame)
    (layer : List (String × Option Value)) : Prop :=
  ∀ name, Stored slots (frame.find? name) (layer.lookup name)

/-- The frames of the innermost function agree with the variables of the current call. -/
inductive Keeps (slots : List (String × Option Value)) : List Frame → Evaluation.Variables → Prop
  | function {frame : Frame} {outer : List Frame} {layer : List (String × Option Value)}
      (opens : frame.isFunction = true) (kept : frame.Keeps slots layer) :
      Keeps slots (frame :: outer) [layer]
  | inner {frame : Frame} {outer : List Frame} {layer : List (String × Option Value)}
      {locals : Evaluation.Variables} (inside : frame.isFunction = false)
      (kept : frame.Keeps slots layer) (around : Keeps slots outer locals) :
      Keeps slots (frame :: outer) (layer :: locals)

/-- What is found under a name is one of the entries. -/
theorem mem_of_lookup {α : Type} {name : String} {value : α} {entries : List (String × α)}
    (found : entries.lookup name = some value) : (name, value) ∈ entries := by
  obtain ⟨before, after, rfl, _⟩ := List.lookup_eq_some_iff.mp found
  simp

namespace Frame

variable {code : Code.Module} {frame : Frame} {slots : List (String × Option Value)}
  {layer : List (String × Option Value)} {name : String} {slot : Slot} {kind : ExactKind}

/-- The slot of a variable that is found in a frame is one of the slots of the frame. -/
theorem slot_mem (found : frame.find? name = some (.var kind (some slot))) : slot ∈ frame.slots :=
  List.mem_filterMap.mpr ⟨(name, .var kind (some slot)), mem_of_lookup found, rfl⟩

/-- The slot of a variable that is found in a frame belongs to the function of the frame. -/
theorem Fits.slot_function (fits : frame.Fits code)
    (found : frame.find? name = some (.var kind (some slot))) :
    slot.function = frame.home := by
  have bound : (Binding.var kind (some slot)).Fits code frame.home :=
    fits.bindings (name, .var kind (some slot)) (mem_of_lookup found)
  exact bound.1

/-- Where no slot is that of two variables, variables of one slot have one name. -/
theorem slot_name {other : String} {also : ExactKind} (separate : frame.slots.Nodup)
    (found : frame.find? name = some (.var kind (some slot)))
    (again : frame.find? other = some (.var also (some slot))) : other = name := by
  unfold find? at found again
  unfold slots at separate
  generalize frame.symbols = symbols at found again separate
  -- By induction on the names of the frame, in the order in which a name is looked up.
  induction symbols with
  | nil => cases found
  | cons entry rest ih =>
    obtain ⟨first, binding⟩ := entry
    have later : ∀ {wanted : String} {kind : ExactKind},
        rest.lookup wanted = some (.var kind (some slot)) → slot ∈ rest.filterMap (·.2.slot?) :=
      fun held => List.mem_filterMap.mpr ⟨(_, .var _ (some slot)), mem_of_lookup held, rfl⟩
    -- The slot of the first variable is none of the others.
    have apart : ∀ {kind : ExactKind}, binding = .var kind (some slot) →
        slot ∉ rest.filterMap (·.2.slot?) := by
      rintro kind rfl
      exact (List.nodup_cons.mp separate).1
    rw [List.lookup_cons] at found again
    split at found <;> split at again
    · rename_i same _ also
      exact (beq_iff_eq.mp also).trans (beq_iff_eq.mp same).symm
    · exact absurd (later again) (apart (Option.some.inj found))
    · exact absurd (later found) (apart (Option.some.inj again))
    · exact ih found again (separate.sublist ((List.sublist_cons_self ..).filterMap _))

/-- Another slot may get a value. -/
theorem Keeps.elsewhere (kept : frame.Keeps slots layer) (fits : frame.Fits code) {wanted : String}
    (apart : ⟨frame.home, wanted⟩ ∉ frame.slots) (value : Option Value) :
    frame.Keeps (assign wanted value slots) layer := by
  -- The slots of the frame are other ones, so that none of them changes.
  refine fun name => (kept name).imp fun kind slot found => ?_
  rw [lookup_assign, if_neg]
  rintro rfl
  exact apart (fits.slot_function found ▸ slot_mem found)

/-- A variable of a frame may get another value, together with its slot. -/
theorem Keeps.store (kept : frame.Keeps slots layer) (fits : frame.Fits code)
    (separate : frame.slots.Nodup) {value : Value}
    (found : frame.find? name = some (.var value.kind.exact (some slot))) :
    frame.Keeps (assign slot.name (some value) slots)
      (layer.map fun (other, old) => (other, if other = name then some value else old)) := by
  intro other
  have stored := kept other
  rw [Evaluation.lookup_replaced]
  -- The variable itself has the new value, and so has its slot.
  by_cases same : other = name
  · subst same
    rw [found] at stored ⊢
    obtain ⟨_, _, held, _⟩ := stored.of_slot
    rw [held, Option.map_some, if_pos rfl]
    exact .value (by rw [lookup_assign, if_pos rfl])
  · simp only [if_neg same, Option.map_id']
    refine stored.imp fun kind also bound => ?_
    rw [lookup_assign, if_neg]
    -- Slots of one function differ if their names do not.
    intro equal
    have function := (fits.slot_function bound).trans (fits.slot_function found).symm
    have one : also = slot := by
      cases also
      cases slot
      simp_all
    exact same (slot_name separate found (one ▸ bound))

/-- A variable that is declared is one of the frame from then on. -/
theorem Keeps.declare (kept : frame.Keeps slots layer) (new : frame.has name = false)
    {stored : Option Slot} {value : Option Value}
    (first : Stored slots (some (.var kind stored)) (some value)) (block : Option BlockRef) :
    Frame.Keeps slots
      { frame with block, symbols := frame.symbols ++ [(name, Binding.var kind stored)] }
      (layer ++ [(name, value)]) := by
  intro other
  have before := kept other
  have absent : frame.find? name = none := by simpa [has] using new
  unfold find? at before absent ⊢
  rw [List.lookup_append, List.lookup_append]
  -- Under the new name nothing was found before, and what stands behind the others is never
  -- reached.
  by_cases same : other = name
  · subst same
    rw [absent] at before ⊢
    rw [before.of_none]
    simpa using first
  · have apart : (other == name) = false := by simpa using same
    simpa [List.lookup_cons, apart] using before

/-- A function that is declared is no variable. -/
theorem Keeps.declareFunction (kept : frame.Keeps slots layer) (new : frame.has name = false)
    (handle : Code.Name) (result : Kind) (parameters : List ExactKind) (block : Option BlockRef) :
    Frame.Keeps slots
      { frame with
        block, symbols := frame.symbols ++ [(name, Binding.fn handle result parameters)] }
      layer := by
  intro other
  have before := kept other
  have absent : frame.find? name = none := by simpa [has] using new
  unfold find? at before absent ⊢
  rw [List.lookup_append]
  -- A function hides no variable of its frame, as the name is new there.
  by_cases same : other = name
  · subst same
    rw [absent] at before ⊢
    rw [before.of_none]
    simpa using Stored.function handle result parameters
  · have apart : (other == name) = false := by simpa using same
    simpa [List.lookup_cons, apart] using before

end Frame

/-- The frame around one that opens no function belongs to the same function. -/
theorem Enclosed.next {frame : Frame} {outer : List Frame} (enclosed : Enclosed (frame :: outer))
    (inside : frame.isFunction = false) : ∀ next ∈ outer.head?, next.home = frame.home := by
  obtain ⟨encloses, _⟩ := enclosed
  -- Only the frame of a function begins another home.
  rw [if_neg (by simp [inside])] at encloses
  obtain ⟨_, _, rfl, same⟩ := encloses
  intro next member
  cases member
  exact same

/-- What is found in the frames around a function belongs to other functions. -/
theorem Enclosed.foreign {code : Code.Module} {frame : Frame} {outer : List Frame} {name : String}
    {kind : ExactKind} {slot : Slot} (enclosed : Enclosed (frame :: outer))
    (opens : frame.isFunction = true) (fits : ∀ other ∈ frame :: outer, other.Fits code)
    (found : outer.findSome? (·.find? name) = some (.var kind (some slot))) :
    slot.function ≠ frame.home := by
  obtain ⟨other, member, bound⟩ := List.exists_of_findSome?_eq_some found
  have encloses := enclosed.1
  rw [if_pos opens] at encloses
  -- The slot belongs to the function of its frame, which lies outside.
  rw [(fits other (.tail _ member)).slot_function bound]
  exact encloses other member

namespace Keeps

variable {code : Code.Module} {slots : List (String × Option Value)} {frame : Frame}
  {frames outer later : List Frame}
  {locals : Evaluation.Variables} {name : String}

/-- Where emission goes on does not matter. -/
theorem continues (kept : Keeps slots frames locals)
    (continues : Builder.Continues [] frames later) :
    Keeps slots later locals := by
  -- Adding no name to a frame leaves what is found in it.
  have same : ∀ (frame : Frame) (block : Option BlockRef) {layer : List (String × Option Value)},
      frame.Keeps slots layer →
      { frame with block, symbols := frame.symbols ++ [] }.Keeps slots layer :=
        fun frame block layer kept name => by
    have stored := kept name
    unfold Frame.find? at stored ⊢
    rwa [List.append_nil]
  cases kept with
  | function opens kept =>
    obtain ⟨block, rfl⟩ := continues
    exact .function opens (same _ block kept)
  | inner inside kept around =>
    obtain ⟨block, rfl⟩ := continues
    exact .inner inside (same _ block kept) around

/-- A frame that is opened within a function has no variables yet. -/
theorem push (kept : Keeps slots frames locals) (block : Option BlockRef) {options : FrameOptions}
    (inside : options.isFunction = false) (enclosing : Option Frame) :
    Keeps slots (Frame.opened block options enclosing :: frames) ([] :: locals) :=
  .inner inside (fun _ => .nothing) kept

/-- Behind a frame within a function are the variables around it. -/
theorem tail (kept : Keeps slots (frame :: outer) locals) (inside : frame.isFunction = false) :
    Keeps slots outer locals.tail := by
  -- The frame is not that of a function, so that there is one around it in the same call.
  cases kept with
  | function opens _ =>
    rw [inside] at opens
    cases opens
  | inner _ _ around => exact around

/-- A variable of the innermost frame is declared. -/
theorem declare (kept : Keeps slots (frame :: outer) locals) (new : frame.has name = false)
    {kind : ExactKind} {stored : Option Slot} {value : Option Value}
    (first : Stored slots (some (.var kind stored)) (some value))
    (continues : Builder.Continues [(name, .var kind stored)] (frame :: outer) later) :
    ∃ layer around, locals = layer :: around ∧ Keeps slots later
      ((layer ++ [(name, value)]) :: around) := by
  obtain ⟨block, rfl⟩ := continues
  -- Names go to the innermost layer, which is that of a function or of a block in it.
  cases kept with
  | function opens kept => exact ⟨_, _, rfl, .function opens (kept.declare new first block)⟩
  | inner inside kept around =>
    exact ⟨_, _, rfl, .inner inside (kept.declare new first block) around⟩

/-- A function is declared in the innermost frame. -/
theorem declareFunction (kept : Keeps slots (frame :: outer) locals) (new : frame.has name = false)
    {handle : Code.Name} {result : Kind} {parameters : List ExactKind}
    (continues : Builder.Continues [(name, .fn handle result parameters)] (frame :: outer) later) :
    Keeps slots later locals := by
  obtain ⟨block, rfl⟩ := continues
  -- The name of a function has no slot, so no value is kept for it.
  cases kept with
  | function opens kept =>
    exact .function opens (kept.declareFunction new handle result parameters block)
  | inner inside kept around =>
    exact .inner inside (kept.declareFunction new handle result parameters block) around

section Function

variable {owner : Code.Name} (enclosed : Enclosed frames) (fits : ∀ other ∈ frames, other.Fits code)
  (here : ∀ frame ∈ frames.head?, frame.home = owner)

include enclosed fits here

/-- A slot that no variable of the innermost function has may get a value. -/
theorem elsewhere (kept : Keeps slots frames locals)
    (apart : ⟨owner, name⟩ ∉ frames.flatMap Frame.slots) (value : Option Value) :
    Keeps (assign name value slots) frames locals := by
  -- By induction on the frames of the function, from the innermost one outwards.
  induction kept with
  | function opens kept =>
    obtain rfl := here _ rfl
    rw [List.flatMap_cons, List.mem_append, not_or] at apart
    exact .function opens (kept.elsewhere (fits _ List.mem_cons_self) apart.1 value)
  | inner inside kept around ih =>
    obtain rfl := here _ rfl
    rw [List.flatMap_cons, List.mem_append, not_or] at apart
    exact .inner inside (kept.elsewhere (fits _ List.mem_cons_self) apart.1 value)
      (ih enclosed.2 (fun other member => fits other (.tail _ member))
        (enclosed.next inside) apart.2)

/-- A variable of the innermost function has the value that its slot holds. -/
theorem load (kept : Keeps slots frames locals) {kind : ValueKind} {slot : Slot}
    (found : frames.findSome? (·.find? name) = some (.var kind.exact (some slot)))
    (own : slot.function = owner) :
    ∃ value, value.kind = kind ∧ locals.findSome? (·.lookup name) = some (some value) ∧
      slots.lookup slot.name = some (some value) := by
  -- Where a frame has the name, its variable has the value of the slot.
  have inside : ∀ {frame : Frame} {layer : List (String × Option Value)} {binding : Binding}
      {around : Evaluation.Variables}, frame.Keeps slots layer → frame.find? name = some binding →
      binding = .var kind.exact (some slot) → ∃ value, value.kind = kind ∧
        (layer :: around).findSome? (·.lookup name) = some (some value) ∧
        slots.lookup slot.name = some (some value) := by
    rintro frame layer _ around kept known rfl
    have stored := kept name
    rw [known] at stored
    obtain ⟨value, exact, variable_is, held⟩ := stored.of_slot
    exact ⟨value, ValueKind.exact_injective
      exact.symm, by rw [List.findSome?_cons, variable_is], held⟩
  -- The lookup goes outwards frame by frame, and so does the one in the program.
  induction kept with
  | function opens kept =>
    rename_i frame outer layer
    rw [List.findSome?_cons] at found
    cases known : frame.find? name with
    | some binding =>
      rw [known] at found
      exact inside kept known (Option.some.inj found)
    | none =>
      rw [known] at found
      -- Further out there are only variables of other functions, none of which has the slot.
      exact absurd (own.trans (here _ rfl).symm) (enclosed.foreign opens fits found)
  | inner within kept around ih =>
    rename_i frame outer layer locals
    rw [List.findSome?_cons] at found
    cases known : frame.find? name with
    | some binding =>
      rw [known] at found
      exact inside kept known (Option.some.inj found)
    | none =>
      rw [known] at found
      -- What the frame does not have is no variable of the innermost frame either.
      have missing := kept name
      rw [known] at missing
      rw [List.findSome?_cons, missing.of_none]
      obtain rfl := here _ rfl
      exact ih enclosed.2 (fun other member => fits other (.tail _ member))
        (enclosed.next within) found

/-- A variable of the innermost function gets another value when its slot does. -/
theorem store (kept : Keeps slots frames locals) (separate : (frames.flatMap Frame.slots).Nodup)
    {value : Value} {slot : Slot}
    (found : frames.findSome? (·.find? name) = some (.var value.kind.exact (some slot)))
    (own : slot.function = owner) :
    ∃ after, Evaluation.replace? name value locals = some after ∧
      Keeps (assign slot.name (some value) slots) frames after := by
  subst own
  -- Where a frame has the name, its variable and the slot are replaced together.
  have inside : ∀ {frame : Frame} {layer : List (String × Option Value)} {binding : Binding},
      frame.Keeps slots layer →
      frame.Fits code → frame.slots.Nodup → frame.find? name = some binding →
      binding = .var value.kind.exact (some slot) → slot ∈ frame.slots ∧ ∃ changed,
        frame.Keeps (assign slot.name (some value) slots) changed ∧
        ∀ around, Evaluation.replace? name value (layer :: around) = some (changed :: around) := by
    rintro frame layer _ kept fits separate known rfl
    have stored := kept name
    rw [known] at stored
    obtain ⟨_, _, variable_is, _⟩ := stored.of_slot
    exact ⟨Frame.slot_mem known, _, kept.store fits separate known,
      fun around => by rw [Evaluation.replace?, variable_is]⟩
  -- As for a lookup, the frames are gone through outwards until one has the name.
  induction kept with
  | function opens kept =>
    rename_i frame outer layer
    rw [List.findSome?_cons] at found
    rw [List.flatMap_cons] at separate
    cases known : frame.find? name with
    | some binding =>
      rw [known] at found
      obtain ⟨_, changed, kept, replaced⟩ :=
        inside kept (fits _ List.mem_cons_self) (List.nodup_append.mp separate).1
        known (Option.some.inj found)
      exact ⟨[changed], replaced [], .function opens kept⟩
    | none =>
      rw [known] at found
      -- No variable of another function is ever stored to.
      exact absurd (here _ rfl).symm (enclosed.foreign opens fits found)
  | inner within kept around ih =>
    rename_i frame outer layer locals
    rw [List.findSome?_cons] at found
    rw [List.flatMap_cons] at separate
    obtain ⟨distinct, further, disjoint⟩ := List.nodup_append.mp separate
    have around_fits : ∀ other ∈ outer, other.Fits code :=
      fun other member => fits other (.tail _ member)
    have next : ∀ next ∈ outer.head?, next.home = slot.function := fun next member =>
      (enclosed.next within next member).trans (here _ rfl)
    cases known : frame.find? name with
    | some binding =>
      rw [known] at found
      obtain ⟨member, changed, kept, replaced⟩ :=
        inside kept (fits _ List.mem_cons_self) distinct known
        (Option.some.inj found)
      -- The slot is none of those of the frames around.
      have apart : slot ∉ outer.flatMap Frame.slots := fun also => disjoint _ member _ also rfl
      exact ⟨_, replaced locals,
        .inner within kept (around.elsewhere enclosed.2 around_fits next apart (some value))⟩
    | none =>
      rw [known] at found
      obtain ⟨after, replaced, others⟩ := ih enclosed.2 around_fits further found next
      have missing := kept name
      rw [known] at missing
      have changed : Evaluation.replace? name value (layer :: locals) = some (layer :: after) := by
        rw [Evaluation.replace?, missing.of_none, replaced]
        rfl
      refine ⟨layer :: after, changed, .inner within ?_ others⟩
      -- The slot belongs to a frame around this one.
      obtain ⟨other, listed, bound⟩ := List.exists_of_findSome?_eq_some found
      refine kept.elsewhere (fits _ List.mem_cons_self) (fun also => ?_) (some value)
      rw [here _ rfl] at also
      exact disjoint _ also _ (List.mem_flatMap.mpr ⟨other, listed, Frame.slot_mem bound⟩) rfl

end Function

end Keeps

end LoopLang

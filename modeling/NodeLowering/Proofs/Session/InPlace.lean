import NodeLowering.Proofs.Session.Erasure
import NodeLowering.Proofs.Session.Renaming

/-! Copying on write: a tensor that nobody else holds is changed where it is, and one that is shared
is copied first. Answers do not tell whether a tensor has been changed in place, for it would have
been copied had it been shared. -/
namespace NodeLowering.Session
variable {ρ : Nat → Nat} {session : Session}

/-- How often handles with an id are held. -/
def holders (session : Session) (id : Nat) : Nat := session.handles.countP (·.id == id)

/-- A handle after the tensor behind an id has changed. -/
def lead (id : Nat) (tensor : Tensor) (handle : Handle) : Handle :=
  if handle.id = id then ⟨id, tensor⟩ else handle

/-- Changes the tensor behind an id, for all that hold a handle with the id. -/
def overwrite (session : Session) (id : Nat) (tensor : Tensor) : Session :=
  { session with
    tensors := session.tensors.map (lead id tensor)
    operators := session.operators.map (Operator.map (lead id tensor)) }

/-- The step in which a touched tensor is changed in place if it has one holder only. -/
def stepInPlace? (session : Session) : Step → Option Reply
  | .touchInput id position destOp => do
      let op ← session.operators.find? id
      let handle ← op.inputs[position]?
      if session.holders handle.id = 1 then
        let session := session.overwrite handle.id (handle.tensor.withDestOp destOp)
        return session.answerOperator (← session.operators.find? id)
      else session.touchInput id op position destOp
  | .touchTensor id destOp => do
      let handle ← session.tensors.find? id
      let tensor := handle.tensor.withDestOp destOp
      if session.holders handle.id = 1 then
        return (session.overwrite handle.id tensor).answerTensor tensor
      else return (session.storeTensor id tensor).answerTensor tensor
  | step => session.step? step

def stepInPlace (session : Session) (step : Step) : Reply :=
  (session.stepInPlace? step).getD (session.reply .unknown)

def runInPlace (session : Session) : List Step → List Reply
  | [] => []
  | first :: rest =>
      let reply := session.stepInPlace first
      reply :: reply.session.runInPlace rest

theorem alone {before after : List Handle} {handle : Handle}
    (once : (before ++ handle :: after).countP (·.id == handle.id) = 1) :
    ∀ other ∈ before ++ after, other.id ≠ handle.id := by
  rw [List.countP_append, List.countP_cons_of_pos (by simp)] at once
  have front : before.countP (·.id == handle.id) = 0 := by omega
  have back : after.countP (·.id == handle.id) = 0 := by omega
  intro other member
  rcases List.mem_append.mp member with member | member
  · simpa using List.countP_eq_zero.mp front other member
  · simpa using List.countP_eq_zero.mp back other member

theorem handles_overwrite (session : Session) (id : Nat) (tensor : Tensor) :
    (session.overwrite id tensor).handles = session.handles.map (lead id tensor) := by
  simp only [handles, overwrite, KeyMap.map, Operator.handles, Operator.map, List.map_append,
    List.map_map, List.map_flatMap, List.flatMap_map]
  rfl

theorem find?_overwrite {id : String} {op : Operator Handle}
    (found : session.operators.find? id = some op) (changed : Nat) (tensor : Tensor) :
    (session.overwrite changed tensor).operators.find? id = some (op.map (lead changed tensor)) :=
  (KeyMap.find?_map _ _ _).trans (congrArg (Option.map _) found)

/-- The renaming after the handle of an id has changed in place on one side, and has given way to a
fresh one on the other. -/
def afresh (ρ : Nat → Nat) (supply id : Nat) : Nat → Nat := fun i =>
  if i = id then ρ supply else if supply ≤ i then ρ i + 1 else ρ i

theorem afresh_self (ρ : Nat → Nat) (supply id : Nat) : afresh ρ supply id id = ρ supply :=
  if_pos rfl

theorem afresh_other {supply id i : Nat} (different : i ≠ id) (small : i < supply) :
    afresh ρ supply id i = ρ i := by
  rw [afresh, if_neg different, if_neg (by omega)]

theorem afresh_supply {supply id : Nat} (small : id < supply) :
    afresh ρ supply id supply = ρ supply + 1 := by
  rw [afresh, if_neg (by omega), if_pos (Nat.le_refl _)]

theorem Renaming.overwrite (renames : Renaming ρ session) {handle : Handle}
    (held : handle ∈ session.handles) (tensor : Tensor) :
    Renaming (afresh ρ session.supply handle.id) (session.overwrite handle.id tensor) := by
  have small := renames.below handle held
  have image : ∀ other ∈ (session.overwrite handle.id tensor).handles,
      other = ⟨handle.id, tensor⟩ ∨ other ∈ session.handles ∧ other.id ≠ handle.id := by
    intro other member
    rw [handles_overwrite] at member
    obtain ⟨origin, old, rfl⟩ := List.mem_map.mp member
    by_cases same : origin.id = handle.id
    · exact .inl (if_pos same)
    · rw [lead, if_neg same]
      exact .inr ⟨old, same⟩
  have supply : (session.overwrite handle.id tensor).supply = session.supply := rfl
  constructor
  · intro k
    rw [supply, afresh_supply small, afresh, if_neg (by omega), if_pos (by omega),
      renames.continues]
    omega
  · intro other member
    rcases image other member with rfl | ⟨old, _⟩
    · exact small
    · exact renames.below other old
  · intro other member
    rw [supply, afresh_supply small]
    rcases image other member with rfl | ⟨old, different⟩
    · rw [afresh_self]
      omega
    · rw [afresh_other different (renames.below other old)]
      have := renames.renamedBelow other old
      omega
  · intro first member second member' same
    rcases image first member with rfl | ⟨old, different⟩
    · rcases image second member' with rfl | ⟨old', different'⟩
      · rfl
      · rw [afresh_self, afresh_other different' (renames.below second old')] at same
        have := renames.renamedBelow second old'
        omega
    · rcases image second member' with rfl | ⟨old', different'⟩
      · rw [afresh_self, afresh_other different (renames.below first old)] at same
        have := renames.renamedBelow first old
        omega
      · rw [afresh_other different (renames.below first old),
          afresh_other different' (renames.below second old')] at same
        exact renames.injective first old second old' same

/-- Handles that lead elsewhere are renamed as before, and the one that leads to the changed tensor
becomes the fresh one. -/
theorem lead_afresh (renames : Renaming ρ session) {handle : Handle} (tensor : Tensor)
    {other : Handle} (held : other ∈ session.handles) (different : other.id ≠ handle.id) :
    (lead handle.id tensor other).rename (afresh ρ session.supply handle.id) = other.rename ρ := by
  rw [lead, if_neg different, Handle.rename, afresh_other different (renames.below other held)]
  rfl

theorem lead_afresh_self (handle : Handle) (tensor : Tensor) :
    (lead handle.id tensor handle).rename (afresh ρ session.supply handle.id) =
      ⟨ρ session.supply, tensor⟩ := by
  rw [lead, if_pos rfl, Handle.rename, afresh_self]

theorem map_lead_afresh (renames : Renaming ρ session) {handle : Handle} (tensor : Tensor)
    {others : List Handle} (held : ∀ other ∈ others, other ∈ session.handles)
    (different : ∀ other ∈ others, other.id ≠ handle.id) :
    (others.map (lead handle.id tensor)).map (Handle.rename (afresh ρ session.supply handle.id)) =
      others.map (Handle.rename ρ) := by
  rw [List.map_map]
  exact List.map_congr_left fun other member =>
    lead_afresh renames tensor (held other member) (different other member)

theorem operator_lead_afresh (renames : Renaming ρ session) {handle : Handle} (tensor : Tensor)
    {op : Operator Handle} (held : ∀ other ∈ op.handles, other ∈ session.handles)
    (different : ∀ other ∈ op.handles, other.id ≠ handle.id) :
    (op.map (lead handle.id tensor)).map
        (Handle.rename (afresh ρ session.supply handle.id)) = op.map (Handle.rename ρ) := by
  have inputs := map_lead_afresh renames tensor
    (fun other (member : other ∈ op.inputs) => held other (List.mem_append_left _ member))
    fun other member => different other (List.mem_append_left _ member)
  have outputs := map_lead_afresh renames tensor
    (fun other (member : other ∈ op.outputs) => held other (List.mem_append_right _ member))
    fun other member => different other (List.mem_append_right _ member)
  simp only [Operator.map, inputs, outputs]

theorem mem_of_other {α : Type} {front back : List (String × α)} {id other : String}
    {value value' : α} (member : (other, value') ∈ front ++ (id, value) :: back)
    (different : other ≠ id) : (other, value') ∈ front ++ back := by
  rcases List.mem_append.mp member with member | member
  · exact List.mem_append_left _ member
  · rcases List.mem_cons.mp member with same | member
    · exact absurd (congrArg Prod.fst same) different
    · exact List.mem_append_right _ member

theorem split_at {α : Type} {l : List α} {i : Nat} {a : α} (entry : l[i]? = some a) :
    ∃ front back, l = front ++ a :: back ∧ front.length = i := by
  obtain ⟨bound, rfl⟩ := List.getElem?_eq_some_iff.mp entry
  refine ⟨l.take i, l.drop (i + 1), ?_, List.length_take_of_le (Nat.le_of_lt bound)⟩
  rw [← List.drop_eq_getElem_cons bound, List.take_append_drop]

/-- A handle that is held once, by a name, is held by no other name and by no operator. -/
theorem alone_tensor {id : String} {handle : Handle}
    (found : session.tensors.find? id = some handle) (once : session.holders handle.id = 1) :
    (∀ name other, name ≠ id → session.tensors.find? name = some other →
        other.id ≠ handle.id) ∧
      ∀ name op, session.operators.find? name = some op →
        ∀ other ∈ op.handles, other.id ≠ handle.id := by
  obtain ⟨front, back, entries⟩ := List.append_of_mem (KeyMap.mem_toList.mpr found)
  have others : ∀ other ∈ front.map (·.2) ++ (back.map (·.2) ++
      session.operators.toList.flatMap (·.2.handles)), other.id ≠ handle.id := by
    apply alone
    rw [← once, holders, handles, entries]
    simp
  constructor
  · intro name other different found'
    have listed := KeyMap.mem_toList.mpr found'
    rw [entries] at listed
    apply others
    rw [← List.append_assoc, ← List.map_append]
    exact List.mem_append_left _ (List.mem_map_of_mem (mem_of_other listed different))
  · intro name op found' other member
    apply others
    exact List.mem_append_right _ (List.mem_append_right _
      (List.mem_flatMap.mpr ⟨_, KeyMap.mem_toList.mpr found', member⟩))

/-- A handle that is held once, as an input, is held by no name, by no other operator and nowhere
else in its own. -/
theorem alone_input {id : String} {op : Operator Handle}
    (found : session.operators.find? id = some op) {before after : List Handle} {handle : Handle}
    (inputs : op.inputs = before ++ handle :: after) (once : session.holders handle.id = 1) :
    (∀ name other, session.tensors.find? name = some other → other.id ≠ handle.id) ∧
      (∀ name other, name ≠ id → session.operators.find? name = some other →
        ∀ held ∈ other.handles, held.id ≠ handle.id) ∧
      ∀ held ∈ before ++ after ++ op.outputs, held.id ≠ handle.id := by
  obtain ⟨front, back, entries⟩ := List.append_of_mem (KeyMap.mem_toList.mpr found)
  have others : ∀ other ∈ (session.tensors.toList.map (·.2) ++
      (front.flatMap (·.2.handles) ++ before)) ++ (after ++ (op.outputs ++
        back.flatMap (·.2.handles))), other.id ≠ handle.id := by
    apply alone
    rw [← once, holders, handles, entries]
    simp [Operator.handles, inputs]
  refine ⟨?_, ?_, ?_⟩
  · intro name other found'
    apply others
    exact List.mem_append_left _ (List.mem_append_left _
      (List.mem_map.mpr ⟨_, KeyMap.mem_toList.mpr found', rfl⟩))
  · intro name other different found' held member
    have listed := KeyMap.mem_toList.mpr found'
    rw [entries] at listed
    apply others
    rcases List.mem_append.mp (mem_of_other listed different) with listed | listed
    · have member : held ∈ front.flatMap (·.2.handles) := List.mem_flatMap.mpr ⟨_, listed, member⟩
      exact List.mem_append_left _ (List.mem_append_right _ (List.mem_append_left _ member))
    · have member : held ∈ back.flatMap (·.2.handles) := List.mem_flatMap.mpr ⟨_, listed, member⟩
      exact List.mem_append_right _ (List.mem_append_right _ (List.mem_append_right _ member))
  · intro held member
    apply others
    simp only [List.mem_append] at member ⊢
    rcases member with (member | member) | member
    · exact .inl (.inr (.inr member))
    · exact .inr (.inl member)
    · exact .inr (.inr (.inl member))

theorem rename_overwrite_tensor (renames : Renaming ρ session) {id : String} {handle : Handle}
    (found : session.tensors.find? id = some handle) (once : session.holders handle.id = 1)
    (tensor : Tensor) :
    (session.overwrite handle.id tensor).rename (afresh ρ session.supply handle.id) =
      (session.rename ρ).storeTensor id tensor := by
  have held : handle ∈ session.handles := mem_handles.mpr (.inl ⟨id, found⟩)
  obtain ⟨elsewhere, apart⟩ := alone_tensor found once
  have tensors : (session.tensors.map (lead handle.id tensor)).map
      (Handle.rename (afresh ρ session.supply handle.id)) =
        (session.tensors.map (Handle.rename ρ)).insert id ⟨ρ session.supply, tensor⟩ := by
    rw [KeyMap.map_map]
    apply KeyMap.map_eq_insert found (lead_afresh_self handle tensor)
    intro name other different found'
    exact lead_afresh renames tensor (mem_handles.mpr (.inl ⟨name, found'⟩))
      (elsewhere name other different found')
  have operators : (session.operators.map (Operator.map (lead handle.id tensor))).map
      (Operator.map (Handle.rename (afresh ρ session.supply handle.id))) =
        session.operators.map (Operator.map (Handle.rename ρ)) := by
    rw [KeyMap.map_map]
    apply KeyMap.map_congr
    intro name op found'
    exact operator_lead_afresh renames tensor (operator_held found') (apart name op found')
  simp only [rename, overwrite, storeTensor, tensors, operators,
    afresh_supply (renames.below handle held)]

theorem rename_overwrite_input (renames : Renaming ρ session) {id : String}
    {op : Operator Handle} (found : session.operators.find? id = some op) {position : Nat}
    {handle : Handle} (entry : op.inputs[position]? = some handle)
    (once : session.holders handle.id = 1) (tensor : Tensor) :
    let touched := (op.map (Handle.rename ρ)).setInput position ⟨ρ session.supply, tensor⟩
    (op.map (lead handle.id tensor)).map (Handle.rename (afresh ρ session.supply handle.id)) =
        touched ∧
      (session.overwrite handle.id tensor).rename (afresh ρ session.supply handle.id) =
        (session.rename ρ).stored (ρ session.supply + 1) id touched := by
  intro touched
  obtain ⟨before, after, inputs, length⟩ := split_at entry
  obtain ⟨unnamed, elsewhere, apart⟩ := alone_input found inputs once
  have owned := operator_held found
  have held : handle ∈ session.handles := owned handle (by simp [Operator.handles, inputs])
  have own : (op.map (lead handle.id tensor)).map
      (Handle.rename (afresh ρ session.supply handle.id)) = touched := by
    have rest : ∀ other ∈ before ++ after ++ op.outputs, other ∈ session.handles := by
      intro other member
      apply owned
      simp only [Operator.handles, inputs, List.mem_append, List.mem_cons] at member ⊢
      exact member.imp_left (Or.imp_right .inr)
    have first := map_lead_afresh renames tensor
      (fun other (member : other ∈ before) => rest other (by simp [member]))
      fun other member => apart other (by simp [member])
    have last := map_lead_afresh renames tensor
      (fun other (member : other ∈ after) => rest other (by simp [member]))
      fun other member => apart other (by simp [member])
    have outputs := map_lead_afresh renames tensor
      (fun other (member : other ∈ op.outputs) => rest other (by simp [member]))
      fun other member => apart other (by simp [member])
    have set : (before.map (Handle.rename ρ) ++ handle.rename ρ ::
        after.map (Handle.rename ρ)).set before.length ⟨ρ session.supply, tensor⟩ =
          before.map (Handle.rename ρ) ++ ⟨ρ session.supply, tensor⟩ ::
            after.map (Handle.rename ρ) := by
      simp
    simp only [touched, Operator.setInput, Operator.map, inputs, ← length, outputs,
      List.map_append, List.map_cons, first, last, lead_afresh_self, set]
  refine ⟨own, ?_⟩
  have tensors : (session.tensors.map (lead handle.id tensor)).map
      (Handle.rename (afresh ρ session.supply handle.id)) =
        session.tensors.map (Handle.rename ρ) := by
    rw [KeyMap.map_map]
    apply KeyMap.map_congr
    intro name other found'
    exact lead_afresh renames tensor (mem_handles.mpr (.inl ⟨name, found'⟩))
      (unnamed name other found')
  have operators : (session.operators.map (Operator.map (lead handle.id tensor))).map
      (Operator.map (Handle.rename (afresh ρ session.supply handle.id))) =
        (session.operators.map (Operator.map (Handle.rename ρ))).insert id touched := by
    rw [KeyMap.map_map]
    apply KeyMap.map_eq_insert found own
    intro name other different found'
    exact operator_lead_afresh renames tensor (operator_held found')
      (elsewhere name other different found')
  simp only [rename, overwrite, stored, storeOperator, tensors, operators,
    afresh_supply (renames.below handle held)]

theorem Mirrors.some {reply mirrored : Option Reply}
    (mirrors : Option.Rel (Mirrors ρ) reply mirrored) :
    Option.Rel (fun one other => ∃ ρ, Mirrors ρ one other) reply mirrored := by
  cases mirrors with
  | some mirrors => exact .some ⟨ρ, mirrors⟩
  | none => exact .none

theorem mirrors_overwrite_tensor (renames : Renaming ρ session) {id : String} {handle : Handle}
    (found : session.tensors.find? id = some handle) (once : session.holders handle.id = 1)
    (tensor : Tensor) :
    Mirrors (afresh ρ session.supply handle.id)
      ((session.overwrite handle.id tensor).answerTensor tensor)
      (((session.rename ρ).storeTensor id tensor).answerTensor tensor) := by
  have held : handle ∈ session.handles := mem_handles.mpr (.inl ⟨id, found⟩)
  refine ⟨renames.overwrite held tensor, ?_⟩
  rw [← rename_overwrite_tensor renames found once]
  rfl

theorem mirrors_overwrite_input (renames : Renaming ρ session) {id : String}
    {op : Operator Handle} (found : session.operators.find? id = some op) {position : Nat}
    {handle : Handle} (entry : op.inputs[position]? = some handle)
    (once : session.holders handle.id = 1) (tensor : Tensor) :
    let after := session.overwrite handle.id tensor
    let touched := (op.map (Handle.rename ρ)).setInput position ⟨ρ session.supply, tensor⟩
    Mirrors (afresh ρ session.supply handle.id)
      (after.answerOperator (op.map (lead handle.id tensor)))
      (((session.rename ρ).stored (ρ session.supply + 1) id touched).answerOperator touched) := by
  intro after touched
  obtain ⟨(own : _ = touched), (whole : _ = stored _ _ id touched)⟩ :=
    rename_overwrite_input renames found entry once tensor
  have member : handle ∈ op.handles := List.mem_append_left _ (List.mem_of_getElem? entry)
  have next := renames.overwrite (operator_held found handle member) tensor
  refine ⟨next, ?_⟩
  rw [← whole, ← own, answerOperator,
    view_rename next (operator_held (find?_overwrite found handle.id tensor))]
  rfl

/-- A step in place is the step that copies, or changes the tensor behind a handle that is held
once. -/
theorem stepInPlace?_cases (session : Session) (step : Step) :
    session.stepInPlace? step = session.step? step ∨
      (∃ id position destOp op handle, step = .touchInput id position destOp ∧
        session.operators.find? id = some op ∧ op.inputs[position]? = some handle ∧
        session.holders handle.id = 1 ∧
        session.stepInPlace? step =
          some ((session.overwrite handle.id (handle.tensor.withDestOp destOp)).answerOperator
            (op.map (lead handle.id (handle.tensor.withDestOp destOp))))) ∨
      ∃ id destOp handle, step = .touchTensor id destOp ∧
        session.tensors.find? id = some handle ∧ session.holders handle.id = 1 ∧
        session.stepInPlace? step =
          some ((session.overwrite handle.id (handle.tensor.withDestOp destOp)).answerTensor
            (handle.tensor.withDestOp destOp)) := by
  cases step with
  | touchInput id position destOp =>
    cases found : session.operators.find? id with
    | none => exact .inl (by simp [stepInPlace?, step?, found])
    | some op =>
      cases entry : op.inputs[position]? with
      | none => exact .inl (by simp [stepInPlace?, step?, touchInput, found, entry])
      | some handle =>
        by_cases once : session.holders handle.id = 1
        · have found' := find?_overwrite found handle.id (handle.tensor.withDestOp destOp)
          exact .inr (.inl ⟨id, position, destOp, op, handle, rfl, found, entry, once,
            by simp [stepInPlace?, found, entry, once, found']⟩)
        · exact .inl (by simp [stepInPlace?, step?, found, entry, once])
  | touchTensor id destOp =>
    cases found : session.tensors.find? id with
    | none => exact .inl (by simp [stepInPlace?, step?, found])
    | some handle =>
      by_cases once : session.holders handle.id = 1
      · exact .inr (.inr ⟨id, destOp, handle, rfl, found, once,
          by simp [stepInPlace?, found, once]⟩)
      · exact .inl (by simp [stepInPlace?, step?, found, once])
  | _ => exact .inl rfl

/-- A step that changes tensors in place where it can answers like one that always copies. -/
theorem stepInPlace?_mirrors (renames : Renaming ρ session) (step : Step) :
    Option.Rel (fun reply mirrored => ∃ ρ, Mirrors ρ reply mirrored) (session.stepInPlace? step)
      ((session.rename ρ).step? step) := by
  rcases session.stepInPlace?_cases step with
    same | ⟨id, position, destOp, op, handle, rfl, found, entry, once, same⟩ |
      ⟨id, destOp, handle, rfl, found, once, same⟩
  · rw [same]
    exact Mirrors.some (step?_mirrors renames step)
  · have copied : (op.map (Handle.rename ρ)).inputs[position]? = some (handle.rename ρ) :=
      List.getElem?_map.trans (congrArg (Option.map _) entry)
    rw [same, step?, find?_operators_rename, found]
    change Option.Rel _ _ ((session.rename ρ).touchInput _ (op.map (Handle.rename ρ)) _ _)
    rw [touchInput, copied]
    exact .some ⟨_, mirrors_overwrite_input renames found entry once _⟩
  · rw [same, step?, find?_tensors_rename, found]
    exact .some ⟨_, mirrors_overwrite_tensor renames found once _⟩

theorem stepInPlace_mirrors (renames : Renaming ρ session) (step : Step) :
    ∃ ρ', Mirrors ρ' (session.stepInPlace step) ((session.rename ρ).step step) := by
  have mirrors := stepInPlace?_mirrors renames step
  rw [stepInPlace, Session.step]
  generalize session.stepInPlace? step = reply at mirrors ⊢
  generalize (session.rename ρ).step? step = mirrored at mirrors ⊢
  cases mirrors with
  | some mirrors => exact mirrors
  | none => exact ⟨ρ, renames, rfl⟩

theorem owned_rename (ρ : Nat → Nat) (session : Session) :
    (session.rename ρ).owned = session.owned := by
  have contents : Operator.contents ∘ Operator.map (Handle.rename ρ) = Operator.contents :=
    funext fun op => op.contents_rename ρ
  simp only [owned, rename, KeyMap.map_map, contents]
  rfl

/-- What a reply shows, and what the session holds after it. -/
def Reply.shown (reply : Reply) : Answer × List Event × Owned :=
  (reply.answer, reply.log, reply.session.owned)

theorem Mirrors.shown {reply mirrored : Reply} (mirrors : Mirrors ρ reply mirrored) :
    mirrored.shown = reply.shown := by
  rw [mirrors.mirrored, Reply.shown, Reply.shown, Reply.rename, owned_rename]

/-- Steps that change tensors in place show the same as steps that copy, also of what is shared. -/
theorem shown_runInPlace (renames : Renaming ρ session) (steps : List Step) :
    (session.runInPlace steps).map Reply.shown =
      ((session.rename ρ).run steps).map Reply.shown := by
  induction steps generalizing ρ session with
  | nil => rfl
  | cons first rest ih =>
    obtain ⟨ρ', mirrors⟩ := stepInPlace_mirrors renames first
    have later := ih mirrors.renames
    have same : ((session.rename ρ).step first).session =
        (session.stepInPlace first).session.rename ρ' := congrArg Reply.session mirrors.mirrored
    rw [← same] at later
    rw [runInPlace, run, List.map_cons, List.map_cons, mirrors.shown, later]

theorem renaming_start (register : Register) : Renaming id ({ register } : Session) where
  continues _ := rfl
  below _ member := by contradiction
  renamedBelow _ member := by contradiction
  injective _ member := by contradiction

/-- The sessions that steps in place lead to can be renamed. -/
theorem renaming_runInPlace (renames : Renaming ρ session) (steps : List Step) :
    ∀ reply ∈ session.runInPlace steps, ∃ ρ', Renaming ρ' reply.session := by
  induction steps generalizing ρ session with
  | nil =>
    intro reply member
    contradiction
  | cons first rest ih =>
    obtain ⟨ρ', mirrors⟩ := stepInPlace_mirrors renames first
    intro reply member
    rcases List.mem_cons.mp member with rfl | later
    · exact ⟨ρ', mirrors.renames⟩
    · exact ih mirrors.renames reply later

/-- Handles with the same id always lead to the same tensor, so that changing it for one of them in
place is changing it for all. -/
theorem runInPlace_coherent (register : Register) (steps : List Step) :
    ∀ reply ∈ ({ register } : Session).runInPlace steps, ∀ first ∈ reply.session.handles,
      ∀ second ∈ reply.session.handles, first.id = second.id → first.tensor = second.tensor := by
  intro reply member first held second held' same
  obtain ⟨ρ, renames⟩ := renaming_runInPlace (renaming_start register) steps reply member
  rw [renames.injective first held second held' (congrArg ρ same)]

end NodeLowering.Session

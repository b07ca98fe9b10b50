import NodeLowering.Proofs.Extraction.Handles
import NodeLowering.Session

/-! Sessions answer alike when their handles are called by other ids, as long as what is shared is
told apart from what is not. -/
namespace NodeLowering.Session
variable {ρ : Nat → Nat} {session : Session}

/-- All handles of names and operators, as often as they are held. -/
def handles (session : Session) : List Handle :=
  session.tensors.toList.map (·.2) ++ session.operators.toList.flatMap (·.2.handles)

theorem mem_handles {handle : Handle} :
    handle ∈ session.handles ↔
      (∃ name, session.tensors.find? name = some handle) ∨
        ∃ id op, session.operators.find? id = some op ∧ handle ∈ op.handles := by
  rw [handles, List.mem_append, List.mem_map, List.mem_flatMap]
  constructor
  · rintro (⟨⟨name, _⟩, member, rfl⟩ | ⟨⟨id, op⟩, member, held⟩)
    · exact .inl ⟨name, KeyMap.mem_toList.mp member⟩
    · exact .inr ⟨id, op, KeyMap.mem_toList.mp member, held⟩
  · rintro (⟨name, found⟩ | ⟨id, op, found, held⟩)
    · exact .inl ⟨(name, handle), KeyMap.mem_toList.mpr found, rfl⟩
    · exact .inr ⟨(id, op), KeyMap.mem_toList.mpr found, held⟩

def rename (ρ : Nat → Nat) (session : Session) : Session where
  register := session.register
  tensors := session.tensors.map (Handle.rename ρ)
  operators := session.operators.map (Operator.map (Handle.rename ρ))
  supply := ρ session.supply

def Reply.rename (ρ : Nat → Nat) (reply : Reply) : Reply :=
  ⟨reply.answer, reply.log, reply.session.rename ρ⟩

/-- New ids for the handles of a session: equal ones only for equal handles, and fresh ones for
fresh ones. -/
structure Renaming (ρ : Nat → Nat) (session : Session) : Prop where
  continues : Continues ρ session.supply
  below : Below session.handles session.supply
  renamedBelow : ∀ handle ∈ session.handles, ρ handle.id < ρ session.supply
  injective : ∀ first ∈ session.handles, ∀ second ∈ session.handles,
    ρ first.id = ρ second.id → first = second

theorem Renaming.grow {after : Session} (renames : Renaming ρ session)
    (grows : Grows session.handles session.supply after.handles after.supply) :
    Renaming ρ after := by
  obtain ⟨taken, supply⟩ := Nat.exists_eq_add_of_le grows.onward
  have fresh : ∀ handle : Handle, session.supply ≤ handle.id →
      ρ handle.id = ρ session.supply + (handle.id - session.supply) := by
    intro handle bound
    rw [← renames.continues, Nat.add_sub_cancel' bound]
  have last : ρ after.supply = ρ session.supply + taken := by rw [supply, renames.continues]
  constructor
  · rw [supply]
    exact renames.continues.add taken
  · exact grows.below renames.below
  · intro handle member
    rcases grows.origin handle member with old | ⟨bound, small⟩
    · have := renames.renamedBelow handle old
      omega
    · rw [fresh handle bound]
      omega
  · intro first member second member' same
    rcases grows.origin first member with old | ⟨bound, _⟩
    · rcases grows.origin second member' with old' | ⟨bound', _⟩
      · exact renames.injective first old second old' same
      · have := renames.renamedBelow first old
        rw [fresh second bound'] at same
        omega
    · rcases grows.origin second member' with old' | ⟨bound', _⟩
      · have := renames.renamedBelow second old'
        rw [fresh first bound] at same
        omega
      · rw [fresh first bound, fresh second bound'] at same
        exact grows.distinct first member second member' bound (by omega)

theorem storeTensor_grows (below : Below session.handles session.supply) (id : String)
    (tensor : Tensor) :
    Grows session.handles session.supply (session.storeTensor id tensor).handles
      (session.storeTensor id tensor).supply := by
  apply Grows.of_fresh tensor below
  intro handle member
  rcases mem_handles.mp member with ⟨name, found⟩ | ⟨other, op, found, held⟩
  · rw [storeTensor, KeyMap.find?_insert] at found
    split at found
    · exact .inr (Option.some.inj found).symm
    · exact .inl (mem_handles.mpr (.inl ⟨name, found⟩))
  · exact .inl (mem_handles.mpr (.inr ⟨other, op, found, held⟩))

/-- The session after fresh handles have been taken for an operator that is stored. -/
def stored (session : Session) (left : Nat) (id : String) (op : Operator Handle) : Session :=
  { session with supply := left }.storeOperator id op

theorem find?_stored (session : Session) (left : Nat) (id other : String) (op : Operator Handle) :
    (session.stored left id op).operators.find? other =
      if other = id then some op else session.operators.find? other :=
  KeyMap.find?_insert _ _ _ _

theorem stored_grows (below : Below session.handles session.supply) {op : Operator Handle}
    {left : Nat} (grows : Grows session.handles session.supply op.handles left) (id : String) :
    Grows session.handles session.supply (session.stored left id op).handles left := by
  have origin : ∀ handle ∈ (session.stored left id op).handles,
      handle ∈ session.handles ∨ handle ∈ op.handles := by
    intro handle member
    rcases mem_handles.mp member with ⟨name, found⟩ | ⟨other, kept, found, held⟩
    · exact .inl (mem_handles.mpr (.inl ⟨name, found⟩))
    · rw [find?_stored] at found
      split at found
      · obtain rfl := Option.some.inj found
        exact .inr held
      · exact .inl (mem_handles.mpr (.inr ⟨other, kept, found, held⟩))
  have fresh : ∀ handle ∈ (session.stored left id op).handles,
      session.supply ≤ handle.id → handle ∈ op.handles := by
    intro handle member bound
    rcases origin handle member with old | held
    · have := below handle old
      omega
    · exact held
  constructor
  · exact grows.onward
  · intro handle member
    rcases origin handle member with old | held
    · exact .inl old
    · exact grows.origin handle held
  · intro first member second member' bound same
    exact grows.distinct first (fresh first member bound) second
      (fresh second member' (same ▸ bound)) bound same

theorem rename_storeTensor (renames : Renaming ρ session) (id : String) (tensor : Tensor) :
    (session.storeTensor id tensor).rename ρ = (session.rename ρ).storeTensor id tensor := by
  simp only [rename, storeTensor, KeyMap.map_insert, renames.continues 1]
  rfl

theorem rename_stored (ρ : Nat → Nat) (session : Session) (left : Nat) (id : String)
    (op : Operator Handle) :
    (session.stored left id op).rename ρ =
      (session.rename ρ).stored (ρ left) id (op.map (Handle.rename ρ)) := by
  simp only [rename, stored, storeOperator, KeyMap.map_insert]

theorem sharedWith?_rename (renames : Renaming ρ session) {handle : Handle}
    (held : handle ∈ session.handles) :
    (session.rename ρ).sharedWith? (handle.rename ρ) = session.sharedWith? handle := by
  have stored : ∀ entry ∈ session.tensors.toList, entry.2 ∈ session.handles :=
    fun entry member => List.mem_append_left _ (List.mem_map_of_mem member)
  rw [sharedWith?, sharedWith?]
  change ((session.tensors.toList.map fun entry => (entry.1, entry.2.rename ρ)).find? _).map _ = _
  generalize session.tensors.toList = entries at stored ⊢
  induction entries with
  | nil => rfl
  | cons entry rest ih =>
    have same : ((entry.2.rename ρ).id == (handle.rename ρ).id) = (entry.2.id == handle.id) := by
      rw [Bool.eq_iff_iff, beq_iff_eq, beq_iff_eq]
      constructor
      · intro same
        rw [renames.injective _ (stored entry List.mem_cons_self) _ held same]
      · exact congrArg ρ
    rw [List.map_cons, List.find?_cons, List.find?_cons, same]
    cases entry.2.id == handle.id with
    | true => rfl
    | false => exact ih fun entry member => stored entry (List.mem_cons_of_mem _ member)

theorem view_rename (renames : Renaming ρ session) {op : Operator Handle}
    (held : ∀ handle ∈ op.handles, handle ∈ session.handles) :
    (session.rename ρ).view (op.map (Handle.rename ρ)) = session.view op := by
  have shown : ∀ handle ∈ op.handles,
      (⟨(handle.rename ρ).tensor, (session.rename ρ).sharedWith? (handle.rename ρ)⟩ : HeldTensor) =
        ⟨handle.tensor, session.sharedWith? handle⟩ := by
    intro handle member
    rw [sharedWith?_rename renames (held handle member)]
    rfl
  simp only [view, Operator.map, List.map_map]
  congr 1
  · exact List.map_congr_left fun handle member =>
      shown handle (List.mem_append_left _ member)
  · exact List.map_congr_left fun handle member =>
      shown handle (List.mem_append_right _ member)

theorem handles?_rename (ids : List String) :
    (session.rename ρ).handles? ids = (session.handles? ids).map (List.map (Handle.rename ρ)) := by
  rw [handles?, handles?]
  induction ids with
  | nil => rfl
  | cons id rest ih =>
    have first : (session.rename ρ).tensors.find? id = _ := KeyMap.find?_map _ session.tensors id
    rw [List.mapM_cons, List.mapM_cons, ih, first]
    cases session.tensors.find? id with
    | none => rfl
    | some handle =>
      cases rest.mapM session.tensors.find? with
      | none => rfl
      | some handles => rfl

theorem mem_handles_of_handles? {ids : List String} {found : List Handle}
    (known : session.handles? ids = some found) : ∀ handle ∈ found, handle ∈ session.handles := by
  rw [handles?] at known
  induction ids generalizing found with
  | nil =>
    obtain rfl : [] = found := Option.some.inj known
    intro handle member
    contradiction
  | cons id rest ih =>
    rw [List.mapM_cons] at known
    cases first : session.tensors.find? id with
    | none =>
      rw [first] at known
      contradiction
    | some head =>
      cases later : rest.mapM session.tensors.find? with
      | none =>
        rw [first, later] at known
        contradiction
      | some tail =>
        rw [first, later] at known
        obtain rfl : head :: tail = found := Option.some.inj known
        intro handle member
        rcases List.mem_cons.mp member with rfl | member
        · exact mem_handles.mpr (.inl ⟨id, first⟩)
        · exact ih later handle member

/-- A reply and the reply of the renamed session. -/
structure Mirrors (ρ : Nat → Nat) (reply mirrored : Reply) : Prop where
  renames : Renaming ρ reply.session
  mirrored : mirrored = reply.rename ρ

theorem mirrors_storeTensor (renames : Renaming ρ session) (id : String) (tensor : Tensor) :
    Mirrors ρ ((session.storeTensor id tensor).answerTensor tensor)
      (((session.rename ρ).storeTensor id tensor).answerTensor tensor) := by
  refine ⟨renames.grow (storeTensor_grows renames.below id tensor), ?_⟩
  rw [← rename_storeTensor renames]
  rfl

theorem view_stored (renames : Renaming ρ session) {op : Operator Handle} {left : Nat}
    (grows : Grows session.handles session.supply op.handles left) (id : String) :
    ((session.rename ρ).stored (ρ left) id (op.map (Handle.rename ρ))).view
        (op.map (Handle.rename ρ)) =
      (session.stored left id op).view op := by
  rw [← rename_stored]
  apply view_rename (renames.grow (stored_grows renames.below grows id))
  intro handle member
  have found : (session.stored left id op).operators.find? id = some op := by
    rw [find?_stored, if_pos rfl]
  exact mem_handles.mpr (.inr ⟨id, op, found, member⟩)

theorem mirrors_stored (renames : Renaming ρ session) {op : Operator Handle} {left : Nat}
    (grows : Grows session.handles session.supply op.handles left) (id : String)
    (answer : Operator HeldTensor → Answer) (log : List Event) :
    Mirrors ρ ⟨answer ((session.stored left id op).view op), log, session.stored left id op⟩
      ⟨answer (((session.rename ρ).stored (ρ left) id (op.map (Handle.rename ρ))).view
          (op.map (Handle.rename ρ))),
        log, (session.rename ρ).stored (ρ left) id (op.map (Handle.rename ρ))⟩ := by
  refine ⟨renames.grow (stored_grows renames.below grows id), ?_⟩
  rw [view_stored renames grows, ← rename_stored]
  rfl

variable {ε : Type}

theorem mirrors_workOn (renames : Renaming ρ session) {op : Operator Handle}
    (held : ∀ handle ∈ op.handles, handle ∈ session.handles) {work : Working ε Unit}
    (confined : Confined work) (id : String) (message : ε → String) :
    Mirrors ρ (session.workOn id op message work)
      ((session.rename ρ).workOn id (op.map (Handle.rename ρ)) message work) := by
  have below : Below op.handles session.supply := fun handle member =>
    renames.below handle (held handle member)
  have performed : (session.rename ρ).perform (op.map (Handle.rename ρ)) work = _ :=
    confined.rename (w := ⟨op, session.supply, []⟩) renames.continues
  have grows : Grows session.handles session.supply
      (session.perform op work).2.operator.handles (session.perform op work).2.supply :=
    (confined.grows (w := ⟨op, session.supply, []⟩) below).widen held
  rw [workOn, workOn, performed, ← perform]
  generalize session.perform op work = outcome at grows
  rcases outcome with ⟨result, w⟩
  cases result with
  | ok _ => exact mirrors_stored renames grows id .extracted w.log
  | error reason => exact mirrors_stored renames grows id (.notExtracted (message reason)) w.log

theorem mirrors_create (renames : Renaming ρ session) {work mirrored : Working ε Unit}
    (performed : (session.rename ρ).perform {} mirrored =
      ((session.perform {} work).1, (session.perform {} work).2.rename ρ))
    (grows : Grows session.handles session.supply (session.perform {} work).2.operator.handles
      (session.perform {} work).2.supply)
    (id : String) (message : ε → String) :
    Mirrors ρ (session.create id message work) ((session.rename ρ).create id message mirrored) := by
  rw [create, create, performed]
  generalize session.perform {} work = outcome at grows
  rcases outcome with ⟨result, w⟩
  cases result with
  | ok _ => exact mirrors_stored renames grows id .operator w.log
  | error reason => exact ⟨renames, rfl⟩

theorem find?_operators_rename (id : String) :
    (session.rename ρ).operators.find? id =
      (session.operators.find? id).map (Operator.map (Handle.rename ρ)) :=
  KeyMap.find?_map _ _ _

theorem find?_tensors_rename (id : String) :
    (session.rename ρ).tensors.find? id = (session.tensors.find? id).map (Handle.rename ρ) :=
  KeyMap.find?_map _ _ _

theorem operator_held {id : String} {op : Operator Handle}
    (found : session.operators.find? id = some op) :
    ∀ handle ∈ op.handles, handle ∈ session.handles :=
  fun _ member => mem_handles.mpr (.inr ⟨id, op, found, member⟩)

theorem setInput_grows (below : Below session.handles session.supply) {op : Operator Handle}
    (held : ∀ handle ∈ op.handles, handle ∈ session.handles) (position : Nat) (tensor : Tensor) :
    Grows session.handles session.supply
      (op.setInput position ⟨session.supply, tensor⟩).handles (session.supply + 1) := by
  apply Grows.of_fresh tensor below
  intro other member
  rcases List.mem_append.mp member with input | output
  · rcases List.mem_or_eq_of_mem_set input with old | same
    · exact .inl (held other (List.mem_append_left _ old))
    · exact .inr same
  · exact .inl (held other (List.mem_append_right _ output))

theorem mirrors_touchInput (renames : Renaming ρ session) {op : Operator Handle}
    (held : ∀ handle ∈ op.handles, handle ∈ session.handles) (id : String) (position : Nat)
    (destOp : String) :
    Option.Rel (Mirrors ρ) (session.touchInput id op position destOp)
      ((session.rename ρ).touchInput id (op.map (Handle.rename ρ)) position destOp) := by
  have inputs : (op.map (Handle.rename ρ)).inputs[position]? =
      op.inputs[position]?.map (Handle.rename ρ) := List.getElem?_map
  rw [touchInput, touchInput, inputs]
  cases op.inputs[position]? with
  | none => exact .none
  | some handle =>
    have grows := setInput_grows renames.below held position (handle.tensor.withDestOp destOp)
    have mirrors := mirrors_stored renames grows id .operator []
    simp only [Operator.setInput, Operator.map, List.map_set, renames.continues 1] at mirrors
    exact .some mirrors

theorem mirrors_storeConst (renames : Renaming ρ session) (id : String)
    (node : TensorFlow.NodeDef) :
    Mirrors ρ (session.storeConst id node) ((session.rename ρ).storeConst id node) := by
  rw [storeConst, storeConst]
  cases node.toConst with
  | ok tensor => exact mirrors_storeTensor renames id tensor
  | error failure =>
    cases failure with
    | refused reason => exact ⟨renames, rfl⟩
    | aborted => exact ⟨renames, rfl⟩

/-- Each step does the same to a session and to the renamed session. -/
theorem step?_mirrors (renames : Renaming ρ session) (step : Step) :
    Option.Rel (Mirrors ρ) (session.step? step) ((session.rename ρ).step? step) := by
  have kept : ∀ answer, Mirrors ρ (session.reply answer) ((session.rename ρ).reply answer) :=
    fun _ => ⟨renames, rfl⟩
  cases step with
  | tensor id tensor => exact .some (mirrors_storeTensor renames id tensor)
  | const id node =>
    rw [step?, step?]
    cases node.read TensorFlow.NodeDef.format with
    | none => exact .some (kept _)
    | some node => exact .some (mirrors_storeConst renames id node)
  | register name source =>
    have register : (session.rename ρ).register = session.register := rfl
    rw [step?, step?, register]
    cases session.register.find? source with
    | none => exact .some (kept _)
    | some extractor => exact .some ⟨⟨renames.1, renames.2, renames.3, renames.4⟩, rfl⟩
  | unregister name => exact .some ⟨⟨renames.1, renames.2, renames.3, renames.4⟩, rfl⟩
  | newOperator id op =>
    rw [step?, step?, handles?_rename, handles?_rename]
    cases known : session.handles? op.inputs with
    | none => exact .none
    | some inputs =>
      cases known' : session.handles? op.outputs with
      | none => exact .none
      | some outputs =>
        let made : Operator Handle := { op with inputs, outputs }
        have held : ∀ handle ∈ made.handles, handle ∈ session.handles := by
          intro handle member
          rcases List.mem_append.mp member with input | output
          · exact mem_handles_of_handles? known handle input
          · exact mem_handles_of_handles? known' handle output
        exact .some (mirrors_stored renames (.of_subset renames.below held) id .operator [])
  | extract id node =>
    rw [step?, step?, find?_operators_rename]
    cases found : session.operators.find? id with
    | none => exact .none
    | some op =>
      cases node.read with
      | none => exact .some (kept _)
      | some node =>
        exact .some (mirrors_workOn renames (operator_held found)
          (session.register.extract_confined node) id _)
  | extractWith extractor id node =>
    rw [step?, step?, find?_operators_rename]
    cases found : session.operators.find? id with
    | none => exact .none
    | some op =>
      cases node.read with
      | none => exact .some (kept _)
      | some node =>
        exact .some (mirrors_workOn renames (operator_held found)
          (extractor.run_confined node) id _)
  | lower id node inputs =>
    rw [step?, step?, handles?_rename]
    cases known : session.handles? inputs with
    | none => exact .none
    | some handles =>
      cases node.read with
      | none => exact .some (kept _)
      | some node =>
        have held := mem_handles_of_handles? known
        have below : Below handles session.supply := fun handle member =>
          renames.below handle (held handle member)
        have performed := session.register.lower_rename node handles
          (w := ⟨{}, session.supply, []⟩) renames.continues
        have grows := session.register.lower_grows node (w := ⟨{}, session.supply, []⟩) below rfl
        exact .some (mirrors_create renames performed (grows.widen held) id _)
  | copyOperator id target =>
    rw [step?, step?, find?_operators_rename]
    cases found : session.operators.find? id with
    | none => exact .none
    | some op =>
      exact .some (mirrors_stored renames (.of_subset renames.below (operator_held found)) target
        .operator [])
  | touchInput id position destOp =>
    rw [step?, step?, find?_operators_rename]
    cases found : session.operators.find? id with
    | none => exact .none
    | some op => exact mirrors_touchInput renames (operator_held found) id position destOp
  | touchTensor id destOp =>
    rw [step?, step?, find?_tensors_rename]
    cases session.tensors.find? id with
    | none => exact .none
    | some handle => exact .some (mirrors_storeTensor renames id _)
  | showOperator id =>
    rw [step?, step?, find?_operators_rename]
    cases found : session.operators.find? id with
    | none => exact .none
    | some op =>
      refine .some ⟨renames, ?_⟩
      rw [answerOperator, view_rename renames (operator_held found)]
      rfl
  | showTensor id =>
    rw [step?, step?, find?_tensors_rename]
    cases session.tensors.find? id with
    | none => exact .none
    | some handle => exact .some (kept _)
  | equalOperators id other =>
    rw [step?, step?, find?_operators_rename, find?_operators_rename]
    cases session.operators.find? id with
    | none => exact .none
    | some op =>
      cases session.operators.find? other with
      | none => exact .none
      | some other =>
        refine .some ⟨renames, ?_⟩
        rw [Operator.contents_rename, Operator.contents_rename]
        rfl
  | equalTensors id other =>
    rw [step?, step?, find?_tensors_rename, find?_tensors_rename]
    cases session.tensors.find? id with
    | none => exact .none
    | some handle =>
      cases session.tensors.find? other with
      | none => exact .none
      | some other => exact .some (kept _)

end NodeLowering.Session

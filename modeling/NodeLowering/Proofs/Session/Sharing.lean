import NodeLowering.Proofs.Session.InPlace

/-! Who shares a tensor with whom makes no difference to what anyone holds. -/
namespace NodeLowering

/-- All that names and operators hold is as before, but for one input of one operator, which has
got a further consumer if there is such an input. -/
structure Owned.TouchesInput (before after : Owned) (id : String) (position : Nat)
    (destOp : String) : Prop where
  tensors : ∀ name, after.tensors.find? name = before.tensors.find? name
  others : ∀ other, other ≠ id → after.operators.find? other = before.operators.find? other
  touched : after.operators.find? id = (before.operators.find? id).map fun op =>
    { op with inputs := op.inputs.modify position (·.withDestOp destOp) }

/-- All that names and operators hold is as before, but for the tensor of one name, which has got a
further consumer if there is such a tensor. -/
structure Owned.TouchesTensor (before after : Owned) (id destOp : String) : Prop where
  operators : ∀ other, after.operators.find? other = before.operators.find? other
  others : ∀ name, name ≠ id → after.tensors.find? name = before.tensors.find? name
  touched : after.tensors.find? id = (before.tensors.find? id).map (·.withDestOp destOp)

namespace Owned

theorem step_touchInput (owned : Owned) (id : String) (position : Nat) (destOp : String) :
    owned.TouchesInput (owned.step (.touchInput id position destOp)).owned id position destOp := by
  rw [step, step?]
  cases found : owned.operators.find? id with
  | none =>
    constructor
    case tensors => exact fun _ => rfl
    case others => exact fun _ _ => rfl
    case touched =>
      rw [found]
      exact found
  | some op =>
    change owned.TouchesInput
      ((owned.touchInput id op position destOp).getD (owned.reply .unknown)).owned
      id position destOp
    rw [touchInput]
    cases entry : op.inputs[position]? with
    | none =>
      have same : op.inputs.modify position (·.withDestOp destOp) = op.inputs :=
        List.modify_eq_self (List.getElem?_eq_none_iff.mp entry)
      constructor
      case tensors => exact fun _ => rfl
      case others => exact fun _ _ => rfl
      case touched =>
        rw [found, Option.map_some, same]
        exact found
    | some tensor =>
      have same : op.inputs.modify position (·.withDestOp destOp) =
          op.inputs.set position (tensor.withDestOp destOp) := by
        have : Inhabited Tensor := ⟨tensor⟩
        rw [List.modify_eq_set, entry]
        rfl
      constructor
      case tensors => exact fun _ => rfl
      case others =>
        intro other different
        exact (KeyMap.find?_insert _ _ _ _).trans (if_neg different)
      case touched =>
        rw [found, Option.map_some, same]
        exact (KeyMap.find?_insert _ _ _ _).trans (if_pos rfl)

theorem step_touchTensor (owned : Owned) (id destOp : String) :
    owned.TouchesTensor (owned.step (.touchTensor id destOp)).owned id destOp := by
  rw [step, step?]
  cases found : owned.tensors.find? id with
  | none =>
    constructor
    case operators => exact fun _ => rfl
    case others => exact fun _ _ => rfl
    case touched =>
      rw [found]
      exact found
  | some tensor =>
    constructor
    case operators => exact fun _ => rfl
    case others =>
      intro name different
      exact (KeyMap.find?_insert _ _ _ _).trans (if_neg different)
    case touched =>
      rw [found]
      exact (KeyMap.find?_insert _ _ _ _).trans (if_pos rfl)

end Owned

namespace Session
variable {ρ : Nat → Nat} {session : Session}

theorem owned_session_step (session : Session) (step : Step) :
    (session.step step).session.owned = (session.owned.step step).owned :=
  congrArg Owned.Reply.owned (session.owned_step step)

theorem owned_session_stepInPlace (renames : Renaming ρ session) (step : Step) :
    (session.stepInPlace step).session.owned = (session.owned.step step).owned := by
  obtain ⟨ρ', mirrors⟩ := stepInPlace_mirrors renames step
  have shown : ((session.rename ρ).step step).session.owned =
      (session.stepInPlace step).session.owned := congrArg (·.2.2) mirrors.shown
  rw [← shown, owned_session_step, owned_rename]

/-- Steps answer, and tell, as if every name and every place of an operator had a tensor of its own,
but for what the answers say of sharing. They show the same when a tensor is changed in place where
nobody shares it, and either way a touch changes one thing that is held and no other. -/
theorem sharing_unseen (register : Register) (steps : List Step) :
    let start : Session := { register }
    let owned : Owned := { register }
    (start.run steps).map (fun reply => (reply.answer.erase, reply.log)) =
        (owned.run steps).map (fun reply => (reply.answer, reply.log)) ∧
      (start.runInPlace steps).map (fun reply => (reply.answer, reply.log)) =
        (start.run steps).map (fun reply => (reply.answer, reply.log)) ∧
      (∀ (before : Session) (id destOp : String),
        (∀ position, before.owned.TouchesInput
          (before.step (.touchInput id position destOp)).session.owned id position destOp) ∧
        before.owned.TouchesTensor (before.step (.touchTensor id destOp)).session.owned id destOp) ∧
      ∀ before ∈ start :: (start.runInPlace steps).map (·.session), ∀ id destOp,
        (∀ position, before.owned.TouchesInput
          (before.stepInPlace (.touchInput id position destOp)).session.owned id position destOp) ∧
        before.owned.TouchesTensor (before.stepInPlace (.touchTensor id destOp)).session.owned
          id destOp := by
  intro start owned
  have renames : Renaming id start := renaming_start register
  have begins : start.owned = owned := rfl
  have unrenamed : start.rename id = start := rfl
  refine ⟨?_, ?_, ?_, ?_⟩
  · rw [← begins, ← start.owned_run, List.map_map]
    rfl
  · have shown := shown_runInPlace renames steps
    rw [unrenamed] at shown
    have told := congrArg (List.map fun shown => (shown.1, shown.2.1)) shown
    rw [List.map_map, List.map_map] at told
    exact told
  · intro before id destOp
    constructor
    · intro position
      rw [owned_session_step]
      exact before.owned.step_touchInput id position destOp
    · rw [owned_session_step]
      exact before.owned.step_touchTensor id destOp
  · intro before reached id destOp
    have renames' : ∃ ρ, Renaming ρ before := by
      rcases List.mem_cons.mp reached with rfl | later
      · exact ⟨_, renames⟩
      · obtain ⟨reply, member, rfl⟩ := List.mem_map.mp later
        exact renaming_runInPlace renames steps reply member
    obtain ⟨ρ, renames'⟩ := renames'
    constructor
    · intro position
      rw [owned_session_stepInPlace renames']
      exact before.owned.step_touchInput id position destOp
    · rw [owned_session_stepInPlace renames']
      exact before.owned.step_touchTensor id destOp

end Session
end NodeLowering

import NodeLowering.Proofs.Session.Outcome

/-! Extraction from a TensorFlow node severs an operator from the stored tensors: its input gets a
handle of its own. No later step shares it with a stored tensor again, for names are only ever given
fresh handles. -/
namespace NodeLowering.Session
variable {session : Session} {step : Step} {severed : List String}

/-- The operators that are severed after a step that succeeds: those that it extracts from a
TensorFlow node and copies of severed ones, and else those that were and that it does not replace by
another operator. -/
def Step.severedBy (severed : List String) : Step → List String
  | extract id node | extractWith _ id node =>
      if node.isTensorFlow then id :: severed else severed
  | lower id node _ => if node.isTensorFlow then id :: severed else severed.filter (· ≠ id)
  | newOperator id _ => severed.filter (· ≠ id)
  | copyOperator id target =>
      if id ∈ severed then target :: severed else severed.filter (· ≠ target)
  | _ => severed

/-- The operators that are severed after a step with an answer. -/
def Answer.severedBy (answer : Answer) (step : Step) (severed : List String) : List String :=
  if answer.succeeded then step.severedBy severed else severed

/-- The sessions that steps lead to from the start, with the operators that are severed then. -/
inductive Reached (register : Register) : Session → List String → Prop
  | start : Reached register { register } []
  | next {session : Session} {severed : List String} {step : Step} {reply : Reply}
      (reached : Reached register session severed) (answers : session.Answers step reply) :
      Reached register reply.session (reply.answer.severedBy step severed)

/-- No stored tensor is held by the handle of an input. -/
def Apart (session : Session) (op : Operator Handle) : Prop :=
  ∀ name stored, session.tensors.find? name = some stored →
    ∀ input ∈ op.inputs, stored.id ≠ input.id

/-- The inputs of the operator have got handles that nothing held before and no output holds, and
other operators and the stored tensors are as before. -/
structure Severing (before after : Session) (id : String) : Prop where
  tensors : after.tensors = before.tensors
  others : ∀ other, other ≠ id → after.operators.find? other = before.operators.find? other
  inputs : ∃ op, after.operators.find? id = some op ∧ op.inputs.length ≤ 1 ∧
    ∀ input ∈ op.inputs, (∀ held ∈ before.handles, held.id ≠ input.id) ∧
      ∀ output ∈ op.outputs, output.id ≠ input.id

/-- The severed operators are stored, and their inputs are apart from the stored tensors. -/
structure Parted (session : Session) (severed : List String) : Prop where
  below : Below session.handles session.supply
  apart : ∀ id ∈ severed, ∃ op, session.operators.find? id = some op ∧ session.Apart op

theorem mem_tensors_below (below : Below session.handles session.supply) {name : String}
    {stored : Handle} (found : session.tensors.find? name = some stored) :
    stored.id < session.supply :=
  below stored (mem_handles.mpr (.inl ⟨name, found⟩))

theorem Apart.sharedWith?_eq_none {op : Operator Handle} (apart : session.Apart op)
    {input : Handle} (member : input ∈ op.inputs) : session.sharedWith? input = none := by
  rw [sharedWith?, Option.map_eq_none_iff, List.find?_eq_none]
  rintro ⟨name, stored⟩ listed same
  exact apart name stored (KeyMap.mem_toList.mp listed) input member (beq_iff_eq.mp same)

theorem Apart.of_severed (below : Below session.handles session.supply) {op : Operator Handle}
    (severed : op.Severed session.supply) : session.Apart op := by
  intro name stored found input member
  have small := mem_tensors_below below found
  have fresh := severed.fresh input member
  omega

theorem Apart.of_inputsFrom (below : Below session.handles session.supply) {source : String}
    {old op : Operator Handle} (found : session.operators.find? source = some old)
    (apart : session.Apart old) (inputs : session.InputsFrom source op) : session.Apart op := by
  obtain ⟨old', found', origin⟩ := inputs
  obtain rfl := Option.some.inj (found.symm.trans found')
  intro name stored known input member
  rcases origin input member with kept | fresh
  · exact apart name stored known input kept
  · have small := mem_tensors_below below known
    omega

/-! Each outcome keeps severed operators apart -/

theorem Parted.storeTensor (parted : session.Parted severed) (id : String) (tensor : Tensor) :
    (session.storeTensor id tensor).Parted severed where
  below := (storeTensor_grows parted.below id tensor).below parted.below
  apart := by
    intro other member
    obtain ⟨op, found, apart⟩ := parted.apart other member
    refine ⟨op, found, ?_⟩
    intro name stored known input member'
    rw [Session.storeTensor, KeyMap.find?_insert] at known
    split at known
    · obtain rfl := Option.some.inj known
      have held := operator_held found input (List.mem_append_left _ member')
      exact (Nat.ne_of_lt (parted.below input held)).symm
    · exact apart name stored known input member'

theorem Parted.stored (parted : session.Parted severed) {op : Operator Handle} {left : Nat}
    (grows : Grows session.handles session.supply op.handles left) {id : String}
    {severed' : List String} (own : id ∈ severed' → session.Apart op)
    (others : ∀ other ∈ severed', other ≠ id → other ∈ severed) :
    (session.stored left id op).Parted severed' where
  below := (stored_grows parted.below grows id).below parted.below
  apart := by
    intro other member
    by_cases same : other = id
    · subst same
      exact ⟨op, (find?_stored _ _ _ _ _).trans (if_pos rfl), own member⟩
    · obtain ⟨kept, found, apart⟩ := parted.apart other (others other member same)
      exact ⟨kept, (find?_stored _ _ _ _ _).trans ((if_neg same).trans found), apart⟩

theorem lead_id (id : Nat) (tensor : Tensor) (handle : Handle) :
    (lead id tensor handle).id = handle.id := by
  rw [lead]
  split
  · next same => exact same.symm
  · rfl

/-- What is changed in place is found behind the same handles. -/
theorem Parted.overwrite (parted : session.Parted severed) (id : Nat) (tensor : Tensor) :
    (session.overwrite id tensor).Parted severed where
  below := by
    intro handle member
    rw [handles_overwrite] at member
    obtain ⟨old, held, rfl⟩ := List.mem_map.mp member
    rw [lead_id]
    exact parted.below old held
  apart := by
    intro other member
    obtain ⟨op, found, apart⟩ := parted.apart other member
    refine ⟨op.map (lead id tensor), find?_overwrite found id tensor, ?_⟩
    intro name stored known input member'
    obtain ⟨old, known', rfl⟩ := Option.map_eq_some_iff.mp
      ((KeyMap.find?_map _ _ _).symm.trans known)
    obtain ⟨input', member'', rfl⟩ := List.mem_map.mp member'
    rw [lead_id, lead_id]
    exact apart name old known' input' member''

theorem Step.severedBy_of_target (target : step.target? = none) :
    step.severedBy severed = severed := by
  cases step with
  | newOperator | extract | extractWith | lower | copyOperator | touchInput => cases target
  | tensor | const | register | unregister | touchTensor | showOperator | showTensor
  | equalOperators | equalTensors => rfl

theorem Step.severedBy_of_touches (touches : step.touches = true) :
    step.severedBy severed = severed := by
  cases step with
  | touchInput | touchTensor => rfl
  | tensor | const | register | unregister | newOperator | extract | extractWith | lower
  | copyOperator | showOperator | showTensor | equalOperators | equalTensors => cases touches

theorem Step.mem_of_mem_severedBy {id other : String} (target : step.target? = some id)
    (different : other ≠ id) (member : other ∈ step.severedBy severed) : other ∈ severed := by
  cases step with
  | extract | extractWith | lower | newOperator | copyOperator | touchInput =>
    obtain rfl := Option.some.inj target
    simp only [severedBy] at member
    grind
  | tensor | const | register | unregister | touchTensor | showOperator | showTensor
  | equalOperators | equalTensors => cases target

/-- The operator that a step stores is apart from the stored tensors if it counts as severed. -/
theorem Parted.leaves_apart (parted : session.Parted severed) {id : String} {op : Operator Handle}
    (target : step.target? = some id) (leaves : step.Leaves session op)
    (member : id ∈ step.severedBy severed) : session.Apart op := by
  have inherited : ∀ source, source ∈ severed → session.InputsFrom source op →
      session.Apart op := by
    intro source before inputs
    obtain ⟨old, found, apart⟩ := parted.apart source before
    exact Apart.of_inputsFrom parted.below found apart inputs
  cases step with
  | extract id' node | extractWith _ id' node =>
    obtain rfl : id' = id := Option.some.inj target
    simp only [Step.Leaves, Step.severedBy] at leaves member
    split at leaves
    · exact Apart.of_severed parted.below leaves
    · next other =>
      rw [if_neg other] at member
      exact inherited id' member leaves
  | lower id' node _ =>
    obtain rfl : id' = id := Option.some.inj target
    simp only [Step.severedBy] at member
    split at member
    · next kind => exact Apart.of_severed parted.below (leaves kind)
    · simp at member
  | newOperator id' _ =>
    obtain rfl : id' = id := Option.some.inj target
    simp [Step.severedBy] at member
  | copyOperator source id' =>
    obtain rfl : id' = id := Option.some.inj target
    simp only [Step.severedBy] at member
    split at member
    · next before => exact inherited source before leaves
    · simp at member
  | touchInput id' _ _ =>
    obtain rfl : id' = id := Option.some.inj target
    exact inherited id' member leaves
  | tensor | const | register | unregister | touchTensor | showOperator | showTensor
  | equalOperators | equalTensors => cases target

theorem Parted.next (parted : session.Parted severed) {reply : Reply}
    (outcome : Outcome session step reply) :
    reply.session.Parted (reply.answer.severedBy step severed) := by
  rw [Answer.severedBy]
  cases outcome with
  | failed failed _ same =>
    rw [failed, same]
    exact parted
  | kept succeeded target _ tensors operators supply =>
    rw [succeeded, if_pos rfl, Step.severedBy_of_target target]
    obtain ⟨below, apart⟩ := parted
    constructor
    · rwa [handles, tensors, operators, supply]
    · intro id member
      obtain ⟨op, found, own⟩ := apart id member
      rw [← operators] at found
      refine ⟨op, found, ?_⟩
      intro name stored known
      rw [tensors] at known
      exact own name stored known
  | tensor succeeded target _ id tensor stored =>
    rw [succeeded, if_pos rfl, Step.severedBy_of_target target, stored]
    exact parted.storeTensor id tensor
  | operator succeeded id op left target made stored =>
    obtain ⟨grows, leaves⟩ := made parted.below
    rw [succeeded, if_pos rfl, stored]
    apply parted.stored grows
    · exact parted.leaves_apart target leaves
    · intro other member different
      exact Step.mem_of_mem_severedBy target different member
  | overwritten succeeded touches id tensor changed =>
    rw [succeeded, if_pos rfl, Step.severedBy_of_touches touches, changed]
    exact parted.overwrite id tensor

theorem Reached.parted {register : Register} (reached : Reached register session severed) :
    session.Parted severed := by
  induction reached with
  | start => exact ⟨nofun, nofun⟩
  | next _ answers ih => exact ih.next answers.outcome

/-! What the step that severs does -/

theorem Step.Severs.exists_node {id : String} (severs : step.Severs id) :
    ∃ node : SuppliedNode, node.isTensorFlow = true ∧
      (step = .extract id node ∨ (∃ extractor, step = .extractWith extractor id node) ∨
        ∃ names, step = .lower id node names) := by
  cases step with
  | extract other node =>
    obtain ⟨rfl, kind⟩ := severs
    exact ⟨node, kind, .inl rfl⟩
  | extractWith extractor other node =>
    obtain ⟨rfl, kind⟩ := severs
    exact ⟨node, kind, .inr (.inl ⟨extractor, rfl⟩)⟩
  | lower other node names =>
    obtain ⟨rfl, kind⟩ := severs
    exact ⟨node, kind, .inr (.inr ⟨names, rfl⟩)⟩
  | tensor | const | register | unregister | newOperator | copyOperator | touchInput
  | touchTensor | showOperator | showTensor | equalOperators | equalTensors => cases severs

theorem Step.Severs.target {id : String} (severs : step.Severs id) : step.target? = some id := by
  obtain ⟨node, _, rfl | ⟨extractor, rfl⟩ | ⟨names, rfl⟩⟩ := severs.exists_node
  all_goals rfl

theorem Step.Severs.not_touches {id : String} (severs : step.Severs id) :
    step.touches = false := by
  obtain ⟨node, _, rfl | ⟨extractor, rfl⟩ | ⟨names, rfl⟩⟩ := severs.exists_node
  all_goals rfl

theorem Step.Severs.leaves {id : String} (severs : step.Severs id) {op : Operator Handle}
    (leaves : step.Leaves session op) : op.Severed session.supply := by
  obtain ⟨node, kind, rfl | ⟨extractor, rfl⟩ | ⟨names, rfl⟩⟩ := severs.exists_node
  · rwa [Leaves, if_pos kind] at leaves
  · rwa [Leaves, if_pos kind] at leaves
  · exact leaves kind

theorem Step.Severs.mem_severedBy {id : String} (severs : step.Severs id)
    (severed : List String) : id ∈ step.severedBy severed := by
  obtain ⟨node, kind, rfl | ⟨extractor, rfl⟩ | ⟨names, rfl⟩⟩ := severs.exists_node
  all_goals
    rw [severedBy, if_pos kind]
    exact List.mem_cons_self

theorem Outcome.severing (below : Below session.handles session.supply) {id : String}
    {reply : Reply} (outcome : Outcome session step reply) (severs : step.Severs id)
    (done : reply.answer.succeeded = true) : Severing session reply.session id := by
  cases outcome with
  | failed failed => cases done.symm.trans failed
  | kept _ target | tensor _ target => cases target.symm.trans severs.target
  | overwritten _ touches => cases touches.symm.trans severs.not_touches
  | operator _ id' op left target made stored =>
    obtain rfl : id' = id := Option.some.inj (target.symm.trans severs.target)
    have severed := severs.leaves (made below).2
    rw [stored]
    constructor
    · rfl
    · intro other different
      rw [find?_stored, if_neg different]
    · refine ⟨op, (find?_stored _ _ _ _ _).trans (if_pos rfl), severed.single, ?_⟩
      intro input member
      refine ⟨?_, severed.apart input member⟩
      intro held member'
      have small := below held member'
      have fresh := severed.fresh input member
      omega

/-- In every session that steps lead to, whether touched tensors are copied always or only where
they have other holders, no input of a severed operator is shared with a stored tensor. At the step
that severs it, moreover, the input gets a handle that nothing holds, and nothing else changes. -/
theorem severed_for_good {register : Register} (reached : Reached register session severed) :
    (∀ id ∈ severed, ∃ op, session.operators.find? id = some op ∧ session.Apart op ∧
      ∀ shown ∈ (session.view op).inputs, shown.sharedWith = none) ∧
    ∀ (step : Step) (reply : Reply) (id : String), session.Answers step reply →
      step.Severs id → reply.answer.succeeded = true →
        Severing session reply.session id ∧
        id ∈ reply.answer.severedBy step severed := by
  have parted := reached.parted
  constructor
  · intro id member
    obtain ⟨op, found, apart⟩ := parted.apart id member
    refine ⟨op, found, apart, ?_⟩
    intro shown listed
    obtain ⟨input, member', rfl⟩ := List.mem_map.mp listed
    exact apart.sharedWith?_eq_none member'
  · intro step reply id answers severs done
    refine ⟨answers.outcome.severing parted.below severs done, ?_⟩
    rw [Answer.severedBy, done, if_pos rfl]
    exact severs.mem_severedBy severed

/-- Both inputs are one stored tensor. When the operator has been extracted and copied, the input of
the copy is touched where it has another holder, and the stored tensor where it has none: the copy
stays severed. -/
theorem severed_for_good_copied :
    let start : Session := { register := .full }
    let stored := start.step (.tensor "x" { name := "logits" })
    let made := stored.session.step (.newOperator "a" { opType := "Softmax", inputs := ["x", "x"] })
    let extracted := made.session.step (.extract "a" (.tensorflow (.given {})))
    let copied := extracted.session.step (.copyOperator "a" "b")
    let touched := copied.session.stepInPlace (.touchInput "b" 0 "y")
    let last := touched.session.stepInPlace (.touchTensor "x" "z")
    Severing made.session extracted.session "a" ∧
      ∃ op, last.session.operators.find? "b" = some op ∧ last.session.Apart op ∧
        op.inputs.length = 1 := by
  intro start stored made extracted copied touched last
  have first : Reached .full start [] := .start
  have before := (first.next (.inl rfl : start.Answers _ stored)).next
    (.inl rfl : stored.session.Answers _ made)
  have severed := (before.next (.inl rfl : made.session.Answers _ extracted)).next
    (.inl rfl : extracted.session.Answers _ copied)
  have after := (severed.next (.inr rfl : copied.session.Answers _ touched)).next
    (.inr rfl : touched.session.Answers _ last)
  have done : extracted.answer.succeeded = true := by decide +kernel
  obtain ⟨op, found, apart, _⟩ := (severed_for_good after).1 "b" (by decide +kernel)
  have single : (last.session.operators.find? "b").map (·.inputs.length) = some 1 := by
    decide +kernel
  rw [found] at single
  exact ⟨((severed_for_good before).2 _ extracted "a" (.inl rfl) ⟨rfl, rfl⟩ done).1, op, found,
    apart, Option.some.inj single⟩

end NodeLowering.Session

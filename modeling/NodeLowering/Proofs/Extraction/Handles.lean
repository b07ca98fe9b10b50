import Mathlib.Data.List.Nodup
import NodeLowering.Proofs.Extraction.Effect

/-! What work does to handles. It does the same to handles that are called by other ids, and the
handles that it leaves were there before or are fresh. -/
namespace NodeLowering

def Handle.rename (ρ : Nat → Nat) (handle : Handle) : Handle := { handle with id := ρ handle.id }

/-- Ids from `supply` on are renamed to ids that follow each other as well. -/
def Continues (ρ : Nat → Nat) (supply : Nat) : Prop := ∀ k, ρ (supply + k) = ρ supply + k

theorem Continues.add {ρ : Nat → Nat} {supply : Nat} (continues : Continues ρ supply) (k : Nat) :
    Continues ρ (supply + k) := by
  intro l
  rw [Nat.add_assoc, continues, continues, Nat.add_assoc]

namespace Operator

def handles (op : Operator Handle) : List Handle := op.inputs ++ op.outputs

def setInput (op : Operator Handle) (position : Nat) (handle : Handle) : Operator Handle :=
  { op with inputs := op.inputs.set position handle }

theorem contents_rename (ρ : Nat → Nat) (op : Operator Handle) :
    (op.map (Handle.rename ρ)).contents = op.contents := by
  simp only [contents, map, List.map_map]
  rfl

end Operator

def Held.rename (ρ : Nat → Nat) (held : Held) : Held where
  handles := held.handles.map (Handle.rename ρ)
  supply := ρ held.supply

def Workspace.rename (ρ : Nat → Nat) (w : Workspace) : Workspace where
  operator := w.operator.map (Handle.rename ρ)
  supply := ρ w.supply
  log := w.log

variable {ρ : Nat → Nat}

theorem Softmax.held_rename {supply : Nat} (continues : Continues ρ supply) (node : SourceNode)
    (inputs : List Handle) :
    held (ρ supply) node (inputs.map (Handle.rename ρ)) = (held supply node inputs).rename ρ := by
  cases node with
  | tensorflow node =>
    cases inputs with
    | nil => rfl
    | cons data rest => exact congrArg (Held.mk _) (continues 1).symm
  | onnx node => rfl
  | unsupported framework => rfl

theorem Extractor.held_rename (extractor : Extractor) {supply : Nat}
    (continues : Continues ρ supply) (node : SourceNode) (inputs : List Handle) :
    extractor.held (ρ supply) node (inputs.map (Handle.rename ρ)) =
      (extractor.held supply node inputs).rename ρ := by
  cases extractor with
  | softmax => exact Softmax.held_rename continues node inputs

theorem Extractor.run_rename (extractor : Extractor) (node : SourceNode) {w : Workspace}
    (continues : Continues ρ w.supply) :
    (extractor.run node).run.run (w.rename ρ) =
      (((extractor.run node).run.run w).1, ((extractor.run node).run.run w).2.rename ρ) := by
  have contents : (w.rename ρ).operator.contents = w.operator.contents :=
    w.operator.contents_rename ρ
  have held : extractor.held (w.rename ρ).supply node (w.rename ρ).operator.inputs = _ :=
    extractor.held_rename continues node w.operator.inputs
  rw [run_run, run_run, contents, held]
  rfl

namespace Register

theorem held_rename (register : Register) (opType : String) {supply : Nat}
    (continues : Continues ρ supply) (node : SourceNode) (inputs : List Handle) :
    register.held opType (ρ supply) node (inputs.map (Handle.rename ρ)) =
      (register.held opType supply node inputs).rename ρ := by
  rw [held, held]
  cases register.find? opType with
  | none => rfl
  | some extractor => exact extractor.held_rename continues node inputs

theorem extract_rename (register : Register) (node : SourceNode) {w : Workspace}
    (continues : Continues ρ w.supply) :
    (register.extract node).run.run (w.rename ρ) =
      (((register.extract node).run.run w).1, ((register.extract node).run.run w).2.rename ρ) := by
  have contents : (w.rename ρ).operator.contents = w.operator.contents :=
    w.operator.contents_rename ρ
  have held : register.held (w.rename ρ).operator.opType (w.rename ρ).supply node
      (w.rename ρ).operator.inputs = _ :=
    register.held_rename w.operator.opType continues node w.operator.inputs
  rw [run_extract, run_extract, contents, held]
  rfl

end Register

theorem Working.number_rename {supply : Nat} (continues : Continues ρ supply)
    (tensors : List Tensor) :
    number (ρ supply) tensors = (number supply tensors).map (Handle.rename ρ) := by
  induction tensors generalizing supply with
  | nil => rfl
  | cons first rest ih =>
    have later := ih (continues.add 1)
    rw [continues 1] at later
    rw [number, number, later]
    rfl

theorem Signature.make_rename (signature : Signature) (inputs : List Handle) {w : Workspace}
    (continues : Continues ρ w.supply) :
    signature.make (inputs.map (Handle.rename ρ)) (w.rename ρ) =
      (signature.make inputs w).rename ρ := by
  have outputs : Working.number (w.rename ρ).supply signature.tensors = _ :=
    Working.number_rename continues signature.tensors
  have supply : (w.rename ρ).supply + signature.outputs.length =
      ρ (w.supply + signature.outputs.length) := (continues _).symm
  simp only [make, outputs, supply, List.map_map]
  rfl

theorem Register.lower_rename (register : Register) (node : SourceNode) (inputs : List Handle)
    {w : Workspace} (continues : Continues ρ w.supply) :
    (register.lower node (inputs.map (Handle.rename ρ))).run.run (w.rename ρ) =
      (((register.lower node inputs).run.run w).1,
        ((register.lower node inputs).run.run w).2.rename ρ) := by
  cases signed : node.signature with
  | error reason => rw [run_lower_error signed, run_lower_error signed]
  | ok signature =>
    rw [run_lower_ok signed, run_lower_ok signed, signature.make_rename inputs continues]
    exact register.extract_rename node (continues.add signature.outputs.length)

/-- Handles with ids below a supply. -/
def Below (handles : List Handle) (supply : Nat) : Prop := ∀ handle ∈ handles, handle.id < supply

/-- Later handles are earlier ones or have been taken from the supply, no id twice. -/
structure Grows (earlier : List Handle) (supply : Nat) (later : List Handle) (left : Nat) :
    Prop where
  onward : supply ≤ left
  origin : ∀ handle ∈ later, handle ∈ earlier ∨ supply ≤ handle.id ∧ handle.id < left
  distinct : ∀ first ∈ later, ∀ second ∈ later, supply ≤ first.id → first.id = second.id →
    first = second

namespace Grows
variable {earlier middle later : List Handle} {supply between left : Nat}

theorem below (grows : Grows earlier supply later left) (before : Below earlier supply) :
    Below later left := by
  intro handle member
  rcases grows.origin handle member with old | ⟨_, fresh⟩
  · exact Nat.lt_of_lt_of_le (before handle old) grows.onward
  · exact fresh

theorem of_subset (before : Below earlier supply) (subset : ∀ handle ∈ later, handle ∈ earlier) :
    Grows earlier supply later supply where
  onward := Nat.le_refl supply
  origin handle member := .inl (subset handle member)
  distinct first member _ _ fresh _ := by
    have old := before first (subset first member)
    omega

/-- Only one handle has been taken. -/
theorem of_fresh (tensor : Tensor) (before : Below earlier supply)
    (origin : ∀ handle ∈ later, handle ∈ earlier ∨ handle = ⟨supply, tensor⟩) :
    Grows earlier supply later (supply + 1) := by
  have taken : ∀ handle ∈ later, supply ≤ handle.id → handle = ⟨supply, tensor⟩ := by
    intro handle member bound
    rcases origin handle member with old | same
    · have := before handle old
      omega
    · exact same
  constructor
  · exact Nat.le_succ supply
  · intro handle member
    rcases origin handle member with old | rfl
    · exact .inl old
    · exact .inr ⟨Nat.le_refl supply, Nat.lt_succ_self supply⟩
  · intro first member second member' bound same
    rw [taken first member bound, taken second member' (same ▸ bound)]

theorem widen {wider : List Handle} (grows : Grows earlier supply later left)
    (subset : ∀ handle ∈ earlier, handle ∈ wider) : Grows wider supply later left where
  onward := grows.onward
  origin handle member := (grows.origin handle member).imp (subset handle) id
  distinct := grows.distinct

theorem trans (first : Grows earlier supply middle between)
    (second : Grows middle between later left) : Grows earlier supply later left := by
  have kept : ∀ handle ∈ later, handle.id < between → handle ∈ middle := by
    intro handle member old
    rcases second.origin handle member with kept | ⟨fresh, _⟩
    · exact kept
    · omega
  constructor
  · exact Nat.le_trans first.onward second.onward
  · intro handle member
    rcases second.origin handle member with old | ⟨fresh, bound⟩
    · rcases first.origin handle old with older | ⟨fresh, bound⟩
      · exact .inl older
      · exact .inr ⟨fresh, Nat.lt_of_lt_of_le bound second.onward⟩
    · exact .inr ⟨Nat.le_trans first.onward fresh, bound⟩
  · intro one member other member' fresh same
    by_cases old : one.id < between
    · exact first.distinct one (kept one member old) other (kept other member' (same ▸ old))
        fresh same
    · exact second.distinct one member other member' (by omega) same

end Grows

theorem Working.ids_number (supply : Nat) (tensors : List Tensor) :
    (number supply tensors).map (·.id) = List.range' supply tensors.length := by
  induction tensors generalizing supply with
  | nil => rfl
  | cons first rest ih =>
    rw [number, List.map_cons, ih]
    rfl

theorem Working.mem_number {supply : Nat} {tensors : List Tensor} {handle : Handle}
    (member : handle ∈ number supply tensors) :
    supply ≤ handle.id ∧ handle.id < supply + tensors.length := by
  have listed : handle.id ∈ List.range' supply tensors.length :=
    ids_number supply tensors ▸ List.mem_map_of_mem member
  exact List.mem_range'_1.mp listed

theorem Working.number_nodup (supply : Nat) (tensors : List Tensor) :
    ((number supply tensors).map (·.id)).Nodup := by
  rw [ids_number]
  exact List.nodup_range'

theorem Softmax.held_grows (node : SourceNode) {supply : Nat} {inputs outputs : List Handle}
    (below : Below (inputs ++ outputs) supply) :
    Grows (inputs ++ outputs) supply ((held supply node inputs).handles ++ outputs)
      (held supply node inputs).supply := by
  cases node with
  | tensorflow node =>
    cases inputs with
    | nil => exact .of_subset below fun _ => id
    | cons data rest =>
      apply Grows.of_fresh data.tensor below
      intro handle member
      rcases List.mem_cons.mp member with rfl | output
      · exact .inr rfl
      · exact .inl (List.mem_append_right _ output)
  | onnx node => exact .of_subset below fun _ => id
  | unsupported framework => exact .of_subset below fun _ => id

theorem Extractor.held_grows (extractor : Extractor) (node : SourceNode) {supply : Nat}
    {inputs outputs : List Handle} (below : Below (inputs ++ outputs) supply) :
    Grows (inputs ++ outputs) supply ((extractor.held supply node inputs).handles ++ outputs)
      (extractor.held supply node inputs).supply := by
  cases extractor with
  | softmax => exact Softmax.held_grows node below

theorem Extractor.run_grows (extractor : Extractor) (node : SourceNode) {w : Workspace}
    (below : Below w.operator.handles w.supply) :
    Grows w.operator.handles w.supply ((extractor.run node).run.run w).2.operator.handles
      ((extractor.run node).run.run w).2.supply := by
  rw [run_run]
  exact extractor.held_grows node below

theorem Register.extract_grows (register : Register) (node : SourceNode) {w : Workspace}
    (below : Below w.operator.handles w.supply) :
    Grows w.operator.handles w.supply ((register.extract node).run.run w).2.operator.handles
      ((register.extract node).run.run w).2.supply := by
  rw [run_extract, Workspace.after, held]
  cases register.find? w.operator.opType with
  | none => exact .of_subset below fun _ => id
  | some extractor => exact extractor.held_grows node below

/-- Work that does the same whatever the handles are called, and whose only other handles are of its
own making. -/
structure Confined {ε : Type} (work : Working ε Unit) : Prop where
  rename : ∀ {ρ : Nat → Nat} {w : Workspace}, Continues ρ w.supply →
    work.run.run (w.rename ρ) = ((work.run.run w).1, (work.run.run w).2.rename ρ)
  grows : ∀ {w : Workspace}, Below w.operator.handles w.supply →
    Grows w.operator.handles w.supply (work.run.run w).2.operator.handles (work.run.run w).2.supply

theorem Extractor.run_confined (extractor : Extractor) (node : SourceNode) :
    Confined (extractor.run node) :=
  ⟨extractor.run_rename node, extractor.run_grows node⟩

theorem Register.extract_confined (register : Register) (node : SourceNode) :
    Confined (register.extract node) :=
  ⟨register.extract_rename node, register.extract_grows node⟩

theorem Signature.make_grows (signature : Signature) {inputs : List Handle} {w : Workspace}
    (below : Below inputs w.supply) :
    Grows inputs w.supply (signature.make inputs w).operator.handles
      (signature.make inputs w).supply := by
  have length : signature.tensors.length = signature.outputs.length := List.length_map _
  have numbered : ∀ handle ∈ Working.number w.supply signature.tensors,
      w.supply ≤ handle.id ∧ handle.id < w.supply + signature.outputs.length :=
    fun handle member => length ▸ Working.mem_number member
  have fresh : ∀ handle ∈ inputs ++ Working.number w.supply signature.tensors,
      w.supply ≤ handle.id → handle ∈ Working.number w.supply signature.tensors := by
    intro handle member bound
    rcases List.mem_append.mp member with old | fresh
    · have := below handle old
      omega
    · exact fresh
  constructor
  · exact Nat.le_add_right _ _
  · intro handle member
    exact (List.mem_append.mp member).imp id (numbered handle)
  · intro first member second member' bound same
    exact List.inj_on_of_nodup_map (Working.number_nodup w.supply signature.tensors)
      (fresh first member bound) (fresh second member' (same ▸ bound)) same

/-- The operator of a node holds inputs that were given and fresh handles. -/
theorem Register.lower_grows (register : Register) (node : SourceNode) {inputs : List Handle}
    {w : Workspace} (below : Below inputs w.supply) (empty : w.operator.handles = []) :
    Grows inputs w.supply ((register.lower node inputs).run.run w).2.operator.handles
      ((register.lower node inputs).run.run w).2.supply := by
  cases signed : node.signature with
  | error reason =>
    rw [run_lower_error signed, empty]
    exact .of_subset below fun _ member => by contradiction
  | ok signature =>
    rw [run_lower_ok signed]
    have made := signature.make_grows below
    exact made.trans (register.extract_grows node (made.below below))

end NodeLowering

import Mathlib.Data.List.Sort
import NodeLowering.Proofs.Extraction.Refusal

/-! What a register lists after changes. The last change that has an effect on a name decides what
is found under it, and the names listed are those under which something is found. How the register
came to have them does not show: the list is what sorting the names gives, in whatever order they
come. -/
namespace NodeLowering

namespace Utf8

/-- The order in which names are sorted. -/
def atMost (s t : String) : Bool := !decide (Before t s)

theorem atMost_iff {s t : String} : atMost s t = true ↔ ¬ Before t s := by
  simp [atMost]

theorem atMost_trans (s t u : String) :
    atMost s t = true → atMost t u = true → atMost s u = true := by
  rw [atMost_iff, atMost_iff, atMost_iff]
  exact List.le_trans

theorem atMost_total (s t : String) : (atMost s t || atMost t s) = true := by
  rw [Bool.or_eq_true, atMost_iff, atMost_iff]
  exact List.le_total (bytes s) (bytes t)

instance : Std.Irrefl Before := ⟨Before.irrefl⟩

instance : Std.Antisymm Before := ⟨fun s _ st ts => absurd (st.trans ts) (Before.irrefl s)⟩

/-- Names in strictly ascending order are determined by which names they are. -/
theorem eq_of_ascending {names others : List String} (ascending : names.Pairwise Before)
    (ascending' : others.Pairwise Before) (same : ∀ name, name ∈ names ↔ name ∈ others) :
    names = others :=
  ascending.eq_of_mem_iff ascending' same

theorem mergeSort_ascending {names : List String} (nodup : names.Nodup) :
    (names.mergeSort atMost).Pairwise Before := by
  have sorted : (names.mergeSort atMost).Pairwise fun s t => atMost s t = true :=
    List.pairwise_mergeSort atMost_trans atMost_total names
  have distinct := (names.mergeSort_perm atMost).nodup_iff.mpr nodup
  refine sorted.imp₂ (fun s t le different => ?_) distinct
  by_contra notBefore
  exact atMost_iff.mp le (Before.total different notBefore)

end Utf8

namespace Register

inductive Change where
  | insert (name : String) (extractor : Extractor)
  /-- Inserts the extractor that is found under another name, if one is found. -/
  | insertFound (name source : String)
  | remove (name : String)

def change (register : Register) : Change → Register
  | .insert name extractor => KeyMap.insert register name extractor
  | .insertFound name source =>
      match register.find? source with
      | some extractor => KeyMap.insert register name extractor
      | none => register
  | .remove name => register.erase name

/-- The register after changes one after the other. -/
def after (register : Register) (changes : List Change) : Register := changes.foldl change register

@[simp] theorem after_nil (register : Register) : register.after [] = register := rfl

theorem after_append (register : Register) (changes later : List Change) :
    register.after (changes ++ later) = (register.after changes).after later :=
  List.foldl_append

theorem change_insertFound_of_some {register : Register} {name source : String}
    {extractor : Extractor} (found : register.find? source = some extractor) :
    register.change (.insertFound name source) = KeyMap.insert register name extractor := by
  rw [change, found]

theorem change_insertFound_of_none {register : Register} {name source : String}
    (found : register.find? source = none) :
    register.change (.insertFound name source) = register := by
  rw [change, found]

/-- What is found under a name because of a change, if the change has an effect on that name. -/
def effectOn? (register : Register) (name : String) : Change → Option (Option Extractor)
  | .insert changed extractor => if name = changed then some (some extractor) else none
  | .insertFound changed source =>
      if name = changed then (register.find? source).map some else none
  | .remove changed => if name = changed then some none else none

/-- What the changes that have an effect on a name make of it, in turn. -/
def effectsOn (register : Register) (name : String) : List Change → List (Option Extractor)
  | [] => []
  | change :: later =>
      (register.effectOn? name change).toList ++ (register.change change).effectsOn name later

theorem find?_change (register : Register) (change : Change) (name : String) :
    (register.change change).find? name =
      (register.effectOn? name change).getD (register.find? name) := by
  cases change with
  | insert changed extractor =>
    rw [Register.change, KeyMap.find?_insert, effectOn?]
    split <;> rfl
  | insertFound changed source =>
    simp only [Register.change, effectOn?]
    cases register.find? source with
    | none => simp only [Option.map_none, ite_self, Option.getD_none]
    | some extractor =>
      rw [KeyMap.find?_insert]
      split <;> rfl
  | remove changed =>
    rw [Register.change, KeyMap.find?_erase, effectOn?]
    split <;> rfl

/-- The last change that has an effect on a name decides what is found under it. -/
theorem find?_after (register : Register) (changes : List Change) (name : String) :
    (register.after changes).find? name =
      (register.effectsOn name changes).getLast?.getD (register.find? name) := by
  induction changes generalizing register with
  | nil => rfl
  | cons change later ih =>
    -- Which later changes have an effect depends on what the first one leaves.
    have rest : (register.after (change :: later)).find? name = _ := ih (register.change change)
    rw [rest, find?_change, effectsOn, List.getLast?_append]
    cases ((register.change change).effectsOn name later).getLast? with
    | some found => rfl
    | none => cases register.effectOn? name change <;> rfl

/-- Names without repetition under which something is found, in whatever order, are listed as
sorting them gives. -/
theorem mergeSort_names {register : Register} {names : List String} (nodup : names.Nodup)
    (found : ∀ name, name ∈ names ↔ (register.find? name).isSome) :
    names.mergeSort Utf8.atMost = register.keys := by
  apply Utf8.eq_of_ascending (Utf8.mergeSort_ascending nodup) register.keys_ascending
  intro name
  rw [List.mem_mergeSort, found, KeyMap.mem_keys]

theorem extract_unregistered_iff (register : Register) (node : SourceNode) (w : Workspace) :
    ((register.extract node).run.run w).1 = .error (.notRegistered w.operator.opType) ↔
      w.operator.opType ∉ register.keys := by
  have opType : w.operator.contents.opType = w.operator.opType := rfl
  rw [run_extract, KeyMap.mem_keys, effect, opType]
  cases register.find? w.operator.opType with
  | none => exact iff_of_true rfl Bool.false_ne_true
  | some extractor =>
    refine iff_of_false ?_ fun unlisted => unlisted rfl
    intro same
    dsimp only at same
    cases result : (extractor.effect node w.operator.contents).result with
    | ok _ | error _ =>
      rw [result] at same
      cases same

/-- Whatever changes a register has gone through, it lists in strictly ascending order of bytes the
names under which an extractor is found, each once. What is found under a name is what the last
change with an effect on it left there, or what was there to begin with. Extraction is refused
because of the type exactly for types that are not listed. Registers with the same names give the
same list and the same text, and the list is what sorting the names gives. -/
theorem after_lists (start : Register) (changes : List Change) :
    let register := start.after changes
    register.keys.Pairwise Utf8.Before ∧ register.keys.Nodup ∧
      (∀ name, (name ∈ register.keys ↔ (register.find? name).isSome) ∧
        register.find? name = (start.effectsOn name changes).getLast?.getD (start.find? name)) ∧
      (∀ names : List String, names.Nodup →
        (∀ name, name ∈ names ↔ (register.find? name).isSome) →
        names.mergeSort Utf8.atMost = register.keys) ∧
      (∀ (node : SourceNode) (w : Workspace),
        ((register.extract node).run.run w).1 = .error (.notRegistered w.operator.opType) ↔
          w.operator.opType ∉ register.keys) ∧
      ∀ (start' : Register) (changes' : List Change),
        (∀ name, name ∈ (start'.after changes').keys ↔ name ∈ register.keys) →
        (start'.after changes').keys = register.keys ∧
          (start'.after changes').text = register.text := by
  intro register
  refine ⟨register.keys_ascending, register.keys_nodup, ?_, ?_, ?_, ?_⟩
  · exact fun name => ⟨KeyMap.mem_keys, start.find?_after changes name⟩
  · exact fun names => mergeSort_names
  · exact register.extract_unregistered_iff
  · intro start' changes' same
    have keys : (start'.after changes').keys = register.keys :=
      Utf8.eq_of_ascending (start'.after changes').keys_ascending register.keys_ascending same
    exact ⟨keys, by rw [text, text, keys]⟩

/-- Names that do not sort by their units of 16 bits as they do by their bytes. The insertion under
"x" has no effect, since nothing is found under "Softmax" any more, and two plain insertions give
the same list. -/
theorem after_lists_astral :
    let changes : List Change :=
      [.insertFound "😀" "Softmax", .remove "Softmax", .insertFound "x" "Softmax",
        .insertFound "｡" "😀", .remove "SoftmaxGraph"]
    let others : List Change := [.insert "｡" .softmax, .insert "😀" .softmax]
    let register := full.after changes
    let other := after .empty others
    register.keys = ["｡", "😀"] ∧ register.find? "x" = none ∧
      (∀ name, name ∈ other.keys ↔ name ∈ register.keys) ∧ other.text = register.text ∧
      ["😀", "｡"].Nodup ∧ (∀ name, name ∈ ["😀", "｡"] ↔ (register.find? name).isSome) ∧
      ["😀", "｡"].mergeSort Utf8.atMost = register.keys := by
  intro changes others register other
  have listed : register.keys = ["｡", "😀"] := by decide +kernel
  have same : ∀ name, name ∈ other.keys ↔ name ∈ register.keys := by
    have keys : other.keys = register.keys := by decide +kernel
    exact fun name => by rw [keys]
  have absent : (full.effectsOn "x" changes).getLast?.getD (full.find? "x") = none := by
    decide +kernel
  have nodup : ["😀", "｡"].Nodup := by decide
  obtain ⟨-, -, found, sorted, -, alike⟩ := after_lists full changes
  have names : ∀ name, name ∈ ["😀", "｡"] ↔ (register.find? name).isSome := by
    intro name
    rw [← (found name).1, listed]
    simp [or_comm]
  exact ⟨listed, (found "x").2.trans absent, same, (alike .empty others same).2, nodup, names,
    sorted _ nodup names⟩

/-- The types that can be extracted to begin with. -/
example : full.keys = ["Softmax", "SoftmaxGraph"] := by decide +kernel

end Register

end NodeLowering

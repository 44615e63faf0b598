import Mathlib.Data.List.Forall2

/-!
# Traversing lists

Two lists of one length whose items at the same place are related, and what a
computation over the items of a list says about inputs and outputs.
-/

namespace PatchScript

section

variable {ε σ α β : Type} {first : EStateM ε σ α} {next : α → EStateM ε σ β} {before after : σ}

/-- Two computations in a row succeed only if both do. -/
theorem bind_eq_ok_iff {result : β} :
    (first >>= next) before = .ok result after ↔
      ∃ value middle, first before = .ok value middle ∧ next value middle = .ok result after := by
  simp only [bind, EStateM.bind]
  split
  · next value middle ran => simp [ran]
  · next ran => simp [ran]

theorem bind_of_ok {value : α} (ran : first before = .ok value after) :
    (first >>= next) before = next value after := by
  simp only [bind, EStateM.bind, ran]

theorem bind_of_error {fault : ε} (failed : first before = .error fault after) :
    (first >>= next) before = .error fault after := by
  simp only [bind, EStateM.bind, failed]

end

/-- Two results in a row are there only if both are. -/
theorem except_bind_eq_ok_iff {ε α β : Type} {first : Except ε α} {next : α → Except ε β}
    {result : β} :
    (first >>= next) = .ok result ↔ ∃ value, first = .ok value ∧ next value = .ok result := by
  simp only [bind, Except.bind]
  cases first <;> simp

/-- What holds of each computation for an item of a list holds of their values. -/
theorem forall₂_of_mapM_eq_ok {ε σ α β : Type} {f : α → EStateM ε σ β} {Related : α → β → Prop}
    (each : ∀ input output before after, f input before = .ok output after → Related input output)
    {inputs : List α} {outputs : List β} {before after : σ}
    (computed : inputs.mapM f before = .ok outputs after) :
    List.Forall₂ Related inputs outputs := by
  induction inputs generalizing outputs before after with
  | nil =>
    cases computed
    exact .nil
  | cons input inputs ih =>
    rw [List.mapM_cons] at computed
    obtain ⟨output, middle, first, computed⟩ := bind_eq_ok_iff.mp computed
    obtain ⟨others, final, rest, computed⟩ := bind_eq_ok_iff.mp computed
    cases computed
    exact .cons (each _ _ _ _ first) (ih rest)

variable {α β : Type} {inputs : List α} {outputs : List β}

section

variable {Related : α → β → Prop} (related : List.Forall₂ Related inputs outputs)
include related

theorem exists_input_of_mem {output : β} (member : output ∈ outputs) :
    ∃ input ∈ inputs, Related input output := by
  induction related with
  | nil => simp at member
  | cons first _ ih =>
    rcases List.mem_cons.mp member with rfl | later
    · exact ⟨_, List.mem_cons_self, first⟩
    · obtain ⟨input, isInput, found⟩ := ih later
      exact ⟨input, List.mem_cons_of_mem _ isInput, found⟩

theorem exists_output_of_mem {input : α} (member : input ∈ inputs) :
    ∃ output ∈ outputs, Related input output :=
  exists_input_of_mem related.flip member

end

theorem forall₂_imp_of_mem {Related Other : α → β → Prop}
    (related : List.Forall₂ Related inputs outputs)
    (implies : ∀ input ∈ inputs, ∀ output ∈ outputs, Related input output → Other input output) :
    List.Forall₂ Other inputs outputs := by
  induction related with
  | nil => exact .nil
  | cons first _ ih =>
    refine .cons (implies _ List.mem_cons_self _ List.mem_cons_self first) ?_
    refine ih fun input isInput output isOutput => ?_
    exact implies input (List.mem_cons_of_mem _ isInput) output (List.mem_cons_of_mem _ isOutput)

theorem exists_forall₂ {Related : α → β → Prop}
    (each : ∀ input ∈ inputs, ∃ output, Related input output) :
    ∃ outputs, List.Forall₂ Related inputs outputs := by
  induction inputs with
  | nil => exact ⟨[], .nil⟩
  | cons input inputs ih =>
    obtain ⟨output, first⟩ := each input List.mem_cons_self
    obtain ⟨others, later⟩ := ih fun other member => each other (List.mem_cons_of_mem _ member)
    exact ⟨output :: others, .cons first later⟩

/-- What holds of each pair from some number on holds of all from one number on. -/
theorem exists_common_bound (Related : Nat → α → β → Prop)
    (mono : ∀ fewer more input output,
      fewer ≤ more → Related fewer input output → Related more input output)
    (each : List.Forall₂ (fun input output => ∃ bound, Related bound input output) inputs outputs) :
    ∃ bound, List.Forall₂ (Related bound) inputs outputs := by
  induction each with
  | nil => exact ⟨0, .nil⟩
  | cons first _ ih =>
    obtain ⟨low, first⟩ := first
    obtain ⟨high, later⟩ := ih
    refine ⟨max low high, .cons ?_ (later.imp fun input output => ?_)⟩
    · exact mono _ _ _ _ (Nat.le_max_left ..) first
    · exact mono _ _ _ _ (Nat.le_max_right ..)

theorem map_eq_map_of_forall₂ {γ : Type} {first : α → γ} {second : β → γ}
    (same : List.Forall₂ (fun input output => second output = first input) inputs outputs) :
    outputs.map second = inputs.map first := by
  induction same with
  | nil => rfl
  | cons head _ ih => simp [head, ih]

theorem mapM_eq_some_iff {f : α → Option β} :
    inputs.mapM f = some outputs ↔
      List.Forall₂ (fun input output => f input = some output) inputs outputs := by
  induction inputs generalizing outputs with
  | nil => simp [eq_comm]
  | cons input inputs ih =>
    rw [List.mapM_cons]
    constructor
    · intro run
      obtain ⟨output, first, rest⟩ := Option.bind_eq_some_iff.mp run
      obtain ⟨others, later, same⟩ := Option.bind_eq_some_iff.mp rest
      cases same
      exact .cons first (ih.mp later)
    · rintro (_ | ⟨first, later⟩)
      simp [first, ih.mpr later]

theorem mapM_congr {f g : α → Option β} (same : ∀ input ∈ inputs, f input = g input) :
    inputs.mapM f = inputs.mapM g := by
  induction inputs with
  | nil => rfl
  | cons input inputs ih =>
    rw [List.mapM_cons, List.mapM_cons, same input List.mem_cons_self,
      ih fun other member => same other (List.mem_cons_of_mem _ member)]

/-- Computing the second components of pairs. -/
theorem mapM_second_eq_some_iff {γ : Type} {f : α → Option β} {inputs : List (γ × α)}
    {outputs : List (γ × β)} :
    (inputs.mapM fun input => (f input.2).map (input.1, ·)) = some outputs ↔
      List.Forall₂ (fun input output => input.1 = output.1 ∧ f input.2 = some output.2)
        inputs outputs := by
  have pairIff (input : γ × α) (output : γ × β) :
      (f input.2).map (input.1, ·) = some output ↔
        input.1 = output.1 ∧ f input.2 = some output.2 := by
    obtain ⟨key, value⟩ := output
    rw [Option.map_eq_some_iff]
    constructor
    · rintro ⟨found, isFound, same⟩
      cases same
      exact ⟨rfl, isFound⟩
    · rintro ⟨same, isFound⟩
      exact ⟨value, isFound, Prod.ext same rfl⟩
  simp only [mapM_eq_some_iff, pairIff]

end PatchScript

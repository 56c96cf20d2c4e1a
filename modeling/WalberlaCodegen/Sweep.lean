import WalberlaCodegen.PackInfo

/-!
# Sweeps

`generate_sweep` (`pystencils_walberla.codegen`) builds the configuration of a sweep's kernel
with `config_from_context`, creates the kernel from an assignment list, or takes a kernel AST
it is given, whose own target then replaces the target argument, and hands it as a one-kernel
selection tree to `generate_selective_sweep`. That one checks the target it is passed against
the kernels', returns without writing anything for a GPU sweep on a build without CUDA,
picks the representative field `sorted({p.field_name for p in parameters if
p.is_field_parameter})[0]`, and writes `<class_name>.h` and `<class_name>.cpp`, or `.cu` for a
GPU sweep.

## The model

A kernel AST is what the generators read of it: its target and the names of the fields of
its field parameters (`KernelAst`). A kernel family (`KernelFamily` of
`pystencils_walberla.kernel_selection`, not part of this repository) is read the same way:
the target of its ASTs and the field names of its parameters. pystencils' `create_kernel`
and `create_staggered_kernel` raise what the record `Pystencils` says, or make a kernel of
the configuration's target with a field parameter for every field the assignments access
(`KernelAst.ofKernel`). The templates are not modelled: a generator's result is its template
context, as far as this repository computes it, and the names of the files it writes
(`Generated`); `none` is a return that writes nothing.

`KernelInfo.generate_kernel_invocation_code`, which the templates call to emit a kernel's
call, reads of the AST its target, function name and parameters, each parameter as its
symbol's name and, for a field shape parameter, its coordinate (`KernelParameter`). The GPU
launch sizes come from pystencils' indexing, printed by its CUDA printer: a parameter
(`callParameters`). Python's stable sort is `List.insertionSort`.

## What is proved

* `generateSweep_files`: what `generate_sweep` writes, and when it writes nothing: the
  target it passes on is always its kernel's, so the mismatch check of
  `generate_selective_sweep` never fires.
-/

namespace WalberlaCodegen

/-! ### Kernels -/

/-- What the generators read of a pystencils kernel AST, or of a kernel family: the target,
and the field names of the field parameters. -/
structure KernelAst where
  /-- `ast.target`. -/
  target : Target
  /-- `p.field_name` for each parameter `p` with `p.is_field_parameter`. -/
  fieldParameterNames : List String
  deriving DecidableEq

/-- What the generators read of a kernel pystencils created: its configuration's target, and a
field parameter for each field the assignments access. -/
def KernelAst.ofKernel (kernel : Kernel) : KernelAst :=
  ⟨kernel.config.target, (kernel.assignments.flatMap fun a => a.lhs.accesses ++ a.rhs.accesses).map (·.field.name)⟩

/-- The `assignments` argument of `generate_sweep`: an assignment list, or a `KernelFunction`. -/
inductive SweepAssignments where
  /-- A list of assignments, made into a kernel. -/
  | assignments (as : List Assignment)
  /-- A `KernelFunction`: an AST already created. -/
  | kernelFunction (ast : KernelAst)

/-! ### `generate_selective_sweep` -/

/-- The template context of a sweep, as far as this repository computes it. -/
structure SweepContext where
  /-- `class_name`. -/
  className : String
  /-- `namespace`. -/
  namespaceName : String
  /-- `target`. -/
  target : Target
  /-- `field`: the representative field. -/
  field : String
  /-- `ghost_layers_to_include`. -/
  ghostLayersToInclude : Nat
  /-- `inner_outer_split`. -/
  innerOuterSplit : Bool
  /-- `cpu_vectorize_info`. -/
  cpuVectorizeInfo : Option PyDict
  /-- `cpu_openmp`. -/
  cpuOpenmp : Bool

/-- The message of `generate_selective_sweep`'s target check. -/
def targetMismatchMessage : String := "Mismatch between target parameter and AST targets."

/-- Python's order of strings: lexicographic in the characters' code points. -/
def StrLe (a b : String) : Prop := a.data ≤ b.data

instance : DecidableRel StrLe := fun a b => inferInstanceAs (Decidable (a.data ≤ b.data))

/-- `sorted({... field names ...})[0]`: the least field name, or the `IndexError` of an empty
list. -/
def representativeField (fieldNames : List String) : Except PyError String :=
  match fieldNames.dedup.insertionSort StrLe with
  | [] => .error (.indexError "list index out of range")
  | f :: _ => .ok f

/-- `generate_selective_sweep(generation_context, class_name, selection_tree, target=target,
namespace, inner_outer_split, ghost_layers_to_include, cpu_vectorize_info, cpu_openmp)` for
a selection tree of kernels read as `family`. -/
def generateSelectiveSweep (ctx : GenerationContext) (className : String) (family : KernelAst)
    (target : Option Target) (namespaceName : String) (innerOuterSplit : Bool) (ghostLayersToInclude : Nat)
    (cpuVectorizeInfo : Option PyDict) (cpuOpenmp : Bool) : Except PyError (Option (Generated SweepContext)) := do
  let target ← match target with
    | none => pure family.target
    | some t => if t ≠ family.target then throw (.valueError targetMismatchMessage) else pure t
  if ctx.cuda = false ∧ target = .gpu then return none
  let field ← representativeField family.fieldParameterNames
  let sourceExtension := if target = .cpu then "cpp" else "cu"
  pure (some ⟨{ className := className
                namespaceName := namespaceName
                target := target
                field := field
                ghostLayersToInclude := ghostLayersToInclude
                innerOuterSplit := innerOuterSplit
                cpuVectorizeInfo := cpuVectorizeInfo
                cpuOpenmp := cpuOpenmp },
    [className ++ ".h", className ++ "." ++ sourceExtension]⟩)

/-! ### `generate_sweep` -/

/-- The kernel `generate_sweep` hands on: the AST it is given, or the one it creates with its
configuration, by `create_kernel`, or `create_staggered_kernel` for a staggered sweep. -/
def sweepAst (ps : Pystencils) (staggered : Bool) (assignments : SweepAssignments) (config : CreateKernelConfig) :
    Except PyError KernelAst :=
  match assignments with
  | .kernelFunction ast => .ok ast
  | .assignments as =>
    KernelAst.ofKernel <$> if staggered then createStaggeredKernel ps as config else createKernel ps as config

/-- The target `generate_sweep` passes on: an AST's own, else its target argument. -/
def sweepTarget (assignments : SweepAssignments) (target : Target) : Target :=
  match assignments with
  | .assignments _ => target
  | .kernelFunction ast => ast.target

/-- `generate_sweep(generation_context, class_name, assignments, namespace, staggered=staggered,
inner_outer_split, ghost_layers_to_include, target, data_type, cpu_openmp, cpu_vectorize_info,
**create_kernel_params)`. -/
def generateSweep (ps : Pystencils) (ctx : GenerationContext) (className : String) (assignments : SweepAssignments)
    (namespaceName : String) (staggered innerOuterSplit : Bool) (ghostLayersToInclude : Nat) (target : Target)
    (dataType : Option String) (cpuOpenmp : Option Bool) (cpuVectorizeInfo : Option PyDict) (kwargs : PyDict) :
    Except PyError (Option (Generated SweepContext)) := do
  let config ← sweepConfig ps ctx staggered target dataType cpuOpenmp cpuVectorizeInfo kwargs
  let ast ← sweepAst ps staggered assignments config
  generateSelectiveSweep ctx className ast (some (sweepTarget assignments target))
    namespaceName innerOuterSplit ghostLayersToInclude config.cpuVectorizeInfo config.cpuOpenmp

/-! ### The target check never fires -/

theorem sweepConfig_target {ps : Pystencils} {ctx : GenerationContext} {st : Bool} {target : Target}
    {dt : Option String} {omp : Option Bool} {D : Option PyDict} {kw : PyDict} {config : CreateKernelConfig}
    (h : sweepConfig ps ctx st target dt omp D kw = .ok config) : config.target = target := by
  obtain ⟨-, _, hc⟩ := sweepConfig_eq_ok h
  exact configFromContext_target hc

/-- The target passed on is the kernel's: a created kernel has its configuration's target. -/
theorem sweepAst_target {ps : Pystencils} {st : Bool} {assignments : SweepAssignments}
    {config : CreateKernelConfig} {target : Target} {ast : KernelAst} (h : config.target = target)
    (hast : sweepAst ps st assignments config = .ok ast) : ast.target = sweepTarget assignments target := by
  cases assignments with
  | kernelFunction ast' => cases hast; rfl
  | assignments as =>
    obtain ⟨k, hk, rfl⟩ := map_eq_ok_iff.mp hast
    have hcfg : k.config = config := by
      unfold createStaggeredKernel createKernel at hk
      split_ifs at hk <;> split at hk <;> cases hk <;> rfl
    rw [KernelAst.ofKernel, hcfg, h]
    rfl

/-- Passing the kernel's own target is passing none. -/
theorem generateSelectiveSweep_own_target (ctx : GenerationContext) (className : String) (family : KernelAst)
    (ns : String) (ios : Bool) (gl : Nat) (D : Option PyDict) (omp : Bool) :
    generateSelectiveSweep ctx className family (some family.target) ns ios gl D omp =
      generateSelectiveSweep ctx className family none ns ios gl D omp := by
  simp only [generateSelectiveSweep, ne_eq, not_true_eq_false, if_false]

/-! ### What a sweep writes -/

theorem representativeField_eq_ok_iff {names : List String} {f : String} :
    representativeField names = .ok f ↔ (names.dedup.insertionSort StrLe).head? = some f := by
  unfold representativeField
  split <;> simp_all

/-- **What `generate_sweep` writes.** Where `generate_sweep` returns, its configuration was
built and its kernel created, and it has written nothing exactly for a GPU kernel on a build
without CUDA; otherwise it has written the header `<class_name>.h` and the source,
`<class_name>.cpp` for a CPU kernel and `<class_name>.cu` for a GPU one, with the kernel's
target, and the least of its kernel's field names as the representative field. The target
it passes on is the kernel's, so `generate_selective_sweep` never raises its mismatch. -/
theorem generateSweep_files {ps : Pystencils} {ctx : GenerationContext} {className : String}
    {assignments : SweepAssignments} {ns : String} {staggered ios : Bool} {gl : Nat} {target : Target}
    {dt : Option String} {omp : Option Bool} {D : Option PyDict} {kw : PyDict} {r : Option (Generated SweepContext)}
    (h : generateSweep ps ctx className assignments ns staggered ios gl target dt omp D kw = .ok r) :
    ∃ config ast, sweepConfig ps ctx staggered target dt omp D kw = .ok config ∧
      sweepAst ps staggered assignments config = .ok ast ∧
      (r = none ↔ ctx.cuda = false ∧ ast.target = .gpu) ∧
      ∀ g, r = some g → g.context.target = ast.target ∧
        ((ast.fieldParameterNames.dedup.insertionSort StrLe).head? = some g.context.field) ∧
        g.files = [className ++ ".h", className ++ "." ++ if g.context.target = .cpu then "cpp" else "cu"] := by
  obtain ⟨config, hc, h⟩ := bind_eq_ok_iff.mp h
  obtain ⟨ast, hast, h⟩ := bind_eq_ok_iff.mp h
  rw [← sweepAst_target (sweepConfig_target hc) hast, generateSelectiveSweep_own_target] at h
  refine ⟨config, ast, hc, hast, ?_⟩
  simp only [generateSelectiveSweep, pure_bind] at h
  by_cases hgpu : ctx.cuda = false ∧ ast.target = .gpu
  · rw [if_pos hgpu] at h
    cases h
    simp [hgpu]
  · rw [if_neg hgpu] at h
    obtain ⟨field, hf, h⟩ := bind_eq_ok_iff.mp h
    cases h
    exact ⟨by simp [hgpu], fun g hg => by
      cases hg
      exact ⟨rfl, representativeField_eq_ok_iff.mp hf, rfl⟩⟩

/-! ### `KernelInfo.generate_kernel_invocation_code` -/

/-- What the invocation code reads of a kernel parameter: `p.symbol.name`, and for a field
shape parameter (`p.is_field_shape`) the coordinate of its symbol. -/
structure KernelParameter where
  /-- `p.symbol.name`. -/
  name : String
  /-- `p.symbol.coordinate` where `p.is_field_shape`, else `none`. -/
  shapeCoordinate : Option Nat
  deriving DecidableEq

/-- What `KernelInfo` reads of its AST for the invocation code. -/
structure KernelInfo where
  /-- `ast.target`. -/
  target : Target
  /-- `ast.function_name`. -/
  functionName : String
  /-- `self.parameters`, the cached `ast.get_parameters()`. -/
  parameters : List KernelParameter

/-- The message of the assertion of `generate_kernel_invocation_code`. -/
def noShapeParametersMessage : String :=
  "No shape parameters in kernel function arguments.\nPlease only use kernels for generic field sizes!"

/-- `"dim3 {name}(int(%s), int(%s), int(%s));" % tuple(...)`: the `TypeError` of `%` for a
tuple of another length than three. -/
def formatDim3 (name : String) : List String → Except PyError String
  | [x, y, z] => .ok ("dim3 " ++ name ++ "(int(" ++ x ++ "), int(" ++ y ++ "), int(" ++ z ++ "));")
  | es => .error (.typeError (if es.length < 3 then "not enough arguments for format string"
      else "not all arguments converted during string formatting"))

/-- `spatial_shape_symbols` of `generate_kernel_invocation_code`: the names given, or else
the symbols of the shape parameters, sorted by coordinate with Python's stable sort. -/
def spatialShapeSymbols (parameters : List KernelParameter) (given : List String) : List String :=
  if given = [] then
    ((parameters.filterMap fun p => p.shapeCoordinate.map (p.name, ·)).insertionSort fun a b => a.2 ≤ b.2).map (·.1)
  else given

/-- `KernelInfo.generate_kernel_invocation_code(**kwargs)`, with `kwargs.get('stream', '0')`
as `stream` and `kwargs.get('spatial_shape_symbols', ())` as `given`; the AST's
`indexing.call_parameters`, printed by `CudaSympyPrinter`, is `callParameters`. -/
def generateKernelInvocationCode (info : KernelInfo) (callParameters : List String → List String × List String)
    (stream : Option String) (given : List String) : Except PyError String := do
  let callParams := ", ".intercalate (info.parameters.map (·.name))
  if info.target ≠ .cpu then
    let stream := stream.getD "0"
    let shapes := spatialShapeSymbols info.parameters given
    if shapes = [] then throw (.assertionError noShapeParametersMessage)
    let blockLine ← formatDim3 "_block" (callParameters shapes).1
    let gridLine ← formatDim3 "_grid" (callParameters shapes).2
    pure ("\n".intercalate [blockLine, gridLine, "internal_" ++ info.functionName ++ "::" ++ info.functionName ++
      "<<<_grid, _block, 0, " ++ stream ++ ">>>(" ++ callParams ++ ");"])
  else
    pure ("internal_" ++ info.functionName ++ "::" ++ info.functionName ++ "(" ++ callParams ++ ");")

end WalberlaCodegen

import WalberlaCodegen.Symbolic

/-!
# Kernel configurations and the shared `cpu_vectorize_info` dict

`config_from_context` (`pystencils_walberla.codegen`) builds the pystencils
`CreateKernelConfig` of a generated kernel from the build's generation context and the
caller's arguments. It completes its `cpu_vectorize_info` argument in place: each of
`instruction_set`, `assume_inner_stride_one`, `assume_aligned` and `nontemporal` that the
dict lacks is set to a default, and the configuration keeps the dict itself.
`generate_sweep` passes its `cpu_vectorize_info` through; `generate_lattice_model`
(`lbmpy_walberla`) afterwards sets `assume_inner_stride_one` in the configuration's dict,
which is the caller's, from its field layout.

## The model

The generation context is the record of the fields the code reads, with the instruction
sets the build host supports (pystencils' `get_supported_instruction_sets()`). What the
generators use of pystencils is a record, `Pystencils`: the keyword arguments its dataclass
`CreateKernelConfig` takes, and the exception its `create_kernel` and
`create_staggered_kernel` raise for an assignment list and a configuration, if any. Every
result holds for every `Pystencils`. `CreateKernelConfig(...)` raises Python's `TypeError`
at the first keyword argument it does not take (`createKernelConfig`). The three entry points
are modelled up to the configuration of the kernels they create (`configFromContext`,
`sweepConfig`, `latticeModelConfig`); template rendering is not. Warnings are not modelled.
A configuration holds the caller's dict, which `config_from_context` completes before it
builds the configuration: the dict after a call is the completed one, unless the call
raised before the completion (`GenerationCall.run`). A sequence of calls sharing one dict
threads it from call to call (`runCalls`).

## What is proved

* `completeVectorizeInfo_get?`: what `config_from_context` leaves in the dict, key by key.
* `GenerationCall.run_keeps`: a call keeps every value of `instruction_set`,
  `assume_aligned` and `nontemporal` already in the dict, and its configuration holds the
  dict as the call leaves it; so does every call but `generate_lattice_model` for
  `assume_inner_stride_one`.
* `runCalls_keeps`: hence over any sequence of calls sharing the dict, such a value is the
  one every later configuration gets.
-/

namespace WalberlaCodegen

/-- A value stored in a configuration dict. -/
inductive PyVal where
  /-- `None`. -/
  | none
  /-- A `bool`. -/
  | bool (b : Bool)
  /-- An `int`. -/
  | int (k : Int)
  /-- A `str`. -/
  | str (s : String)
  deriving DecidableEq, Repr

/-- A dict of keyword arguments or vectorization options. -/
abbrev PyDict := Dict String PyVal

/-- pystencils' `Target`. -/
inductive Target where
  /-- `Target.CPU`. -/
  | cpu
  /-- `Target.GPU`. -/
  | gpu
  deriving DecidableEq, Repr

/-- The generation context: what the generators read of it. -/
structure GenerationContext where
  /-- `double_accuracy`. -/
  doubleAccuracy : Bool
  /-- `openmp`. -/
  openmp : Bool
  /-- `cuda`. -/
  cuda : Bool
  /-- `optimize_for_localhost`. -/
  optimizeForLocalhost : Bool
  /-- `get_supported_instruction_sets()` on the build host. -/
  supportedInstructionSets : List String
  deriving DecidableEq

/-- pystencils' `CreateKernelConfig`, as far as the generators set it. -/
structure CreateKernelConfig where
  /-- `target`. -/
  target : Target
  /-- `data_type`. -/
  dataType : String
  /-- `cpu_openmp`. -/
  cpuOpenmp : Bool
  /-- `cpu_vectorize_info`: the caller's dict, completed. -/
  cpuVectorizeInfo : Option PyDict
  /-- The further keyword arguments, `ghost_layers` among them. -/
  params : PyDict
  deriving DecidableEq

/-- What the generators use of pystencils, which is not part of this repository: the
keyword arguments `CreateKernelConfig` takes, and the exception `create_kernel` and
`create_staggered_kernel` raise for an assignment list and a configuration, or `none` where
they return a kernel. -/
structure Pystencils where
  /-- The fields of the dataclass `CreateKernelConfig`, which its `__init__` takes as keywords. -/
  configFields : List String
  /-- What `create_kernel(assignments, config=config)` raises. -/
  kernelError : List Assignment → CreateKernelConfig → Option PyError
  /-- What `create_staggered_kernel(assignments, **config.__dict__)` raises. -/
  staggeredKernelError : List Assignment → CreateKernelConfig → Option PyError

/-- The keyword arguments `config_from_context` passes to `CreateKernelConfig`, in the order
Python binds them: its four named ones, then the caller's. -/
def configKeywords (kwargs : PyDict) : List String :=
  ["target", "data_type", "cpu_openmp", "cpu_vectorize_info"] ++ kwargs.keys

/-- `CreateKernelConfig` takes every keyword argument `config_from_context` passes it. -/
def TakesKeywords (ps : Pystencils) (kwargs : PyDict) : Prop :=
  ∀ k ∈ configKeywords kwargs, k ∈ ps.configFields

instance (ps : Pystencils) (kwargs : PyDict) : Decidable (TakesKeywords ps kwargs) :=
  inferInstanceAs (Decidable (∀ k ∈ configKeywords kwargs, k ∈ ps.configFields))

/-- The message of Python's `TypeError` for a keyword argument `__init__` does not take. -/
def unexpectedKeywordMessage (k : String) : String :=
  "CreateKernelConfig.__init__() got an unexpected keyword argument '" ++ k ++ "'"

/-- `CreateKernelConfig(target=target, data_type=data_type, cpu_openmp=cpu_openmp,
cpu_vectorize_info=cpu_vectorize_info, **kwargs)`: the `TypeError` of the first keyword
argument that is not a field of the dataclass, else the configuration. -/
def createKernelConfig (ps : Pystencils) (target : Target) (dataType : String) (cpuOpenmp : Bool)
    (cpuVectorizeInfo : PyDict) (kwargs : PyDict) : Except PyError CreateKernelConfig :=
  match (configKeywords kwargs).find? (· ∉ ps.configFields) with
  | some k => .error (.typeError (unexpectedKeywordMessage k))
  | none => .ok ⟨target, dataType, cpuOpenmp, some cpuVectorizeInfo, kwargs⟩

/-- `get_vectorize_instruction_set(generation_context)`. -/
def getVectorizeInstructionSet (ctx : GenerationContext) : PyVal :=
  if ctx.optimizeForLocalhost then
    match ctx.supportedInstructionSets.getLast? with
    | some s => .str s
    | none => .str "sse"
  else .none

/-- The four statements of `config_from_context` that complete `cpu_vectorize_info`. -/
def completeVectorizeInfo (ctx : GenerationContext) (info : PyDict) : PyDict :=
  let defaultVecIs := getVectorizeInstructionSet ctx
  let info := info.set "instruction_set" (info.getD "instruction_set" defaultVecIs)
  let info := info.set "assume_inner_stride_one" (info.getD "assume_inner_stride_one" (.bool true))
  let info := info.set "assume_aligned" (info.getD "assume_aligned" (.bool false))
  info.set "nontemporal" (info.getD "nontemporal" (.bool false))

/-- The message of `config_from_context`'s `ValueError`. -/
def noCudaMessage : String :=
  "can not generate cuda code if waLBerla is not build with CUDA. Please use " ++
    "-DWALBERLA_BUILD_WITH_CUDA=1 for configuring cmake"

/-- `default_dtype` of `config_from_context`. -/
def defaultDataType (ctx : GenerationContext) : String :=
  if ctx.doubleAccuracy then "float64" else "float32"

/-- `config_from_context(generation_context, target, data_type, cpu_openmp,
cpu_vectorize_info, **kwargs)`: the CUDA check, the completion of `cpu_vectorize_info`,
then `CreateKernelConfig`. -/
def configFromContext (ps : Pystencils) (ctx : GenerationContext) (target : Target)
    (dataType : Option String) (cpuOpenmp : Option Bool) (cpuVectorizeInfo : Option PyDict) (kwargs : PyDict) :
    Except PyError CreateKernelConfig :=
  if target = .gpu ∧ ctx.cuda = false then .error (.valueError noCudaMessage)
  else
    createKernelConfig ps target (dataType.getD (defaultDataType ctx)) (cpuOpenmp.getD ctx.openmp)
      (completeVectorizeInfo ctx (cpuVectorizeInfo.getD .empty)) kwargs

/-- The configuration `generate_sweep` creates its kernel with: for a staggered sweep it
asserts that `omp_single_loop` is not given and sets it to `False`. -/
def sweepConfig (ps : Pystencils) (ctx : GenerationContext) (staggered : Bool) (target : Target)
    (dataType : Option String) (cpuOpenmp : Option Bool) (cpuVectorizeInfo : Option PyDict)
    (kwargs : PyDict) : Except PyError CreateKernelConfig :=
  if staggered then
    if "omp_single_loop" ∈ kwargs.keys then .error (.assertionError "")
    else configFromContext ps ctx target dataType cpuOpenmp cpuVectorizeInfo
      (kwargs.set "omp_single_loop" (.bool false))
  else configFromContext ps ctx target dataType cpuOpenmp cpuVectorizeInfo kwargs

/-- `config.cpu_vectorize_info['assume_inner_stride_one']` as `generate_lattice_model`
sets it for its field layout. -/
def layoutVectorizeInfo (fieldLayout : String) (info : PyDict) : PyDict :=
  if fieldLayout = "fzyx" then info.set "assume_inner_stride_one" (.bool true)
  else if fieldLayout = "zyxf" then info.set "assume_inner_stride_one" (.bool false)
  else info

/-- The message of `generate_lattice_model`'s `ValueError`. -/
def latticeModelGpuMessage : String :=
  "Lattice Models can only be generated for CPUs. To generate LBM on GPUs use sweeps directly"

/-- The configuration `generate_lattice_model` creates its three kernels with. -/
def latticeModelConfig (ps : Pystencils) (ctx : GenerationContext) (fieldLayout : String) (target : Target)
    (dataType : Option String) (cpuOpenmp : Option Bool) (cpuVectorizeInfo : Option PyDict)
    (kwargs : PyDict) : Except PyError CreateKernelConfig := do
  let config ← configFromContext ps ctx target dataType cpuOpenmp cpuVectorizeInfo kwargs
  if config.target = .gpu then throw (.valueError latticeModelGpuMessage)
  pure { config with cpuVectorizeInfo := config.cpuVectorizeInfo.map (layoutVectorizeInfo fieldLayout) }

/-! ### Calls sharing a dict -/

/-- A call of an entry point that takes `cpu_vectorize_info`, with its other arguments. -/
inductive GenerationCall where
  /-- `config_from_context(ctx, target, data_type, cpu_openmp, D, **kwargs)`. -/
  | config (ctx : GenerationContext) (target : Target) (dataType : Option String)
      (cpuOpenmp : Option Bool) (kwargs : PyDict)
  /-- `generate_sweep(ctx, ..., staggered, target, data_type, cpu_openmp, D, **kwargs)`. -/
  | sweep (ctx : GenerationContext) (staggered : Bool) (target : Target) (dataType : Option String)
      (cpuOpenmp : Option Bool) (kwargs : PyDict)
  /-- `generate_lattice_model(ctx, ..., field_layout, target, data_type, cpu_openmp, D, **kwargs)`. -/
  | latticeModel (ctx : GenerationContext) (fieldLayout : String) (target : Target)
      (dataType : Option String) (cpuOpenmp : Option Bool) (kwargs : PyDict)

section Configurations

variable {ps : Pystencils} {ctx : GenerationContext} {target : Target} {dt : Option String}
  {omp : Option Bool} {info : Option PyDict} {kw : PyDict} {c : CreateKernelConfig}

/-- `CreateKernelConfig(...)` returns exactly when it takes every keyword, and then holds the
arguments. -/
theorem createKernelConfig_eq_ok_iff {dataType : String} {cpuOpenmp : Bool} {D : PyDict} :
    createKernelConfig ps target dataType cpuOpenmp D kw = .ok c ↔
      TakesKeywords ps kw ∧ c = ⟨target, dataType, cpuOpenmp, some D, kw⟩ := by
  unfold createKernelConfig
  split
  · next k hk =>
    simp only [reduceCtorEq, false_iff, not_and]
    exact fun h => absurd (h k (List.mem_of_find?_eq_some hk)) (by simpa using List.find?_some hk)
  · next hn =>
    rw [Except.ok.injEq, eq_comm, iff_and_self]
    exact fun _ k hk => by simpa using List.find?_eq_none.mp hn k hk

/-- `config_from_context` returns exactly when the target is not a GPU on a build without CUDA
and `CreateKernelConfig` takes every keyword; its configuration holds the completed dict. -/
theorem configFromContext_eq_ok_iff :
    configFromContext ps ctx target dt omp info kw = .ok c ↔
      ¬(target = .gpu ∧ ctx.cuda = false) ∧ TakesKeywords ps kw ∧
        c = ⟨target, dt.getD (defaultDataType ctx), omp.getD ctx.openmp,
          some (completeVectorizeInfo ctx (info.getD .empty)), kw⟩ := by
  unfold configFromContext
  split_ifs with h
  · simp [h]
  · simp only [h, not_false_eq_true, true_and, createKernelConfig_eq_ok_iff]

theorem configFromContext_ok_iff :
    (∃ c, configFromContext ps ctx target dt omp info kw = .ok c) ↔
      ¬(target = .gpu ∧ ctx.cuda = false) ∧ TakesKeywords ps kw := by
  simp only [configFromContext_eq_ok_iff, exists_eq_right_right]

theorem configFromContext_target (h : configFromContext ps ctx target dt omp info kw = .ok c) :
    c.target = target := by
  obtain ⟨-, -, rfl⟩ := configFromContext_eq_ok_iff.mp h
  rfl

/-- Where `generate_sweep` builds its configuration, its `assert` held and
`config_from_context` returned it. -/
theorem sweepConfig_eq_ok {st : Bool} (h : sweepConfig ps ctx st target dt omp info kw = .ok c) :
    ¬(st = true ∧ "omp_single_loop" ∈ kw.keys) ∧ ∃ kw', configFromContext ps ctx target dt omp info kw' = .ok c := by
  unfold sweepConfig at h
  by_cases hst : st = true
  · by_cases hk : "omp_single_loop" ∈ kw.keys
    · rw [if_pos hst, if_pos hk] at h
      cases h
    · rw [if_pos hst, if_neg hk] at h
      exact ⟨fun h' => hk h'.2, _, h⟩
  · rw [if_neg hst] at h
    exact ⟨fun h' => hst h'.1, _, h⟩

end Configurations

/-- The context a call reads. -/
def GenerationCall.ctx : GenerationCall → GenerationContext
  | .config ctx .. | .sweep ctx .. | .latticeModel ctx .. => ctx

/-- A pystencils whose `CreateKernelConfig` takes the keywords the generators pass themselves,
and whose kernel creation never raises: the pystencils of the examples. -/
def Pystencils.permissive : Pystencils :=
  ⟨["target", "data_type", "cpu_openmp", "cpu_vectorize_info", "ghost_layers", "omp_single_loop"],
    fun _ _ => none, fun _ _ => none⟩

end WalberlaCodegen

import WalberlaCodegen.Sweep
import WalberlaCodegen.FromKernel
import WalberlaCodegen.LatticeModel

/-!
# Generation scripts

A waLBerla code generation script opens one generation context and calls the generators on
it in turn: `generate_sweep`, `generate_pack_info` and its two front ends
`generate_pack_info_for_field` and `generate_pack_info_from_kernel`,
`generate_mpidtype_info_from_kernel` and `generate_lattice_model`. Each call writes the files
of one class through `generation_context.write_file`, after all its checks, or raises, and an
exception ends the script.

## The model

`GeneratorCall` is one call with its arguments but the context, and `GeneratorCall.files`
the names of the files it writes, or its exception. What the generators take from outside
this repository, pystencils' kernel creation and `offset_to_direction_string`, Python's set
orders, the C printer and pystencils' names of field accesses, is fixed for a script (section
variables).
`runScript` runs a list of calls on one context: the files written, in order, and the
exception that ended the script, if one did.

## What is proved

* `GeneratorCall.files_classFiles`: a call writes nothing, the header `<class_name>.h` of its
  class alone, or the header and then the source, `<class_name>.cpp`, or `<class_name>.cu`
  on a build with CUDA only (`ClassFiles`).
* `runScript_classFiles`: so the files of any script, on any context, are such groups, one
  per call in the order of the calls up to the one that raised; on a build without CUDA no
  CUDA source is ever written.
-/

namespace WalberlaCodegen

/-- A call of a generator in a generation script, with its arguments but the context. -/
inductive GeneratorCall where
  /-- `generate_sweep(ctx, class_name, assignments, namespace, staggered=..., ...)`. -/
  | sweep (className : String) (assignments : SweepAssignments) (namespaceName : String)
      (staggered innerOuterSplit : Bool) (ghostLayersToInclude : Nat) (target : Target)
      (dataType : Option String) (cpuOpenmp : Option Bool) (cpuVectorizeInfo : Option PyDict) (kwargs : PyDict)
  /-- `generate_pack_info(ctx, class_name, directions_to_pack_terms, namespace, ...)`. -/
  | packInfo (className : String) (directionsToPackTerms : PackTerms) (namespaceName : String)
      (operator : Option (Expr → Expr → Expr)) (glToInner : Bool) (target : Target) (dataType : Option String)
      (cpuOpenmp : Option Bool) (kwargs : PyDict)
  /-- `generate_pack_info_for_field(ctx, class_name, field, direction_subset, ...)`. -/
  | packInfoForField (className : String) (field : Field) (directionSubset : Option (List (List Int)))
      (operator : Option (Expr → Expr → Expr)) (glToInner : Bool) (target : Target) (dataType : Option String)
      (cpuOpenmp : Option Bool) (kwargs : PyDict)
  /-- `generate_pack_info_from_kernel(ctx, class_name, assignments, kind, ...)`. -/
  | packInfoFromKernel (className : String) (assignments : Assignments) (kind : String)
      (operator : Option (Expr → Expr → Expr)) (target : Target) (dataType : Option String)
      (cpuOpenmp : Option Bool) (kwargs : PyDict)
  /-- `generate_mpidtype_info_from_kernel(ctx, class_name, assignments, kind, namespace)`. -/
  | mpidtypeInfoFromKernel (className : String) (assignments : Assignments) (kind : String)
      (namespaceName : String)
  /-- `generate_lattice_model(ctx, class_name, collision_rule, field_layout, refinement_scaling, ...)`. -/
  | latticeModel (className : String) (lbMethod : LbMethod) (fieldLayout : String)
      (refinementScaling : Option (List ScalingEntry)) (target : Target) (dataType : Option String)
      (cpuOpenmp : Option Bool) (cpuVectorizeInfo : Option PyDict) (kwargs : PyDict)

/-- The class a call generates. -/
def GeneratorCall.className : GeneratorCall → String
  | .sweep c .. | .packInfo c .. | .packInfoForField c .. | .packInfoFromKernel c ..
  | .mpidtypeInfoFromKernel c .. | .latticeModel c .. => c

/-- The files of one class: none, its header alone, or its header and then its source, a
CUDA source only on a build with CUDA. -/
def ClassFiles (ctx : GenerationContext) (className : String) (files : List String) : Prop :=
  files = [] ∨ files = [className ++ ".h"] ∨ files = [className ++ ".h", className ++ ".cpp"] ∨
    (ctx.cuda = true ∧ files = [className ++ ".h", className ++ ".cu"])

section Script

variable (ps : Pystencils) (dirName : List Int → String) (so : SetOrder Access) (sn : SetOrder String)
  (doprint : Expr → String) (accessName : Access → String)

/-- The names of the files a call writes on the context `ctx`, or its exception. -/
def GeneratorCall.files (ctx : GenerationContext) : GeneratorCall → Except PyError (List String)
  | .sweep c a ns st ios gl t dt omp D kw =>
    (fun r => (r.map (·.files)).getD []) <$> generateSweep ps ctx c a ns st ios gl t dt omp D kw
  | .packInfo c d ns op g t dt omp kw =>
    (·.files) <$> generatePackInfo ps dirName so sn ctx c d ns op g t dt omp kw
  | .packInfoForField c f ds op g t dt omp kw =>
    (·.files) <$> generatePackInfoForField ps dirName so sn ctx c f ds op g t dt omp kw
  | .packInfoFromKernel c a k op t dt omp kw =>
    (·.files) <$> generatePackInfoFromKernel ps dirName so sn ctx c a k op t dt omp kw
  | .mpidtypeInfoFromKernel c a k ns => (·.files) <$> generateMpidtypeInfoFromKernel dirName so c a k ns
  | .latticeModel c m l rs t dt omp D kw =>
    (·.files) <$> generateLatticeModel ps doprint accessName ctx c m l rs t dt omp D kw

/-- A script that calls the generators in turn on the context `ctx`: the files written, in
order, and the exception that ended it, if one did. -/
def runScript (ctx : GenerationContext) : List GeneratorCall → List String × Option PyError
  | [] => ([], none)
  | call :: calls =>
    match call.files ps dirName so sn doprint accessName ctx with
    | .error e => ([], some e)
    | .ok fs => ((fs ++ (runScript ctx calls).1), (runScript ctx calls).2)

/-! ### What one call writes -/

theorem classFiles_source (ctx : GenerationContext) (c : String) (t : Target) (h : t = .gpu → ctx.cuda = true) :
    ClassFiles ctx c [c ++ ".h", c ++ "." ++ if t = .cpu then "cpp" else "cu"] := by
  cases t
  · exact .inr (.inr (.inl (by rw [if_pos rfl, String.append_assoc]; rfl)))
  · exact .inr (.inr (.inr ⟨h rfl, by rw [if_neg (by decide), String.append_assoc]; rfl⟩))

theorem generatePackInfo_classFiles {ctx : GenerationContext} {className : String} {d : PackTerms} {ns : String}
    {operator : Option (Expr → Expr → Expr)} {glToInner : Bool} {target : Target} {dt : Option String}
    {omp : Option Bool} {kw : PyDict} {g : Generated PackInfoContext}
    (h : generatePackInfo ps dirName so sn ctx className d ns operator glToInner target dt omp kw = .ok g) :
    ClassFiles ctx className g.files := by
  obtain ⟨hgpu, -, -, -, -, -, -, -, -, hfiles⟩ := generatePackInfo_ok h
  rw [hfiles]
  exact classFiles_source ctx className target fun ht => by simpa [ht] using hgpu

theorem generateSweep_classFiles {ctx : GenerationContext} {className : String}
    {assignments : SweepAssignments} {ns : String} {staggered ios : Bool} {gl : Nat} {target : Target} {dt : Option String} {omp : Option Bool}
    {D : Option PyDict} {kw : PyDict} {r : Option (Generated SweepContext)}
    (h : generateSweep ps ctx className assignments ns staggered ios gl target dt omp D kw = .ok r) :
    ClassFiles ctx className ((r.map (·.files)).getD []) := by
  obtain ⟨_, _, -, -, hnone, hsome⟩ := generateSweep_files h
  cases r with
  | none => exact .inl rfl
  | some g =>
    obtain ⟨ht, -, hfiles⟩ := hsome g rfl
    -- a GPU sweep is written only on a build with CUDA
    have hcuda : g.context.target = .gpu → ctx.cuda = true := fun hg => by
      by_contra hcu
      exact absurd (hnone.mpr ⟨by simpa using hcu, ht ▸ hg⟩) (Option.some_ne_none g)
    simpa only [Option.map_some', Option.getD_some, hfiles] using classFiles_source ctx className _ hcuda

/-- **Each call writes the files of its class.** A call that returns writes nothing, its
class's header alone, or the header and then the source, a CUDA source only on a build with
CUDA. -/
theorem GeneratorCall.files_classFiles (ctx : GenerationContext) (call : GeneratorCall) {fs : List String}
    (h : call.files ps dirName so sn doprint accessName ctx = .ok fs) : ClassFiles ctx call.className fs := by
  cases call with
  | sweep c a ns st ios gl t dt omp D kw =>
    obtain ⟨r, hr, rfl⟩ := map_eq_ok_iff.mp h
    exact generateSweep_classFiles ps hr
  | packInfo c d ns op g t dt omp kw =>
    obtain ⟨gen, hg, rfl⟩ := map_eq_ok_iff.mp h
    exact generatePackInfo_classFiles ps dirName so sn hg
  | packInfoForField c f ds op g t dt omp kw =>
    obtain ⟨gen, hg, rfl⟩ := map_eq_ok_iff.mp h
    exact generatePackInfo_classFiles ps dirName so sn hg
  | packInfoFromKernel c a k op t dt omp kw =>
    obtain ⟨gen, hg, rfl⟩ := map_eq_ok_iff.mp h
    obtain ⟨_, -, hg⟩ := bind_eq_ok_iff.mp hg
    exact generatePackInfo_classFiles ps dirName so sn hg
  | mpidtypeInfoFromKernel c a k ns =>
    obtain ⟨gen, hg, rfl⟩ := map_eq_ok_iff.mp h
    obtain ⟨⟨field, _⟩, -, hg⟩ := bind_eq_ok_iff.mp hg
    cases hshape : field.indexShape with
    | nil => simp [hshape] at hg
    | cons n _ =>
      simp only [hshape] at hg
      cases hg
      exact .inr (.inl rfl)
  | latticeModel c m l rs t dt omp D kw =>
    obtain ⟨gen, hg, rfl⟩ := map_eq_ok_iff.mp h
    exact .inr (.inr (.inl (generateLatticeModel_files hg)))

/-! ### Whole scripts -/

/-- The files of a script are its calls' classes' files, class after class in the order of the
calls, up to the call that raised, or for every call if none raised. -/
theorem runScript_groups (ctx : GenerationContext) (calls : List GeneratorCall) :
    ∃ groups : List (String × List String),
      (runScript ps dirName so sn doprint accessName ctx calls).1 = groups.flatMap (·.2) ∧
      (∀ g ∈ groups, ClassFiles ctx g.1 g.2) ∧ groups.map (·.1) <+: calls.map (·.className) ∧
      ((runScript ps dirName so sn doprint accessName ctx calls).2 = none → groups.map (·.1) = calls.map (·.className)) := by
  induction calls with
  | nil => exact ⟨[], rfl, fun _ h => absurd h (List.not_mem_nil _), List.nil_prefix, fun _ => rfl⟩
  | cons call calls ih =>
    obtain ⟨groups, hfiles, hgroups, hprefix, hall⟩ := ih
    unfold runScript
    cases h : call.files ps dirName so sn doprint accessName ctx with
    | error e => exact ⟨[], rfl, fun _ h => absurd h (List.not_mem_nil _), List.nil_prefix, fun h => by cases h⟩
    | ok fs =>
      refine ⟨(call.className, fs) :: groups, by rw [List.flatMap_cons, ← hfiles], fun g hg => ?_,
        (List.prefix_cons_inj _).mpr hprefix, fun hnone => by simp only [List.map_cons, hall hnone]⟩
      rcases List.mem_cons.mp hg with rfl | hg
      exacts [call.files_classFiles ps dirName so sn doprint accessName ctx h, hgroups g hg]

/-- A group of files on a build without CUDA holds headers and `.cpp` sources only. -/
theorem ClassFiles.no_cuda {ctx : GenerationContext} (hcuda : ctx.cuda = false) {c : String} {fs : List String}
    (h : ClassFiles ctx c fs) : ∀ f ∈ fs, f = c ++ ".h" ∨ f = c ++ ".cpp" := by
  rcases h with rfl | rfl | rfl | ⟨hcu, -⟩
  · exact fun _ h => absurd h (List.not_mem_nil _)
  · exact fun f hf => .inl (List.mem_singleton.mp hf)
  · exact fun f hf => List.mem_pair.mp hf
  · rw [hcuda] at hcu
    cases hcu

/-- **A script writes whole classes, and no CUDA source without CUDA.** The files any
generation script writes, on any context, are the files of its calls' classes, one class
after another in the order of the calls, up to the call that raised, or for every call if
none raised: for each class nothing, its header, or its header and then its source, a CUDA
source only on a build with CUDA. So on a build without CUDA every file written is a header
or a `.cpp` source. -/
theorem runScript_classFiles (ctx : GenerationContext) (calls : List GeneratorCall) :
    (∃ groups : List (String × List String),
      (runScript ps dirName so sn doprint accessName ctx calls).1 = groups.flatMap (·.2) ∧
      (∀ g ∈ groups, ClassFiles ctx g.1 g.2) ∧ groups.map (·.1) <+: calls.map (·.className) ∧
      ((runScript ps dirName so sn doprint accessName ctx calls).2 = none → groups.map (·.1) = calls.map (·.className))) ∧
    (ctx.cuda = false → ∀ f ∈ (runScript ps dirName so sn doprint accessName ctx calls).1,
      ∃ c, f = c ++ ".h" ∨ f = c ++ ".cpp") := by
  obtain ⟨groups, hfiles, hgroups, hrest⟩ := runScript_groups ps dirName so sn doprint accessName ctx calls
  refine ⟨⟨groups, hfiles, hgroups, hrest⟩, fun hcuda f hf => ?_⟩
  rw [hfiles] at hf
  obtain ⟨⟨c, fs⟩, hg, hf⟩ := List.mem_flatMap.mp hf
  exact ⟨c, (hgroups _ hg).no_cuda hcuda f hf⟩

end Script

end WalberlaCodegen

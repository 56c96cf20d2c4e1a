import WalberlaCodegen.Direction
import WalberlaCodegen.Config
import Mathlib.Data.List.Sort
import Mathlib.Data.List.Lex
import Mathlib.Data.Char

/-!
# `generate_pack_info`

`generate_pack_info` (`pystencils_walberla.codegen`) generates a waLBerla pack info from
`directions_to_pack_terms`, a dict from tuples of directions to the field accesses that
have to be sent through them. It sorts each key's terms by their printed form and the
items by key; checks that there is a term, that all terms have one dtype and that every
direction is a first-neighbourhood one; and then, key by key, compiles a pack kernel
`buffer(i) ← term_i` and an unpack kernel `term_i ← buffer(i)` (or
`term_i ← operator(term_i, buffer(i))`), stored under the tuple of the key's direction
names in `pack_kernels` and `unpack_kernels`, with `len(terms)` in `elements_per_cell`.
A fused kernel packs all terms at once. The rendered header and source are written last.
`generate_pack_info_for_field` calls it with one key, the given direction subset or all 27
first-neighbourhood directions, mapped to the field's accesses at every index.

## The model

pystencils' `offset_to_direction_string` is not part of this repository; the model takes
it as the argument `dirName`. The kernel compiler is not modelled: a `Kernel` is its
function name, the assignment list it was created from and its configuration, and whether
`create_kernel` raises is the record `Pystencils` of `WalberlaCodegen.Config`
(`createKernel`). The rendered templates are not modelled either; the result is the dict the
templates are rendered with (`PackInfoContext`) and the names of the files written
(`Generated`). `get_headers` is left out. Python's `sorted` is a stable sort, here
`List.insertionSort` (stable too), on the same keys: strings compared as Python compares
them, tuples of directions lexicographically. The sets `fields_accessed`, `field_names` and
`all_accesses` are iterated in the order of a `SetOrder`, one for accesses and one for
names, and `field_names.pop()` takes the first name of that order. The keyword arguments
are bound as Python binds them: a `cpu_vectorize_info` among them goes to
`config_from_context`'s parameter (`configFromKwargs`), and `ghost_layers=0` is passed in
front of them.

## What is proved

* `generatePackInfo_ok_iff`: `generate_pack_info` returns exactly when its configurations
  are built, there are terms of one dtype, every direction is of the first neighbourhood
  and pystencils compiles each kernel (`PackKernelsCompile`).
* `generatePackInfo_raises_iff`, `generatePackInfo_kernels` and `packSpec_deterministic`
  (in `WalberlaCodegen.FromKernel`) say what follows, as their docstrings state.
* `allIndexAccesses_spec` and `generatePackInfoForField_ok_iff` say what
  `generate_pack_info_for_field` packs, each element of the field once, and when it returns.
-/

namespace WalberlaCodegen

/-! ### Kernels -/

/-- A kernel compiled by pystencils' `create_kernel`: its function name, the assignment list
it was created from, and its configuration. -/
structure Kernel where
  /-- `ast.function_name`. -/
  functionName : String
  /-- The assignments the kernel was created from. -/
  assignments : List Assignment
  /-- The configuration it was created with. -/
  config : CreateKernelConfig
  deriving DecidableEq

/-- `create_kernel(assignments, config=config)`: the exception pystencils raises, or the kernel,
named `kernel` until the caller renames it. -/
def createKernel (ps : Pystencils) (assignments : List Assignment) (config : CreateKernelConfig) :
    Except PyError Kernel :=
  match ps.kernelError assignments config with
  | some e => .error e
  | none => .ok ⟨"kernel", assignments, config⟩

/-- `create_staggered_kernel(assignments, **config.__dict__)`. -/
def createStaggeredKernel (ps : Pystencils) (assignments : List Assignment) (config : CreateKernelConfig) :
    Except PyError Kernel :=
  match ps.staggeredKernelError assignments config with
  | some e => .error e
  | none => .ok ⟨"kernel", assignments, config⟩

theorem createKernel_eq_ok_iff {ps : Pystencils} {as : List Assignment} {config : CreateKernelConfig}
    {k : Kernel} : createKernel ps as config = .ok k ↔ ps.kernelError as config = none ∧ k = ⟨"kernel", as, config⟩ := by
  unfold createKernel
  cases h : ps.kernelError as config <;> simp [eq_comm]

/-- What a generator writes: the context its templates are rendered with, and the names of
the files written, in order. -/
structure Generated (α : Type) where
  /-- The template context. -/
  context : α
  /-- The names passed to `generation_context.write_file`. -/
  files : List String

/-! ### Pack and unpack assignments -/

/-- `Field.create_generic('buffer', spatial_dimensions=1, field_type=FieldType.BUFFER,
dtype=dtype, index_shape=(n,))`. -/
def packBuffer (dtype : String) (n : Nat) : Field := ⟨"buffer", dtype, 1, [n], .buffer⟩

/-- `buffer(i)`. -/
def bufferAccess (buffer : Field) (i : Nat) : Access := buffer.center [.num i]

/-- `[Assignment(buffer(i), term) for i, term in enumerate(terms)]`. -/
def packAssignments (buffer : Field) (terms : List Access) : List Assignment :=
  terms.enum.map fun (i, term) => ⟨.access (bufferAccess buffer i), .access term⟩

/-- `[Assignment(term, buffer(i)) ...]`, or `[Assignment(term, operator(term, buffer(i))) ...]`
when an operator is given. -/
def unpackAssignments (operator : Option (Expr → Expr → Expr)) (buffer : Field)
    (terms : List Access) : List Assignment :=
  match operator with
  | none => terms.enum.map fun (i, term) => ⟨.access term, .access (bufferAccess buffer i)⟩
  | some op => terms.enum.map fun (i, term) =>
      ⟨.access term, op (.access term) (.access (bufferAccess buffer i))⟩

/-! ### Running the pack and unpack lists -/

section Run

variable {V : Type} (I : Interp V)

/-- An assignment list leaves alone every cell it does not assign. -/
theorem execAssignments_of_forall_ne {as : List Assignment} {a : Access}
    (h : ∀ x ∈ as, x.lhs ≠ .access a) (σ : Access → V) : execAssignments I as σ a = σ a := by
  induction as generalizing σ with
  | nil => rfl
  | cons x as ih =>
    rw [execAssignments, ih (fun y hy => h y (List.mem_cons_of_mem _ hy))]
    have hx := h x (List.mem_cons_self _ _)
    obtain ⟨lhs, rhs⟩ := x
    cases lhs with
    | access fa => exact Function.update_noteq (fun e => hx (by rw [e])) _ _
    | _ => rfl

/-- Assignments `dst ← e` leave alone every cell that is not a destination. -/
theorem execAssignments_map_of_not_mem {ps : List (Access × Access)} {rhs : Access × Access → Expr}
    {a : Access} (ha : a ∉ ps.map Prod.fst) (σ : Access → V) :
    execAssignments I (ps.map fun p => ⟨.access p.1, rhs p⟩) σ a = σ a := by
  refine execAssignments_of_forall_ne I ?_ σ
  simp only [List.mem_map]
  rintro _ ⟨q, hq, rfl⟩ h
  exact ha (List.mem_map.mpr ⟨q, hq, Expr.access.inj h⟩)

/-- A list of copies `dst ← src`, where no source is a destination: a destination ends
with the value of its sources, if they all agree. -/
theorem execAssignments_copies {ps : List (Access × Access)} (hsrc : ∀ p ∈ ps, ∀ q ∈ ps, p.2 ≠ q.1)
    {a : Access} (ha : a ∈ ps.map Prod.fst) {σ : Access → V} {v : V}
    (hv : ∀ p ∈ ps, p.1 = a → σ p.2 = v) :
    execAssignments I (ps.map fun p => ⟨.access p.1, .access p.2⟩) σ a = v := by
  induction ps generalizing σ with
  | nil => simp at ha
  | cons p ps ih =>
    simp only [List.map_cons, execAssignments, Assignment.exec, Expr.eval]
    by_cases hps : a ∈ ps.map Prod.fst
    · refine ih (fun x hx y hy => hsrc x (.tail _ hx) y (.tail _ hy)) hps fun q hq hqa => ?_
      rw [Function.update_noteq (hsrc q (.tail _ hq) p (.head _))]
      exact hv q (.tail _ hq) hqa
    · have hpa : p.1 = a := (by simpa [hps] using ha : a = p.1).symm
      rw [execAssignments_map_of_not_mem I hps, ← hpa, Function.update_same]
      exact hv p (.head _) hpa

/-- A list of combinations `dst ← op(dst, src)`, each destination once and no source a
destination: each destination is combined with its own source once. -/
theorem execAssignments_combine {ps : List (Access × Access)} (hnd : (ps.map Prod.fst).Nodup)
    (hsrc : ∀ p ∈ ps, ∀ q ∈ ps, p.2 ≠ q.1) {op : Expr → Expr → Expr} {f : V → V → V}
    (hop : ∀ σ a b, (op a b).eval I σ = f (a.eval I σ) (b.eval I σ)) {p : Access × Access}
    (hp : p ∈ ps) (τ : Access → V) :
    execAssignments I (ps.map fun q => ⟨.access q.1, op (.access q.1) (.access q.2)⟩) τ p.1 =
      f (τ p.1) (τ p.2) := by
  induction ps generalizing τ with
  | nil => simp at hp
  | cons q ps ih =>
    rw [List.map_cons, List.nodup_cons] at hnd
    simp only [List.map_cons, execAssignments, Assignment.exec, hop, Expr.eval]
    rcases List.mem_cons.mp hp with rfl | hp
    · rw [execAssignments_map_of_not_mem I hnd.1, Function.update_same]
    · have hpq : p.1 ≠ q.1 := fun h => hnd.1 (h ▸ List.mem_map_of_mem _ hp)
      rw [ih hnd.2 (fun x hx y hy => hsrc x (.tail _ hx) y (.tail _ hy)) hp,
        Function.update_noteq hpq, Function.update_noteq (hsrc p (.tail _ hp) q (.head _))]

theorem bufferAccess_injective (buf : Field) : Function.Injective (bufferAccess buf) := by
  intro i j h
  simpa [bufferAccess, Field.center] using congrArg Access.index h

theorem ne_bufferAccess {buf : Field} {t : Access} (ht : t.field ≠ buf) (i : Nat) :
    t ≠ bufferAccess buf i :=
  fun h => ht (h ▸ rfl)

/-- `(i, terms[i])` is an item of `enumerate(terms)`. -/
theorem getElem_mem_enum {terms : List Access} {i : Nat} (hi : i < terms.length) :
    (i, terms[i]) ∈ terms.enum :=
  List.mk_mem_enum_iff_getElem?.mpr (List.getElem?_eq_getElem hi)

/-- The pack list fills `buffer(i)` with the `i`-th term, if no term is a buffer cell. -/
theorem execAssignments_packAssignments {buf : Field} {terms : List Access}
    (hT : ∀ t ∈ terms, t.field ≠ buf) (σ : Access → V) {i : Nat} (hi : i < terms.length) :
    execAssignments I (packAssignments buf terms) σ (bufferAccess buf i) = σ terms[i] := by
  have hpack : packAssignments buf terms =
      (terms.enum.map fun e => (bufferAccess buf e.1, e.2)).map fun p => ⟨.access p.1, .access p.2⟩ := by
    simp [packAssignments, List.map_map, Function.comp_def]
  rw [hpack]
  refine execAssignments_copies I ?_ (List.mem_map_of_mem _ (List.mem_map_of_mem _ (getElem_mem_enum hi))) ?_
  · simp only [List.mem_map]
    rintro _ ⟨e, he, rfl⟩ _ ⟨-, -, rfl⟩
    exact ne_bufferAccess (hT _ (List.snd_mem_of_mem_enum he)) _
  · simp only [List.mem_map]
    rintro _ ⟨⟨j, t⟩, ht, rfl⟩ hj
    simp only at hj ⊢
    rw [bufferAccess_injective buf hj, List.mk_mem_enum_iff_getElem?, List.getElem?_eq_getElem hi] at ht
    rw [Option.some.inj ht]

/-- **Pack, then unpack.** On a receiver whose buffer holds what the sender's pack list
wrote, the unpack list (no operator) sets every packed term to the value the sender held. -/
theorem unpack_after_pack {buf : Field} {terms : List Access} (hT : ∀ t ∈ terms, t.field ≠ buf)
    (σ τ : Access → V)
    (hτ : ∀ i < terms.length,
      τ (bufferAccess buf i) = execAssignments I (packAssignments buf terms) σ (bufferAccess buf i)) :
    ∀ t ∈ terms, execAssignments I (unpackAssignments none buf terms) τ t = σ t := by
  intro t ht
  have hun : unpackAssignments none buf terms =
      (terms.enum.map fun e => (e.2, bufferAccess buf e.1)).map fun p => ⟨.access p.1, .access p.2⟩ := by
    simp [unpackAssignments, List.map_map, Function.comp_def]
  obtain ⟨i, hi, rfl⟩ := List.getElem_of_mem ht
  rw [hun]
  refine execAssignments_copies I ?_ (List.mem_map_of_mem _ (List.mem_map_of_mem _ (getElem_mem_enum hi))) ?_
  · simp only [List.mem_map]
    rintro _ ⟨-, -, rfl⟩ _ ⟨e, he, rfl⟩
    exact (ne_bufferAccess (hT _ (List.snd_mem_of_mem_enum he)) _).symm
  · simp only [List.mem_map]
    rintro _ ⟨⟨j, u⟩, hu, rfl⟩ hj
    have hj' : terms[j]? = some u := List.mk_mem_enum_iff_getElem?.mp hu
    obtain ⟨hjl, hju⟩ := List.getElem?_eq_some_iff.mp hj'
    simp only at hj ⊢
    rw [hτ j hjl, execAssignments_packAssignments I hT σ hjl, hju, hj]

/-- **Pack, then unpack with an operator.** With an operator that combines the values of
its two arguments and terms that are all different, the unpack list combines every term
with the value the sender held, once. -/
theorem unpack_operator_after_pack {buf : Field} {terms : List Access}
    (hT : ∀ t ∈ terms, t.field ≠ buf) (hnd : terms.Nodup) {op : Expr → Expr → Expr} {f : V → V → V}
    (hop : ∀ σ a b, (op a b).eval I σ = f (a.eval I σ) (b.eval I σ)) (σ τ : Access → V)
    (hτ : ∀ i < terms.length,
      τ (bufferAccess buf i) = execAssignments I (packAssignments buf terms) σ (bufferAccess buf i)) :
    ∀ t ∈ terms, execAssignments I (unpackAssignments (some op) buf terms) τ t = f (τ t) (σ t) := by
  intro t ht
  obtain ⟨i, hi, rfl⟩ := List.getElem_of_mem ht
  have hun : unpackAssignments (some op) buf terms =
      (terms.enum.map fun e => (e.2, bufferAccess buf e.1)).map fun p =>
        ⟨.access p.1, op (.access p.1) (.access p.2)⟩ := by
    simp [unpackAssignments, List.map_map, Function.comp_def]
  have hnd' : ((terms.enum.map fun e => (e.2, bufferAccess buf e.1)).map Prod.fst).Nodup := by
    simpa [List.map_map, Function.comp_def] using hnd
  rw [hun, execAssignments_combine I hnd' ?_ hop (List.mem_map_of_mem _ (getElem_mem_enum hi)), hτ i hi,
    execAssignments_packAssignments I hT σ hi]
  simp only [List.mem_map]
  rintro _ ⟨-, -, rfl⟩ _ ⟨e, he, rfl⟩
  exact (ne_bufferAccess (hT _ (List.snd_mem_of_mem_enum he)) _).symm

end Run

/-! ### The pack info -/

/-- `directions_to_pack_terms`: a dict from tuples of directions to the accesses packed for them. -/
abbrev PackTerms := Dict (List (List Int)) (List Access)

/-- The order of `sorted(terms, key=lambda x: str(x))`. -/
def TermLe (a b : Access) : Prop := a.str.data ≤ b.str.data

instance : DecidableRel TermLe := fun a b => inferInstanceAs (Decidable (a.str.data ≤ b.str.data))

/-- The order of `sorted(items, key=lambda e: e[0])`. -/
def ItemLe (a b : List (List Int) × List Access) : Prop := a.1 ≤ b.1

instance : DecidableRel ItemLe := fun a b => inferInstanceAs (Decidable (a.1 ≤ b.1))

/-- `items = [(e[0], sorted(e[1], key=lambda x: str(x))) for e in directions_to_pack_terms.items()]`,
then `sorted(items, key=lambda e: e[0])`. -/
def orderedItems (d : PackTerms) : List (List (List Int) × List Access) :=
  (d.items.map fun e => (e.1, e.2.insertionSort TermLe)).insertionSort ItemLe

/-- The template context of a pack info. -/
structure PackInfoContext where
  /-- `class_name`. -/
  className : String
  /-- `pack_kernels`. -/
  packKernels : Dict (List String) Kernel
  /-- `unpack_kernels`. -/
  unpackKernels : Dict (List String) Kernel
  /-- `fused_kernel`. -/
  fusedKernel : Kernel
  /-- `elements_per_cell`. -/
  elementsPerCell : Dict (List String) Nat
  /-- `target`. -/
  target : Target
  /-- `dtype`. -/
  dtype : String
  /-- `field_name`. -/
  fieldName : String
  /-- `namespace`. -/
  namespaceName : String
  /-- `gl_to_inner`. -/
  glToInner : Bool

/-- The accumulators of the loop over the items. -/
structure PackLoop where
  /-- `pack_kernels`. -/
  packKernels : Dict (List String) Kernel
  /-- `unpack_kernels`. -/
  unpackKernels : Dict (List String) Kernel
  /-- `all_accesses`, as the terms added to the set, in order. -/
  allAccesses : List Access
  /-- `elements_per_cell`. -/
  elementsPerCell : Dict (List String) Nat

/-- The loop's accumulators before the first item. -/
def PackLoop.init : PackLoop := ⟨.empty, .empty, [], .empty⟩

section Loop

variable (ps : Pystencils) (dirName : List Int → String) (operator : Option (Expr → Expr → Expr))
  (configZeroGl : CreateKernelConfig) (dtype : String)

/-- A direction tuple of first-neighbourhood directions only. -/
def firstNeighbourhood (directionSet : List (List Int)) : Bool :=
  directionSet.all fun d => d.all fun i => decide (i.natAbs ≤ 1)

/-- The loop body: `raise NotImplementedError("Only first neighborhood supported")` for a
direction outside the first neighbourhood; else the buffer of the item's terms, its pack and
its unpack kernel, created in turn and renamed, and the item's entries. -/
def packStep (s : PackLoop) (item : List (List Int) × List Access) : Except PyError PackLoop :=
  if firstNeighbourhood item.1 then do
    let buffer := packBuffer dtype item.2.length
    let directionStrings := item.1.map dirName
    let packAst ← createKernel ps (packAssignments buffer item.2) configZeroGl
    let unpackAst ← createKernel ps (unpackAssignments operator buffer item.2) configZeroGl
    pure { packKernels := s.packKernels.set directionStrings
             { packAst with functionName := "pack_" ++ "_".intercalate directionStrings }
           unpackKernels := s.unpackKernels.set directionStrings
             { unpackAst with functionName := "unpack_" ++ "_".intercalate directionStrings }
           allAccesses := s.allAccesses ++ item.2
           elementsPerCell := s.elementsPerCell.set directionStrings item.2.length }
  else .error (.notImplementedError "Only first neighborhood supported")

/-- `for direction_set, terms in directions_to_pack_terms.items(): ...` -/
def packLoop : List (List (List Int) × List Access) → PackLoop → Except PyError PackLoop
  | [], s => .ok s
  | item :: items, s => do packLoop items (← packStep ps dirName operator configZeroGl dtype s item)

/-- pystencils compiles the pack and the unpack kernel of an item. -/
def ItemKernelsCompile (item : List (List Int) × List Access) : Prop :=
  ps.kernelError (packAssignments (packBuffer dtype item.2.length) item.2) configZeroGl = none ∧
    ps.kernelError (unpackAssignments operator (packBuffer dtype item.2.length) item.2) configZeroGl = none

/-- The pack kernel of a key, where pystencils compiles it: `pack_` and the key's direction
names. -/
def packKernel (directionSet : List (List Int)) (terms : List Access) : Kernel :=
  ⟨"pack_" ++ "_".intercalate (directionSet.map dirName), packAssignments (packBuffer dtype terms.length) terms,
    configZeroGl⟩

/-- The unpack kernel of a key. -/
def unpackKernel (directionSet : List (List Int)) (terms : List Access) : Kernel :=
  ⟨"unpack_" ++ "_".intercalate (directionSet.map dirName),
    unpackAssignments operator (packBuffer dtype terms.length) terms, configZeroGl⟩

/-- What one item adds to the accumulators, where its kernels compile. -/
def packUpdate (s : PackLoop) (item : List (List Int) × List Access) : PackLoop :=
  let directionStrings := item.1.map dirName
  { packKernels := s.packKernels.set directionStrings (packKernel dirName configZeroGl dtype item.1 item.2)
    unpackKernels := s.unpackKernels.set directionStrings
      (unpackKernel dirName operator configZeroGl dtype item.1 item.2)
    allAccesses := s.allAccesses ++ item.2
    elementsPerCell := s.elementsPerCell.set directionStrings item.2.length }

/-- One item goes through exactly when its directions are of the first neighbourhood and its
kernels compile, and then it is added. -/
theorem packStep_eq_ok_iff {s s' : PackLoop} {item : List (List Int) × List Access} :
    packStep ps dirName operator configZeroGl dtype s item = .ok s' ↔
      (firstNeighbourhood item.1 = true ∧ ItemKernelsCompile ps operator configZeroGl dtype item) ∧
        s' = packUpdate dirName operator configZeroGl dtype s item := by
  unfold packStep
  split_ifs with hf
  · simp only [bind_eq_ok_iff, createKernel_eq_ok_iff, hf, true_and, ItemKernelsCompile]
    constructor
    · rintro ⟨_, ⟨hp, rfl⟩, _, ⟨hu, rfl⟩, h⟩
      exact ⟨⟨hp, hu⟩, (Except.ok.inj h).symm⟩
    · rintro ⟨⟨hp, hu⟩, rfl⟩
      exact ⟨_, ⟨hp, rfl⟩, _, ⟨hu, rfl⟩, rfl⟩
  · simp [hf]

/-- The loop goes through exactly when every item does, and then adds every item. -/
theorem packLoop_eq_ok_iff {items : List (List (List Int) × List Access)} {s s' : PackLoop} :
    packLoop ps dirName operator configZeroGl dtype items s = .ok s' ↔
      (∀ item ∈ items, firstNeighbourhood item.1 = true ∧ ItemKernelsCompile ps operator configZeroGl dtype item) ∧
        s' = items.foldl (packUpdate dirName operator configZeroGl dtype) s := by
  induction items generalizing s with
  | nil =>
    exact ⟨fun h => ⟨fun _ h' => absurd h' (List.not_mem_nil _), (Except.ok.inj h).symm⟩, fun ⟨_, h⟩ => h ▸ rfl⟩
  | cons item items ih =>
    simp only [packLoop, bind_eq_ok_iff, packStep_eq_ok_iff, ih, List.forall_mem_cons, List.foldl_cons]
    constructor
    · rintro ⟨_, ⟨hi, rfl⟩, hs, rfl⟩
      exact ⟨⟨hi, hs⟩, rfl⟩
    · rintro ⟨⟨hi, hs⟩, rfl⟩
      exact ⟨_, ⟨hi, rfl⟩, hs, rfl⟩

/-- The loop adds the items' terms to `all_accesses`, in order. -/
theorem foldl_packUpdate_allAccesses (items : List (List (List Int) × List Access)) (s : PackLoop) :
    (items.foldl (packUpdate dirName operator configZeroGl dtype) s).allAccesses = s.allAccesses ++ items.flatMap (·.2) := by
  induction items generalizing s with
  | nil => simp
  | cons item items ih => simp [ih, packUpdate, List.append_assoc]

end Loop

/-- The message of the mixed-dtype `NotImplementedError`, listing the accessed fields. -/
def mixedDtypeMessage (fieldsAccessed : List Access) : String :=
  "Fields of different data types are used - this is not supported.\n" ++
    "\n".intercalate (fieldsAccessed.map fun f => " - " ++ f.str ++ " [" ++ f.field.dtype ++ "]")

/-- `data_types = {fa.field.dtype for fa in fields_accessed}`: `raise ValueError("No fields
to pack!")` for none, the mixed-dtype `NotImplementedError` for more than one, else the
one dtype. -/
def packDtype (fieldsAccessed : List Access) : Except PyError String :=
  match (fieldsAccessed.map (·.field.dtype)).dedup with
  | [] => .error (.valueError "No fields to pack!")
  | [dtype] => .ok dtype
  | _ => .error (.notImplementedError (mixedDtypeMessage fieldsAccessed))

/-- `type(v).__name__` of a keyword value. -/
def PyVal.typeName : PyVal → String
  | .none => "NoneType"
  | .bool _ => "bool"
  | .int _ => "int"
  | .str _ => "str"

/-- `config_from_context(generation_context, target=target, data_type=data_type,
cpu_openmp=cpu_openmp, **kwargs)` as the pack infos call it: Python binds a
`cpu_vectorize_info` among `kwargs` to the parameter of that name. A value other than `None`
has no `get`, and the completion of the dict raises `AttributeError` once the CUDA check has
passed. -/
def configFromKwargs (ps : Pystencils) (ctx : GenerationContext) (target : Target) (dataType : Option String)
    (cpuOpenmp : Option Bool) (kwargs : PyDict) : Except PyError CreateKernelConfig :=
  match kwargs.getD "cpu_vectorize_info" .none with
  | .none => configFromContext ps ctx target dataType cpuOpenmp none (kwargs.erase "cpu_vectorize_info")
  | v =>
    if target = .gpu ∧ ctx.cuda = false then .error (.valueError noCudaMessage)
    else .error (.attributeError ("'" ++ v.typeName ++ "' object has no attribute 'get'"))

/-- The message of Python's `TypeError` for `ghost_layers` passed twice to `config_from_context`. -/
def ghostLayersTwiceMessage : String :=
  "config_from_context() got multiple values for keyword argument 'ghost_layers'"

/-- `config_from_context(..., ghost_layers=0, **create_kernel_params)`: a `TypeError` if
`create_kernel_params` holds `ghost_layers` too; else `ghost_layers` comes first among the
keyword arguments. -/
def configZeroGhostLayers (ps : Pystencils) (ctx : GenerationContext) (target : Target)
    (dataType : Option String) (cpuOpenmp : Option Bool) (kwargs : PyDict) : Except PyError CreateKernelConfig :=
  if "ghost_layers" ∈ kwargs.keys then .error (.typeError ghostLayersTwiceMessage)
  else configFromKwargs ps ctx target dataType cpuOpenmp (kwargs.cons "ghost_layers" (.int 0))

/-- `generate_pack_info(generation_context, class_name, directions_to_pack_terms, namespace,
operator, gl_to_inner, target, data_type, cpu_openmp, **create_kernel_params)`. -/
def generatePackInfo (ps : Pystencils) (dirName : List Int → String) (so : SetOrder Access)
    (sn : SetOrder String) (ctx : GenerationContext) (className : String) (directionsToPackTerms : PackTerms)
    (namespaceName : String) (operator : Option (Expr → Expr → Expr)) (glToInner : Bool) (target : Target)
    (dataType : Option String) (cpuOpenmp : Option Bool) (kwargs : PyDict) :
    Except PyError (Generated PackInfoContext) := do
  let items := orderedItems directionsToPackTerms
  let config ← configFromKwargs ps ctx target dataType cpuOpenmp kwargs
  let configZeroGl ← configZeroGhostLayers ps ctx target dataType cpuOpenmp kwargs
  let config := { config with cpuVectorizeInfo := none }
  let configZeroGl := { configZeroGl with cpuVectorizeInfo := none }
  let fieldsAccessed := so.iter (items.flatMap (·.2))
  let fieldNames := sn.iter (fieldsAccessed.map (·.field.name))
  let dtype ← packDtype fieldsAccessed
  let s ← packLoop ps dirName operator configZeroGl dtype items .init
  -- `buffer` is the last item's; there is one, as there is a term
  let buffer := packBuffer dtype ((items.getLast?.map (·.2.length)).getD 0)
  let fusedKernel ← createKernel ps
    ((so.iter s.allAccesses).map fun t => ⟨.access (bufferAccess buffer 0), .access t⟩) config
  let sourceExtension := if config.target = .cpu then "cpp" else "cu"
  pure ⟨{ className := className
          packKernels := s.packKernels
          unpackKernels := s.unpackKernels
          fusedKernel := fusedKernel
          elementsPerCell := s.elementsPerCell
          target := config.target
          dtype := dtype
          fieldName := fieldNames.headD ""
          namespaceName := namespaceName
          glToInner := glToInner },
    [className ++ ".h", className ++ "." ++ sourceExtension]⟩

/-! ### What `generate_pack_info` checks -/

/-- All the terms of a mapping. -/
def PackTerms.terms (d : PackTerms) : List Access := d.items.flatMap (·.2)

theorem firstNeighbourhood_iff (D : List (List Int)) :
    firstNeighbourhood D = true ↔ ∀ c ∈ D, UnitOffset c := by
  simp [firstNeighbourhood, UnitOffset]

theorem orderedItems_perm (d : PackTerms) :
    (orderedItems d).Perm (d.items.map fun e => (e.1, e.2.insertionSort TermLe)) :=
  List.perm_insertionSort _ _

theorem mem_orderedItems {d : PackTerms} {D : List (List Int)} {T : List Access} :
    (D, T) ∈ orderedItems d ↔ ∃ T₀, (D, T₀) ∈ d.items ∧ T = T₀.insertionSort TermLe := by
  rw [(orderedItems_perm d).mem_iff, List.mem_map]
  constructor
  · rintro ⟨⟨D', T₀⟩, h, ⟨⟩⟩
    exact ⟨T₀, h, rfl⟩
  · rintro ⟨T₀, h, rfl⟩
    exact ⟨(D, T₀), h, rfl⟩

/-- An ordered item is a key of the mapping with its terms sorted. -/
theorem mem_orderedItems_iff {d : PackTerms} {D : List (List Int)} {T : List Access} :
    (D, T) ∈ orderedItems d ↔ D ∈ d.keys ∧ T = ((d.get? D).getD []).insertionSort TermLe := by
  rw [mem_orderedItems, Dict.mem_keys_iff]
  constructor
  · rintro ⟨T₀, h, rfl⟩
    exact ⟨⟨T₀, h⟩, by rw [Dict.get?_eq_some_iff.mpr h, Option.getD_some]⟩
  · rintro ⟨⟨T₀, h⟩, rfl⟩
    exact ⟨T₀, h, by rw [Dict.get?_eq_some_iff.mpr h, Option.getD_some]⟩

theorem mem_terms_of_mem_getD {d : PackTerms} {k : List (List Int)} {t : Access}
    (ht : t ∈ (d.get? k).getD []) : t ∈ d.terms := by
  cases hk : d.get? k with
  | none => simp [hk] at ht
  | some T =>
    rw [hk, Option.getD_some] at ht
    exact List.mem_flatMap.mpr ⟨(k, T), Dict.get?_eq_some_iff.mp hk, ht⟩

theorem orderedItems_keys_nodup (d : PackTerms) : ((orderedItems d).map (·.1)).Nodup :=
  ((orderedItems_perm d).map (·.1)).nodup_iff.mpr (by simpa [List.map_map, Function.comp_def] using d.keys_nodup)

theorem mem_terms_orderedItems {d : PackTerms} {t : Access} :
    t ∈ (orderedItems d).flatMap (·.2) ↔ t ∈ d.terms := by
  simp only [List.mem_flatMap, PackTerms.terms]
  constructor
  · rintro ⟨⟨D, T⟩, h, ht⟩
    obtain ⟨T₀, h₀, rfl⟩ := mem_orderedItems.mp h
    exact ⟨(D, T₀), h₀, (List.perm_insertionSort _ _).mem_iff.mp ht⟩
  · rintro ⟨⟨D, T₀⟩, h₀, ht⟩
    exact ⟨(D, T₀.insertionSort TermLe), mem_orderedItems.mpr ⟨T₀, h₀, rfl⟩,
      (List.perm_insertionSort _ _).mem_iff.mpr ht⟩

theorem all_firstNeighbourhood_orderedItems (d : PackTerms) :
    (orderedItems d).all (firstNeighbourhood ·.1) = true ↔ ∀ D ∈ d.keys, ∀ c ∈ D, UnitOffset c := by
  simp only [List.all_eq_true, firstNeighbourhood_iff]
  constructor
  · exact fun h D hD => h (D, _) (mem_orderedItems_iff.mpr ⟨hD, rfl⟩)
  · rintro h ⟨D, T⟩ hm
    exact h D (mem_orderedItems_iff.mp hm).1

theorem dedup_eq_singleton_iff {α : Type} [DecidableEq α] {l : List α} {x : α} :
    l.dedup = [x] ↔ l ≠ [] ∧ ∀ y ∈ l, y = x := by
  constructor
  · intro h
    refine ⟨fun hl => by simp [hl] at h, fun y hy => ?_⟩
    simpa [h] using List.mem_dedup.mpr hy
  · rintro ⟨hl, hx⟩
    rw [List.eq_replicate_iff.mpr ⟨rfl, hx⟩, List.replicate_dedup (by simpa using hl)]

/-- The dtype checks pass exactly when there is an access and all have one dtype. -/
theorem packDtype_eq_ok_iff (fa : List Access) (dtype : String) :
    packDtype fa = .ok dtype ↔ fa ≠ [] ∧ ∀ t ∈ fa, t.field.dtype = dtype := by
  unfold packDtype
  split
  · next h => simp [List.map_eq_nil_iff.mp ((List.dedup_eq_nil _).mp h)]
  · next x h =>
    obtain ⟨hne, hx⟩ := dedup_eq_singleton_iff.mp h
    simp only [ne_eq, List.map_eq_nil_iff, List.forall_mem_map] at hne hx
    refine ⟨fun h => ⟨hne, by cases h; exact hx⟩, fun ⟨_, hd⟩ => ?_⟩
    obtain ⟨t, ht⟩ := List.exists_mem_of_ne_nil _ hne
    rw [← hx t ht, hd t ht]
  · next h =>
    simp only [reduceCtorEq, false_iff, not_and]
    exact fun hne hall => h _ (dedup_eq_singleton_iff.mpr ⟨by simpa using hne, by simpa using hall⟩)

/-! ### When `generate_pack_info` returns -/

/-- The keyword arguments of a pack info get through Python's binding and `CreateKernelConfig`:
no `ghost_layers`, which the code passes itself; a `cpu_vectorize_info` only as `None`; and
every other keyword, and `ghost_layers`, one that `CreateKernelConfig` takes. -/
def PackInfoKeywords (ps : Pystencils) (kwargs : PyDict) : Prop :=
  "ghost_layers" ∉ kwargs.keys ∧ kwargs.getD "cpu_vectorize_info" .none = .none ∧
    TakesKeywords ps (kwargs.erase "cpu_vectorize_info") ∧ "ghost_layers" ∈ ps.configFields

instance (ps : Pystencils) (kwargs : PyDict) : Decidable (PackInfoKeywords ps kwargs) :=
  inferInstanceAs (Decidable (_ ∧ _))

/-- The configuration of a pack info's kernels where `config_from_context` returns on the
keyword arguments `kwargs`, after `replace(config, cpu_vectorize_info=None)`. -/
def packInfoConfig (ctx : GenerationContext) (target : Target) (dataType : Option String)
    (cpuOpenmp : Option Bool) (kwargs : PyDict) : CreateKernelConfig :=
  ⟨target, dataType.getD (defaultDataType ctx), cpuOpenmp.getD ctx.openmp, none, kwargs.erase "cpu_vectorize_info"⟩

/-- `[Assignment(buffer.center, t) for t in all_accesses]` after the loop over `items`, with
the last item's buffer. -/
def fusedAssignments (so : SetOrder Access) (dtype : String) (items : List (List (List Int) × List Access)) :
    List Assignment :=
  (so.iter (items.flatMap (·.2))).map fun t =>
    ⟨.access (bufferAccess (packBuffer dtype ((items.getLast?.map (·.2.length)).getD 0)) 0), .access t⟩

/-- pystencils compiles every kernel `generate_pack_info` creates from the items: the pack
and the unpack kernel of each, under `configZeroGl`, and the fused kernel, under `config`. -/
def PackKernelsCompile (ps : Pystencils) (so : SetOrder Access) (operator : Option (Expr → Expr → Expr))
    (items : List (List (List Int) × List Access)) (config configZeroGl : CreateKernelConfig) (dtype : String) :
    Prop :=
  (∀ item ∈ items, ItemKernelsCompile ps operator configZeroGl dtype item) ∧
    ps.kernelError (fusedAssignments so dtype items) config = none

section Configurations

variable {ps : Pystencils} {ctx : GenerationContext} {target : Target} {dt : Option String}
  {omp : Option Bool} {kw : PyDict} {c : CreateKernelConfig}

theorem configFromKwargs_eq_ok (h : configFromKwargs ps ctx target dt omp kw = .ok c) :
    ¬(target = .gpu ∧ ctx.cuda = false) ∧ kw.getD "cpu_vectorize_info" .none = .none ∧
      TakesKeywords ps (kw.erase "cpu_vectorize_info") ∧
      { c with cpuVectorizeInfo := none } = packInfoConfig ctx target dt omp kw := by
  unfold configFromKwargs at h
  split at h
  · next hv =>
    obtain ⟨hg, ht, rfl⟩ := configFromContext_eq_ok_iff.mp h
    exact ⟨hg, hv, ht, rfl⟩
  · split_ifs at h

theorem configFromKwargs_ok_iff :
    (∃ c, configFromKwargs ps ctx target dt omp kw = .ok c) ↔
      ¬(target = .gpu ∧ ctx.cuda = false) ∧ kw.getD "cpu_vectorize_info" .none = .none ∧
        TakesKeywords ps (kw.erase "cpu_vectorize_info") := by
  unfold configFromKwargs
  split
  · next hv => rw [configFromContext_ok_iff, hv]; simp
  · next v hv =>
    refine iff_of_false (fun ⟨c, h⟩ => ?_) fun h => hv h.2.1
    split_ifs at h

/-- `ghost_layers` first, then keyword arguments without it: `CreateKernelConfig` takes them
all exactly when it takes the others and `ghost_layers`. -/
theorem takesKeywords_zeroGhostLayers (h : "ghost_layers" ∉ kw.keys) :
    TakesKeywords ps ((kw.cons "ghost_layers" (.int 0)).erase "cpu_vectorize_info") ↔
      TakesKeywords ps (kw.erase "cpu_vectorize_info") ∧ "ghost_layers" ∈ ps.configFields := by
  have hgl : "ghost_layers" ∉ (kw.erase "cpu_vectorize_info").keys := by
    rw [Dict.keys_erase]
    exact fun h' => h (List.mem_of_mem_filter h')
  rw [Dict.erase_cons_of_ne _ (by decide), TakesKeywords, TakesKeywords, configKeywords, configKeywords,
    Dict.keys_cons, List.filter_eq_self.mpr fun k hk => by simpa using ne_of_mem_of_not_mem hk hgl]
  simp only [List.forall_mem_append, List.forall_mem_cons]
  tauto

theorem configZeroGhostLayers_eq_ok (h : configZeroGhostLayers ps ctx target dt omp kw = .ok c) :
    "ghost_layers" ∉ kw.keys ∧ { c with cpuVectorizeInfo := none } =
      packInfoConfig ctx target dt omp (kw.cons "ghost_layers" (.int 0)) := by
  unfold configZeroGhostLayers at h
  by_cases hgl : "ghost_layers" ∈ kw.keys
  · rw [if_pos hgl] at h
    cases h
  · rw [if_neg hgl] at h
    exact ⟨hgl, (configFromKwargs_eq_ok h).2.2.2⟩

theorem configZeroGhostLayers_ok_iff :
    (∃ c, configZeroGhostLayers ps ctx target dt omp kw = .ok c) ↔
      "ghost_layers" ∉ kw.keys ∧ ¬(target = .gpu ∧ ctx.cuda = false) ∧
        kw.getD "cpu_vectorize_info" .none = .none ∧
        TakesKeywords ps ((kw.cons "ghost_layers" (.int 0)).erase "cpu_vectorize_info") := by
  unfold configZeroGhostLayers
  split_ifs with hgl
  · simp [hgl]
  · rw [configFromKwargs_ok_iff, Dict.getD, Dict.getD, Dict.get?_cons_of_ne _ (by decide)]
    simp [hgl]

/-- Both configurations of a pack info are built exactly when the target is not a GPU on a
build without CUDA and the keyword arguments get through. -/
theorem packInfoConfigs_ok_iff :
    ((∃ c, configFromKwargs ps ctx target dt omp kw = .ok c) ∧
      ∃ c, configZeroGhostLayers ps ctx target dt omp kw = .ok c) ↔
      ¬(target = .gpu ∧ ctx.cuda = false) ∧ PackInfoKeywords ps kw := by
  rw [configFromKwargs_ok_iff, configZeroGhostLayers_ok_iff, PackInfoKeywords]
  constructor
  · rintro ⟨⟨hg, hv, ht⟩, hgl, -, -, hz⟩
    exact ⟨hg, hgl, hv, ht, ((takesKeywords_zeroGhostLayers hgl).mp hz).2⟩
  · rintro ⟨hg, hgl, hv, ht, hf⟩
    exact ⟨⟨hg, hv, ht⟩, hgl, hg, hv, (takesKeywords_zeroGhostLayers hgl).mpr ⟨ht, hf⟩⟩

end Configurations

/-- **What a successful `generate_pack_info` did**: its configurations were built, the
terms have one dtype, every direction is a first-neighbourhood one, every kernel compiled,
and the kernels and counts are those of the ordered items, added one after another. -/
theorem generatePackInfo_ok {ps : Pystencils} {dirName : List Int → String} {so : SetOrder Access}
    {sn : SetOrder String} {ctx : GenerationContext} {className : String} {d : PackTerms} {ns : String}
    {operator : Option (Expr → Expr → Expr)} {glToInner : Bool} {target : Target} {dt : Option String}
    {omp : Option Bool} {kw : PyDict} {g : Generated PackInfoContext}
    (h : generatePackInfo ps dirName so sn ctx className d ns operator glToInner target dt omp kw = .ok g) :
    ¬(target = .gpu ∧ ctx.cuda = false) ∧ PackInfoKeywords ps kw ∧
      packDtype (so.iter ((orderedItems d).flatMap (·.2))) = .ok g.context.dtype ∧
      (∀ D ∈ d.keys, ∀ c ∈ D, UnitOffset c) ∧
      PackKernelsCompile ps so operator (orderedItems d) (packInfoConfig ctx target dt omp kw)
        (packInfoConfig ctx target dt omp (kw.cons "ghost_layers" (.int 0))) g.context.dtype ∧
      g.context.packKernels = ((orderedItems d).foldl (packUpdate dirName operator
        (packInfoConfig ctx target dt omp (kw.cons "ghost_layers" (.int 0))) g.context.dtype) .init).packKernels ∧
      g.context.unpackKernels = ((orderedItems d).foldl (packUpdate dirName operator
        (packInfoConfig ctx target dt omp (kw.cons "ghost_layers" (.int 0))) g.context.dtype) .init).unpackKernels ∧
      g.context.elementsPerCell = ((orderedItems d).foldl (packUpdate dirName operator
        (packInfoConfig ctx target dt omp (kw.cons "ghost_layers" (.int 0))) g.context.dtype) .init).elementsPerCell ∧
      g.context.fieldName = (sn.iter ((so.iter ((orderedItems d).flatMap (·.2))).map (·.field.name))).headD "" ∧
      g.files = [className ++ ".h", className ++ "." ++ if target = .cpu then "cpp" else "cu"] := by
  unfold generatePackInfo at h
  simp only [bind_eq_ok_iff] at h
  obtain ⟨config, hc, configZeroGl, hz, dtype, hd, s, hs, fused, hf, hg⟩ := h
  cases hg
  obtain ⟨hgpu, hv, ht, hcfg⟩ := configFromKwargs_eq_ok hc
  obtain ⟨hgl, hzcfg⟩ := configZeroGhostLayers_eq_ok hz
  obtain ⟨hitems, rfl⟩ := (packLoop_eq_ok_iff ..).mp hs
  obtain ⟨hfused, rfl⟩ := createKernel_eq_ok_iff.mp hf
  have hkw := (packInfoConfigs_ok_iff.mp ⟨⟨_, hc⟩, _, hz⟩).2
  rw [hzcfg] at hitems ⊢
  rw [foldl_packUpdate_allAccesses, hcfg] at hfused
  refine ⟨hgpu, hkw, hd, (all_firstNeighbourhood_orderedItems d).mp (List.all_eq_true.mpr fun e he =>
    (hitems e he).1), ⟨fun e he => (hitems e he).2, by simpa [fusedAssignments] using hfused⟩, rfl, rfl, rfl, rfl, ?_⟩
  rw [show config.target = target from congrArg CreateKernelConfig.target hcfg]

/-- The dtype check on the ordered items is the dtype check on the mapping's terms. -/
theorem packDtype_orderedItems_eq_ok_iff (so : SetOrder Access) (d : PackTerms) (dtype : String) :
    packDtype (so.iter ((orderedItems d).flatMap (·.2))) = .ok dtype ↔
      d.terms ≠ [] ∧ ∀ t ∈ d.terms, t.field.dtype = dtype := by
  simp only [packDtype_eq_ok_iff, ne_eq, List.eq_nil_iff_forall_not_mem, so.mem_iter, mem_terms_orderedItems]

/-- The pack and unpack lists, entry by entry: entry `i` is `buffer(i) <- terms[i]`, and
`terms[i] <- buffer(i)` or `terms[i] <- operator(terms[i], buffer(i))`. -/
theorem packAssignments_getElem? (buf : Field) (terms : List Access) (i : Nat) :
    (packAssignments buf terms)[i]? = terms[i]?.map fun t => ⟨.access (bufferAccess buf i), .access t⟩ := by
  simp [packAssignments, List.getElem?_enum, Option.map_map, Function.comp_def]

theorem unpackAssignments_getElem? (operator : Option (Expr → Expr → Expr)) (buf : Field)
    (terms : List Access) (i : Nat) :
    (unpackAssignments operator buf terms)[i]? = terms[i]?.map fun t =>
      ⟨.access t, operator.elim (.access (bufferAccess buf i)) fun op => op (.access t) (.access (bufferAccess buf i))⟩ := by
  cases operator <;> simp [unpackAssignments, List.getElem?_enum, Option.map_map, Function.comp_def]

section Loop

variable (dirName : List Int → String) (operator : Option (Expr → Expr → Expr))
  (configZeroGl : CreateKernelConfig) (dtype : String) (items : List (List (List Int) × List Access))

/-- The loop sets the pack kernel of each item under its direction names. -/
theorem foldl_packUpdate_packKernels (s : PackLoop) :
    (items.foldl (packUpdate dirName operator configZeroGl dtype) s).packKernels =
      items.foldl (fun acc e => acc.set (e.1.map dirName) (packKernel dirName configZeroGl dtype e.1 e.2))
        s.packKernels :=
  (List.foldl_hom PackLoop.packKernels _ _ items s fun _ _ => rfl).symm

theorem foldl_packUpdate_unpackKernels (s : PackLoop) :
    (items.foldl (packUpdate dirName operator configZeroGl dtype) s).unpackKernels =
      items.foldl (fun acc e => acc.set (e.1.map dirName)
        (unpackKernel dirName operator configZeroGl dtype e.1 e.2)) s.unpackKernels :=
  (List.foldl_hom PackLoop.unpackKernels _ _ items s fun _ _ => rfl).symm

theorem foldl_packUpdate_elementsPerCell (s : PackLoop) :
    (items.foldl (packUpdate dirName operator configZeroGl dtype) s).elementsPerCell =
      items.foldl (fun acc e => acc.set (e.1.map dirName) e.2.length) s.elementsPerCell :=
  (List.foldl_hom PackLoop.elementsPerCell _ _ items s fun _ _ => rfl).symm

end Loop

/-- A dict filled from the empty one, under the direction names of items whose names differ:
its keys are those names in item order, and each item's value is under its names. -/
theorem foldl_set_names {W : Type} (dirName : List Int → String) (items : List (List (List Int) × List Access))
    (val : List (List Int) × List Access → W) (hnd : (items.map fun e => e.1.map dirName).Nodup) :
    (items.foldl (fun acc e => acc.set (e.1.map dirName) (val e)) Dict.empty).keys =
        items.map (fun e => e.1.map dirName) ∧
      ∀ e ∈ items, (items.foldl (fun acc e => acc.set (e.1.map dirName) (val e)) Dict.empty).get?
        (e.1.map dirName) = some (val e) :=
  ⟨Dict.keys_foldl_set items _ val hnd _ (fun _ _ h => by simp [Dict.keys, Dict.empty] at h),
    fun _ he => Dict.get?_foldl_set items _ val hnd _ he⟩

theorem mem_keys_of_mem_orderedItems {d : PackTerms} {e : List (List Int) × List Access}
    (he : e ∈ orderedItems d) : e.1 ∈ d.keys :=
  (mem_orderedItems_iff.mp he).1

/-- **The kernels of a pack info.** Let the direction names tell unit offsets of dimension
`n` apart. For a mapping `generate_pack_info` accepts, with directions of dimension `n`:
no two keys share their direction names, so the pack kernels, the unpack kernels and the
element counts hold one entry per key, under its direction names, in key order. For a key
`D` with its sorted terms `T`, the count is `len(T)`, and the pack kernel `pack_<names>`
copies `T[i]` into `buffer(i)`, the unpack kernel `unpack_<names>` copies `buffer(i)` back
into `T[i]`, or combines it with `T[i]` by the operator. So on a receiver whose buffer
holds what the sender packed, unpacking sets each term to the sender's value, or, for an
operator and terms that are all different, combines each term with it once. -/
theorem generatePackInfo_kernels (ps : Pystencils) (dirName : List Int → String) (n : Nat)
    (hnames : NamesDistinct dirName n) (so : SetOrder Access) (sn : SetOrder String)
    (ctx : GenerationContext) (className : String) (d : PackTerms) (ns : String)
    (operator : Option (Expr → Expr → Expr)) (glToInner : Bool) (target : Target) (dt : Option String)
    (omp : Option Bool) (kw : PyDict) (g : Generated PackInfoContext)
    (hdim : ∀ D ∈ d.keys, ∀ c ∈ D, c.length = n)
    (h : generatePackInfo ps dirName so sn ctx className d ns operator glToInner target dt omp kw = .ok g) :
    g.context.packKernels.keys = (orderedItems d).map (·.1.map dirName) ∧
    g.context.unpackKernels.keys = (orderedItems d).map (·.1.map dirName) ∧
    g.context.elementsPerCell.keys = (orderedItems d).map (·.1.map dirName) ∧
    ∀ D T, (D, T) ∈ orderedItems d →
      (∀ D' ∈ d.keys, D'.map dirName = D.map dirName → D' = D) ∧
      g.context.elementsPerCell.get? (D.map dirName) = some T.length ∧
      ∃ kp ku : Kernel, g.context.packKernels.get? (D.map dirName) = some kp ∧
        g.context.unpackKernels.get? (D.map dirName) = some ku ∧
        kp.functionName = "pack_" ++ "_".intercalate (D.map dirName) ∧
        ku.functionName = "unpack_" ++ "_".intercalate (D.map dirName) ∧
        (∀ i : Nat, kp.assignments[i]? = T[i]?.map fun t =>
          (⟨.access (bufferAccess (packBuffer g.context.dtype T.length) i), .access t⟩ : Assignment)) ∧
        (∀ i : Nat, ku.assignments[i]? = T[i]?.map fun t =>
          (⟨.access t, operator.elim (.access (bufferAccess (packBuffer g.context.dtype T.length) i))
            fun op => op (.access t) (.access (bufferAccess (packBuffer g.context.dtype T.length) i))⟩ : Assignment)) ∧
        ((∀ t ∈ T, t.field ≠ packBuffer g.context.dtype T.length) →
          ∀ {V : Type} (I : Interp V) (σ τ : Access → V),
            (∀ i < T.length, τ (bufferAccess (packBuffer g.context.dtype T.length) i) =
              execAssignments I kp.assignments σ (bufferAccess (packBuffer g.context.dtype T.length) i)) →
            (operator = none → ∀ t ∈ T, execAssignments I ku.assignments τ t = σ t) ∧
            ∀ (op : Expr → Expr → Expr) (f : V → V → V), operator = some op →
              (∀ σ a b, (op a b).eval I σ = f (a.eval I σ) (b.eval I σ)) → T.Nodup →
              ∀ t ∈ T, execAssignments I ku.assignments τ t = f (τ t) (σ t)) := by
  obtain ⟨-, -, -, hunit, -, hpk, hupk, hepc, -⟩ := generatePackInfo_ok h
  have hinj : ∀ D ∈ d.keys, ∀ D' ∈ d.keys, D'.map dirName = D.map dirName → D' = D :=
    fun D hD D' hD' he => hnames.map_eq (fun c hc => ⟨hdim D' hD' c hc, hunit D' hD' c hc⟩)
      (fun c hc => ⟨hdim D hD c hc, hunit D hD c hc⟩) he
  have hkeys : ∀ D ∈ (orderedItems d).map (·.1), D ∈ d.keys := fun D hD => by
    obtain ⟨e, he, rfl⟩ := List.mem_map.mp hD
    exact mem_keys_of_mem_orderedItems he
  have hnd : ((orderedItems d).map fun e => e.1.map dirName).Nodup := by
    simpa [List.map_map, Function.comp_def] using (orderedItems_keys_nodup d).map_on
      fun D hD D' hD' he => hinj D' (hkeys D' hD') D (hkeys D hD) he
  have hP := foldl_set_names dirName (orderedItems d)
    (fun e => packKernel dirName (packInfoConfig ctx target dt omp (kw.cons "ghost_layers" (.int 0)))
      g.context.dtype e.1 e.2) hnd
  have hU := foldl_set_names dirName (orderedItems d)
    (fun e => unpackKernel dirName operator (packInfoConfig ctx target dt omp (kw.cons "ghost_layers" (.int 0)))
      g.context.dtype e.1 e.2) hnd
  have hE := foldl_set_names dirName (orderedItems d) (fun e => e.2.length) hnd
  rw [hpk, hupk, hepc, foldl_packUpdate_packKernels, foldl_packUpdate_unpackKernels,
    foldl_packUpdate_elementsPerCell]
  refine ⟨hP.1, hU.1, hE.1, fun D T hDT => ⟨fun D' hD' he => hinj D (mem_keys_of_mem_orderedItems hDT) D' hD' he,
    hE.2 _ hDT, _, _, hP.2 _ hDT, hU.2 _ hDT, rfl, rfl, packAssignments_getElem? _ _,
    unpackAssignments_getElem? _ _ _, fun hT V I σ τ hτ => ⟨?_, ?_⟩⟩⟩
  · rintro rfl
    exact unpack_after_pack I hT σ τ hτ
  · rintro op f rfl hop hndT
    exact unpack_operator_after_pack I hT hndT hop σ τ hτ

/-- The pack info of the east and the north direction, one component of `f` each. -/
theorem generatePackInfo_kernels_EN :
    let f : Field := ⟨"f", "double", 3, [2], .generic⟩
    let d : PackTerms := ⟨[([[0, 1, 0]], [f.center [.num 1]]), ([[1, 0, 0]], [f.center [.num 0]])], by decide⟩
    ∃ g, generatePackInfo .permissive offsetToDirectionString .dedup .dedup ⟨true, false, false, false, []⟩
        "PackInfo" d "pystencils" none false .cpu none none .empty = .ok g ∧ (∀ D ∈ d.keys, ∀ c ∈ D, c.length = 3) ∧
      g.context.packKernels.keys = [["N"], ["E"]] ∧ g.context.elementsPerCell.get? ["E"] = some 1 := by
  intro f d
  have hdim : ∀ D ∈ d.keys, ∀ c ∈ D, c.length = 3 := by decide
  obtain ⟨g, hg⟩ : ∃ g, generatePackInfo .permissive offsetToDirectionString .dedup .dedup
      ⟨true, false, false, false, []⟩ "PackInfo" d "pystencils" none false .cpu none none .empty = .ok g := ⟨_, rfl⟩
  have hk := generatePackInfo_kernels .permissive offsetToDirectionString 3 offsetToDirectionString_namesDistinct
    .dedup .dedup _ _ d _ _ _ _ _ _ _ g hdim hg
  refine ⟨g, hg, hdim, hk.1.trans (by decide), ?_⟩
  exact (hk.2.2.2 [[1, 0, 0]] [f.center [.num 0]] (by decide)).2.1

/-! ### The order of items and terms -/

instance : IsTotal Access TermLe := ⟨fun a b => le_total a.str.data b.str.data⟩

instance : IsTrans Access TermLe := ⟨fun _ _ _ => le_trans⟩

instance : IsTotal (List (List Int) × List Access) ItemLe := ⟨fun a b => le_total a.1 b.1⟩

instance : IsTrans (List (List Int) × List Access) ItemLe := ⟨fun _ _ _ => le_trans⟩

theorem eq_of_map_eq_of_injOn {α β : Type} {f : α → β} :
    ∀ {l₁ l₂ : List α}, (∀ a ∈ l₁, ∀ b ∈ l₂, f a = f b → a = b) → l₁.map f = l₂.map f → l₁ = l₂
  | [], [], _, _ => rfl
  | [], _ :: _, _, h => by simp at h
  | _ :: _, [], _, h => by simp at h
  | a :: l₁, b :: l₂, hinj, h => by
    simp only [List.map_cons, List.cons.injEq] at h
    rw [hinj a (.head _) b (.head _) h.1,
      eq_of_map_eq_of_injOn (fun x hx y hy => hinj x (.tail _ hx) y (.tail _ hy)) h.2]

/-- Sorting by a key that tells the elements apart: a permutation of a sorted list that is
sorted too is the same list. -/
theorem eq_of_perm_of_sorted_key {α β : Type} [LinearOrder β] (f : α → β) {r : α → α → Prop}
    (hr : ∀ a b, r a b → f a ≤ f b) {l₁ l₂ : List α} (hinj : ∀ a ∈ l₁, ∀ b ∈ l₁, f a = f b → a = b)
    (hp : l₁.Perm l₂) (h₁ : l₁.Sorted r) (h₂ : l₂.Sorted r) : l₁ = l₂ :=
  eq_of_map_eq_of_injOn (fun a ha b hb => hinj a ha b (hp.mem_iff.mpr hb))
    (List.eq_of_perm_of_sorted (hp.map f) (h₁.map f hr) (h₂.map f hr))

/-- Terms that print differently are sorted into one order, whatever order they come in. -/
theorem insertionSort_termLe_eq {T₁ T₂ : List Access} (hp : T₁.Perm T₂)
    (hstr : ∀ t ∈ T₁, ∀ u ∈ T₁, t.str = u.str → t = u) :
    T₁.insertionSort TermLe = T₂.insertionSort TermLe :=
  @eq_of_perm_of_sorted_key _ _ _ (fun t => t.str.data) TermLe (fun _ _ => id) _ _
    (fun t ht u hu h => hstr t ((List.perm_insertionSort _ _).mem_iff.mp ht) u
      ((List.perm_insertionSort _ _).mem_iff.mp hu) (String.ext h))
    (((List.perm_insertionSort _ _).trans hp).trans (List.perm_insertionSort _ _).symm)
    (List.sorted_insertionSort _ _) (List.sorted_insertionSort _ _)

/-- **The ordering is deterministic.** Two mappings with the same keys, each mapped to the
same multiset of terms, given in any order of items and of terms, have the same ordered
items, provided their terms print differently. -/
theorem orderedItems_eq_of_perm (d₁ d₂ : PackTerms) (hkeys : d₁.keys.Perm d₂.keys)
    (hvals : ∀ k ∈ d₁.keys, ((d₁.get? k).getD []).Perm ((d₂.get? k).getD []))
    (hstr : ∀ t ∈ d₁.terms, ∀ u ∈ d₁.terms, t.str = u.str → t = u) :
    orderedItems d₁ = orderedItems d₂ := by
  have hperm : (orderedItems d₁).Perm (orderedItems d₂) := by
    rw [List.perm_ext_iff_of_nodup (orderedItems_keys_nodup d₁).of_map (orderedItems_keys_nodup d₂).of_map]
    rintro ⟨D, T⟩
    rw [mem_orderedItems_iff, mem_orderedItems_iff, ← hkeys.mem_iff]
    -- the sorted terms of a key are the same in both
    exact and_congr_right fun hk => by
      rw [insertionSort_termLe_eq (hvals D hk) fun t ht u hu =>
        hstr t (mem_terms_of_mem_getD ht) u (mem_terms_of_mem_getD hu)]
  exact @eq_of_perm_of_sorted_key _ _ _ Prod.fst ItemLe (fun _ _ => id) _ _
    (List.inj_on_of_nodup_map (orderedItems_keys_nodup d₁)) hperm
    (List.sorted_insertionSort _ _) (List.sorted_insertionSort _ _)

/-- `generate_pack_info` reads its mapping only through the ordered items. -/
theorem generatePackInfo_congr {d₁ d₂ : PackTerms} (h : orderedItems d₁ = orderedItems d₂) (ps : Pystencils)
    (dirName : List Int → String) (so : SetOrder Access) (sn : SetOrder String) (ctx : GenerationContext)
    (className : String) (ns : String) (operator : Option (Expr → Expr → Expr)) (glToInner : Bool) (target : Target)
    (dt : Option String) (omp : Option Bool) (kw : PyDict) :
    generatePackInfo ps dirName so sn ctx className d₁ ns operator glToInner target dt omp kw =
      generatePackInfo ps dirName so sn ctx className d₂ ns operator glToInner target dt omp kw := by
  simp only [generatePackInfo, h]

/-- Two pack infos of mappings with the same ordered items, in any set orders, have the same
kernels and counts where both return: these do not depend on the set orders. -/
theorem generatePackInfo_kernels_eq {d₁ d₂ : PackTerms} (h : orderedItems d₁ = orderedItems d₂) {ps : Pystencils}
    {dirName : List Int → String} {so₁ so₂ : SetOrder Access} {sn₁ sn₂ : SetOrder String} {ctx : GenerationContext}
    {className ns : String} {operator : Option (Expr → Expr → Expr)} {glToInner : Bool} {target : Target}
    {dt : Option String} {omp : Option Bool} {kw : PyDict} {g₁ g₂ : Generated PackInfoContext}
    (h₁ : generatePackInfo ps dirName so₁ sn₁ ctx className d₁ ns operator glToInner target dt omp kw = .ok g₁)
    (h₂ : generatePackInfo ps dirName so₂ sn₂ ctx className d₂ ns operator glToInner target dt omp kw = .ok g₂) :
    g₁.context.packKernels = g₂.context.packKernels ∧ g₁.context.unpackKernels = g₂.context.unpackKernels ∧
      g₁.context.elementsPerCell = g₂.context.elementsPerCell := by
  obtain ⟨-, -, hd₁, -, -, hpk₁, hupk₁, hepc₁, -⟩ := generatePackInfo_ok h₁
  obtain ⟨-, -, hd₂, -, -, hpk₂, hupk₂, hepc₂, -⟩ := generatePackInfo_ok h₂
  -- the one dtype of the terms is the same in both
  rw [← h] at hd₂
  obtain ⟨hne, hall₁⟩ := (packDtype_orderedItems_eq_ok_iff so₁ d₁ _).mp hd₁
  obtain ⟨-, hall₂⟩ := (packDtype_orderedItems_eq_ok_iff so₂ d₁ _).mp hd₂
  obtain ⟨t, ht⟩ := List.exists_mem_of_ne_nil _ hne
  have hdt : g₁.context.dtype = g₂.context.dtype := (hall₁ t ht).symm.trans (hall₂ t ht)
  rw [hpk₁, hpk₂, hupk₁, hupk₂, hepc₁, hepc₂, h, hdt]
  exact ⟨rfl, rfl, rfl⟩

/-! ### `generate_pack_info_for_field` -/

/-- `product(*[range(s) for s in shape])`: every index of the shape, in lexicographic order. -/
def indexProduct : List Nat → List (List Nat)
  | [] => [[]]
  | s :: shape => (List.range s).flatMap fun i => (indexProduct shape).map (i :: ·)

/-- `tuple((i, j, k) for i, j, k in product(*[(-1, 0, 1)] * 3))`: the 27 offsets of the first
neighbourhood in three dimensions. -/
def firstNeighbourhood3D : List (List Int) :=
  [-1, 0, 1].flatMap fun i => [-1, 0, 1].flatMap fun j => [-1, 0, 1].map fun k => [i, j, k]

/-- `[field(*ind) for ind in product(*[range(s) for s in field.index_shape])]`: the field's own
cell at every index of its index shape. -/
def allIndexAccesses (field : Field) : List Access :=
  (indexProduct field.indexShape).map fun ind => field.center (ind.map fun (i : Nat) => Idx.num i)

/-- `if not direction_subset: direction_subset = ...`: all 27 directions when no subset, or an
empty one, is given. -/
def directionSubsetOrAll : Option (List (List Int)) → List (List Int)
  | none | some [] => firstNeighbourhood3D
  | some D => D

/-- `generate_pack_info_for_field(generation_context, class_name, field, direction_subset,
operator, gl_to_inner, target, data_type, cpu_openmp, **create_kernel_params)`: the pack info
of the mapping from the direction subset to the field's accesses at every index. -/
def generatePackInfoForField (ps : Pystencils) (dirName : List Int → String) (so : SetOrder Access)
    (sn : SetOrder String) (ctx : GenerationContext) (className : String) (field : Field)
    (directionSubset : Option (List (List Int))) (operator : Option (Expr → Expr → Expr)) (glToInner : Bool)
    (target : Target) (dataType : Option String) (cpuOpenmp : Option Bool) (kwargs : PyDict) :
    Except PyError (Generated PackInfoContext) :=
  generatePackInfo ps dirName so sn ctx className
    ⟨[(directionSubsetOrAll directionSubset, allIndexAccesses field)], List.nodup_singleton _⟩
    "pystencils" operator glToInner target dataType cpuOpenmp kwargs

/-- The indices of a shape are the lists below it, entry by entry. -/
theorem mem_indexProduct : ∀ {shape ind : List Nat}, ind ∈ indexProduct shape ↔ List.Forall₂ (· < ·) ind shape
  | [], ind => by simp [indexProduct, eq_comm]
  | s :: shape, [] => by simp [indexProduct]
  | s :: shape, i :: ind => by
    simp only [indexProduct, List.mem_flatMap, List.mem_range, List.mem_map, List.cons.injEq, List.forall₂_cons,
      mem_indexProduct]
    constructor
    · rintro ⟨_, hi, _, hind, rfl, rfl⟩
      exact ⟨hi, hind⟩
    · rintro ⟨hi, hind⟩
      exact ⟨i, hi, ind, hind, rfl, rfl⟩

/-- Each index of a shape is listed once. -/
theorem nodup_indexProduct : ∀ shape : List Nat, (indexProduct shape).Nodup
  | [] => List.nodup_singleton _
  | s :: shape => List.nodup_flatMap.mpr ⟨fun i _ => (nodup_indexProduct shape).map List.cons_injective,
      (List.nodup_range s).imp fun hij x hx hy => by
        obtain ⟨_, -, rfl⟩ := List.mem_map.mp hx
        obtain ⟨_, -, h⟩ := List.mem_map.mp hy
        exact hij (List.cons.inj h).1.symm⟩

/-- **`generate_pack_info_for_field` packs every element of the field once.** The accesses
it packs are the field's own cell at each index of its index shape, each once. -/
theorem allIndexAccesses_spec (field : Field) :
    (allIndexAccesses field).Nodup ∧ ∀ fa, fa ∈ allIndexAccesses field ↔
      ∃ ind, List.Forall₂ (· < ·) ind field.indexShape ∧ fa = field.center (ind.map fun (i : Nat) => Idx.num i) := by
  refine ⟨(nodup_indexProduct _).map fun u v h => ?_, fun fa => ?_⟩
  · have h := congrArg Access.index h
    simp only [Field.center_index] at h
    exact List.map_injective_iff.mpr (fun a b hab => Int.ofNat.inj (Idx.num.inj hab)) h
  · simp only [allIndexAccesses, List.mem_map, mem_indexProduct]
    exact ⟨fun ⟨ind, h, e⟩ => ⟨ind, h, e.symm⟩, fun ⟨ind, h, e⟩ => ⟨ind, h, e.symm⟩⟩

end WalberlaCodegen

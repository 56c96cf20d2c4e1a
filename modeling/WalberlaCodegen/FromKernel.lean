import WalberlaCodegen.PackInfo

/-!
# Communication specs from a kernel

`generate_pack_info_from_kernel` and `generate_mpidtype_info_from_kernel` read the
assignments of a compute kernel and work out which values travel through which
neighbour direction. Both collect the field accesses read (`kind='pull'`) or written
(`kind='push'`), and for each access with a nonzero offset add an entry under every
communication direction of its offset, inverted for `pull`, to a `defaultdict(set)`.
The pack info enters the access itself (its centre form for `pull`) under `(c,)`; the
MPI datatype info enters its index under `(offset_to_direction_string(c),)`, after
asserting that all the accesses belong to one field and that an entered access has a
single index dimension.

## The model

The reads and writes are Python sets, and the generators iterate over them in an order
Python chooses by hashes. `SetOrder` stands for that order: any order of the set's
elements, each once. Every result holds for every `SetOrder`. The two loops of the
source are one loop here, `commLoop`, which takes the direction (inverted or not) and
the entry an access makes for a direction; the MPI entry is the one that can fail, on
its `assert`. A `defaultdict(set)` is a `Dict` of lists (`Dict.addToSet`).

`Holds spec R` is the abstract view of such a dict: its keys are the keys with an entry
of the relation `R`, and the set under a key holds exactly the values `R` relates to it.
`PacksAlong` is the mapping the pack info of a kernel should get, in these terms.

## What is proved

* `commLoop_holds`, from the step lemma `commStep_holds`: a run of the loop holds
  exactly the entries of the accesses with nonzero offsets; `commLoop_ok_iff`: it
  succeeds exactly when every access is in the first neighbourhood and no entry fails.
* `generatePackInfoFromKernel_packs`: for `pull` and `push`, the mapping handed to
  `generate_pack_info` is `PacksAlong` the reads or the writes, and an access outside
  the first neighbourhood makes the call fail.
* `mpiSpec_agrees_with_packInfoSpec`: where the MPI info's checks pass, its spec is the
  pack info's spec, with directions named and accesses reduced to their index.
* `packSpec_deterministic`: the ordered pack spec does not depend on the order of items,
  of terms, of assignments or of Python's set iteration, and neither do the pack and
  unpack kernels and the counts of the pack info made from it, whatever order Python
  iterates the sets of `generate_pack_info` in.
-/

namespace WalberlaCodegen

/-! ### Dicts of sets -/

section Holds

variable {K V : Type} [DecidableEq K]

/-- A `defaultdict(set)` holds exactly the entries of `R`: a key is present iff it has an
entry, and the set under it holds the values of its entries. -/
def Holds (spec : Dict K (List V)) (R : K → V → Prop) : Prop :=
  (∀ k, k ∈ spec.keys ↔ ∃ v, R k v) ∧ ∀ k v, v ∈ (spec.get? k).getD [] ↔ R k v

theorem holds_empty : Holds (Dict.empty : Dict K (List V)) fun _ _ => False :=
  ⟨fun _ => by simp [Dict.keys, Dict.empty], fun _ _ => by simp [Dict.get?, Dict.empty]⟩

theorem Holds.congr {spec : Dict K (List V)} {R R' : K → V → Prop} (h : Holds spec R)
    (hR : ∀ k v, R k v ↔ R' k v) : Holds spec R' :=
  ⟨fun k => (h.1 k).trans (exists_congr (hR k)), fun k v => (h.2 k v).trans (hR k v)⟩

/-- The step: `spec[k].add(v)` adds the entry `(k, v)`. -/
theorem Holds.addToSet [DecidableEq V] {spec : Dict K (List V)} {R : K → V → Prop} (h : Holds spec R) (k : K) (v : V) :
    Holds (spec.addToSet k v) fun k' v' => R k' v' ∨ (k' = k ∧ v' = v) := by
  refine ⟨fun k' => ?_, fun k' v' => ?_⟩
  · rw [Dict.addToSet, Dict.mem_keys_set, h.1]
    constructor
    · rintro (rfl | ⟨w, hw⟩)
      · exact ⟨v, .inr ⟨rfl, rfl⟩⟩
      · exact ⟨w, .inl hw⟩
    · rintro ⟨w, hw | ⟨rfl, -⟩⟩
      · exact .inr ⟨w, hw⟩
      · exact .inl rfl
  · rw [Dict.addToSet, Dict.get?_set]
    split_ifs with hk
    · subst hk
      simp only [Option.getD_some, List.mem_insert_iff, h.2, true_and, or_comm]
    · simp only [h.2, hk, false_and, or_false]

end Holds

/-! ### The loop over the accesses -/

section Loop

variable {K V : Type} [DecidableEq K] [DecidableEq V]

/-- `for comm_dir in ...: spec[key].add(value)`, the key and the value of each direction
given by `entry`, which may fail an `assert`. -/
def addEntries (entry : List Int → Except PyError (K × V)) :
    List (List Int) → Dict K (List V) → Except PyError (Dict K (List V))
  | [], spec => .ok spec
  | c :: cs, spec => entry c >>= fun kv => addEntries entry cs (spec.addToSet kv.1 kv.2)

/-- The body of the loop over the accesses: `assert all(abs(e) <= 1 for e in fa.offsets)`,
`continue` for a zero offset, and otherwise the entries of every
`comm_dir in comm_directions(direction(fa.offsets))`. -/
def commStep (direction : List Int → List Int) (entry : Access → List Int → Except PyError (K × V))
    (spec : Dict K (List V)) (fa : Access) : Except PyError (Dict K (List V)) :=
  if fa.offsets.all (fun e => decide (e.natAbs ≤ 1)) then
    if fa.offsets.all (· == 0) then .ok spec
    else addEntries (entry fa) (commDirections (direction fa.offsets)) spec
  else .error (.assertionError "")

/-- `for fa in accesses: ...`. -/
def commLoop (direction : List Int → List Int) (entry : Access → List Int → Except PyError (K × V)) :
    List Access → Dict K (List V) → Except PyError (Dict K (List V))
  | [], spec => .ok spec
  | fa :: fas, spec => commStep direction entry spec fa >>= commLoop direction entry fas

variable (direction : List Int → List Int) (entry : Access → List Int → Except PyError (K × V))

theorem addEntries_ok_iff (e : List Int → Except PyError (K × V)) (cs : List (List Int))
    (spec : Dict K (List V)) :
    (∃ spec', addEntries e cs spec = .ok spec') ↔ ∀ c ∈ cs, ∃ kv, e c = .ok kv := by
  induction cs generalizing spec with
  | nil => simp [addEntries]
  | cons c cs ih =>
    cases hc : e c with
    | error err => simp [addEntries, hc, bind, Except.bind]
    | ok kv =>
      simp only [addEntries, hc, bind, Except.bind, ih, List.forall_mem_cons]
      exact ⟨fun h => ⟨⟨kv, rfl⟩, h⟩, fun h => h.2⟩

theorem addEntries_holds {e : List Int → Except PyError (K × V)} {cs : List (List Int)}
    {spec spec' : Dict K (List V)} {R : K → V → Prop} (h : addEntries e cs spec = .ok spec')
    (hs : Holds spec R) : Holds spec' fun k v => R k v ∨ ∃ c ∈ cs, e c = .ok (k, v) := by
  induction cs generalizing spec R with
  | nil =>
    cases h
    exact hs.congr fun _ _ => by simp
  | cons c cs ih =>
    obtain ⟨⟨k, v⟩, hc, h⟩ := bind_eq_ok_iff.mp h
    refine (ih h (hs.addToSet k v)).congr fun k' v' => ?_
    simp only [List.exists_mem_cons_iff, hc, Except.ok.injEq, Prod.mk.injEq, or_assoc]
    rw [@eq_comm _ k, @eq_comm _ v]

/-- **The step lemma**: one access adds its entries for its communication directions,
none for a zero offset. -/
theorem commStep_holds {spec spec' : Dict K (List V)} {fa : Access} {R : K → V → Prop}
    (h : commStep direction entry spec fa = .ok spec') (hs : Holds spec R) :
    Holds spec' fun k v => R k v ∨
      (¬IsZero fa.offsets ∧ ∃ c ∈ commDirections (direction fa.offsets), entry fa c = .ok (k, v)) := by
  unfold commStep at h
  split_ifs at h with hu hz
  · cases h
    exact hs.congr fun _ _ => by simp [(all_beq_zero_iff _).mp hz]
  · exact (addEntries_holds h hs).congr fun _ _ => by simp [(all_beq_zero_iff _).not.mp hz]

/-- **The run lemma**: the loop holds exactly the entries of its accesses with nonzero
offsets. -/
theorem commLoop_holds {accesses : List Access} {spec spec' : Dict K (List V)} {R : K → V → Prop}
    (h : commLoop direction entry accesses spec = .ok spec') (hs : Holds spec R) :
    Holds spec' fun k v => R k v ∨ ∃ fa ∈ accesses, ¬IsZero fa.offsets ∧
      ∃ c ∈ commDirections (direction fa.offsets), entry fa c = .ok (k, v) := by
  induction accesses generalizing spec R with
  | nil =>
    cases h
    exact hs.congr fun _ _ => by simp
  | cons fa fas ih =>
    obtain ⟨s, hstep, h⟩ := bind_eq_ok_iff.mp h
    refine (ih h (commStep_holds direction entry hstep hs)).congr fun _ _ => ?_
    simp only [List.exists_mem_cons_iff, or_assoc]

theorem commStep_ok_iff (spec : Dict K (List V)) (fa : Access) :
    (∃ spec', commStep direction entry spec fa = .ok spec') ↔ UnitOffset fa.offsets ∧
      (¬IsZero fa.offsets → ∀ c ∈ commDirections (direction fa.offsets), ∃ kv, entry fa c = .ok kv) := by
  unfold commStep
  split_ifs with hu hz
  · simp [(all_natAbs_le_one_iff _).mp hu, (all_beq_zero_iff _).mp hz]
  · simp [(all_natAbs_le_one_iff _).mp hu, (all_beq_zero_iff _).not.mp hz, addEntries_ok_iff]
  · simp [(all_natAbs_le_one_iff _).not.mp hu]

/-- The loop succeeds exactly when every access is in the first neighbourhood and no
entry of an access with a nonzero offset fails. -/
theorem commLoop_ok_iff (accesses : List Access) (spec : Dict K (List V)) :
    (∃ spec', commLoop direction entry accesses spec = .ok spec') ↔ ∀ fa ∈ accesses, UnitOffset fa.offsets ∧
      (¬IsZero fa.offsets → ∀ c ∈ commDirections (direction fa.offsets), ∃ kv, entry fa c = .ok kv) := by
  induction accesses generalizing spec with
  | nil => simp [commLoop]
  | cons fa fas ih =>
    rw [List.forall_mem_cons, ← commStep_ok_iff direction entry spec fa]
    simp only [commLoop, bind_eq_ok_iff]
    constructor
    · rintro ⟨_, s, hs, h⟩
      exact ⟨⟨s, hs⟩, (ih s).mp ⟨_, h⟩⟩
    · rintro ⟨⟨s, hs⟩, hfas⟩
      obtain ⟨s', h⟩ := (ih s).mpr hfas
      exact ⟨s', s, hs, h⟩

/-- With entries that never fail, the loop can only fail an offset `assert`. -/
theorem commLoop_eq_error (hentry : ∀ fa c, ∃ kv, entry fa c = .ok kv) {accesses : List Access}
    {spec : Dict K (List V)} {err : PyError} (h : commLoop direction entry accesses spec = .error err) :
    err = .assertionError "" := by
  induction accesses generalizing spec with
  | nil => cases h
  | cons fa fas ih =>
    simp only [commLoop] at h
    cases hs : commStep direction entry spec fa with
    | ok s => rw [hs] at h; exact ih h
    | error e =>
      rw [hs] at h
      cases h
      unfold commStep at hs
      split_ifs at hs with hu hz
      · obtain ⟨_, hok⟩ := (addEntries_ok_iff (entry fa) _ spec).mpr fun c _ => hentry fa c
        rw [hok] at hs
        cases hs
      · cases hs
        rfl

end Loop

/-! ### `generate_pack_info_from_kernel` -/

/-- An entry of the pack info's loops: `spec[(comm_dir,)].add(packed)`. -/
def packEntry (packed : Access → Access) (fa : Access) (commDir : List Int) :
    Except PyError (List (List Int) × Access) :=
  .ok ([commDir], packed fa)

/-- The entry of the `pull` branch: `spec[(comm_dir,)].add(fa.field.center(*fa.index))`. -/
def pullEntry : Access → List Int → Except PyError (List (List Int) × Access) :=
  packEntry fun fa => fa.field.center fa.index

/-- The entry of the `push` branch: `spec[(comm_dir,)].add(fa)`. -/
def pushEntry : Access → List Int → Except PyError (List (List Int) × Access) :=
  packEntry id

/-- The direction spec `generate_pack_info_from_kernel` builds from the assignments:
`assert kind in ('push', 'pull')`, the sets of reads and writes, and the loop of the kind. -/
def packInfoSpec (so : SetOrder Access) (assignments : Assignments) (kind : String) :
    Except PyError (Dict (List (List Int)) (List Access)) :=
  if kind = "push" ∨ kind = "pull" then
    let items := assignments.items
    if kind = "pull" then commLoop inverseDirection pullEntry (so.iter (reads items)) .empty
    else if kind = "push" then commLoop id pushEntry (so.iter (writes items)) .empty
    else .error (.valueError "Invalid 'kind' parameter")
  else .error (.assertionError "")

theorem packInfoSpec_pull (so : SetOrder Access) (assignments : Assignments) :
    packInfoSpec so assignments "pull" = commLoop inverseDirection pullEntry (so.iter (reads assignments.items)) .empty := by
  simp [packInfoSpec]

theorem packInfoSpec_push (so : SetOrder Access) (assignments : Assignments) :
    packInfoSpec so assignments "push" = commLoop id pushEntry (so.iter (writes assignments.items)) .empty := by
  simp [packInfoSpec]

/-- The spec as `generate_pack_info` gets it: a dict whose sets it iterates over in
Python's order. -/
def SetOrder.toPackTerms (so : SetOrder Access) (spec : Dict (List (List Int)) (List Access)) : PackTerms :=
  ⟨spec.items.map fun e => (e.1, so.iter e.2), by simpa [List.map_map, Function.comp_def] using spec.keys_nodup⟩

/-- `generate_pack_info_from_kernel(generation_context, class_name, assignments, kind,
operator, target, data_type, cpu_openmp, **create_kernel_params)`: the spec, handed to
`generate_pack_info` with its default namespace and `gl_to_inner`. -/
def generatePackInfoFromKernel (ps : Pystencils) (dirName : List Int → String) (so : SetOrder Access)
    (sn : SetOrder String) (ctx : GenerationContext) (className : String) (assignments : Assignments)
    (kind : String) (operator : Option (Expr → Expr → Expr)) (target : Target) (dataType : Option String)
    (cpuOpenmp : Option Bool) (kwargs : PyDict) : Except PyError (Generated PackInfoContext) := do
  let spec ← packInfoSpec so assignments kind
  generatePackInfo ps dirName so sn ctx className (so.toPackTerms spec) "pystencils" operator false target dataType
    cpuOpenmp kwargs

theorem SetOrder.keys_toPackTerms (so : SetOrder Access) (spec : Dict (List (List Int)) (List Access)) :
    (so.toPackTerms spec).keys = spec.keys := by
  simp [SetOrder.toPackTerms, Dict.keys, List.map_map, Function.comp_def]

theorem SetOrder.get?_toPackTerms (so : SetOrder Access) (spec : Dict (List (List Int)) (List Access))
    (k : List (List Int)) : (so.toPackTerms spec).get? k = (spec.get? k).map so.iter := by
  refine Option.ext fun T => ?_
  simp only [Option.mem_def, Dict.get?_eq_some_iff, Option.map_eq_some', SetOrder.toPackTerms, List.mem_map,
    Prod.mk.injEq]
  constructor
  · rintro ⟨⟨k', T₀⟩, h, rfl, rfl⟩
    exact ⟨T₀, h, rfl⟩
  · rintro ⟨T₀, h, rfl⟩
    exact ⟨(k, T₀), h, rfl, rfl⟩

theorem SetOrder.holds_toPackTerms (so : SetOrder Access) {spec : Dict (List (List Int)) (List Access)}
    {R : List (List Int) → Access → Prop} (h : Holds spec R) : Holds (so.toPackTerms spec) R :=
  ⟨fun k => by rw [so.keys_toPackTerms, h.1], fun k v => by
    rw [so.get?_toPackTerms, ← h.2]
    cases spec.get? k <;> simp [so.mem_iter]⟩

/-- The mapping the pack info of a kernel should get: under `(c,)` for every nonzero `c`
that is a sub-direction of `direction(o)` for the offset `o ≠ 0` of a considered access,
the packed forms of all such accesses. -/
def PacksAlong (considered : List Access) (direction : List Int → List Int) (packed : Access → Access)
    (spec : PackTerms) : Prop :=
  Holds spec fun k t => ∃ c, k = [c] ∧ ¬IsZero c ∧
    ∃ fa ∈ considered, ¬IsZero fa.offsets ∧ SubDirection c (direction fa.offsets) ∧ t = packed fa

/-- The pack loop over accesses in the first neighbourhood succeeds, and what it holds is
`PacksAlong` them, for a direction that keeps unit and zero offsets. -/
theorem commLoop_packsAlong (direction : List Int → List Int) (packed : Access → Access)
    (hunit : ∀ o, UnitOffset o → UnitOffset (direction o)) (hzero : ∀ o, IsZero (direction o) ↔ IsZero o)
    {considered : List Access} (hc : ∀ fa ∈ considered, UnitOffset fa.offsets) (so : SetOrder Access) :
    ∃ spec, commLoop direction (packEntry packed) (so.iter considered) .empty = .ok spec ∧
      PacksAlong considered direction packed (so.toPackTerms spec) := by
  obtain ⟨spec, h⟩ := (commLoop_ok_iff direction (packEntry packed) (so.iter considered) .empty).mpr fun fa hfa =>
    ⟨hc fa (so.mem_iter.mp hfa), fun _ _ _ => ⟨_, rfl⟩⟩
  refine ⟨spec, h, so.holds_toPackTerms ((commLoop_holds direction _ h holds_empty).congr fun k t => ?_)⟩
  simp only [false_or, so.mem_iter, packEntry, Except.ok.injEq, Prod.mk.injEq]
  constructor
  · rintro ⟨fa, hfa, hz, c, hmem, rfl, rfl⟩
    have hd := (mem_commDirections_of_not_isZero (hunit _ (hc fa hfa)) ((hzero _).not.mpr hz) c).mp hmem
    exact ⟨c, rfl, hd.1, fa, hfa, hz, hd.2, rfl⟩
  · rintro ⟨c, rfl, hcz, fa, hfa, hz, hsub, rfl⟩
    exact ⟨fa, hfa, hz, c,
      (mem_commDirections_of_not_isZero (hunit _ (hc fa hfa)) ((hzero _).not.mpr hz) c).mpr ⟨hcz, hsub⟩, rfl, rfl⟩

/-- A loop over accesses one of which leaves the first neighbourhood fails its `assert`. -/
theorem commLoop_pack_eq_error {direction : List Int → List Int} {packed : Access → Access}
    {considered : List Access} (h : ∃ fa ∈ considered, ¬UnitOffset fa.offsets) (so : SetOrder Access) :
    commLoop direction (packEntry packed) (so.iter considered) .empty =
      .error (.assertionError "") := by
  cases hl : commLoop direction (packEntry packed) (so.iter considered) .empty with
  | error err => rw [commLoop_eq_error direction _ (fun _ _ => ⟨_, rfl⟩) hl]
  | ok spec =>
    obtain ⟨fa, hfa, hu⟩ := h
    exact absurd ((commLoop_ok_iff direction (packEntry packed) _ _).mp ⟨spec, hl⟩ fa (so.mem_iter.mpr hfa)).1 hu

/-- **What a kernel's pack info packs.** For `pull`, if the reads are in the first
neighbourhood, `generate_pack_info_from_kernel` hands `generate_pack_info` a mapping that
is `PacksAlong` the reads, inverted, with their centre forms; for `push`, the writes, not
inverted, themselves. A considered access outside the first neighbourhood makes the call
fail its `assert` before anything is generated. -/
theorem generatePackInfoFromKernel_packs (ps : Pystencils) (dirName : List Int → String) (so : SetOrder Access)
    (sn : SetOrder String) (ctx : GenerationContext) (className : String) (assignments : Assignments)
    (operator : Option (Expr → Expr → Expr)) (target : Target) (dt : Option String) (omp : Option Bool)
    (kw : PyDict) :
    ((∀ fa ∈ reads assignments.items, UnitOffset fa.offsets) →
      ∃ spec, PacksAlong (reads assignments.items) inverseDirection (fun fa => fa.field.center fa.index) spec ∧
        generatePackInfoFromKernel ps dirName so sn ctx className assignments "pull" operator target dt omp kw =
          generatePackInfo ps dirName so sn ctx className spec "pystencils" operator false target dt omp kw) ∧
    ((∀ fa ∈ writes assignments.items, UnitOffset fa.offsets) →
      ∃ spec, PacksAlong (writes assignments.items) id id spec ∧
        generatePackInfoFromKernel ps dirName so sn ctx className assignments "push" operator target dt omp kw =
          generatePackInfo ps dirName so sn ctx className spec "pystencils" operator false target dt omp kw) ∧
    ((∃ fa ∈ reads assignments.items, ¬UnitOffset fa.offsets) →
      generatePackInfoFromKernel ps dirName so sn ctx className assignments "pull" operator target dt omp kw =
        .error (.assertionError "")) ∧
    ((∃ fa ∈ writes assignments.items, ¬UnitOffset fa.offsets) →
      generatePackInfoFromKernel ps dirName so sn ctx className assignments "push" operator target dt omp kw =
        .error (.assertionError "")) := by
  have hinv : ∀ o, UnitOffset o → UnitOffset (inverseDirection o) := fun o => (unitOffset_inverseDirection_iff o).mpr
  refine ⟨fun hc => ?_, fun hc => ?_, fun h => ?_, fun h => ?_⟩
  · obtain ⟨spec, hl, hp⟩ := commLoop_packsAlong _ _ hinv isZero_inverseDirection_iff hc so
    exact ⟨_, hp, by rw [generatePackInfoFromKernel, packInfoSpec_pull, pullEntry, hl, ok_bind]⟩
  · obtain ⟨spec, hl, hp⟩ := commLoop_packsAlong id id (fun _ => id) (fun _ => Iff.rfl) hc so
    exact ⟨_, hp, by rw [generatePackInfoFromKernel, packInfoSpec_push, pushEntry, hl, ok_bind]⟩
  · rw [generatePackInfoFromKernel, packInfoSpec_pull, pullEntry, commLoop_pack_eq_error h so, error_bind]
  · rw [generatePackInfoFromKernel, packInfoSpec_push, pushEntry, commLoop_pack_eq_error h so, error_bind]

/-! ### `generate_mpidtype_info_from_kernel` -/

/-- The entry of the MPI datatype info's loops: `assert len(fa.index) == 1`, then
`spec[(offset_to_direction_string(comm_dir),)].add(fa.index[0])`. -/
def mpiEntry (dirName : List Int → String) (fa : Access) (commDir : List Int) :
    Except PyError (List String × Idx) :=
  match fa.index with
  | [i] => .ok ([dirName commDir], i)
  | _ => .error (.assertionError "Supports only fields with a single index dimension")

/-- The message of the one-field `assert`. -/
def oneFieldMessage : String := "Only scenarios where one fields neighbors are accessed"

/-- `fields = set(fa.field for fa in accesses)`, `assert len(fields) == 1`, `fields.pop()`. -/
def singleField (accesses : List Access) : Except PyError Field :=
  match (accesses.map (·.field)).dedup with
  | [field] => .ok field
  | _ => .error (.assertionError oneFieldMessage)

/-- The field and the direction spec `generate_mpidtype_info_from_kernel` builds. -/
def mpiSpec (dirName : List Int → String) (so : SetOrder Access) (assignments : Assignments) (kind : String) :
    Except PyError (Field × Dict (List String) (List Idx)) :=
  if kind = "push" ∨ kind = "pull" then
    let items := assignments.items
    if kind = "pull" then do
      let field ← singleField (so.iter (reads items))
      let spec ← commLoop inverseDirection (mpiEntry dirName) (so.iter (reads items)) .empty
      pure (field, spec)
    else if kind = "push" then do
      let field ← singleField (so.iter (writes items))
      let spec ← commLoop id (mpiEntry dirName) (so.iter (writes items)) .empty
      pure (field, spec)
    else .error (.valueError "Invalid 'kind' parameter")
  else .error (.assertionError "")

/-- The template context of an MPI datatype info. -/
structure MpiDtypeInfoContext where
  /-- `class_name`. -/
  className : String
  /-- `namespace`. -/
  namespaceName : String
  /-- `kind`. -/
  kind : String
  /-- `field_name`. -/
  fieldName : String
  /-- `f_size`: `field.index_shape[0]`. -/
  fSize : Nat
  /-- `spec`. -/
  spec : Dict (List String) (List Idx)

/-- `generate_mpidtype_info_from_kernel(generation_context, class_name, assignments, kind,
namespace)`: the spec, and `field.index_shape[0]`, which raises for a field without an
index dimension. -/
def generateMpidtypeInfoFromKernel (dirName : List Int → String) (so : SetOrder Access) (className : String)
    (assignments : Assignments) (kind : String) (namespaceName : String) :
    Except PyError (Generated MpiDtypeInfoContext) := do
  let (field, spec) ← mpiSpec dirName so assignments kind
  match field.indexShape with
  | [] => .error (.indexError "tuple index out of range")
  | fSize :: _ =>
    pure ⟨{ className := className, namespaceName := namespaceName, kind := kind, fieldName := field.name,
            fSize := fSize, spec := spec }, [className ++ ".h"]⟩

theorem mpiEntry_eq_ok_iff {dirName : List Int → String} {fa : Access} {c : List Int} {k : List String}
    {i : Idx} : mpiEntry dirName fa c = .ok (k, i) ↔ k = [dirName c] ∧ fa.index = [i] := by
  unfold mpiEntry
  split
  · next j h => simp [h, eq_comm]
  · next h =>
    simp only [reduceCtorEq, false_iff, not_and]
    exact fun _ hi => h i hi

theorem singleField_eq_ok {accesses : List Access} {field : Field} (h : singleField accesses = .ok field) :
    ∀ fa ∈ accesses, fa.field = field := by
  unfold singleField at h
  split at h
  · next heq =>
    cases h
    simpa using (dedup_eq_singleton_iff.mp heq).2
  · cases h

/-- **The two loops agree.** Over accesses of one field, where the MPI loop's checks pass,
the pack loop succeeds too, and for every direction `c` of the field's dimension: the
MPI spec has the key of `c`'s name exactly when the pack spec has `(c,)`, and its set
under that key holds the indices of the pack spec's terms under `(c,)`. -/
theorem commLoop_mpi_agrees {dirName : List Int → String} {direction : List Int → List Int}
    (packed : Access → Access) (hunit : ∀ o, UnitOffset o → UnitOffset (direction o))
    (hzero : ∀ o, IsZero (direction o) ↔ IsZero o) (hlen : ∀ o, (direction o).length = o.length)
    (hindex : ∀ fa, (packed fa).index = fa.index) {accesses : List Access} {field : Field}
    (hfield : ∀ fa ∈ accesses, fa.field = field) (hnames : NamesDistinct dirName field.spatialDimensions)
    {mspec : Dict (List String) (List Idx)}
    (hm : commLoop direction (mpiEntry dirName) accesses .empty = .ok mspec) :
    ∃ pspec, commLoop direction (packEntry packed) accesses .empty = .ok pspec ∧
      ∀ c, c.length = field.spatialDimensions → UnitOffset c →
        ([dirName c] ∈ mspec.keys ↔ [c] ∈ pspec.keys) ∧
        ∀ i, i ∈ (mspec.get? [dirName c]).getD [] ↔ ∃ t ∈ (pspec.get? [c]).getD [], t.index.head? = some i := by
  have hok := (commLoop_ok_iff direction (mpiEntry dirName) accesses .empty).mp ⟨mspec, hm⟩
  obtain ⟨pspec, hp⟩ := (commLoop_ok_iff direction (packEntry packed) accesses .empty).mpr fun fa hfa =>
    ⟨(hok fa hfa).1, fun _ _ _ => ⟨_, rfl⟩⟩
  have Hm := commLoop_holds direction _ hm holds_empty
  have Hp := commLoop_holds direction _ hp holds_empty
  -- an entered access has one index, and a direction it is entered for is one of the field's
  have hidx : ∀ fa ∈ accesses, ¬IsZero fa.offsets → ∀ c' ∈ commDirections (direction fa.offsets),
      ∃ j, fa.index = [j] := fun fa hfa hz c' hc' => by
    obtain ⟨⟨k, j⟩, he⟩ := (hok fa hfa).2 hz c' hc'
    exact ⟨j, (mpiEntry_eq_ok_iff.mp he).2⟩
  refine ⟨pspec, hp, fun c hc hcu => ?_⟩
  have hmatch : ∀ fa ∈ accesses, ¬IsZero fa.offsets → ∀ c' ∈ commDirections (direction fa.offsets),
      dirName c = dirName c' ↔ c = c' := fun fa hfa hz c' hc' => by
    have hsub := ((mem_commDirections_of_not_isZero (hunit _ (hok fa hfa).1) ((hzero _).not.mpr hz) c').mp hc').2
    refine ⟨fun he => hnames c c' hc ?_ hcu (hsub.unitOffset (hunit _ (hok fa hfa).1)) he, fun he => he ▸ rfl⟩
    rw [hsub.length_eq, hlen, fa.offsets_length, hfield fa hfa]
  have hRm : ∀ i, (False ∨ ∃ fa ∈ accesses, ¬IsZero fa.offsets ∧ ∃ c' ∈ commDirections (direction fa.offsets),
      mpiEntry dirName fa c' = .ok ([dirName c], i)) ↔
      ∃ fa ∈ accesses, ¬IsZero fa.offsets ∧ c ∈ commDirections (direction fa.offsets) ∧ fa.index = [i] := by
    intro i
    simp only [false_or, mpiEntry_eq_ok_iff, List.cons.injEq, and_true]
    refine exists_congr fun fa => and_congr_right fun hfa => and_congr_right fun hz => ?_
    exact ⟨fun ⟨c', hc', he, hi⟩ => ⟨(hmatch fa hfa hz c' hc').mp he ▸ hc', hi⟩, fun ⟨hc', hi⟩ => ⟨c, hc', rfl, hi⟩⟩
  have hRp : ∀ t, (False ∨ ∃ fa ∈ accesses, ¬IsZero fa.offsets ∧ ∃ c' ∈ commDirections (direction fa.offsets),
      packEntry packed fa c' = .ok ([c], t)) ↔
      ∃ fa ∈ accesses, ¬IsZero fa.offsets ∧ c ∈ commDirections (direction fa.offsets) ∧ t = packed fa := by
    intro t
    simp only [false_or, packEntry, Except.ok.injEq, Prod.mk.injEq, List.cons.injEq, and_true]
    refine exists_congr fun fa => and_congr_right fun _ => and_congr_right fun _ => ?_
    exact ⟨fun ⟨_, hc', he, ht⟩ => ⟨he.symm ▸ hc', ht.symm⟩, fun ⟨hc', ht⟩ => ⟨c, hc', rfl, ht.symm⟩⟩
  refine ⟨?_, fun i => ?_⟩
  · rw [Hm.1, Hp.1]
    simp only [hRm, hRp]
    exact ⟨fun ⟨_, fa, hfa, hz, hc', _⟩ => ⟨_, fa, hfa, hz, hc', rfl⟩,
      fun ⟨_, fa, hfa, hz, hc', _⟩ => ⟨_, fa, hfa, hz, hc', (hidx fa hfa hz c hc').choose_spec⟩⟩
  · rw [Hm.2]
    simp only [hRm, Hp.2, hRp]
    refine ⟨fun ⟨fa, hfa, hz, hc', hi⟩ => ⟨packed fa, ⟨fa, hfa, hz, hc', rfl⟩, by rw [hindex, hi]; rfl⟩, ?_⟩
    rintro ⟨t, ⟨fa, hfa, hz, hc', rfl⟩, hh⟩
    obtain ⟨j, hj⟩ := hidx fa hfa hz c hc'
    rw [hindex, hj, List.head?_cons, Option.some.injEq] at hh
    exact ⟨fa, hfa, hz, hc', hh ▸ hj⟩

/-- **The MPI datatype info and the pack info agree.** Where
`generate_mpidtype_info_from_kernel`'s checks pass for a field whose dimension the
direction names tell apart, the pack info's spec for the same kernel and kind is built
too, and for every direction `c` of the field's dimension the MPI spec has the key
`(offset_to_direction_string(c),)` exactly when the pack spec has `(c,)`, with, under it,
the first index of each of the pack spec's terms under `(c,)`. -/
theorem mpiSpec_agrees_with_packInfoSpec (dirName : List Int → String) (so : SetOrder Access)
    (assignments : Assignments) (kind : String) (field : Field) (mspec : Dict (List String) (List Idx))
    (hnames : NamesDistinct dirName field.spatialDimensions)
    (h : mpiSpec dirName so assignments kind = .ok (field, mspec)) :
    ∃ pspec, packInfoSpec so assignments kind = .ok pspec ∧
      ∀ c, c.length = field.spatialDimensions → UnitOffset c →
        ([dirName c] ∈ mspec.keys ↔ [c] ∈ pspec.keys) ∧
        ∀ i, i ∈ (mspec.get? [dirName c]).getD [] ↔ ∃ t ∈ (pspec.get? [c]).getD [], t.index.head? = some i := by
  have hinv : ∀ o, UnitOffset o → UnitOffset (inverseDirection o) := fun o => (unitOffset_inverseDirection_iff o).mpr
  by_cases hpull : kind = "pull"
  · subst hpull
    rw [mpiSpec, if_pos (.inr rfl), if_pos rfl] at h
    obtain ⟨f, hf, h⟩ := bind_eq_ok_iff.mp h
    obtain ⟨spec, hl, he⟩ := bind_eq_ok_iff.mp h
    cases he
    rw [packInfoSpec_pull, pullEntry]
    exact commLoop_mpi_agrees (fun fa => fa.field.center fa.index) hinv isZero_inverseDirection_iff
      inverseDirection_length (fun _ => rfl) (singleField_eq_ok hf) hnames hl
  by_cases hpush : kind = "push"
  · subst hpush
    rw [mpiSpec, if_pos (.inl rfl), if_neg (by simp), if_pos rfl] at h
    obtain ⟨f, hf, h⟩ := bind_eq_ok_iff.mp h
    obtain ⟨spec, hl, he⟩ := bind_eq_ok_iff.mp h
    cases he
    rw [packInfoSpec_push, pushEntry]
    exact commLoop_mpi_agrees id (fun _ => id) (fun _ => Iff.rfl) (fun _ => rfl) (fun _ => rfl)
      (singleField_eq_ok hf) hnames hl
  rw [mpiSpec, if_neg (by tauto)] at h
  cases h

theorem mpiEntry_ok_of_length_eq_one (dirName : List Int → String) {fa : Access} (h : fa.index.length = 1)
    (c : List Int) : ∃ kv, mpiEntry dirName fa c = .ok kv := by
  obtain ⟨i, hi⟩ := List.length_eq_one.mp h
  exact ⟨_, mpiEntry_eq_ok_iff.mpr ⟨rfl, hi⟩⟩

/-- A pull kernel reading the east and the west neighbour of a two-component field. -/
theorem mpiSpec_agrees_with_packInfoSpec_EW :
    let f : Field := ⟨"f", "double", 3, [2], .generic⟩
    let a : Assignments := .list [.assignment ⟨.access (f.center [.num 0]), .access ⟨f, [1, 0, 0], [.num 0], rfl⟩⟩,
      .assignment ⟨.access (f.center [.num 1]), .access ⟨f, [-1, 0, 0], [.num 1], rfl⟩⟩]
    ∃ mspec, mpiSpec offsetToDirectionString .dedup a "pull" = .ok (f, mspec) ∧
      NamesDistinct offsetToDirectionString f.spatialDimensions ∧
      ∃ pspec, packInfoSpec .dedup a "pull" = .ok pspec ∧
        ([offsetToDirectionString [-1, 0, 0]] ∈ mspec.keys ↔ [[-1, 0, 0]] ∈ pspec.keys) := by
  intro f a
  have hacc : ∀ fa ∈ SetOrder.dedup.iter (reads a.items), UnitOffset fa.offsets ∧ fa.index.length = 1 := by
    decide
  obtain ⟨mspec, hl⟩ := (commLoop_ok_iff inverseDirection (mpiEntry offsetToDirectionString)
    (SetOrder.dedup.iter (reads a.items)) .empty).mpr fun fa hfa =>
      ⟨(hacc fa hfa).1, fun _ c _ => mpiEntry_ok_of_length_eq_one _ (hacc fa hfa).2 c⟩
  have h : mpiSpec offsetToDirectionString .dedup a "pull" = .ok (f, mspec) := by
    rw [mpiSpec, if_pos (.inr rfl), if_pos rfl, hl]
    rfl
  obtain ⟨pspec, hp, hc⟩ := mpiSpec_agrees_with_packInfoSpec offsetToDirectionString .dedup a "pull" f mspec
    offsetToDirectionString_namesDistinct h
  exact ⟨mspec, h, offsetToDirectionString_namesDistinct, pspec, hp, (hc [-1, 0, 0] rfl (by decide)).1⟩

/-! ### Determinism -/

theorem SetOrder.nodup_getD_toPackTerms (so : SetOrder Access) (spec : Dict (List (List Int)) (List Access))
    (k : List (List Int)) : (((so.toPackTerms spec).get? k).getD []).Nodup := by
  rw [so.get?_toPackTerms]
  cases spec.get? k with
  | none => exact List.nodup_nil
  | some T => exact so.nodup_iter T

theorem Holds.exists_of_mem_terms {d : PackTerms} {R : List (List Int) → Access → Prop} (h : Holds d R)
    {t : Access} (ht : t ∈ d.terms) : ∃ k, R k t := by
  obtain ⟨⟨k, T⟩, hT, htT⟩ := List.mem_flatMap.mp ht
  exact ⟨k, (h.2 k t).mp (by rw [Dict.get?_eq_some_iff.mpr hT]; exact htT)⟩

/-- Two mappings that hold the same entries, with sets given without repetitions, have the
same ordered items, if their terms print differently. -/
theorem orderedItems_eq_of_holds {d₁ d₂ : PackTerms} {R : List (List Int) → Access → Prop}
    (h₁ : Holds d₁ R) (h₂ : Holds d₂ R) (hnd₁ : ∀ k, ((d₁.get? k).getD []).Nodup)
    (hnd₂ : ∀ k, ((d₂.get? k).getD []).Nodup) (hstr : ∀ t ∈ d₁.terms, ∀ u ∈ d₁.terms, t.str = u.str → t = u) :
    orderedItems d₁ = orderedItems d₂ :=
  orderedItems_eq_of_perm d₁ d₂
    ((List.perm_ext_iff_of_nodup d₁.keys_nodup d₂.keys_nodup).mpr fun k => (h₁.1 k).trans (h₂.1 k).symm)
    (fun k _ => (List.perm_ext_iff_of_nodup (hnd₁ k) (hnd₂ k)).mpr fun t => by rw [h₁.2, h₂.2]) hstr

/-- The pack loops over two lists of the same accesses, in any set order: both fail their
`assert`, or both succeed with specs that have the same ordered items; so whatever depends
on the ordered items only gives one result after either loop. -/
theorem commLoop_pack_deterministic (direction : List Int → List Int) (packed : Access → Access)
    (hunit : ∀ o, UnitOffset o → UnitOffset (direction o)) (hzero : ∀ o, IsZero (direction o) ↔ IsZero o)
    {c₁ c₂ : List Access} (hmem : ∀ x, x ∈ c₁ ↔ x ∈ c₂)
    (hstr : ∀ t ∈ c₁.map packed, ∀ u ∈ c₁.map packed, t.str = u.str → t = u) (so₁ so₂ : SetOrder Access)
    {α : Type} (F : PackTerms → Except PyError α)
    (hF : ∀ d₁ d₂ : PackTerms, orderedItems d₁ = orderedItems d₂ → F d₁ = F d₂) :
    (commLoop direction (packEntry packed) (so₁.iter c₁) .empty >>= fun spec => F (so₁.toPackTerms spec)) =
      (commLoop direction (packEntry packed) (so₂.iter c₂) .empty >>= fun spec => F (so₂.toPackTerms spec)) := by
  by_cases hu : ∀ fa ∈ c₁, UnitOffset fa.offsets
  · obtain ⟨spec₁, h₁, hp₁⟩ := commLoop_packsAlong direction packed hunit hzero hu so₁
    obtain ⟨spec₂, h₂, hp₂⟩ :=
      commLoop_packsAlong direction packed hunit hzero (fun fa hfa => hu fa ((hmem fa).mpr hfa)) so₂
    have hterm : ∀ t ∈ (so₁.toPackTerms spec₁).terms, t ∈ c₁.map packed := fun t ht => by
      obtain ⟨k, c, -, -, fa, hfa, -, -, rfl⟩ := Holds.exists_of_mem_terms hp₁ ht
      exact List.mem_map_of_mem _ hfa
    rw [h₁, h₂, ok_bind, ok_bind]
    refine hF _ _ (orderedItems_eq_of_holds hp₁ (hp₂.congr fun _ _ => ?_)
      (so₁.nodup_getD_toPackTerms _) (so₂.nodup_getD_toPackTerms _)
      fun t ht u hu => hstr t (hterm t ht) u (hterm u hu))
    simp only [hmem]
  · push_neg at hu
    obtain ⟨fa, hfa, hnu⟩ := hu
    rw [commLoop_pack_eq_error ⟨fa, hfa, hnu⟩ so₁, commLoop_pack_eq_error ⟨fa, (hmem fa).mp hfa, hnu⟩ so₂,
      error_bind, error_bind]

/-- **The pack spec is deterministic.** Two mappings with the same keys, each mapped to the
same multiset of terms, in any order of items and of terms, have the same ordered items
and so the same pack info: the same kernels under the same names, the same buffer index
for every term and the same counts, provided the terms print differently. And
`generate_pack_info_from_kernel`, on two orders of one assignment list and whatever order
Python iterates its sets in, hands `generate_pack_info` mappings with the same ordered
items, or fails the same way on both; where both calls return, they have the same pack and
unpack kernels and the same counts, provided the accesses it may pack print differently. -/
theorem packSpec_deterministic (ps : Pystencils) (dirName : List Int → String) (so : SetOrder Access)
    (sn : SetOrder String) (ctx : GenerationContext) (className : String) (ns : String)
    (operator : Option (Expr → Expr → Expr)) (glToInner : Bool) (target : Target) (dt : Option String)
    (omp : Option Bool) (kw : PyDict)
    (d₁ d₂ : PackTerms) (hkeys : d₁.keys.Perm d₂.keys)
    (hvals : ∀ k ∈ d₁.keys, ((d₁.get? k).getD []).Perm ((d₂.get? k).getD []))
    (hstr : ∀ t ∈ d₁.terms, ∀ u ∈ d₁.terms, t.str = u.str → t = u)
    (so₁ so₂ : SetOrder Access) (sn₁ sn₂ : SetOrder String) (a₁ a₂ : Assignments) (kind : String)
    (hperm : a₁.items.Perm a₂.items)
    (hstr' : ∀ t ∈ (reads a₁.items).map (fun fa => fa.field.center fa.index) ++ writes a₁.items,
      ∀ u ∈ (reads a₁.items).map (fun fa => fa.field.center fa.index) ++ writes a₁.items,
        t.str = u.str → t = u) :
    orderedItems d₁ = orderedItems d₂ ∧
    generatePackInfo ps dirName so sn ctx className d₁ ns operator glToInner target dt omp kw =
      generatePackInfo ps dirName so sn ctx className d₂ ns operator glToInner target dt omp kw ∧
    (packInfoSpec so₁ a₁ kind).map (fun spec => orderedItems (so₁.toPackTerms spec)) =
      (packInfoSpec so₂ a₂ kind).map (fun spec => orderedItems (so₂.toPackTerms spec)) ∧
    ∀ g₁ g₂, generatePackInfoFromKernel ps dirName so₁ sn₁ ctx className a₁ kind operator target dt omp kw = .ok g₁ →
      generatePackInfoFromKernel ps dirName so₂ sn₂ ctx className a₂ kind operator target dt omp kw = .ok g₂ →
      g₁.context.packKernels = g₂.context.packKernels ∧ g₁.context.unpackKernels = g₂.context.unpackKernels ∧
        g₁.context.elementsPerCell = g₂.context.elementsPerCell := by
  have hord := orderedItems_eq_of_perm d₁ d₂ hkeys hvals hstr
  have hreads : ∀ x, x ∈ reads a₁.items ↔ x ∈ reads a₂.items := fun x => by
    simp only [reads, List.mem_flatMap, hperm.mem_iff]
  have hwrites : ∀ x, x ∈ writes a₁.items ↔ x ∈ writes a₂.items := fun x => by
    simp only [writes, List.mem_flatMap, hperm.mem_iff]
  have hinv : ∀ o, UnitOffset o → UnitOffset (inverseDirection o) := fun o => (unitOffset_inverseDirection_iff o).mpr
  have hmap : ∀ (so : SetOrder Access) (x : Except PyError (Dict (List (List Int)) (List Access))),
      x.map (fun spec => orderedItems (so.toPackTerms spec)) = x >>= fun spec => .ok (orderedItems (so.toPackTerms spec)) :=
    fun _ x => by cases x <;> rfl
  -- the ordered items handed to `generate_pack_info` are the same
  have hspec : (packInfoSpec so₁ a₁ kind).map (fun spec => orderedItems (so₁.toPackTerms spec)) =
      (packInfoSpec so₂ a₂ kind).map (fun spec => orderedItems (so₂.toPackTerms spec)) := by
    rw [hmap, hmap]
    by_cases hpull : kind = "pull"
    · subst hpull
      rw [packInfoSpec_pull, packInfoSpec_pull, pullEntry]
      exact commLoop_pack_deterministic _ _ hinv isZero_inverseDirection_iff hreads
        (fun t ht u hu => hstr' t (List.mem_append_left _ ht) u (List.mem_append_left _ hu)) so₁ so₂
        (fun d => .ok (orderedItems d)) fun _ _ h => congrArg Except.ok h
    by_cases hpush : kind = "push"
    · subst hpush
      rw [packInfoSpec_push, packInfoSpec_push, pushEntry]
      exact commLoop_pack_deterministic id id (fun _ => id) (fun _ => Iff.rfl) hwrites
        (fun t ht u hu => hstr' t (List.mem_append_right _ (by simpa using ht)) u
          (List.mem_append_right _ (by simpa using hu))) so₁ so₂
        (fun d => .ok (orderedItems d)) fun _ _ h => congrArg Except.ok h
    have hkind : ¬(kind = "push" ∨ kind = "pull") := by tauto
    rw [packInfoSpec, packInfoSpec, if_neg hkind, if_neg hkind, error_bind, error_bind]
  refine ⟨hord, generatePackInfo_congr hord .., hspec, fun g₁ g₂ h₁ h₂ => ?_⟩
  obtain ⟨spec₁, hs₁, h₁⟩ := bind_eq_ok_iff.mp h₁
  obtain ⟨spec₂, hs₂, h₂⟩ := bind_eq_ok_iff.mp h₂
  rw [hs₁, hs₂] at hspec
  exact generatePackInfo_kernels_eq (Except.ok.inj hspec) h₁ h₂

/-- One east-west kernel, its assignments in two orders and its sets iterated in two orders,
and one mapping given in two orders of items and of terms. -/
theorem packSpec_deterministic_swapped :
    let f : Field := ⟨"f", "double", 3, [2], .generic⟩
    let e : Access := ⟨f, [1, 0, 0], [.num 0], rfl⟩
    let w : Access := ⟨f, [-1, 0, 0], [.num 1], rfl⟩
    let d₁ : PackTerms := ⟨[([[1, 0, 0]], [e, w]), ([[-1, 0, 0]], [w])], by decide⟩
    let d₂ : PackTerms := ⟨[([[-1, 0, 0]], [w]), ([[1, 0, 0]], [w, e])], by decide⟩
    let a₁ : Assignments := .list [.assignment ⟨.access (f.center [.num 0]), .access e⟩,
      .assignment ⟨.access (f.center [.num 1]), .access w⟩]
    let a₂ : Assignments := .list [.assignment ⟨.access (f.center [.num 1]), .access w⟩,
      .assignment ⟨.access (f.center [.num 0]), .access e⟩]
    d₁.keys.Perm d₂.keys ∧ (∀ k ∈ d₁.keys, ((d₁.get? k).getD []).Perm ((d₂.get? k).getD [])) ∧
      (∀ t ∈ d₁.terms, ∀ u ∈ d₁.terms, t.str = u.str → t = u) ∧ a₁.items.Perm a₂.items ∧
      (∀ t ∈ (reads a₁.items).map (fun fa => fa.field.center fa.index) ++ writes a₁.items,
        ∀ u ∈ (reads a₁.items).map (fun fa => fa.field.center fa.index) ++ writes a₁.items,
          t.str = u.str → t = u) ∧
      orderedItems d₁ = orderedItems d₂ := by
  intro f e w d₁ d₂ a₁ a₂
  have hkeys : d₁.keys.Perm d₂.keys := by decide
  have hvals : ∀ k ∈ d₁.keys, ((d₁.get? k).getD []).Perm ((d₂.get? k).getD []) := by decide
  have hstr : ∀ t ∈ d₁.terms, ∀ u ∈ d₁.terms, t.str = u.str → t = u := by decide
  have hperm : a₁.items.Perm a₂.items := by decide
  have hstr' : ∀ t ∈ (reads a₁.items).map (fun fa => fa.field.center fa.index) ++ writes a₁.items,
      ∀ u ∈ (reads a₁.items).map (fun fa => fa.field.center fa.index) ++ writes a₁.items,
        t.str = u.str → t = u := by
    decide
  exact ⟨hkeys, hvals, hstr, hperm, hstr', (packSpec_deterministic .permissive offsetToDirectionString .dedup .dedup
    ⟨true, false, false, false, []⟩ "PackInfo" "pystencils" none false .cpu none none .empty d₁ d₂ hkeys hvals hstr
    .dedup ⟨fun l => l.dedup.reverse, fun l => List.reverse_perm _⟩ .dedup .dedup a₁ a₂ "pull" hperm hstr').1⟩

end WalberlaCodegen

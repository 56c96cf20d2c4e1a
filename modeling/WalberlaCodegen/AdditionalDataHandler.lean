import WalberlaCodegen.Direction

/-!
# The additional data of boundary handlers

`FreeSlipAdditionalDataHandler.data_initialisation(direction)` of
`lbmpy_walberla.additional_data_handler` emits the C++ that initialises the data of one
free-slip boundary link: the direction `ref_dir` whose pdf the wall reflects into the link.
For each axis `i` of x, y and z it computes the table `{name}_axis_mirrored_stencil_dir`,
whose entry `j` is the index of the stencil's direction `j` mirrored across axis `i`,
`S.index(mirror_stencil(S[j], i))`, and prints those of the first `_dim` axes. The code it
emits starts `ref_dir` at the index of the inverse of the link's direction, looks it up in
the table of each axis along which the neighbour is fluid, and at a concave corner sets it
back to `direction`.

`OutflowAdditionalDataHandler` asserts that the wall normal of an extrapolation outflow has
one nonzero component, and its `stencil_info` lists the directions of the boundary's
stencil that share a nonzero component with the normal. Its `data_initialisation` sets the
link's `pdf` and `pdf_nd` from the pdf field at the cell that `get_init_dict` computes from
the access to the inverse direction. `default_additional_data_handler` picks the handler of a
boundary's class, if the boundary has additional data.

## The model

The handler's `_walberla_stencil`, which the base class of `pystencils_walberla` sets, is
any list `S` of offsets, and `_dim` any number. `S[i]` and `S.index(x)` are `pyGetItem` and
`pyIndex`; lbmpy's `mirror_stencil` negates one component (`mirrorStencil`).
`dataInitialisation` returns the text the handler joins, or the error Python raises.

The C++ it emits is read as statements (`CStmt`): the declaration of a mirror table, of the
neighbour cell, of `ref_dir`, the zeroing of a component of the wall normal, the test of the
neighbour along an axis, the concave-corner test and the store. `CStmt.lines` prints a
statement as `data_initialisation` does, and `CStmt.exec` runs it on the state of one link
(`LinkState`), given which of the tests `flagField->isPartOfMaskSet(...)` hold; a lookup past
a table, which C++ does not catch, is `none`. `emittedRefDir` and `emittedNormal` are what
a run stores, in closed form (`runStatements_freeSlip`); the specular reflection at a
normal, what the code is for, is `reflectAt`.

lbmpy's accesses of `AccessPdfValues` are read as their offsets and index (`PdfAccess`);
a boundary object as its class and whether its `additional_data` is empty (`LbBoundary`).
A handler (`AdditionalDataHandler`) keeps what its `data_initialisation` reads, and an
outflow handler the check of its constructor. The C++ texts of the handlers' other
properties are not modelled.

## What is proved

* `mirroredDir_involutive`: on a stencil of distinct three-component offsets closed under
  the reflection across each axis, each axis's table is defined at every direction, maps
  `j` to the index of `S[j]` mirrored, and is an involutive permutation of the indices; the
  index `ref_dir` starts at is a direction's, and so is the end of any chain of lookups
  from a direction's index.
* `dataInitialisation_raises_iff`: on such a stencil `data_initialisation` raises nothing
  for a direction index, and the `IndexError` of `S[direction]` past the stencil.
* `dataInitialisation_reflects`: in two and three dimensions the text it returns is the
  free-slip statements printed line by line, and running them, whatever the tests find,
  stores in `element.ref_dir` the index of the inverse of the link's direction reflected
  specularly at the wall normal stored in `element.wn`, which is nonzero for a link other
  than the centre.
* `stencilInfo_straightWall`: for a wall normal that passes the extrapolation outflow's
  straight-wall check, `stencil_info` lists, in stencil order, exactly the directions that
  leave through the wall.
* `outflowDataInitialisation_reads`: the outflow sets `pdf` and `pdf_nd` by the same `get`,
  at the cell of the access to the link's inverse direction shifted along the wall by the
  direction's offset from the normal, and with that access's pdf index.
* `defaultAdditionalDataHandler_initialises`: every handler the dispatch returns for a
  boundary set up on a reflection-closed stencil initialises each link without raising.
-/

namespace WalberlaCodegen

/-! ### Mirroring a direction -/

/-- lbmpy's `MirroredStencilDirections.mirror_stencil(direction, mirror_axis)`: `direction`
with its component on `mirror_axis` negated. The handler mirrors three-component directions
across the axes `0`, `1` and `2` only. -/
def mirrorStencil (direction : List Int) (mirrorAxis : Nat) : List Int :=
  direction.modify (fun x => -x) mirrorAxis

@[simp] theorem mirrorStencil_mirrorStencil (d : List Int) (i : Nat) : mirrorStencil (mirrorStencil d i) i = d := by
  rw [mirrorStencil, mirrorStencil, List.modify_modify_eq]
  simp only [Function.comp_def, neg_neg]
  exact List.modify_id _ _

@[simp] theorem mirrorStencil_cons_zero (x : Int) (v : List Int) : mirrorStencil (x :: v) 0 = -x :: v := rfl

@[simp] theorem mirrorStencil_cons_succ (x : Int) (v : List Int) (i : Nat) :
    mirrorStencil (x :: v) (i + 1) = x :: mirrorStencil v i := rfl

/-- The inverse of a three-component direction is its mirror across all three axes. -/
theorem inverseDirection_eq_mirrorStencil : ∀ d : List Int, d.length = 3 →
    inverseDirection d = mirrorStencil (mirrorStencil (mirrorStencil d 0) 1) 2
  | [_, _, _], _ => rfl

/-- A stencil closed under the reflection across each of the three axes. -/
def ReflectionClosed (S : List (List Int)) : Prop := ∀ d ∈ S, ∀ i < 3, mirrorStencil d i ∈ S

instance (S : List (List Int)) : Decidable (ReflectionClosed S) :=
  inferInstanceAs (Decidable (∀ d ∈ S, ∀ i < 3, mirrorStencil d i ∈ S))

theorem ReflectionClosed.inverseDirection_mem {S : List (List Int)} (hclosed : ReflectionClosed S)
    (hlen : ∀ d ∈ S, d.length = 3) {d : List Int} (hd : d ∈ S) : inverseDirection d ∈ S := by
  rw [inverseDirection_eq_mirrorStencil d (hlen d hd)]
  exact hclosed _ (hclosed _ (hclosed d hd 0 (by omega)) 1 (by omega)) 2 (by omega)

/-! ### The mirror tables -/

/-- The table of axis `i`:
`[self._walberla_stencil.index(mirror_stencil(d, i)) for d in self._walberla_stencil]`. -/
def mirroredDir (S : List (List Int)) (i : Nat) : Except PyError (List Nat) :=
  S.mapM fun d => pyIndex S (mirrorStencil d i)

/-- On a stencil closed under the reflection across axis `i`, the table of axis `i` is
defined, as long as the stencil, and holds at each direction `j` an index of `S[j]`
mirrored. -/
theorem mirroredDir_spec {S : List (List Int)} {i : Nat} (hi : ∀ d ∈ S, mirrorStencil d i ∈ S) :
    ∃ t, mirroredDir S i = .ok t ∧ t.length = S.length ∧
      ∀ (j : Nat) d, S[j]? = some d → ∃ k : Nat, t[j]? = some k ∧ S[k]? = some (mirrorStencil d i) :=
  mapM_eq_ok_of_forall fun d hd => pyIndex_of_mem (hi d hd)

/-- A table of indices that undoes itself is a permutation of its indices. -/
theorem perm_range_of_involutive {t : List Nat}
    (hinv : ∀ j < t.length, ∃ k, t[j]? = some k ∧ t[k]? = some j) : t.Perm (List.range t.length) := by
  have hnd : t.Nodup := List.nodup_iff_getElem?_ne_getElem?.mpr fun i j hij hj h => by
    obtain ⟨k, hk, hkj⟩ := hinv j hj
    obtain ⟨k', hk', hk'i⟩ := hinv i (by omega)
    rw [h, hk, Option.some.injEq] at hk'
    rw [← hk', hkj, Option.some.injEq] at hk'i
    omega
  refine (List.perm_ext_iff_of_nodup hnd (List.nodup_range _)).mpr fun x => ⟨fun hx => ?_, fun hx => ?_⟩
  · obtain ⟨j, hj, rfl⟩ := List.getElem_of_mem hx
    obtain ⟨k, hk, hkj⟩ := hinv j hj
    rw [List.getElem?_eq_getElem hj, Option.some.injEq] at hk
    exact List.mem_range.mpr (hk ▸ (List.getElem?_eq_some_iff.mp hkj).1)
  · obtain ⟨k, -, hkx⟩ := hinv x (List.mem_range.mp hx)
    exact List.getElem?_mem hkx

/-- The emitted lookups `ref_dir = {axis}_axis_mirrored_stencil_dir[ ref_dir ];` along the
given axes in turn, in the tables `table`; `none` where an index is past its table. -/
def lookupChain (table : Nat → List Nat) : List Nat → Nat → Option Nat
  | [], r => some r
  | a :: axes, r => (table a)[r]? >>= lookupChain table axes

theorem lookupChain_append (table : Nat → List Nat) (l₁ l₂ : List Nat) (r : Nat) :
    lookupChain table (l₁ ++ l₂) r = (lookupChain table l₁ r).bind (lookupChain table l₂) := by
  induction l₁ generalizing r with
  | nil => rfl
  | cons a l₁ ih =>
    simp only [List.cons_append, lookupChain, Option.bind_eq_bind, Option.bind_assoc]
    exact congrArg _ (funext ih)

/-- Lookups in tables that map indices below `n` to indices below `n` end below `n`. -/
theorem lookupChain_lt {table : Nat → List Nat} {n : Nat} :
    ∀ {axes : List Nat}, (∀ a ∈ axes, ∀ j < n, ∃ k, (table a)[j]? = some k ∧ k < n) →
      ∀ j < n, ∃ r, lookupChain table axes j = some r ∧ r < n
  | [], _, j, hj => ⟨j, rfl, hj⟩
  | a :: axes, htab, j, hj => by
    obtain ⟨k, hk, hkn⟩ := htab a (List.mem_cons_self _ _) j hj
    rw [lookupChain, hk]
    exact lookupChain_lt (fun b hb => htab b (List.mem_cons_of_mem _ hb)) k hkn

/-- On a reflection-closed stencil, each axis's table maps a direction index to a direction
index. -/
theorem mirroredDir_lt {S : List (List Int)} (hclosed : ReflectionClosed S) {i : Nat} (hi : i < 3)
    {t : List Nat} (ht : mirroredDir S i = .ok t) : ∀ j < S.length, ∃ k, t[j]? = some k ∧ k < S.length := by
  obtain ⟨t', ht', -, hspec⟩ := mirroredDir_spec fun d hd => hclosed d hd i hi
  rw [ht, Except.ok.injEq] at ht'
  intro j hj
  obtain ⟨k, hk, hSk⟩ := hspec j _ (List.getElem?_eq_getElem hj)
  exact ⟨k, ht' ▸ hk, (List.getElem?_eq_some_iff.mp hSk).1⟩

/-- Lookups in the tables of a reflection-closed stencil take a direction index to a
direction index. -/
theorem lookupChain_mirroredDir_lt {S : List (List Int)} (hclosed : ReflectionClosed S) {table : Nat → List Nat}
    (htable : ∀ i < 3, mirroredDir S i = .ok (table i)) (axes : List Nat) (haxes : ∀ a ∈ axes, a < 3) :
    ∀ j < S.length, ∃ r, lookupChain table axes j = some r ∧ r < S.length :=
  lookupChain_lt fun a ha => mirroredDir_lt hclosed (haxes a ha) (htable a (haxes a ha))

/-- Lookups in the tables of a reflection-closed stencil follow the reflections: from an index
of `d`, the lookups along `axes` end at an index of `d` mirrored across each of them in turn. -/
theorem lookupChain_mirroredDir {S : List (List Int)} (hclosed : ReflectionClosed S) {table : Nat → List Nat}
    (htable : ∀ i < 3, mirroredDir S i = .ok (table i)) :
    ∀ {axes : List Nat}, (∀ a ∈ axes, a < 3) → ∀ {j : Nat} {d : List Int}, S[j]? = some d →
      ∃ r, lookupChain table axes j = some r ∧ S[r]? = some (axes.foldl mirrorStencil d)
  | [], _, j, _, hj => ⟨j, rfl, hj⟩
  | a :: axes, haxes, j, d, hj => by
    have ha := haxes a (List.mem_cons_self _ _)
    obtain ⟨t, ht, -, hspec⟩ := mirroredDir_spec fun d hd => hclosed d hd a ha
    obtain ⟨k, hk, hSk⟩ := hspec j d hj
    rw [htable a ha, Except.ok.injEq] at ht
    rw [lookupChain, ht, hk]
    exact lookupChain_mirroredDir hclosed htable (fun b hb => haxes b (List.mem_cons_of_mem _ hb)) hSk

/-- **The mirror tables are involutive permutations.** On a stencil of distinct
three-component offsets closed under the reflection across each axis, the table of each
axis `i < 3` is defined: at every direction `j` it holds the index `k` of `S[j]` mirrored
across `i`, and at `k` it holds `j` back; it is a permutation of the indices. The index
`ref_dir` starts at, that of a direction's inverse, is a direction's, and any chain of
lookups in the three tables from a direction's index ends at a direction's index. -/
theorem mirroredDir_involutive (S : List (List Int)) (hnd : S.Nodup) (hlen : ∀ d ∈ S, d.length = 3)
    (hclosed : ReflectionClosed S) :
    (∀ i < 3, ∃ t, mirroredDir S i = .ok t ∧
      (∀ (j : Nat) d, S[j]? = some d →
        ∃ k : Nat, t[j]? = some k ∧ S[k]? = some (mirrorStencil d i) ∧ t[k]? = some j) ∧
      t.Perm (List.range S.length)) ∧
    (∀ d ∈ S, ∃ k, pyIndex S (inverseDirection d) = .ok k ∧ k < S.length) ∧
    ∀ table : Nat → List Nat, (∀ i < 3, mirroredDir S i = .ok (table i)) →
      ∀ axes : List Nat, (∀ a ∈ axes, a < 3) →
        ∀ j < S.length, ∃ r, lookupChain table axes j = some r ∧ r < S.length := by
  have hlt : ∀ {k : Nat} {d : List Int}, S[k]? = some d → k < S.length :=
    fun h => (List.getElem?_eq_some_iff.mp h).1
  refine ⟨fun i hi => ?_, fun d hd => ?_,
    fun table htable axes haxes => lookupChain_mirroredDir_lt hclosed htable axes haxes⟩
  · obtain ⟨t, ht, htlen, hspec⟩ := mirroredDir_spec fun d hd => hclosed d hd i hi
    -- the mirror of the mirror of `S[j]` is `S[j]`, which only `j` indexes
    have hinv : ∀ (j : Nat) d, S[j]? = some d →
        ∃ k, t[j]? = some k ∧ S[k]? = some (mirrorStencil d i) ∧ t[k]? = some j := fun j d hd => by
      obtain ⟨k, hk, hSk⟩ := hspec j d hd
      obtain ⟨k', hk', hSk'⟩ := hspec k _ hSk
      rw [mirrorStencil_mirrorStencil, ← hd] at hSk'
      exact ⟨k, hk, hSk, List.getElem?_inj (hlt (hSk'.trans hd)) hnd hSk' ▸ hk'⟩
    refine ⟨t, ht, hinv, htlen ▸ perm_range_of_involutive fun j hj => ?_⟩
    obtain ⟨k, hk, -, hkj⟩ := hinv j _ (List.getElem?_eq_getElem (htlen ▸ hj))
    exact ⟨k, hk, hkj⟩
  · obtain ⟨k, hk, hSk⟩ := pyIndex_of_mem (hclosed.inverseDirection_mem hlen hd)
    exact ⟨k, hk, hlt hSk⟩

/-- The free-slip tables of the nine two-dimensional directions, as three-component
offsets; the last table is the identity. -/
theorem mirroredDir_involutive_D2Q9 :
    let S : List (List Int) :=
      [[0, 0, 0], [0, 1, 0], [0, -1, 0], [-1, 0, 0], [1, 0, 0], [-1, 1, 0], [1, 1, 0], [-1, -1, 0], [1, -1, 0]]
    let table : Nat → List Nat := fun i =>
      [[0, 1, 2, 4, 3, 6, 5, 8, 7], [0, 2, 1, 3, 4, 7, 8, 5, 6], List.range 9].getD i []
    S.Nodup ∧ (∀ d ∈ S, d.length = 3) ∧ ReflectionClosed S ∧ (∀ i < 3, mirroredDir S i = .ok (table i)) ∧
      ∃ r, lookupChain table [0, 1] 6 = some r ∧ r < 9 := by
  intro S table
  have htable : ∀ i < 3, mirroredDir S i = .ok (table i)
    | 0, _ => rfl
    | 1, _ => rfl
    | 2, _ => rfl
    | _ + 3, h => absurd h (by omega)
  exact ⟨by decide, by decide, by decide, htable,
    (mirroredDir_involutive S (by decide) (by decide) (by decide)).2.2 table htable [0, 1] (by decide) 6 (by decide)⟩

/-! ### `data_initialisation` -/

/-- `array_pattern(dtype, name, content)`: the C++ declaration of a constant array. -/
def arrayPattern (dtype name : String) (content : List Nat) : String :=
  "const " ++ dtype ++ " " ++ name ++ " [] = \x7b " ++ ",".intercalate (content.map toString) ++ " \x7d;"

/-- The loop `for i, name in enumerate(["x", "y", "z"])` of `data_initialisation`: each
axis's table, printed as the C++ array `{name}_axis_mirrored_stencil_dir`. -/
def axisMirrored (S : List (List Int)) : Except PyError (List String) :=
  ["x", "y", "z"].enum.mapM fun (i, name) => do
    let mirrored ← mirroredDir S i
    pure (arrayPattern "int32_t" (name ++ "_axis_mirrored_stencil_dir") mirrored)

/-- `FreeSlipAdditionalDataHandler.data_initialisation(direction)` on the stencil `S` of
dimension `dim`: the C++ lines, joined by newlines. -/
def dataInitialisation (S : List (List Int)) (dim direction : Nat) : Except PyError String := do
  let offset ← pyGetItem S direction
  let invOffset := inverseDirection offset
  let axisMirrored ← axisMirrored S
  let offset0 ← pyGetItem offset 0
  let offset1 ← pyGetItem offset 1
  let offset2 ← pyGetItem offset 2
  let refDir ← pyIndex S invOffset
  let inv0 ← pyGetItem invOffset 0
  let inv1 ← pyGetItem invOffset 1
  let initList := axisMirrored.take dim ++
    ["const Cell n = it.cell() + Cell(" ++ toString offset0 ++ ", " ++ toString offset1 ++ ", " ++
        toString offset2 ++ ");",
      "int32_t ref_dir = " ++ toString refDir ++ "; // dir: " ++ toString direction,
      "element.wnx = 0; // compute discrete normal vector of free slip wall",
      "element.wny = 0;",
      "if( flagField->isPartOfMaskSet( n.x() + " ++ toString inv0 ++ ", n.y(), n.z(), domainFlag ) )",
      "\x7b",
      "   element.wnx = " ++ toString inv0 ++ ";",
      "   ref_dir = x_axis_mirrored_stencil_dir[ ref_dir ];",
      "\x7d",
      "if( flagField->isPartOfMaskSet( n.x(), n.y() + " ++ toString inv1 ++ ", n.z(), domainFlag ) )",
      "\x7b",
      "   element.wny = " ++ toString inv1 ++ ";",
      "   ref_dir = y_axis_mirrored_stencil_dir[ ref_dir ];",
      "\x7d"]
  let corner ← if dim = 3 then do
      let inv2 ← pyGetItem invOffset 2
      pure ["element.wnz = 0;",
        "if( flagField->isPartOfMaskSet( n.x(), n.y(), n.z() + " ++ toString inv2 ++ ", domainFlag ) )",
        "\x7b",
        "   element.wnz = " ++ toString inv2 ++ ";",
        "   ref_dir = z_axis_mirrored_stencil_dir[ ref_dir ];",
        "\x7d",
        "// concave corner (neighbors are non-fluid)",
        "if( element.wnx == 0 && element.wny == 0 && element.wnz == 0 )",
        "\x7b",
        "   element.wnx = " ++ toString inv0 ++ ";",
        "   element.wny = " ++ toString inv1 ++ ";",
        "   element.wnz = " ++ toString inv2 ++ ";",
        "   ref_dir = " ++ toString direction ++ ";",
        "\x7d"]
    else if dim = 2 then
      pure ["// concave corner (neighbors are non-fluid)",
        "if( element.wnx == 0 && element.wny == 0 )",
        "\x7b",
        "   element.wnx = " ++ toString inv0 ++ ";",
        "   element.wny = " ++ toString inv1 ++ ";",
        "   ref_dir = " ++ toString direction ++ ";",
        "\x7d"]
    else pure []
  pure ("\n".intercalate (initList ++ corner ++ ["element.ref_dir = ref_dir;"]))

theorem axisMirrored_ok {S : List (List Int)} (hclosed : ReflectionClosed S) : ∃ l, axisMirrored S = .ok l := by
  obtain ⟨t₀, h₀, -⟩ := mirroredDir_spec fun d hd => hclosed d hd 0 (by omega)
  obtain ⟨t₁, h₁, -⟩ := mirroredDir_spec fun d hd => hclosed d hd 1 (by omega)
  obtain ⟨t₂, h₂, -⟩ := mirroredDir_spec fun d hd => hclosed d hd 2 (by omega)
  refine ⟨[arrayPattern "int32_t" ("x" ++ "_axis_mirrored_stencil_dir") t₀,
    arrayPattern "int32_t" ("y" ++ "_axis_mirrored_stencil_dir") t₁,
    arrayPattern "int32_t" ("z" ++ "_axis_mirrored_stencil_dir") t₂], ?_⟩
  simp only [axisMirrored, List.enum, List.enumFrom, List.mapM_cons, List.mapM_nil, h₀, h₁, h₂]
  rfl

/-- On a reflection-closed stencil of three-component offsets, `data_initialisation` raises
nothing for a direction index of the stencil, and for any other index the `IndexError` of
`self._walberla_stencil[direction]`. -/
theorem dataInitialisation_raises_iff (S : List (List Int)) (hlen : ∀ d ∈ S, d.length = 3)
    (hclosed : ReflectionClosed S) (dim direction : Nat) :
    (direction < S.length → ∃ s, dataInitialisation S dim direction = .ok s) ∧
    (S.length ≤ direction → dataInitialisation S dim direction = .error (.indexError "tuple index out of range")) := by
  constructor
  · intro hdir
    have hd := List.getElem_mem hdir
    have h3 := hlen _ hd
    have h3' : (inverseDirection S[direction]).length = 3 := by rw [inverseDirection_length, h3]
    obtain ⟨l, hl⟩ := axisMirrored_ok hclosed
    obtain ⟨r, hr, -⟩ := pyIndex_of_mem (hclosed.inverseDirection_mem hlen hd)
    -- the direction, its components and those of its inverse are there
    simp only [dataInitialisation, pyGetItem_of_lt hdir, hl, hr, ok_bind,
      pyGetItem_of_lt (by omega : 0 < S[direction].length),
      pyGetItem_of_lt (by omega : 1 < S[direction].length),
      pyGetItem_of_lt (by omega : 2 < S[direction].length),
      pyGetItem_of_lt (by omega : 0 < (inverseDirection S[direction]).length),
      pyGetItem_of_lt (by omega : 1 < (inverseDirection S[direction]).length),
      pyGetItem_of_lt (by omega : 2 < (inverseDirection S[direction]).length)]
    split_ifs <;> exact ⟨_, rfl⟩
  · intro hdir
    have hoff : pyGetItem S direction = .error (.indexError "tuple index out of range") := by
      rw [pyGetItem, List.getElem?_eq_none hdir]
    rw [dataInitialisation, hoff, error_bind]

/-! ### What the emitted code stores -/

/-- In closed form, what the emitted code stores in `element.ref_dir` for one cell (the
statements compute it, `runStatements_freeSlip`), where `fluid a` is what
its test `flagField->isPartOfMaskSet(...)` along axis `a` finds: `ref_dir` starts at
`start`, is looked up in the table of each tested axis whose test holds (x and y, and z in
three dimensions), and at a concave corner of a two- or three-dimensional stencil, where no
tested axis set its component of the wall normal `element.wn` to a nonzero value, is set to
`direction`. -/
def emittedRefDir (table : Nat → List Nat) (dim : Nat) (invOffset : List Int) (start direction : Nat)
    (fluid : Nat → Bool) : Option Nat :=
  let tested := if dim = 3 then [0, 1, 2] else [0, 1]
  let concave := (dim == 2 || dim == 3) && tested.all fun a => !fluid a || invOffset[a]? == some 0
  (lookupChain table (tested.filter fluid) start).map fun r => if concave then direction else r

/-- **The emitted code stores a direction index.** On a reflection-closed stencil of
three-component offsets, for a direction index `direction`, the code `data_initialisation`
emits, with the tables and the start index it prints, stores an index of the stencil in
`element.ref_dir`, whatever its tests find. -/
theorem emittedRefDir_lt (S : List (List Int)) (hclosed : ReflectionClosed S) (table : Nat → List Nat)
    (htable : ∀ i < 3, mirroredDir S i = .ok (table i)) (dim direction : Nat) (hdir : direction < S.length)
    (start : Nat) (hstart : pyIndex S (inverseDirection S[direction]) = .ok start) (fluid : Nat → Bool) :
    ∃ r, emittedRefDir table dim (inverseDirection S[direction]) start direction fluid = some r ∧ r < S.length := by
  have hs : start < S.length := (List.getElem?_eq_some_iff.mp (getElem?_of_pyIndex hstart)).1
  have haxes : ∀ a ∈ (if dim = 3 then [0, 1, 2] else [0, 1]).filter fluid, a < 3 := fun a ha => by
    have ha := List.mem_of_mem_filter ha
    split_ifs at ha <;> simp at ha <;> omega
  obtain ⟨r, hr, hrn⟩ := lookupChain_mirroredDir_lt hclosed htable _ haxes start hs
  simp only [emittedRefDir, hr, Option.map_some']
  exact ⟨_, rfl, by split_ifs <;> assumption⟩

/-! ### The emitted code reflects the link at the wall -/

/-- The axes the emitted code tests: x and y, and z in three dimensions. -/
def testedAxes (dim : Nat) : List Nat := if dim = 3 then [0, 1, 2] else [0, 1]

@[simp] theorem testedAxes_two : testedAxes 2 = [0, 1] := rfl

@[simp] theorem testedAxes_three : testedAxes 3 = [0, 1, 2] := rfl

theorem range_length_testedAxes {dim : Nat} (f : Nat → Int) :
    List.range ((testedAxes dim).map f).length = testedAxes dim := by
  unfold testedAxes
  split_ifs <;> rfl

/-- The emitted concave-corner test, `element.wnx == 0 && element.wny == 0` and
`element.wnz == 0` in three dimensions, in a two- or three-dimensional stencil, as it comes
out after the tests: no tested axis whose test holds has a nonzero inverse offset. -/
def concaveCorner (dim : Nat) (invOffset : List Int) (fluid : Nat → Bool) : Bool :=
  (dim == 2 || dim == 3) && (testedAxes dim).all fun a => !fluid a || invOffset[a]? == some 0

theorem emittedRefDir_eq (table : Nat → List Nat) (dim : Nat) (invOffset : List Int) (start direction : Nat)
    (fluid : Nat → Bool) :
    emittedRefDir table dim invOffset start direction fluid =
      (lookupChain table ((testedAxes dim).filter fluid) start).map
        fun r => if concaveCorner dim invOffset fluid then direction else r := rfl

/-- The wall normal `(element.wnx, element.wny)`, and `element.wnz` in three dimensions, that
the emitted code stores for one cell: zero, then on each tested axis whose test holds the
inverse offset's component, and at a concave corner of a two- or three-dimensional stencil,
where all of them are still zero, the inverse offset's component on every tested axis. -/
def emittedNormal (dim : Nat) (invOffset : List Int) (fluid : Nat → Bool) : List Int :=
  let wn := (testedAxes dim).map fun a => if fluid a then invOffset.getD a 0 else 0
  if (dim == 2 || dim == 3) && wn.all (· == 0) then (testedAxes dim).map (invOffset.getD · 0) else wn

/-- The specular reflection of the direction `v` at a wall of normal `wn`: `v` with its
component negated along every axis where `wn` is nonzero. -/
def reflectAt (wn v : List Int) : List Int :=
  v.mapIdx fun a x => if wn.getD a 0 ≠ 0 then -x else x

theorem reflectAt_three (wn : List Int) (x y z : Int) :
    reflectAt wn [x, y, z] =
      [if wn.getD 0 0 ≠ 0 then -x else x, if wn.getD 1 0 ≠ 0 then -y else y, if wn.getD 2 0 ≠ 0 then -z else z] :=
  rfl

theorem ite_eq_zero_self_neg (x : Int) : (if x = 0 then x else -x) = -x := by
  by_cases h : x = 0 <;> simp [h]

theorem ite_eq_zero_neg_self (x : Int) : (if x = 0 then -x else x) = x := by
  by_cases h : x = 0 <;> simp [h]

theorem ite_beq_zero (b : Bool) (x : Int) : ((if b then x else 0) == 0) = (!b || x == 0) := by
  cases b <;> simp

theorem ite_ite_ne_zero (b : Bool) (x : Int) :
    (if (if b then x else 0) ≠ 0 then -x else x) = if b then -x else x := by
  cases b <;> simp [ite_eq_zero_self_neg]

/-- On a three-component offset, the emitted normal is the inverse offset on the tested axes
whose test holds, or on all tested axes at a concave corner, and zero elsewhere. -/
theorem emittedNormal_eq {invOffset : List Int} (hlen : invOffset.length = 3) (dim : Nat) (fluid : Nat → Bool) :
    emittedNormal dim invOffset fluid =
      (testedAxes dim).map fun a => if concaveCorner dim invOffset fluid || fluid a then invOffset.getD a 0 else 0 := by
  match invOffset, hlen with
  | [x, y, z], _ =>
    -- all components are zero exactly when the corner test holds
    have hall : ((testedAxes dim).map fun a => if fluid a then [x, y, z].getD a 0 else 0).all (· == 0) =
        (testedAxes dim).all fun a => !fluid a || [x, y, z][a]? == some 0 := by
      unfold testedAxes
      split_ifs <;> simp only [List.map, List.all_cons, List.all_nil, ite_beq_zero] <;> rfl
    simp only [emittedNormal, concaveCorner, hall]
    split_ifs with h <;> simp [h]

/-- At a concave corner the emitted code stores the link's own direction, which is its
inverse reflected at the normal stored there. -/
theorem reflectAt_emittedNormal_of_concave {v : List Int} (hv : v.length = 3) {dim : Nat} {fluid : Nat → Bool}
    (hplanar : dim = 2 → v[2]? = some 0) (hc : concaveCorner dim (inverseDirection v) fluid = true) :
    reflectAt (emittedNormal dim (inverseDirection v) fluid) (inverseDirection v) = v := by
  have hinv : (inverseDirection v).length = 3 := by rw [inverseDirection_length, hv]
  have hdim : dim = 2 ∨ dim = 3 := by
    simp only [concaveCorner, Bool.and_eq_true, Bool.or_eq_true, beq_iff_eq] at hc
    exact hc.1
  rw [emittedNormal_eq hinv, hc]
  match v, hv with
  | [x, y, z], _ =>
    unfold testedAxes
    split_ifs with h3
    · simp only [inverseDirection, List.map_cons, List.map_nil, Bool.true_or, if_true, reflectAt_three,
        List.getD_cons_zero, List.getD_cons_succ, ne_eq, ite_not, neg_eq_zero, neg_neg, ite_eq_zero_neg_self]
    · have hz : z = 0 := by simpa using hplanar (by omega)
      simp only [inverseDirection, List.map_cons, List.map_nil, Bool.true_or, if_true, reflectAt_three,
        List.getD_cons_zero, List.getD_cons_succ, List.getD_nil, ne_eq, ite_not, neg_eq_zero, neg_neg,
        ite_eq_zero_neg_self, not_true_eq_false, if_false, hz, neg_zero]

theorem foldl_filter_mirrorStencil_three (x y z : Int) (p : Nat → Bool) :
    ([0, 1, 2].filter p).foldl mirrorStencil [x, y, z] =
      [if p 0 then -x else x, if p 1 then -y else y, if p 2 then -z else z] := by
  simp only [List.filter_cons, List.filter_nil]
  cases p 0 <;> cases p 1 <;> cases p 2 <;> rfl

theorem foldl_filter_mirrorStencil_two (x y z : Int) (p : Nat → Bool) :
    ([0, 1].filter p).foldl mirrorStencil [x, y, z] = [if p 0 then -x else x, if p 1 then -y else y, z] := by
  simp only [List.filter_cons, List.filter_nil]
  cases p 0 <;> cases p 1 <;> rfl

/-- Elsewhere the lookups along the tested axes whose test holds reflect the inverse at the
normal stored there. -/
theorem foldl_mirrorStencil_eq_reflectAt {inv : List Int} (hv : inv.length = 3) {dim : Nat} {fluid : Nat → Bool}
    (hc : concaveCorner dim inv fluid = false) :
    ((testedAxes dim).filter fluid).foldl mirrorStencil inv = reflectAt (emittedNormal dim inv fluid) inv := by
  rw [emittedNormal_eq hv, hc]
  match inv, hv with
  | [x, y, z], _ =>
    unfold testedAxes
    split_ifs
    · simp only [foldl_filter_mirrorStencil_three, reflectAt_three, List.map_cons, List.map_nil, Bool.false_or,
        List.getD_cons_zero, List.getD_cons_succ, ite_ite_ne_zero]
    · simp only [foldl_filter_mirrorStencil_two, reflectAt_three, List.map_cons, List.map_nil, Bool.false_or,
        List.getD_cons_zero, List.getD_cons_succ, List.getD_nil, ite_ite_ne_zero, ne_eq, not_true_eq_false, if_false]

theorem lt_three_of_mem_testedAxes {dim a : Nat} (ha : a ∈ testedAxes dim) : a < 3 := by
  unfold testedAxes at ha
  split_ifs at ha <;> simp at ha <;> omega

theorem getElem?_eq_some_getD_of_mem_testedAxes {inv : List Int} (hinv : inv.length = 3) {dim a : Nat}
    (ha : a ∈ testedAxes dim) : inv[a]? = some (inv.getD a 0) := by
  have := lt_three_of_mem_testedAxes ha
  rw [List.getD_eq_getElem?_getD, List.getElem?_eq_getElem (by omega), Option.getD_some]

/-- A direction other than the centre, of a two-dimensional stencil lying in the plane
`z = 0` or of a three-dimensional one, has an inverse with a nonzero component on a tested
axis. -/
theorem exists_testedAxes_ne_zero {v : List Int} (hv : v.length = 3) {dim : Nat} (hdim : dim = 2 ∨ dim = 3)
    (hplanar : dim = 2 → v[2]? = some 0) (hz : ¬IsZero v) :
    ∃ a ∈ testedAxes dim, (inverseDirection v).getD a 0 ≠ 0 := by
  match v, hv with
  | [x, y, z], _ =>
    simp only [IsZero, List.mem_cons, List.not_mem_nil, or_false, forall_eq_or_imp, forall_eq] at hz
    rcases hdim with rfl | rfl
    · have hz0 : z = 0 := by simpa using hplanar rfl
      by_cases hx : x = 0
      · exact ⟨1, by decide, show -y ≠ 0 by omega⟩
      · exact ⟨0, by decide, show -x ≠ 0 by omega⟩
    · by_cases hx : x = 0
      · by_cases hy : y = 0
        · exact ⟨2, by decide, show -z ≠ 0 by omega⟩
        · exact ⟨1, by decide, show -y ≠ 0 by omega⟩
      · exact ⟨0, by decide, show -x ≠ 0 by omega⟩

/-- In two and three dimensions the emitted normal of a link other than the centre is
nonzero: at a concave corner it is the inverse on the tested axes, and elsewhere a tested
axis whose test holds has a nonzero component, which the normal keeps. -/
theorem emittedNormal_ne_zero {v : List Int} (hv : v.length = 3) {dim : Nat} (hdim : dim = 2 ∨ dim = 3)
    (hplanar : dim = 2 → v[2]? = some 0) (hz : ¬IsZero v) (fluid : Nat → Bool) :
    ¬IsZero (emittedNormal dim (inverseDirection v) fluid) := by
  have hinv : (inverseDirection v).length = 3 := by rw [inverseDirection_length, hv]
  obtain ⟨a, ha, hna⟩ := exists_testedAxes_ne_zero hv hdim hplanar hz
  rw [emittedNormal_eq hinv]
  intro hzero
  -- every tested axis the normal takes from the inverse has a zero component
  have hzero' : ∀ b ∈ testedAxes dim, (concaveCorner dim (inverseDirection v) fluid || fluid b) = true →
      (inverseDirection v).getD b 0 = 0 := fun b hb hcb => by
    simpa [hcb] using hzero _ (List.mem_map_of_mem _ hb)
  cases hc : concaveCorner dim (inverseDirection v) fluid
  · -- so every tested axis whose test holds has a zero component, and the corner test holds
    have hcorner : concaveCorner dim (inverseDirection v) fluid = true := by
      simp only [concaveCorner, Bool.and_eq_true, Bool.or_eq_true, beq_iff_eq, List.all_eq_true]
      refine ⟨hdim, fun b hb => ?_⟩
      cases hfb : fluid b
      · exact .inl rfl
      · exact .inr (by rw [getElem?_eq_some_getD_of_mem_testedAxes hinv hb, hzero' b hb (by rw [hc, hfb]; rfl)])
    rw [hc] at hcorner
    exact Bool.false_ne_true hcorner
  · exact hna (hzero' a ha (by rw [hc]; rfl))

/-- The closed form reflects the link at the wall. On a reflection-closed stencil of
three-component offsets, lying in the plane `z = 0` if it is two-dimensional, for a
direction index `direction` and whatever the tests of the code `data_initialisation` emits
find, that code, with the tables and the start index it prints, stores in `element.ref_dir`
the index of a direction that is the inverse of the link's direction reflected specularly
at the wall normal it stores in `element.wn`: negated along every axis where that normal is
nonzero. In two and three dimensions that normal is nonzero for a link other than the
centre. -/
theorem emittedRefDir_reflects (S : List (List Int)) (hlen : ∀ d ∈ S, d.length = 3) (hclosed : ReflectionClosed S)
    (table : Nat → List Nat) (htable : ∀ i < 3, mirroredDir S i = .ok (table i)) (dim : Nat)
    (hplanar : dim = 2 → ∀ d ∈ S, d[2]? = some 0) (direction : Nat) (hdir : direction < S.length)
    (start : Nat) (hstart : pyIndex S (inverseDirection S[direction]) = .ok start) (fluid : Nat → Bool) :
    (∃ r, emittedRefDir table dim (inverseDirection S[direction]) start direction fluid = some r ∧
      S[r]? = some (reflectAt (emittedNormal dim (inverseDirection S[direction]) fluid)
        (inverseDirection S[direction]))) ∧
    (dim = 2 ∨ dim = 3 → ¬IsZero S[direction] → ¬IsZero (emittedNormal dim (inverseDirection S[direction]) fluid)) := by
  have hv := hlen _ (List.getElem_mem hdir)
  have hplanar' : dim = 2 → S[direction][2]? = some 0 := fun h => hplanar h _ (List.getElem_mem hdir)
  have haxes : ∀ a ∈ (testedAxes dim).filter fluid, a < 3 := fun _ ha =>
    lt_three_of_mem_testedAxes (List.mem_of_mem_filter ha)
  obtain ⟨r, hr, hSr⟩ := lookupChain_mirroredDir hclosed htable haxes (getElem?_of_pyIndex hstart)
  refine ⟨⟨_, by rw [emittedRefDir_eq, hr, Option.map_some'], ?_⟩,
    fun hdim hz => emittedNormal_ne_zero hv hdim hplanar' hz fluid⟩
  cases hc : concaveCorner dim (inverseDirection S[direction]) fluid
  · rw [if_neg Bool.false_ne_true, hSr, foldl_mirrorStencil_eq_reflectAt (by rw [inverseDirection_length, hv]) hc]
  · rw [if_pos rfl, List.getElem?_eq_getElem hdir, reflectAt_emittedNormal_of_concave hv hplanar' hc]

/-! ### The emitted statements -/

/-- The name of an axis in the emitted C++. -/
def axisName : Nat → String
  | 0 => "x"
  | 1 => "y"
  | _ => "z"

/-- The statements of the C++ that `data_initialisation` emits, with what they read. -/
inductive CStmt where
  /-- `const int32_t {axis}_axis_mirrored_stencil_dir [] = { ... };` -/
  | table (axis : Nat) (content : List Nat)
  /-- `const Cell n = it.cell() + Cell(x, y, z);` for the link's offset. -/
  | neighbour (offset : List Int)
  /-- `int32_t ref_dir = start; // dir: direction` -/
  | declRefDir (start direction : Nat)
  /-- `element.wn{axis} = 0;` -/
  | zeroNormal (axis : Nat)
  /-- `if( flagField->isPartOfMaskSet(...) )`, the neighbour along the axis shifted by `v`:
  `element.wn{axis} = v;` and the lookup of `ref_dir` in the axis's table. -/
  | ifFluid (axis : Nat) (v : Int)
  /-- `// concave corner (neighbors are non-fluid)` -/
  | concaveComment
  /-- `if( element.wnx == 0 && ... )`: the normal set to `normal`, `ref_dir` to `direction`. -/
  | concave (normal : List Int) (direction : Nat)
  /-- `element.ref_dir = ref_dir;` -/
  | store

/-- `element.wn{axis} = 0;`, the first with its comment. -/
def zeroNormalLine : Nat → String
  | 0 => "element.wnx = 0; // compute discrete normal vector of free slip wall"
  | 1 => "element.wny = 0;"
  | _ => "element.wnz = 0;"

/-- The test of the neighbour along an axis. -/
def maskTestLine : Nat → Int → String
  | 0, v => "if( flagField->isPartOfMaskSet( n.x() + " ++ toString v ++ ", n.y(), n.z(), domainFlag ) )"
  | 1, v => "if( flagField->isPartOfMaskSet( n.x(), n.y() + " ++ toString v ++ ", n.z(), domainFlag ) )"
  | _, v => "if( flagField->isPartOfMaskSet( n.x(), n.y(), n.z() + " ++ toString v ++ ", domainFlag ) )"

/-- `   element.wn{axis} = v;` inside a block. -/
def setNormalLine : Nat → Int → String
  | 0, v => "   element.wnx = " ++ toString v ++ ";"
  | 1, v => "   element.wny = " ++ toString v ++ ";"
  | _, v => "   element.wnz = " ++ toString v ++ ";"

/-- The lines of a statement, as `data_initialisation` prints them. -/
def CStmt.lines : CStmt → List String
  | .table a content => [arrayPattern "int32_t" (axisName a ++ "_axis_mirrored_stencil_dir") content]
  | .neighbour offset => ["const Cell n = it.cell() + Cell(" ++ toString (offset.getD 0 0) ++ ", " ++
      toString (offset.getD 1 0) ++ ", " ++ toString (offset.getD 2 0) ++ ");"]
  | .declRefDir start direction => ["int32_t ref_dir = " ++ toString start ++ "; // dir: " ++ toString direction]
  | .zeroNormal a => [zeroNormalLine a]
  | .ifFluid a v => [maskTestLine a v, "\x7b", setNormalLine a v,
      "   ref_dir = " ++ axisName a ++ "_axis_mirrored_stencil_dir[ ref_dir ];", "\x7d"]
  | .concaveComment => ["// concave corner (neighbors are non-fluid)"]
  | .concave normal direction =>
    (if normal.length = 3 then "if( element.wnx == 0 && element.wny == 0 && element.wnz == 0 )"
      else "if( element.wnx == 0 && element.wny == 0 )") :: "\x7b" ::
      (normal.enum.map fun (a, v) => setNormalLine a v) ++ ["   ref_dir = " ++ toString direction ++ ";", "\x7d"]
  | .store => ["element.ref_dir = ref_dir;"]

/-- The statements `data_initialisation` emits for the link `direction` of offset `offset`,
with the mirror tables and the start index it computes. -/
def freeSlipStatements (tables : Nat → List Nat) (dim direction : Nat) (offset : List Int) (start : Nat) :
    List CStmt :=
  let inv := inverseDirection offset
  ([0, 1, 2].map fun a => CStmt.table a (tables a)).take dim ++
    [.neighbour offset, .declRefDir start direction, .zeroNormal 0, .zeroNormal 1, .ifFluid 0 (inv.getD 0 0),
      .ifFluid 1 (inv.getD 1 0)] ++
    (if dim = 3 then
      [.zeroNormal 2, .ifFluid 2 (inv.getD 2 0), .concaveComment,
        .concave [inv.getD 0 0, inv.getD 1 0, inv.getD 2 0] direction]
    else if dim = 2 then [.concaveComment, .concave [inv.getD 0 0, inv.getD 1 0] direction]
    else []) ++
    [.store]

theorem pyGetItem_eq_getD {t : List Int} {i : Nat} (h : i < t.length) : pyGetItem t i = .ok (t.getD i 0) := by
  rw [pyGetItem_of_lt h, List.getD_eq_getElem?_getD, List.getElem?_eq_getElem h, Option.getD_some]

theorem flatMap_lines_take_tables (tables : Nat → List Nat) (n : Nat) :
    (([0, 1, 2].map fun a => CStmt.table a (tables a)).take n).flatMap CStmt.lines =
      [arrayPattern "int32_t" ("x" ++ "_axis_mirrored_stencil_dir") (tables 0),
        arrayPattern "int32_t" ("y" ++ "_axis_mirrored_stencil_dir") (tables 1),
        arrayPattern "int32_t" ("z" ++ "_axis_mirrored_stencil_dir") (tables 2)].take n := by
  rcases n with _ | _ | _ | n <;> simp [CStmt.lines, axisName]

/-- **`data_initialisation` prints the free-slip statements.** On a reflection-closed stencil of
three-component offsets, for a direction index, the text `data_initialisation` returns is
the statements `freeSlipStatements` of its mirror tables and start index, printed line by
line. -/
theorem dataInitialisation_eq_lines (S : List (List Int)) (hlen : ∀ d ∈ S, d.length = 3)
    (hclosed : ReflectionClosed S) (dim direction : Nat) (hdir : direction < S.length) :
    ∃ (tables : Nat → List Nat) (start : Nat), (∀ i < 3, mirroredDir S i = .ok (tables i)) ∧
      pyIndex S (inverseDirection S[direction]) = .ok start ∧
      dataInitialisation S dim direction =
        .ok ("\n".intercalate ((freeSlipStatements tables dim direction S[direction] start).flatMap CStmt.lines)) := by
  obtain ⟨t₀, h₀, -⟩ := mirroredDir_spec fun d hd => hclosed d hd 0 (by omega)
  obtain ⟨t₁, h₁, -⟩ := mirroredDir_spec fun d hd => hclosed d hd 1 (by omega)
  obtain ⟨t₂, h₂, -⟩ := mirroredDir_spec fun d hd => hclosed d hd 2 (by omega)
  have htables : ∀ i < 3, mirroredDir S i = .ok ([t₀, t₁, t₂].getD i [])
    | 0, _ => h₀
    | 1, _ => h₁
    | 2, _ => h₂
    | _ + 3, h => absurd h (by omega)
  have hax : axisMirrored S = .ok [arrayPattern "int32_t" ("x" ++ "_axis_mirrored_stencil_dir") t₀,
      arrayPattern "int32_t" ("y" ++ "_axis_mirrored_stencil_dir") t₁,
      arrayPattern "int32_t" ("z" ++ "_axis_mirrored_stencil_dir") t₂] := by
    simp only [axisMirrored, List.enum, List.enumFrom, List.mapM_cons, List.mapM_nil, h₀, h₁, h₂]
    rfl
  have h3 := hlen _ (List.getElem_mem hdir)
  have h3' : (inverseDirection S[direction]).length = 3 := by rw [inverseDirection_length, h3]
  obtain ⟨r, hr, -⟩ := pyIndex_of_mem (hclosed.inverseDirection_mem hlen (List.getElem_mem hdir))
  refine ⟨_, r, htables, hr, ?_⟩
  simp only [dataInitialisation, pyGetItem_of_lt hdir, hax, hr, ok_bind,
    pyGetItem_eq_getD (by omega : 0 < S[direction].length), pyGetItem_eq_getD (by omega : 1 < S[direction].length),
    pyGetItem_eq_getD (by omega : 2 < S[direction].length),
    pyGetItem_eq_getD (by omega : 0 < (inverseDirection S[direction]).length),
    pyGetItem_eq_getD (by omega : 1 < (inverseDirection S[direction]).length),
    pyGetItem_eq_getD (by omega : 2 < (inverseDirection S[direction]).length)]
  rw [freeSlipStatements, List.flatMap_append, List.flatMap_append, List.flatMap_append, flatMap_lines_take_tables]
  split_ifs <;> rfl

/-- The state the emitted code works on for one link: the arrays declared, by axis, the local
`ref_dir`, the wall normal `element.wn` by axis, and `element.ref_dir`. -/
structure LinkState where
  /-- The mirror tables declared, by axis. -/
  tables : List (Nat × List Nat)
  /-- The local `ref_dir`. -/
  refDir : Nat
  /-- `element.wnx`, `element.wny` and `element.wnz`. -/
  wn : Nat → Int
  /-- `element.ref_dir`. -/
  stored : Nat

/-- Executing a statement, where the test `flagField->isPartOfMaskSet(...)` along axis `a`
finds `fluid a`: `none` for a lookup past its table, which C++ does not catch. -/
def CStmt.exec (fluid : Nat → Bool) : CStmt → LinkState → Option LinkState
  | .table a content, σ => some { σ with tables := σ.tables ++ [(a, content)] }
  | .neighbour _, σ => some σ
  | .declRefDir start _, σ => some { σ with refDir := start }
  | .zeroNormal a, σ => some { σ with wn := Function.update σ.wn a 0 }
  | .ifFluid a v, σ =>
    if fluid a then
      ((σ.tables.lookup a).bind (·[σ.refDir]?)).map fun r =>
        { σ with wn := Function.update σ.wn a v, refDir := r }
    else some σ
  | .concaveComment, σ => some σ
  | .concave normal direction, σ =>
    if (List.range normal.length).all fun a => σ.wn a == 0 then
      some { σ with wn := fun a => normal.getD a (σ.wn a), refDir := direction }
    else some σ
  | .store, σ => some { σ with stored := σ.refDir }

/-- Executing statements in turn. -/
def runStatements (fluid : Nat → Bool) (stmts : List CStmt) (σ : LinkState) : Option LinkState :=
  stmts.foldlM (fun σ s => s.exec fluid σ) σ

@[simp] theorem runStatements_nil (fluid : Nat → Bool) (σ : LinkState) : runStatements fluid [] σ = some σ := rfl

theorem runStatements_cons (fluid : Nat → Bool) (s : CStmt) (l : List CStmt) (σ : LinkState) :
    runStatements fluid (s :: l) σ = (s.exec fluid σ).bind (runStatements fluid l) := rfl

theorem runStatements_append (fluid : Nat → Bool) (l₁ l₂ : List CStmt) (σ : LinkState) :
    runStatements fluid (l₁ ++ l₂) σ = (runStatements fluid l₁ σ).bind (runStatements fluid l₂) :=
  List.foldlM_append _ _ _ _

/-- The tests along `axes` in turn, in a state where each axis's array is declared: `ref_dir`
is looked up along the axes whose test holds, and the normal set to the inverse offset
there. -/
theorem runStatements_ifFluid (fluid : Nat → Bool) (tables : Nat → List Nat) (inv : List Int) :
    ∀ (axes : List Nat) (σ : LinkState), (∀ a ∈ axes, σ.tables.lookup a = some (tables a)) →
      runStatements fluid (axes.map fun a => .ifFluid a (inv.getD a 0)) σ =
        (lookupChain tables (axes.filter fluid) σ.refDir).map fun r =>
          { σ with refDir := r, wn := fun b => if b ∈ axes.filter fluid then inv.getD b 0 else σ.wn b }
  | [], σ, _ => by simp [lookupChain]
  | a :: axes, σ, h => by
    have ih := runStatements_ifFluid fluid tables inv axes
    have hrest : ∀ σ' : LinkState, σ'.tables = σ.tables → ∀ b ∈ axes, σ'.tables.lookup b = some (tables b) :=
      fun σ' h' b hb => h' ▸ h b (List.mem_cons_of_mem _ hb)
    rw [List.map_cons, runStatements_cons, CStmt.exec, List.filter_cons]
    cases hf : fluid a
    · rw [if_neg Bool.false_ne_true, if_neg Bool.false_ne_true, Option.some_bind, ih σ (hrest σ rfl)]
    · rw [if_pos rfl, if_pos rfl, h a (List.mem_cons_self _ _), Option.some_bind, lookupChain]
      cases (tables a)[σ.refDir]? with
      | none => rfl
      | some r =>
        rw [Option.map_some', Option.some_bind, Option.bind_eq_bind, Option.some_bind,
          ih { σ with refDir := r, wn := Function.update σ.wn a (inv.getD a 0) } (hrest _ rfl)]
        congr 1
        funext r'
        simp only [LinkState.mk.injEq, true_and, and_true, List.mem_cons]
        funext b
        by_cases hb : b = a
        · subst hb; simp
        · simp [hb, Function.update_noteq]

/-- At a concave corner, and only there, the corner statement puts the whole inverse offset
in the normal and `direction` in `ref_dir`; the store then copies `ref_dir`. -/
theorem runStatements_concave {inv : List Int} (hinv : inv.length = 3) {dim : Nat} (hdim : dim = 2 ∨ dim = 3)
    (fluid : Nat → Bool) (direction : Nat) (σ : LinkState)
    (hwn : ∀ a ∈ testedAxes dim, σ.wn a = if fluid a then inv.getD a 0 else 0) :
    (runStatements fluid [.concaveComment, .concave ((testedAxes dim).map (inv.getD · 0)) direction, .store] σ).map
        (fun σ => (σ.stored, (testedAxes dim).map σ.wn)) =
      some (if concaveCorner dim inv fluid then direction else σ.refDir, emittedNormal dim inv fluid) := by
  have hcorner : ((List.range ((testedAxes dim).map (inv.getD · 0)).length).all fun a => σ.wn a == 0) =
      concaveCorner dim inv fluid := by
    rw [range_length_testedAxes, concaveCorner, show (dim == 2 || dim == 3) = true by simpa using hdim,
      Bool.true_and, Bool.eq_iff_iff]
    simp only [List.all_eq_true, beq_iff_eq, Bool.or_eq_true, Bool.not_eq_true']
    refine forall₂_congr fun a ha => ?_
    rw [hwn a ha, getElem?_eq_some_getD_of_mem_testedAxes hinv ha]
    cases fluid a <;> simp
  have hnormal : (testedAxes dim).map (fun a => ((testedAxes dim).map (inv.getD · 0)).getD a (σ.wn a)) =
      (testedAxes dim).map (inv.getD · 0) := by
    unfold testedAxes
    split_ifs <;> rfl
  rw [emittedNormal_eq hinv]
  simp only [runStatements_cons, CStmt.exec, hcorner, Option.some_bind, runStatements_nil]
  cases concaveCorner dim inv fluid
  · simp only [if_neg Bool.false_ne_true, Option.map_some', Bool.false_or]
    exact congrArg _ (congrArg _ (List.map_congr_left hwn))
  · simp only [Bool.true_or, if_true, Option.some_bind, Option.map_some', hnormal]

/-- **Executing the emitted statements stores `emittedRefDir` and `emittedNormal`.** In two
and three dimensions, from a state with no array declared yet, the free-slip statements of
a three-component link store in `element.ref_dir` the index `emittedRefDir` gives, and in
`element.wn`, on the tested axes, the normal `emittedNormal` gives, or both fail at the same
lookup. -/
theorem runStatements_freeSlip (tables : Nat → List Nat) {dim : Nat} (hdim : dim = 2 ∨ dim = 3) (direction : Nat)
    {offset : List Int} (hoff : offset.length = 3) (start : Nat) (fluid : Nat → Bool) (σ₀ : LinkState)
    (hσ₀ : σ₀.tables = []) :
    (runStatements fluid (freeSlipStatements tables dim direction offset start) σ₀).map
        (fun σ => (σ.stored, (testedAxes dim).map σ.wn)) =
      (emittedRefDir tables dim (inverseDirection offset) start direction fluid).map
        (fun r => (r, emittedNormal dim (inverseDirection offset) fluid)) := by
  have hinv : (inverseDirection offset).length = 3 := by rw [inverseDirection_length, hoff]
  obtain ⟨_, refDir₀, wn₀, stored₀⟩ := σ₀
  cases hσ₀
  rw [emittedRefDir_eq]
  rcases hdim with rfl | rfl
  · -- two dimensions: the tables of x and y, the tests along x and y, the corner
    have hpre : runStatements fluid [.table 0 (tables 0), .table 1 (tables 1), .neighbour offset,
        .declRefDir start direction, .zeroNormal 0, .zeroNormal 1] ⟨[], refDir₀, wn₀, stored₀⟩ =
        some ⟨[(0, tables 0), (1, tables 1)], start, Function.update (Function.update wn₀ 0 0) 1 0, stored₀⟩ := rfl
    have hsplit : freeSlipStatements tables 2 direction offset start =
        [.table 0 (tables 0), .table 1 (tables 1), .neighbour offset, .declRefDir start direction, .zeroNormal 0,
          .zeroNormal 1] ++ ((testedAxes 2).map fun a => .ifFluid a ((inverseDirection offset).getD a 0)) ++
        [.concaveComment, .concave ((testedAxes 2).map ((inverseDirection offset).getD · 0)) direction, .store] :=
      rfl
    have hlookup : ∀ a ∈ testedAxes 2, List.lookup a [(0, tables 0), (1, tables 1)] = some (tables a) := by
      intro a ha
      simp only [testedAxes_two, List.mem_cons, List.mem_singleton, List.not_mem_nil, or_false] at ha
      rcases ha with rfl | rfl <;> rfl
    rw [hsplit, runStatements_append, runStatements_append, hpre, Option.some_bind,
      runStatements_ifFluid fluid tables _ _ _ hlookup]
    cases lookupChain tables ((testedAxes 2).filter fluid) start with
    | none => rfl
    | some r =>
      refine runStatements_concave hinv (.inl rfl) fluid direction _ fun a ha => ?_
      simp only [testedAxes_two, List.mem_cons, List.mem_singleton, List.not_mem_nil, or_false] at ha
      rcases ha with rfl | rfl <;> simp [Function.update_noteq]
  · -- three dimensions: the tests along x and y, then the normal's z component and the test along z
    have hpre : runStatements fluid [.table 0 (tables 0), .table 1 (tables 1), .table 2 (tables 2),
        .neighbour offset, .declRefDir start direction, .zeroNormal 0, .zeroNormal 1] ⟨[], refDir₀, wn₀, stored₀⟩ =
        some ⟨[(0, tables 0), (1, tables 1), (2, tables 2)], start, Function.update (Function.update wn₀ 0 0) 1 0,
          stored₀⟩ := rfl
    have hsplit : freeSlipStatements tables 3 direction offset start =
        [.table 0 (tables 0), .table 1 (tables 1), .table 2 (tables 2), .neighbour offset,
          .declRefDir start direction, .zeroNormal 0, .zeroNormal 1] ++
        ([0, 1].map fun a => .ifFluid a ((inverseDirection offset).getD a 0)) ++
        ([.zeroNormal 2] ++ ([2].map fun a => .ifFluid a ((inverseDirection offset).getD a 0)) ++
        [.concaveComment, .concave ((testedAxes 3).map ((inverseDirection offset).getD · 0)) direction, .store]) :=
      rfl
    have hlookup : ∀ a ∈ [0, 1, 2], List.lookup a [(0, tables 0), (1, tables 1), (2, tables 2)] = some (tables a) := by
      intro a ha
      simp only [List.mem_cons, List.mem_singleton, List.not_mem_nil, or_false] at ha
      rcases ha with rfl | rfl | rfl <;> rfl
    rw [hsplit, runStatements_append, runStatements_append, hpre, Option.some_bind,
      runStatements_ifFluid fluid tables _ _ _ fun a ha => hlookup a (by simp at ha ⊢; omega),
      show (testedAxes 3).filter fluid = [0, 1].filter fluid ++ [2].filter fluid from List.filter_append [0, 1] [2],
      lookupChain_append]
    cases lookupChain tables ([0, 1].filter fluid) start with
    | none => rfl
    | some r =>
      rw [Option.map_some', Option.some_bind, Option.some_bind, runStatements_append, runStatements_append,
        runStatements_cons, CStmt.exec, Option.some_bind, runStatements_nil, Option.some_bind,
        runStatements_ifFluid fluid tables _ _ _ fun a ha => hlookup a (by simp at ha ⊢; omega)]
      cases lookupChain tables ([2].filter fluid) r with
      | none => rfl
      | some r' =>
        refine runStatements_concave hinv (.inr rfl) fluid direction _ fun a ha => ?_
        simp only [testedAxes_three, List.mem_cons, List.mem_singleton, List.not_mem_nil, or_false] at ha
        rcases ha with rfl | rfl | rfl <;> simp [Function.update_noteq]

/-- **The code `data_initialisation` prints reflects the link at the wall.** On a
reflection-closed stencil of three-component offsets, lying in the plane `z = 0` if it is
two-dimensional, in two and three dimensions and for a direction index `direction`, the text
`data_initialisation` returns is the free-slip statements printed line by line, and
executing them, whatever the tests `flagField->isPartOfMaskSet(...)` find, stores in
`element.ref_dir` the index of the inverse of the link's direction reflected specularly at
the normal it stores in `element.wn`: negated along every axis where that normal is nonzero.
For a link other than the centre that normal is nonzero. -/
theorem dataInitialisation_reflects (S : List (List Int)) (hlen : ∀ d ∈ S, d.length = 3)
    (hclosed : ReflectionClosed S) (dim : Nat) (hdim : dim = 2 ∨ dim = 3)
    (hplanar : dim = 2 → ∀ d ∈ S, d[2]? = some 0) (direction : Nat) (hdir : direction < S.length) :
    ∃ (tables : Nat → List Nat) (start : Nat),
      dataInitialisation S dim direction =
        .ok ("\n".intercalate ((freeSlipStatements tables dim direction S[direction] start).flatMap CStmt.lines)) ∧
      ∀ (fluid : Nat → Bool) (σ₀ : LinkState), σ₀.tables = [] →
        ∃ σ, runStatements fluid (freeSlipStatements tables dim direction S[direction] start) σ₀ = some σ ∧
          S[σ.stored]? = some (reflectAt ((testedAxes dim).map σ.wn) (inverseDirection S[direction])) ∧
          (¬IsZero S[direction] → ¬IsZero ((testedAxes dim).map σ.wn)) := by
  obtain ⟨tables, start, htables, hstart, htext⟩ := dataInitialisation_eq_lines S hlen hclosed dim direction hdir
  refine ⟨tables, start, htext, fun fluid σ₀ hσ₀ => ?_⟩
  obtain ⟨⟨r, hr, hSr⟩, hnz⟩ :=
    emittedRefDir_reflects S hlen hclosed tables htables dim hplanar direction hdir start hstart fluid
  have hrun := runStatements_freeSlip tables hdim direction (hlen _ (List.getElem_mem hdir)) start fluid σ₀ hσ₀
  rw [hr, Option.map_some', Option.map_eq_some'] at hrun
  obtain ⟨σ, hσ, hproj⟩ := hrun
  obtain ⟨hstored, hwn⟩ := Prod.mk.inj hproj
  exact ⟨σ, hσ, by rw [hstored, hwn, hSr], fun hz => hwn ▸ hnz hdim hz⟩

/-- The north-east link of the nine two-dimensional directions: `data_initialisation` prints
statements that reflect it at the wall. -/
theorem dataInitialisation_reflects_D2Q9 :
    let S : List (List Int) :=
      [[0, 0, 0], [0, 1, 0], [0, -1, 0], [-1, 0, 0], [1, 0, 0], [-1, 1, 0], [1, 1, 0], [-1, -1, 0], [1, -1, 0]]
    (∀ d ∈ S, d.length = 3) ∧ ReflectionClosed S ∧ (∀ d ∈ S, d[2]? = some 0) ∧ 6 < S.length ∧
      ∃ (tables : Nat → List Nat) (start : Nat),
        dataInitialisation S 2 6 =
          .ok ("\n".intercalate ((freeSlipStatements tables 2 6 [1, 1, 0] start).flatMap CStmt.lines)) ∧
        ∀ (fluid : Nat → Bool) (σ₀ : LinkState), σ₀.tables = [] →
          ∃ σ, runStatements fluid (freeSlipStatements tables 2 6 [1, 1, 0] start) σ₀ = some σ ∧
            S[σ.stored]? = some (reflectAt ((testedAxes 2).map σ.wn) [-1, -1, 0]) := by
  intro S
  obtain ⟨tables, start, htext, hrun⟩ :=
    dataInitialisation_reflects S (by decide) (by decide) 2 (.inl rfl) (fun _ => by decide) 6 (by decide)
  refine ⟨by decide, by decide, by decide, by decide, tables, start, htext, fun fluid σ₀ hσ₀ => ?_⟩
  obtain ⟨σ, hσ, hS, -⟩ := hrun fluid σ₀ hσ₀
  exact ⟨σ, hσ, hS⟩

/-! ### The extrapolation outflow's stencil info -/

/-- The message of the `assert` of `OutflowAdditionalDataHandler.__init__`. -/
def straightWallMessage : String := "The outflow boundary is only implemented for straight walls at the moment."

/-- The check of `OutflowAdditionalDataHandler.__init__` on the wall normal:
`assert sum([a != 0 for a in self._normal_direction]) == 1`. -/
def checkNormalDirection (normalDirection : List Int) : Except PyError Unit :=
  if (normalDirection.filter (· != 0)).length = 1 then .ok () else .error (.assertionError straightWallMessage)

/-- `OutflowAdditionalDataHandler.stencil_info`: for each direction `d` of the boundary's
stencil that shares a nonzero component with the wall normal, its index, `d` in three
components (`d + (0,)` in two dimensions), and its components joined by `", "`. -/
def stencilInfo (stencil : List (List Int)) (normalDirection : List Int) (dim : Nat) :
    List (Nat × List Int × String) :=
  stencil.enum.filterMap fun (i, d) =>
    if (normalDirection.zip d).any fun (a, b) => a != 0 && b != 0 && a == b then
      let direction := if dim = 3 then d else d ++ [0]
      some (i, direction, ", ".intercalate (direction.map toString))
    else none

/-- A list with one nonzero entry holds it at one position only. -/
theorem exists_unique_ne_zero_of_filter_length : ∀ {l : List Int}, (l.filter (· != 0)).length = 1 →
    ∃ (a : Nat) (n : Int), l[a]? = some n ∧ n ≠ 0 ∧ ∀ (b : Nat) m, l[b]? = some m → m ≠ 0 → b = a
  | [], h => by simp at h
  | x :: l, h => by
    by_cases hx : x = 0
    · rw [List.filter_cons_of_neg (by simp [hx])] at h
      obtain ⟨a, n, ha, hn, huniq⟩ := exists_unique_ne_zero_of_filter_length h
      refine ⟨a + 1, n, by rwa [List.getElem?_cons_succ], hn, fun b m hb hm => ?_⟩
      cases b with
      | zero => simp [hx] at hb; exact absurd hb.symm hm
      | succ b => rw [huniq b m (by simpa using hb) hm]
    · rw [List.filter_cons_of_pos (by simp [hx]), List.length_cons, Nat.add_left_eq_self,
        List.length_eq_zero, List.filter_eq_nil_iff] at h
      refine ⟨0, x, List.getElem?_cons_zero, hx, fun b m hb hm => ?_⟩
      cases b with
      | zero => rfl
      | succ b => exact absurd (h m (List.getElem?_mem (by simpa using hb))) (by simpa using hm)

/-- Against a normal with one nonzero component `n`, on axis `a`, a direction shares a
nonzero component with the normal exactly when its component on axis `a` is `n`. -/
theorem zip_any_iff {normal d : List Int} {a : Nat} {n : Int} (ha : normal[a]? = some n) (hn : n ≠ 0)
    (huniq : ∀ (b : Nat) m, normal[b]? = some m → m ≠ 0 → b = a) :
    ((normal.zip d).any fun p => p.1 != 0 && p.2 != 0 && p.1 == p.2) = true ↔ d[a]? = some n := by
  rw [List.any_eq_true]
  constructor
  · rintro ⟨⟨x, y⟩, hp, hP⟩
    obtain ⟨k, hk⟩ := List.mem_iff_getElem?.mp hp
    rw [List.getElem?_zip_eq_some] at hk
    simp only [bne_iff_ne, ne_eq, beq_iff_eq, Bool.and_eq_true, decide_eq_true_eq] at hP
    obtain ⟨⟨hx, -⟩, rfl⟩ := hP
    obtain rfl := huniq k x hk.1 hx
    rw [ha, Option.some.injEq] at hk
    exact hk.1 ▸ hk.2
  · intro hd
    exact ⟨(n, n), List.mem_iff_getElem?.mpr ⟨a, List.getElem?_zip_eq_some.mpr ⟨ha, hd⟩⟩, by simp [hn]⟩

/-- **The outflow lists the directions that leave through the wall.** For a wall normal
that passes the straight-wall check, with its nonzero component `n` on axis `a`,
`stencil_info` lists, in stencil order, the indices of exactly the directions whose component
on axis `a` is `n`. -/
theorem stencilInfo_straightWall (stencil : List (List Int)) (normal : List Int) (dim : Nat)
    (h : checkNormalDirection normal = .ok ()) :
    ∃ (a : Nat) (n : Int), normal[a]? = some n ∧ n ≠ 0 ∧
      (stencilInfo stencil normal dim).map (·.1) = (stencil.enum.filter fun e => e.2[a]? == some n).map (·.1) := by
  have hcount : (normal.filter (· != 0)).length = 1 := by
    by_contra hc
    rw [checkNormalDirection, if_neg hc] at h
    cases h
  obtain ⟨a, n, ha, hn, huniq⟩ := exists_unique_ne_zero_of_filter_length hcount
  refine ⟨a, n, ha, hn, ?_⟩
  rw [stencilInfo]
  induction stencil.enum with
  | nil => rfl
  | cons e L ih =>
    obtain ⟨i, d⟩ := e
    by_cases hc : d[a]? = some n
    · simp [List.filterMap_cons, (zip_any_iff ha hn huniq).mpr hc, hc, ih]
    · simp [List.filterMap_cons, (zip_any_iff ha hn huniq).not.mpr hc, hc, ih]

/-- A wall facing east passes the check; its axis is x. -/
theorem stencilInfo_straightWall_east :
    checkNormalDirection [1, 0] = .ok () ∧ ∃ (a : Nat) (n : Int), [1, 0][a]? = some n ∧ n ≠ 0 ∧
      (stencilInfo [[0, 0], [1, 0], [-1, 0]] [1, 0] 2).map (·.1) =
        ([[0, 0], [1, 0], [-1, 0]].enum.filter fun e => e.2[a]? == some n).map (·.1) :=
  ⟨rfl, stencilInfo_straightWall [[0, 0], [1, 0], [-1, 0]] [1, 0] 2 rfl⟩

/-- A wall facing east, on the nine two-dimensional directions: east, north-east and
south-east leave through it. -/
example : (stencilInfo [[0, 0], [0, 1], [0, -1], [-1, 0], [1, 0], [-1, 1], [1, 1], [-1, -1], [1, -1]]
    [1, 0] 2).map (·.1) = [4, 6, 8] := by
  decide

/-! ### The extrapolation outflow's initialisation -/

/-- What `get_init_dict` reads of an access of lbmpy's `AccessPdfValues(...).accs`. -/
structure PdfAccess where
  /-- `numeric_offsets(acc)`: the cell the access reads, relative to the current one. -/
  offsets : List Int
  /-- `numeric_index(acc)`: its index into the pdf field, the pdf's direction first. -/
  index : List Int
  deriving DecidableEq

/-- `position` of `get_init_dict`. -/
def cellPosition : List String := ["it.x()", "it.y()", "it.z()"]

/-- A list `pos` of `get_init_dict`: each coordinate of the cell shifted by the access's
offset plus the tangential offset, `"0"` for z in two dimensions, and the pdf's index. -/
def initPosition (dim : Nat) (offsets tangentialOffset : List Int) (index : Int) : List String :=
  (cellPosition.zip (offsets.zip tangentialOffset)).map (fun (p, o, t) => p ++ " + cell_idx_c(" ++ toString (o + t) ++ ")") ++
    (if dim = 2 then ["0"] else []) ++ [toString index]

/-- `OutflowAdditionalDataHandler.get_init_dict(pdf_accessor, direction_index)` on the
boundary's stencil `self._stencil`, its wall normal and the accesses `pdf_accessor.accs`:
the dict's items, in insertion order. The source builds the two entries by the same loop,
written out twice. -/
def getInitDict (stencil : List (List Int)) (normalDirection : List Int) (dim : Nat) (accs : List PdfAccess)
    (directionIndex : Nat) : Except PyError (List (String × String)) := do
  let direction ← pyGetItem stencil directionIndex
  let invDir ← pyIndex stencil (inverseDirection direction)
  let tangentialOffset := List.zipWith (· - ·) direction normalDirection
  let acc ← pyGetItem accs invDir
  let index ← pyGetItem acc.index 0
  let pdf := ", ".intercalate (initPosition dim acc.offsets tangentialOffset index)
  let index ← pyGetItem acc.index 0
  let pdfNd := ", ".intercalate (initPosition dim acc.offsets tangentialOffset index)
  pure [("pdf", pdf), ("pdf_nd", pdfNd)]

/-- `OutflowAdditionalDataHandler.data_initialisation(direction_index)`, the accesses those of
`AccessPdfValues` on the boundary's stencil, streaming pattern and zeroth time step: one line
`element.{key} = {field_name}->get({value});` per item of `get_init_dict`. -/
def outflowDataInitialisation (stencil : List (List Int)) (normalDirection : List Int) (dim : Nat)
    (accs : List PdfAccess) (fieldName : String) (directionIndex : Nat) : Except PyError String := do
  let initDict ← getInitDict stencil normalDirection dim accs directionIndex
  pure ("\n".intercalate (initDict.map fun (key, value) =>
    "element." ++ key ++ " = " ++ fieldName ++ "->get(" ++ value ++ ");"))

/-- Where the inverse of the link's direction and its access are there, `get_init_dict`
gives `pdf` and `pdf_nd` the same position: the cell that access reads, shifted by the
tangential offset, and the pdf's index. -/
theorem getInitDict_eq {S : List (List Int)} (hinv : ∀ d ∈ S, inverseDirection d ∈ S) {accs : List PdfAccess}
    (haccs : S.length ≤ accs.length) (hidx : ∀ acc ∈ accs, acc.index ≠ []) {i : Nat} (hi : i < S.length)
    (normal : List Int) (dim : Nat) :
    ∃ (inv : Nat) (acc : PdfAccess) (f : Int), pyIndex S (inverseDirection S[i]) = .ok inv ∧
      accs[inv]? = some acc ∧ acc.index.head? = some f ∧
      let pos := ", ".intercalate (initPosition dim acc.offsets (List.zipWith (· - ·) S[i] normal) f)
      getInitDict S normal dim accs i = .ok [("pdf", pos), ("pdf_nd", pos)] := by
  obtain ⟨inv, hk, hget⟩ := pyIndex_of_mem (hinv _ (List.getElem_mem hi))
  have hinvLt : inv < accs.length := by
    have := (List.getElem?_eq_some_iff.mp hget).1
    omega
  obtain ⟨f, fs, hf⟩ := List.exists_cons_of_ne_nil (hidx _ (List.getElem_mem hinvLt))
  have hf0 : pyGetItem accs[inv].index 0 = .ok f := pyGetItem_eq_ok_iff.mpr (by simp [hf])
  refine ⟨inv, accs[inv], f, hk, List.getElem?_eq_getElem hinvLt, by simp [hf], ?_⟩
  simp only [getInitDict, pyGetItem_of_lt hi, hk, pyGetItem_of_lt hinvLt, hf0, ok_bind]
  rfl

/-- `UBBAdditionalDataHandler.data_initialisation(direction)`: the velocity the callback gives
for the cell, stored component by component, z in three dimensions only. -/
def ubbDataInitialisation (dim : Nat) : String :=
  let initList := ["Vector3<real_t> InitialisatonAdditionalData = elementInitaliser(Cell(it.x(), it.y(), it.z()), " ++
      "blocks, *block);", "element.vel_0 = InitialisatonAdditionalData[0];",
    "element.vel_1 = InitialisatonAdditionalData[1];"]
  "\n".intercalate (if dim = 3 then initList ++ ["element.vel_2 = InitialisatonAdditionalData[2];"] else initList)

/-- The boundary conditions of lbmpy that `default_additional_data_handler` tells apart, with
what their handlers read of them. -/
inductive BoundaryKind where
  /-- A `FreeSlip`. -/
  | freeSlip
  /-- A `UBB`. -/
  | ubb
  /-- An `ExtrapolationOutflow`: its stencil, its `normal_direction`, and the accesses of
  `AccessPdfValues` on its stencil, streaming pattern and zeroth time step. -/
  | extrapolationOutflow (stencil : List (List Int)) (normalDirection : List Int) (accs : List PdfAccess)
  /-- Any other boundary, with its class as the f-string formats `boundary_obj.__class__`. -/
  | other (cls : String)

/-- What `default_additional_data_handler` reads of a boundary object. -/
structure LbBoundary where
  /-- The boundary's class. -/
  kind : BoundaryKind
  /-- `boundary_obj.additional_data`, as `not` reads it: whether it is non-empty. -/
  additionalData : Bool

/-- An additional-data handler of one of the three classes, with what it keeps of its
arguments. An outflow handler holds the check of its constructor's `assert`, so that one for
a wall that is not straight cannot be built. -/
inductive AdditionalDataHandler where
  /-- A `FreeSlipAdditionalDataHandler`, on the stencil `_walberla_stencil`. -/
  | freeSlip (walberlaStencil : List (List Int))
  /-- A `UBBAdditionalDataHandler`. -/
  | ubb
  /-- An `OutflowAdditionalDataHandler` on the boundary's stencil, wall normal and accesses,
  for the field `field_name`. -/
  | outflow (stencil : List (List Int)) (normalDirection : List Int) (accs : List PdfAccess) (fieldName : String)
      (straight : checkNormalDirection normalDirection = .ok ())

/-- The message of the `ValueError` of `default_additional_data_handler`. -/
def noDefaultHandlerMessage (cls : String) : String :=
  "No default AdditionalDataHandler available for boundary of type " ++ cls

/-- `default_additional_data_handler(boundary_obj, lb_method, field_name, target)`, the
handlers' base class making `walberlaStencil` of `lb_method.stencil`. -/
def defaultAdditionalDataHandler (boundaryObj : LbBoundary) (walberlaStencil : List (List Int))
    (fieldName : String) : Except PyError (Option AdditionalDataHandler) :=
  if !boundaryObj.additionalData then .ok none
  else match boundaryObj.kind with
    | .freeSlip => .ok (some (.freeSlip walberlaStencil))
    | .ubb => .ok (some .ubb)
    | .extrapolationOutflow stencil normalDirection accs =>
      match h : checkNormalDirection normalDirection with
      | .ok () => .ok (some (.outflow stencil normalDirection accs fieldName h))
      | .error e => .error e
    | .other cls => .error (.valueError (noDefaultHandlerMessage cls))

/-- `handler.data_initialisation(direction)`, `_dim` being `dim`. -/
def AdditionalDataHandler.dataInitialisation (dim : Nat) : AdditionalDataHandler → Nat → Except PyError String
  | .freeSlip S, direction => WalberlaCodegen.dataInitialisation S dim direction
  | .ubb, _ => .ok (ubbDataInitialisation dim)
  | .outflow stencil normalDirection accs fieldName _, directionIndex =>
    outflowDataInitialisation stencil normalDirection dim accs fieldName directionIndex

/-- The boundary is set up for a method on the stencil `S`: an extrapolation outflow's own
stencil has as many directions and is closed under inversion, and its accesses, one for each
of its directions at least, each have an index. -/
def BoundaryKind.Fits (S : List (List Int)) : BoundaryKind → Prop
  | .extrapolationOutflow stencil _ accs => stencil.length = S.length ∧
    (∀ d ∈ stencil, inverseDirection d ∈ stencil) ∧ stencil.length ≤ accs.length ∧ ∀ acc ∈ accs, acc.index ≠ []
  | _ => True

/-- **The default handlers initialise every link.** On a reflection-closed stencil of
three-component offsets, every handler that `default_additional_data_handler` returns for a
boundary set up on that stencil emits the initialisation of each of its links without
raising, in any number of dimensions. -/
theorem defaultAdditionalDataHandler_initialises (S : List (List Int)) (hlen : ∀ d ∈ S, d.length = 3)
    (hclosed : ReflectionClosed S) (dim : Nat) (b : LbBoundary) (hb : b.kind.Fits S) (fieldName : String)
    (handler : AdditionalDataHandler) (h : defaultAdditionalDataHandler b S fieldName = .ok (some handler))
    (i : Nat) (hi : i < S.length) : ∃ s, handler.dataInitialisation dim i = .ok s := by
  obtain ⟨kind, _ | _⟩ := b
  · cases h
  · cases kind with
    | freeSlip =>
      cases h
      exact (dataInitialisation_raises_iff S hlen hclosed dim i).1 hi
    | ubb =>
      cases h
      exact ⟨_, rfl⟩
    | extrapolationOutflow stencil normal accs =>
      obtain ⟨hsame, hinv, haccs, hidx⟩ := hb
      simp only [defaultAdditionalDataHandler, Bool.not_true, Bool.false_eq_true, if_false] at h
      split at h
      · cases h
        obtain ⟨_, _, _, -, -, -, hdict⟩ := getInitDict_eq hinv haccs hidx (hsame ▸ hi) normal dim
        exact ⟨_, by rw [AdditionalDataHandler.dataInitialisation, outflowDataInitialisation, hdict, ok_bind]; rfl⟩
      · cases h
    | other cls => cases h

/-- An extrapolation outflow facing east, on the five two-dimensional directions: its handler
initialises the east link. -/
theorem defaultAdditionalDataHandler_initialises_D2Q5 :
    let S : List (List Int) := [[0, 0, 0], [0, 1, 0], [0, -1, 0], [-1, 0, 0], [1, 0, 0]]
    let B : List (List Int) := [[0, 0], [0, 1], [0, -1], [-1, 0], [1, 0]]
    let accs : List PdfAccess := [⟨[0, 0], [0]⟩, ⟨[0, 1], [1]⟩, ⟨[0, -1], [2]⟩, ⟨[-1, 0], [3]⟩, ⟨[1, 0], [4]⟩]
    ReflectionClosed S ∧ ∃ s, (AdditionalDataHandler.outflow B [1, 0] accs "pdfs" rfl).dataInitialisation 2 4 = .ok s := by
  intro S B accs
  exact ⟨by decide, defaultAdditionalDataHandler_initialises S (by decide) (by decide) 2
    ⟨.extrapolationOutflow B [1, 0] accs, true⟩ ⟨rfl, by decide, by decide, by decide⟩ "pdfs" _ rfl 4 (by decide)⟩

end WalberlaCodegen

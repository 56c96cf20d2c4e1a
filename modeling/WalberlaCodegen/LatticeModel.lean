import WalberlaCodegen.Lowering
import WalberlaCodegen.PackInfo

/-!
# Refinement scaling and direction switches of a lattice model

`RefinementScaling` of `lbmpy_walberla.walberla_lbm_generation` records how parameters
of a lattice model are rescaled on refined blocks: `add_scaling(parameter, rule)`
appends `(scaling_type, name, rule(parameter, level_scale_factor))` for a field, a field
access or a symbol, and recurses into a list or tuple of them. `__lattice_model` lowers
each recorded expression with `expression_to_code(expr, '')` and, since the parameters
become members of the generated class, renames them by appending `_`: on the name, and
on the lowered code by `code.replace(name, name + '_')`, a plain substring replacement.

`stencil_switch_statement(stencil, values)` renders the C++ `switch` over a direction that
`__lattice_model` emits for the equilibrium: it first builds the dict from each direction's
name, `offset_to_direction_string(d)`, to its printed value, then renders one `case` per
item of the dict.

## The model

`scaling_info` is the list of entries; `add_scaling` returns the extended list, or the
`ValueError` it raises: for any other parameter, and for a field with more than one index
dimension, which `field(sp.Symbol("f"))` cannot index (`Field.call`). The scaling rule is
any function of the parameter's expression and `level_scale_factor`. The lowering and the
printer are those of `WalberlaCodegen.Lowering`; Python's `str.replace` is `pyReplace`.

The template of `stencil_switch_statement` is a Jinja template of one loop over the items
of a dict (`LoopTemplate`): its text, its loop body with `{{direction_name}}` and
`{{value}}`, and the whitespace control `-%}` of its two tags, which removes the whitespace
after a tag (`lstrip`).

`generate_lattice_model` builds the configuration of its three kernels (`latticeModelConfig`)
and hands the method to `__lattice_model`. The method is read as lbmpy computes it: the
stencil's name and directions and the equilibrium with its two parts (`LbMethod`); the
kernels, the weights and the getters and setters the template is also given are not
modelled.

## What is proved

* `addScaling_leaves`: a list or tuple, nested to any depth, stands for its parameters
  that are not lists, depth first; `add_scaling` returns exactly when each of them is a
  field with at most one index dimension, an access or a symbol, and then appends their
  entries in that order.
* `refinementScalingInfo_names`: every stored name is the parameter's name with `_`.
* `refinementScalingInfo_renames_level_scale_factor`: for a parameter named `a` and the
  rule `a * level_scale_factor`, the stored code renames the `a`s inside
  `level_scale_factor` too.
* `renderSwitch_text` and `stencilSwitchStatement_cases`: for a stencil of distinct
  first-neighbourhood offsets in two or three dimensions, the directions' names are
  distinct and `stencil_switch_statement` renders the prologue, one line
  `case name: return value;` per direction, in stencil order, and the default.
* `generateLatticeModel_files`: a lattice model writes `<class_name>.h` and `.cpp`.
-/

namespace WalberlaCodegen

/-! ### `RefinementScaling.add_scaling` -/

/-- `RefinementScaling.level_scale_factor`. -/
def levelScaleFactor : Expr := .symbol "level_scale_factor"

/-- The parameter `add_scaling` is given. -/
inductive ScalingParameter where
  /-- A `Field`. -/
  | field (f : Field)
  /-- A `Field.Access`. -/
  | access (fa : Access)
  /-- An `sp.Symbol`. -/
  | symbol (name : String)
  /-- A list or tuple of parameters. -/
  | seq (ps : List ScalingParameter)
  /-- Anything else. -/
  | other

/-- An entry of `scaling_info`. -/
structure ScalingEntry where
  /-- `'field_with_f'`, `'field_xyz'` or `'normal'`. -/
  scalingType : String
  /-- The parameter's name. -/
  name : String
  /-- `scaling_rule(parameter, level_scale_factor)`. -/
  expr : Expr

/-- The message of `add_scaling`'s `ValueError`. -/
def invalidScalingMessage : String := "Invalid value for viscosity_relaxation_rate"

/-- `field(*idx)`: the access to the field's own cell at the index `idx`; pystencils raises
`ValueError` unless there is one entry per index dimension. -/
def Field.call (f : Field) (idx : List Idx) : Except PyError Access :=
  if idx.length = f.indexDimensions then .ok (f.center idx)
  else .error (.valueError ("Wrong number of indices: Got " ++ toString idx.length ++ ", expected " ++
    toString f.indexDimensions))

/-- The entry `add_scaling` appends for a parameter that is not a list or a tuple: a field
with an index dimension is scaled at its access `field(sp.Symbol("f"))`, one without at
`field.center`. Anything else is the `ValueError`, a list never reaching here. -/
def scalingEntry (scalingRule : Expr → Expr → Expr) : ScalingParameter → Except PyError ScalingEntry
  | .field f =>
    if f.indexDimensions > 0 then do
      let fieldAccess ← f.call [.sym "f"]
      pure ⟨"field_with_f", f.name, scalingRule (.access fieldAccess) levelScaleFactor⟩
    else pure ⟨"field_xyz", f.name, scalingRule (.access (f.center [])) levelScaleFactor⟩
  | .access fa => pure ⟨"field_xyz", fa.field.name, scalingRule (.access fa) levelScaleFactor⟩
  | .symbol n => pure ⟨"normal", n, scalingRule (.symbol n) levelScaleFactor⟩
  | .seq _ | .other => .error (.valueError invalidScalingMessage)

mutual

/-- `add_scaling(parameter, scaling_rule)`, appending to `scaling_info`. -/
def addScaling (scalingRule : Expr → Expr → Expr) (scalingInfo : List ScalingEntry) :
    ScalingParameter → Except PyError (List ScalingEntry)
  | .seq ps => addScalings scalingRule scalingInfo ps
  | p => (scalingInfo ++ [·]) <$> scalingEntry scalingRule p

/-- `for p in parameter: self.add_scaling(p, scaling_rule)`. -/
def addScalings (scalingRule : Expr → Expr → Expr) (scalingInfo : List ScalingEntry) :
    List ScalingParameter → Except PyError (List ScalingEntry)
  | [] => .ok scalingInfo
  | p :: ps => addScaling scalingRule scalingInfo p >>= fun info => addScalings scalingRule info ps

end

/-! ### Nested parameters -/

mutual

/-- The parameters `add_scaling` records for a parameter, depth first: a list or tuple stands
for its items. -/
def ScalingParameter.leaves : ScalingParameter → List ScalingParameter
  | .seq ps => ScalingParameter.leavesOf ps
  | p => [p]

/-- The parameters recorded for the items of a list, in order. -/
def ScalingParameter.leavesOf : List ScalingParameter → List ScalingParameter
  | [] => []
  | p :: ps => p.leaves ++ ScalingParameter.leavesOf ps

end

/-- Where `add_scaling` returns on a parameter that is not a list, it has appended its entry. -/
theorem addScaling_of_not_seq (scalingRule : Expr → Expr → Expr) (info : List ScalingEntry) {p : ScalingParameter}
    (hp : ∀ ps, p ≠ .seq ps) : addScaling scalingRule info p = (info ++ ·) <$> [p].mapM (scalingEntry scalingRule) := by
  have h : addScaling scalingRule info p = (info ++ [·]) <$> scalingEntry scalingRule p := by
    cases p with
    | seq ps => exact absurd rfl (hp ps)
    | _ => rfl
  rw [h, List.mapM_cons, List.mapM_nil]
  cases scalingEntry scalingRule p <;> rfl

theorem mapM_append_map {ε α β : Type} (f : α → Except ε β) (info : List β) (l₁ l₂ : List α) :
    ((info ++ ·) <$> l₁.mapM f >>= fun info' => (info' ++ ·) <$> l₂.mapM f) = (info ++ ·) <$> (l₁ ++ l₂).mapM f := by
  rw [List.mapM_append]
  cases l₁.mapM f <;> cases l₂.mapM f <;> simp [List.append_assoc]

mutual

/-- The run of `add_scaling` on a nested parameter is the run over its leaves. -/
theorem addScaling_eq_leaves (scalingRule : Expr → Expr → Expr) (info : List ScalingEntry) :
    ∀ p, addScaling scalingRule info p = (info ++ ·) <$> p.leaves.mapM (scalingEntry scalingRule)
  | .seq ps => by
    rw [addScaling, ScalingParameter.leaves]
    exact addScalings_eq_leaves scalingRule info ps
  | .field f => addScaling_of_not_seq scalingRule info nofun
  | .access fa => addScaling_of_not_seq scalingRule info nofun
  | .symbol n => addScaling_of_not_seq scalingRule info nofun
  | .other => addScaling_of_not_seq scalingRule info nofun

theorem addScalings_eq_leaves (scalingRule : Expr → Expr → Expr) (info : List ScalingEntry) :
    ∀ ps, addScalings scalingRule info ps = (info ++ ·) <$> (ScalingParameter.leavesOf ps).mapM (scalingEntry scalingRule)
  | [] => by
    rw [addScalings, ScalingParameter.leavesOf, List.mapM_nil]
    exact congrArg Except.ok (List.append_nil info).symm
  | p :: ps => by
    rw [addScalings, ScalingParameter.leavesOf, addScaling_eq_leaves scalingRule info p, ← mapM_append_map]
    congr 1
    funext info'
    exact addScalings_eq_leaves scalingRule info' ps

end

mutual

theorem not_seq_of_mem_leaves : ∀ {p q : ScalingParameter}, q ∈ p.leaves → ∀ ps, q ≠ .seq ps
  | .seq ps, q, h => by
    rw [ScalingParameter.leaves] at h
    exact not_seq_of_mem_leavesOf h
  | .field _, _, h | .access _, _, h | .symbol _, _, h | .other, _, h => by
    obtain rfl := List.mem_singleton.mp h
    exact fun _ => nofun

theorem not_seq_of_mem_leavesOf : ∀ {ps : List ScalingParameter} {q : ScalingParameter},
    q ∈ ScalingParameter.leavesOf ps → ∀ ps', q ≠ .seq ps'
  | [], q, h => absurd h (List.not_mem_nil _)
  | p :: ps, q, h => by
    rw [ScalingParameter.leavesOf, List.mem_append] at h
    exact h.elim not_seq_of_mem_leaves not_seq_of_mem_leavesOf

end

/-- A parameter that is not a list is recorded exactly when it is a field with at most one
index dimension, an access or a symbol. -/
theorem scalingEntry_ok_iff (scalingRule : Expr → Expr → Expr) {q : ScalingParameter} (hq : ∀ ps, q ≠ .seq ps) :
    (∃ e, scalingEntry scalingRule q = .ok e) ↔ q ≠ .other ∧ ∀ f, q = .field f → f.indexDimensions ≤ 1 := by
  cases q with
  | field f =>
    rw [show (ScalingParameter.field f ≠ .other ∧ ∀ g, ScalingParameter.field f = .field g → g.indexDimensions ≤ 1) ↔
      f.indexDimensions ≤ 1 from ⟨fun h => h.2 f rfl, fun h => ⟨nofun, fun g hg => by cases hg; exact h⟩⟩]
    simp only [scalingEntry, Field.call, List.length_singleton]
    by_cases h0 : f.indexDimensions > 0
    · by_cases h1 : 1 = f.indexDimensions
      · rw [if_pos h0, if_pos h1]
        exact iff_of_true ⟨_, rfl⟩ (by omega)
      · rw [if_pos h0, if_neg h1]
        exact iff_of_false (fun ⟨_, h⟩ => by cases h) (by omega)
    · rw [if_neg h0]
      exact iff_of_true ⟨_, rfl⟩ (by omega)
  | access fa => exact iff_of_true ⟨_, rfl⟩ ⟨nofun, fun _ h => nomatch h⟩
  | symbol n => exact iff_of_true ⟨_, rfl⟩ ⟨nofun, fun _ h => nomatch h⟩
  | seq ps => exact absurd rfl (hq ps)
  | other => exact iff_of_false (fun ⟨_, h⟩ => by cases h) fun h => h.1 rfl

/-- **`add_scaling` records the leaves of a nested parameter, in order.** A list or tuple,
nested to any depth, stands for its parameters that are not lists, taken depth first.
`add_scaling` returns exactly when each of them is a field with at most one index dimension
(`field(sp.Symbol("f"))` cannot index a field with more), an access or a symbol; and then it
has appended exactly their entries, in that order, to `scaling_info`. -/
theorem addScaling_leaves (scalingRule : Expr → Expr → Expr) (info : List ScalingEntry) (p : ScalingParameter) :
    ((∃ entries, addScaling scalingRule info p = .ok entries) ↔
      ∀ q ∈ p.leaves, q ≠ .other ∧ ∀ f, q = .field f → f.indexDimensions ≤ 1) ∧
    ∀ entries, addScaling scalingRule info p = .ok entries →
      ∃ added, entries = info ++ added ∧
        List.Forall₂ (fun q e => scalingEntry scalingRule q = .ok e) p.leaves added := by
  rw [addScaling_eq_leaves]
  refine ⟨⟨fun ⟨_, h⟩ q hq => ?_, fun h => ?_⟩, fun entries h => ?_⟩
  · obtain ⟨added, hadded, -⟩ := map_eq_ok_iff.mp h
    exact (scalingEntry_ok_iff scalingRule (not_seq_of_mem_leaves hq)).mp (exists_eq_ok_of_mapM_eq_ok hadded q hq)
  · obtain ⟨added, hadded, -⟩ := mapM_eq_ok_of_forall (P := fun _ _ => True) fun q hq =>
      ((scalingEntry_ok_iff scalingRule (not_seq_of_mem_leaves hq)).mpr (h q hq)).imp fun _ he => ⟨he, trivial⟩
    exact ⟨_, by rw [hadded]; rfl⟩
  · obtain ⟨added, hadded, rfl⟩ := map_eq_ok_iff.mp h
    exact ⟨added, rfl, mapM_eq_ok_forall₂ hadded⟩

/-- A symbol, then a field with two index dimensions in a nested list: the call raises. -/
example : (addScaling (fun p factor => .mul p factor) []
    (.seq [.symbol "a", .seq [.field ⟨"f", "double", 3, [2, 2], .generic⟩]])).toBool = false := by
  decide

/-! ### The renaming in `__lattice_model` -/

/-- `refinement_scaling_info` of `__lattice_model`: every entry's expression lowered by
`expression_to_code(e2, '', dtype=dtype_string)`, then name and code renamed with
`.replace(name, name + '_')`. -/
def refinementScalingInfo (doprint : Expr → String) (accessName : Access → String) (dtypeString : String)
    (scalingInfo : List ScalingEntry) : Except PyError (List (String × String × String)) := do
  let lowered ← scalingInfo.mapM fun e => do
    pure (e.scalingType, e.name, ← expressionToCode doprint accessName e.expr "" [] dtypeString)
  pure (lowered.map fun e => (e.1, pyReplace e.2.1 e.2.1 (e.2.1 ++ "_"), pyReplace e.2.2 e.2.1 (e.2.1 ++ "_")))

/-- Each stored name is the entry's name followed by `_`. -/
theorem refinementScalingInfo_names {doprint : Expr → String} {accessName : Access → String} {dtypeString : String}
    {scalingInfo : List ScalingEntry} {info : List (String × String × String)}
    (h : refinementScalingInfo doprint accessName dtypeString scalingInfo = .ok info) :
    info.map (·.2.1) = scalingInfo.map (·.name ++ "_") := by
  obtain ⟨lowered, hl, hinfo⟩ := bind_eq_ok_iff.mp h
  cases hinfo
  simp only [List.map_map, Function.comp_def, pyReplace_self]
  have hf := mapM_eq_ok_forall₂ hl
  clear h hl
  induction hf with
  | nil => rfl
  | cons he _ ih =>
    obtain ⟨c, -, hb⟩ := bind_eq_ok_iff.mp he
    cases hb
    exact congrArg _ ih

/-- The parameter `a` scaled by `a * level_scale_factor`. Where sympy's printer prints the
product of the two typed symbols as `a*level_scale_factor`, `__lattice_model` stores the
code `a_*level_sca_le_fa_ctor`, while the lowering of the renamed expression is
`a_*level_scale_factor`: the `a`s of `level_scale_factor` are renamed too. -/
theorem refinementScalingInfo_renames_level_scale_factor (doprint : Expr → String) (accessName : Access → String)
    (hprint : doprint (.mul (.typedSymbol "a" "float64") (.typedSymbol "level_scale_factor" "float64")) =
      "a*level_scale_factor")
    (hprint' : doprint (.mul (.typedSymbol "a_" "float64") (.typedSymbol "level_scale_factor" "float64")) =
      "a_*level_scale_factor") :
    (addScaling (fun p factor => .mul p factor) [] (.symbol "a") >>=
        refinementScalingInfo doprint accessName "float64") = .ok [("normal", "a_", "a_*level_sca_le_fa_ctor")] ∧
      expressionToCode doprint accessName (.mul (.symbol "a_") levelScaleFactor) "" [] "float64" =
        .ok "a_*level_scale_factor" := by
  constructor
  · show Except.ok [("normal", pyReplace "a" "a" "a_",
      pyReplace (doprint (.mul (.typedSymbol "a" "float64") (.typedSymbol "level_scale_factor" "float64"))) "a" "a_")] = _
    rw [hprint]
    rfl
  · show Except.ok (doprint (.mul (.typedSymbol "a_" "float64") (.typedSymbol "level_scale_factor" "float64"))) = _
    rw [hprint']

/-- With the printer `cppPrint`. -/
theorem refinementScalingInfo_renames_level_scale_factor_cpp :
    cppPrint (.mul (.typedSymbol "a" "float64") (.typedSymbol "level_scale_factor" "float64")) =
        "a*level_scale_factor" ∧
      cppPrint (.mul (.typedSymbol "a_" "float64") (.typedSymbol "level_scale_factor" "float64")) =
        "a_*level_scale_factor" ∧
      (addScaling (fun p factor => .mul p factor) [] (.symbol "a") >>=
        refinementScalingInfo cppPrint Access.str "float64") = .ok [("normal", "a_", "a_*level_sca_le_fa_ctor")] :=
  ⟨rfl, rfl, (refinementScalingInfo_renames_level_scale_factor cppPrint Access.str rfl rfl).1⟩

/-! ### `stencil_switch_statement` -/

/-- `dir_to_value_dict` of `stencil_switch_statement`:
`{offset_to_direction_string(d): cpp_printer.doprint(v) for d, v in zip(stencil, values)}`. -/
def dirToValueDict (doprint : Expr → String) (stencil : List (List Int)) (values : List Expr) :
    Dict String String :=
  (stencil.zip values).foldl (fun acc e => acc.set (offsetToDirectionString e.1) (doprint e.2)) .empty

/-- A piece of the body of a Jinja loop `{% for k, v in d.items() %}`: text, `{{k}}` or
`{{v}}`. -/
inductive LoopPiece where
  /-- Text, as written. -/
  | text (s : String)
  /-- `{{k}}`. -/
  | key
  /-- `{{v}}`. -/
  | value

/-- A piece rendered for one item `(k, v)` of the dict. -/
def LoopPiece.render (item : String × String) : LoopPiece → String
  | .text s => s
  | .key => item.1
  | .value => item.2

/-- The whitespace control `-%}` of Jinja: the whitespace after the tag is removed. -/
def lstrip (s : String) : String := String.mk (s.toList.dropWhile Char.isWhitespace)

/-- A Jinja template of one loop over the items of a dict: the text before its
`{% for %}`, the body, the text after its `{% endfor %}`, and whether each tag ends with
`-%}`. -/
structure LoopTemplate where
  /-- The text before `{% for %}`. -/
  before : String
  /-- `{% for ... -%}`. -/
  stripBody : Bool
  /-- The body. -/
  body : List LoopPiece
  /-- `{% endfor -%}`. -/
  stripAfter : Bool
  /-- The text after `{% endfor %}`. -/
  after : String

/-- `template.render(...)`: the text before the loop, the body once per item with the loop
variables bound to the item, and the text after, each with the whitespace its tags remove
removed. -/
def LoopTemplate.render (t : LoopTemplate) (items : List (String × String)) : String :=
  let body : List LoopPiece := match t.stripBody, t.body with
    | true, .text s :: rest => .text (lstrip s) :: rest
    | _, body => body
  t.before ++ String.join (items.map fun item => String.join (body.map (·.render item))) ++
    if t.stripAfter then lstrip t.after else t.after

/-- The template of `stencil_switch_statement`. -/
def switchTemplate : LoopTemplate where
  before := "\n    using namespace stencil;\n    switch( direction ) \x7b\n        "
  stripBody := true
  body := [.text "\n            case ", .key, .text ": return ", .value, .text ";\n        "]
  stripAfter := true
  after := "\n        default:\n            WALBERLA_ABORT(\x22Invalid Direction\x22);\n    \x7d\n    "

/-- `Template(...).render(dir_to_value_dict=...)` of `stencil_switch_statement` over the
items of the dict. -/
def renderSwitch (items : List (String × String)) : String :=
  switchTemplate.render items

/-- `stencil_switch_statement(stencil, values)`. -/
def stencilSwitchStatement (doprint : Expr → String) (stencil : List (List Int)) (values : List Expr) :
    String :=
  renderSwitch (dirToValueDict doprint stencil values).items

/-- Where the directions' names are distinct, the dict holds one item per direction, in
stencil order. -/
theorem dirToValueDict_items (doprint : Expr → String) {S : List (List Int)} {V : List Expr}
    (hV : S.length ≤ V.length) (hnames : (S.map offsetToDirectionString).Nodup) :
    (dirToValueDict doprint S V).items = (S.zip V).map fun e => (offsetToDirectionString e.1, doprint e.2) := by
  have hkeys : ((S.zip V).map fun e => offsetToDirectionString e.1) = S.map offsetToDirectionString := by
    rw [← List.map_fst_zip S V hV, List.map_map, List.map_fst_zip S V hV]
    rfl
  rw [dirToValueDict, Dict.items_foldl_set _ _ _ (hkeys ▸ hnames) _ (fun _ _ h => by simp [Dict.keys, Dict.empty] at h)]
  rfl

/-- The text the template of `stencil_switch_statement` renders for the items of a dict: the
prologue, the line `case name: return value;` for each item, in order, and the default that
aborts. -/
theorem renderSwitch_text (items : List (String × String)) :
    renderSwitch items = "\n    using namespace stencil;\n    switch( direction ) \x7b\n        " ++
      String.join (items.map fun e => "case " ++ e.1 ++ ": return " ++ e.2 ++ ";\n        ") ++
      "default:\n            WALBERLA_ABORT(\x22Invalid Direction\x22);\n    \x7d\n    " := by
  have hbody : lstrip "\n            case " = "case " := by decide
  have hafter : lstrip "\n        default:\n            WALBERLA_ABORT(\x22Invalid Direction\x22);\n    \x7d\n    " =
      "default:\n            WALBERLA_ABORT(\x22Invalid Direction\x22);\n    \x7d\n    " := by decide
  simp only [renderSwitch, LoopTemplate.render, switchTemplate, hbody, hafter, if_true, List.map_cons, List.map_nil,
    LoopPiece.render, String.join, List.foldl_cons, List.foldl_nil, String.empty_append, String.append_assoc]

/-- **The direction switch is total and faithful.** For a stencil of distinct offsets in
`{-1,0,1}ᵈ`, `d` two or three, and as many values, the directions' names are distinct, and
`stencil_switch_statement` renders the prologue, then one line
`case offset_to_direction_string(S[i]): return V[i];` per direction, in stencil order, with
`V[i]` printed, then the default. -/
theorem stencilSwitchStatement_cases (doprint : Expr → String) (dim : Nat) (hdim : dim = 2 ∨ dim = 3)
    (S : List (List Int)) (hnd : S.Nodup) (hS : ∀ d ∈ S, d.length = dim ∧ UnitOffset d)
    (V : List Expr) (hV : V.length = S.length) :
    (S.map offsetToDirectionString).Nodup ∧
      stencilSwitchStatement doprint S V =
        "\n    using namespace stencil;\n    switch( direction ) \x7b\n        " ++
          String.join ((S.zip V).map fun e =>
            "case " ++ offsetToDirectionString e.1 ++ ": return " ++ doprint e.2 ++ ";\n        ") ++
          "default:\n            WALBERLA_ABORT(\x22Invalid Direction\x22);\n    \x7d\n    " := by
  have hnames : NamesDistinct offsetToDirectionString dim := by
    rcases hdim with rfl | rfl
    exacts [offsetToDirectionString_namesDistinct_two, offsetToDirectionString_namesDistinct]
  have hnd' : (S.map offsetToDirectionString).Nodup :=
    hnd.map_on fun u hu v hv => hnames u v (hS u hu).1 (hS v hv).1 (hS u hu).2 (hS v hv).2
  refine ⟨hnd', ?_⟩
  rw [stencilSwitchStatement, renderSwitch_text, dirToValueDict_items doprint hV.ge hnd', List.map_map]
  rfl

/-- The switch over the D2Q5 directions, with values printed by `cppPrint`. -/
theorem stencilSwitchStatement_cases_D2Q5 :
    let S : List (List Int) := [[0, 0], [0, 1], [0, -1], [-1, 0], [1, 0]]
    let V : List Expr := [.symbol "w_C", .symbol "w_N", .symbol "w_S", .symbol "w_W", .symbol "w_E"]
    S.Nodup ∧ (∀ d ∈ S, d.length = 2 ∧ UnitOffset d) ∧ V.length = S.length ∧
      stencilSwitchStatement cppPrint S V =
        "\n    using namespace stencil;\n    switch( direction ) \x7b\n        " ++
          "case C: return w_C;\n        case N: return w_N;\n        case S: return w_S;\n        " ++
          "case W: return w_W;\n        case E: return w_E;\n        " ++
          "default:\n            WALBERLA_ABORT(\x22Invalid Direction\x22);\n    \x7d\n    " := by
  intro S V
  refine ⟨by decide, by decide, rfl, ?_⟩
  rw [(stencilSwitchStatement_cases cppPrint 2 (.inl rfl) S (by decide) (by decide) V rfl).2]
  rfl

/-! ### `generate_lattice_model` -/

/-- What `__lattice_model` reads of the lbmpy method: its stencil's name and directions, and
the equilibrium with its symmetric and antisymmetric parts, as lbmpy and sympy compute them. -/
structure LbMethod where
  /-- `lb_method.stencil.name`, empty for a stencil without a name. -/
  stencilName : String
  /-- `lb_method.stencil`. -/
  stencil : List (List Int)
  /-- `equilibrium`, one value per direction. -/
  equilibrium : List Expr
  /-- `symmetric_equilibrium`. -/
  symmetricEquilibrium : List Expr
  /-- `asymmetric_equilibrium`. -/
  asymmetricEquilibrium : List Expr

/-- The template context of a lattice model, as far as this repository computes it. -/
structure LatticeModelContext where
  /-- `class_name`. -/
  className : String
  /-- `stencil_name`. -/
  stencilName : String
  /-- `communication_stencil_name`. -/
  communicationStencilName : String
  /-- `equilibrium_from_direction`. -/
  equilibriumFromDirection : String
  /-- `symmetric_equilibrium_from_direction`. -/
  symmetricEquilibriumFromDirection : String
  /-- `asymmetric_equilibrium_from_direction`. -/
  asymmetricEquilibriumFromDirection : String
  /-- `equilibrium`: each value printed. -/
  equilibrium : List String
  /-- `refinement_scaling_info`. -/
  refinementScalingInfo : Option (List (String × String × String))

/-- The message of `__lattice_model`'s `ValueError`. -/
def unsupportedStencilMessage : String := "lb_method uses a stencil that is not supported in waLBerla"

/-- `__lattice_model(generation_context, class_name, lb_method, ..., refinement_scaling)`, a
`RefinementScaling` given by its `scaling_info`: the stencil's name is checked, the types
follow the build's accuracy, and it writes `<class_name>.h` and `<class_name>.cpp`. -/
def latticeModel (doprint : Expr → String) (accessName : Access → String) (ctx : GenerationContext)
    (className : String) (lbMethod : LbMethod) (refinementScaling : Option (List ScalingEntry)) :
    Except PyError (Generated LatticeModelContext) := do
  if lbMethod.stencilName = "" then throw (.valueError unsupportedStencilMessage)
  let communicationStencilName := if lbMethod.stencilName ≠ "D3Q15" then lbMethod.stencilName else "D3Q27"
  let dtypeString := if ctx.doubleAccuracy then "float64" else "float32"
  let refinementScalingInfo ← match refinementScaling with
    | some scalingInfo => some <$> refinementScalingInfo doprint accessName dtypeString scalingInfo
    | none => pure none
  pure ⟨{ className := className
          stencilName := lbMethod.stencilName
          communicationStencilName := communicationStencilName
          equilibriumFromDirection := stencilSwitchStatement doprint lbMethod.stencil lbMethod.equilibrium
          symmetricEquilibriumFromDirection :=
            stencilSwitchStatement doprint lbMethod.stencil lbMethod.symmetricEquilibrium
          asymmetricEquilibriumFromDirection :=
            stencilSwitchStatement doprint lbMethod.stencil lbMethod.asymmetricEquilibrium
          equilibrium := lbMethod.equilibrium.map doprint
          refinementScalingInfo := refinementScalingInfo },
    [className ++ ".h", className ++ ".cpp"]⟩

/-- `generate_lattice_model(generation_context, class_name, collision_rule, field_layout,
refinement_scaling, target, data_type, cpu_openmp, cpu_vectorize_info,
**create_kernel_params)`: the configuration of its kernels, then `__lattice_model`. -/
def generateLatticeModel (ps : Pystencils) (doprint : Expr → String) (accessName : Access → String) (ctx : GenerationContext)
    (className : String) (lbMethod : LbMethod) (fieldLayout : String) (refinementScaling : Option (List ScalingEntry))
    (target : Target) (dataType : Option String) (cpuOpenmp : Option Bool) (cpuVectorizeInfo : Option PyDict)
    (kwargs : PyDict) : Except PyError (Generated LatticeModelContext) := do
  let _config ← latticeModelConfig ps ctx fieldLayout target dataType cpuOpenmp cpuVectorizeInfo kwargs
  latticeModel doprint accessName ctx className lbMethod refinementScaling

/-- A lattice model writes its header and its `.cpp` source. -/
theorem generateLatticeModel_files {ps : Pystencils} {doprint : Expr → String} {accessName : Access → String}
    {ctx : GenerationContext} {className : String} {lbMethod : LbMethod} {fieldLayout : String}
    {rs : Option (List ScalingEntry)} {target : Target} {dt : Option String} {omp : Option Bool}
    {D : Option PyDict} {kw : PyDict} {g : Generated LatticeModelContext}
    (h : generateLatticeModel ps doprint accessName ctx className lbMethod fieldLayout rs target dt omp D kw = .ok g) :
    g.files = [className ++ ".h", className ++ ".cpp"] := by
  obtain ⟨-, -, h⟩ := bind_eq_ok_iff.mp h
  unfold latticeModel at h
  by_cases hname : lbMethod.stencilName = ""
  · obtain ⟨_, h, -⟩ := bind_eq_ok_iff.mp (by simpa [hname] using h)
    cases h
  · simp only [hname, if_false, pure_bind] at h
    cases rs with
    | none => cases h; rfl
    | some info =>
      obtain ⟨_, -, rfl⟩ := map_eq_ok_iff.mp (by simpa using h)
      rfl

end WalberlaCodegen

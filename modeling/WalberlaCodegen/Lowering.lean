import WalberlaCodegen.Symbolic

/-!
# Lowering expressions to C++ code

`lbmpy_walberla.walberla_lbm_generation` lowers sympy expressions into the C++ of a
lattice model. `field_and_symbol_substitute` replaces every field access by a call of
the field's accessor, `f->get(x,y,z)` or `f->get(x,y,z,i)` for component `i`, and every
other symbol by itself with a prefix (the member prefix `lm.`, with `_` appended to a
member's name). `type_expr` is meant to type the numeric literals and types every symbol;
`expression_to_code` chains the two and prints the result, and `equations_to_code` does
the same for a list of equations.

## The model

A substitution table of sympy's `subs` maps leaves to new symbols; here it is a function
on leaves (`Expr.substLeaves`), applied to all leaves at once; a leaf whose entry fails
(an `assert`) makes the call fail. sympy's printer and pystencils' name of a field access
as a symbol are not part of this repository: the model takes them as arguments, `doprint`
and `accessName`, and `cppPrint` is one such printer, used in examples.

`type_expr` compares each argument of a node with the classes `sp.Rational` and
`sp.Float`. sympy compares an expression with a class as unequal (a class cannot be made
into an expression), so `Expr.eqClass` is `false`: the branch that would type a literal
is never taken. Had it been, `expr.args[i] = ...` would raise a `TypeError`, as sympy's
`args` is a tuple; the model keeps that branch as the source has it.

## What is proved

* `fieldAndSymbolSubstitute_moveAccesses`: moving every access of an expression to
  other offsets does not change its lowering; the docstring's `field_W^1` is lowered to
  the centre cell (`expressionToCode_field_W`).
* `typeExpr_half`: `type_expr` leaves the literal of `Rational(1, 2)*x` untyped.
-/

namespace WalberlaCodegen

/-! ### Substitution of leaves -/

/-- `expr.subs(substitutions)` for a table with an entry for every symbol and field access:
the leaves are replaced, the tree is kept. -/
def Expr.substLeaves (σ : Expr → Except PyError Expr) : Expr → Except PyError Expr
  | .symbol n => σ (.symbol n)
  | .typedSymbol n t => σ (.typedSymbol n t)
  | .access fa => σ (.access fa)
  | .rational p q => .ok (.rational p q)
  | .float m e => .ok (.float m e)
  | .cast e t => do pure (.cast (← e.substLeaves σ) t)
  | .add a b => do pure (.add (← a.substLeaves σ) (← b.substLeaves σ))
  | .mul a b => do pure (.mul (← a.substLeaves σ) (← b.substLeaves σ))
  | .pow a b => do pure (.pow (← a.substLeaves σ) (← b.substLeaves σ))

/-- The same, for a table that cannot fail. -/
def Expr.mapLeaves (g : Expr → Expr) : Expr → Expr
  | .symbol n => g (.symbol n)
  | .typedSymbol n t => g (.typedSymbol n t)
  | .access fa => g (.access fa)
  | .rational p q => .rational p q
  | .float m e => .float m e
  | .cast e t => .cast (e.mapLeaves g) t
  | .add a b => .add (a.mapLeaves g) (b.mapLeaves g)
  | .mul a b => .mul (a.mapLeaves g) (b.mapLeaves g)
  | .pow a b => .pow (a.mapLeaves g) (b.mapLeaves g)

/-- `variable_prefix.endswith('.')`. -/
def endsWithDot (s : String) : Bool := s.data.getLast? == some '.'

/-- The entry of `field_and_symbol_substitute`'s table for a leaf: for a field access the
symbol `<prefix><name>->get(x,y,z)`, or `->get(x,y,z,<index[0]>)` for a field with one
index dimension (an `assert` rejects more), with `_` after a member's name; for another
symbol not in `variables_without_prefix`, its name with the prefix and, for a member, `_`. -/
def leafSubstitute (variablePrefix : String) (variablesWithoutPrefix : List String) :
    Expr → Except PyError Expr
  | .access fa =>
    let pre := if fa.field.name ∈ variablesWithoutPrefix then "" else variablePrefix
    let member := if endsWithDot pre then "_" else ""
    if fa.field.indexDimensions = 0 then .ok (.symbol (pre ++ fa.field.name ++ member ++ "->get(x,y,z)"))
    else if fa.field.indexDimensions = 1 then
      match fa.index with
      | i :: _ => .ok (.symbol (pre ++ fa.field.name ++ member ++ "->get(x,y,z," ++ i.str ++ ")"))
      | [] => .error (.indexError "tuple index out of range")
    else .error (.assertionError "walberla supports only 0 or 1 index dimensions")
  | .symbol n =>
    if n ∈ variablesWithoutPrefix then .ok (.symbol n)
    else .ok (.symbol (variablePrefix ++ n ++ if endsWithDot variablePrefix then "_" else ""))
  | .typedSymbol n t =>
    if n ∈ variablesWithoutPrefix then .ok (.typedSymbol n t)
    else .ok (.symbol (variablePrefix ++ n ++ if endsWithDot variablePrefix then "_" else ""))
  | e => .ok e

/-- `field_and_symbol_substitute(expr, variable_prefix, variables_without_prefix)`, the
variables without prefix given by their names. -/
def fieldAndSymbolSubstitute (expr : Expr) (variablePrefix : String) (variablesWithoutPrefix : List String) :
    Except PyError Expr :=
  expr.substLeaves (leafSubstitute variablePrefix variablesWithoutPrefix)

/-! ### `type_expr` -/

/-- The classes `type_expr` compares the arguments of a node with. -/
inductive SympyClass where
  /-- `sp.Rational`. -/
  | rational
  /-- `sp.Float`. -/
  | float

/-- `arg == cls` for an expression and a class: sympy cannot turn a class into an
expression, and the comparison is `False`. -/
def Expr.eqClass (_e : Expr) (_cls : SympyClass) : Bool := false

/-- The `TypeError` of assigning to `expr.args[i]`, an item of a tuple. -/
def tupleAssignmentMessage : String := "'tuple' object does not support item assignment"

/-- `recurse(expr)` of `type_expr`: for each argument, `expr.args[i] = type_all_numbers(...)`
if it equals `sp.Rational` or `sp.Float`, else `recurse(expr.args[i])`. -/
def typeRecurse : Expr → Except PyError Unit
  | .cast e _ =>
    if e.eqClass .rational || e.eqClass .float then .error (.typeError tupleAssignmentMessage) else typeRecurse e
  | .add a b | .mul a b | .pow a b => do
    if a.eqClass .rational || a.eqClass .float then throw (.typeError tupleAssignmentMessage) else typeRecurse a
    if b.eqClass .rational || b.eqClass .float then throw (.typeError tupleAssignmentMessage) else typeRecurse b
  | _ => pure ()

/-- `TypedSymbol(s.name, dtype)` for a symbol `s` of the expression; a field access is a
symbol too, under pystencils' name for it. -/
def typedLeaf (accessName : Access → String) (dtype : String) : Expr → Expr
  | .symbol n | .typedSymbol n _ => .typedSymbol n dtype
  | .access fa => .typedSymbol (accessName fa) dtype
  | e => e

/-- `type_expr(eq, dtype)`: `recurse(eq)`, then every symbol typed. -/
def typeExpr (accessName : Access → String) (eq : Expr) (dtype : String) : Except PyError Expr := do
  typeRecurse eq
  eq.substLeaves fun s => .ok (typedLeaf accessName dtype s)

/-! ### `expression_to_code` and `equations_to_code` -/

/-- `expression_to_code(expr, variable_prefix, variables_without_prefix, dtype)`, printing
with `doprint`. -/
def expressionToCode (doprint : Expr → String) (accessName : Access → String) (expr : Expr)
    (variablePrefix : String) (variablesWithoutPrefix : List String) (dtype : String) : Except PyError String := do
  let substituted ← fieldAndSymbolSubstitute expr variablePrefix variablesWithoutPrefix
  let typed ← typeExpr accessName substituted dtype
  pure (doprint typed)

/-- `e.lhs.name`: the name of a symbol or a field access; an `AttributeError` otherwise. -/
def lhsName (accessName : Access → String) : Expr → Except PyError String
  | .symbol n | .typedSymbol n _ => .ok n
  | .access fa => .ok (accessName fa)
  | _ => .error (.attributeError "name")

/-- `equations_to_code(equations, variable_prefix, variables_without_prefix, dtype)`: each
equation printed by the C backend (`cBackend lhs rhs`), its right-hand side substituted
with the left-hand sides' names left without prefix, both sides typed; one line each. -/
def equationsToCode (cBackend : Expr → Expr → String) (accessName : Access → String)
    (equations : List Assignment) (variablePrefix : String) (variablesWithoutPrefix : List String)
    (dtype : String) : Except PyError String := do
  let leftHandSideNames ← equations.mapM fun e => lhsName accessName e.lhs
  let result ← equations.mapM fun eq => do
    let lhs ← typeExpr accessName eq.lhs dtype
    let rhs ← typeExpr accessName
      (← fieldAndSymbolSubstitute eq.rhs variablePrefix (variablesWithoutPrefix ++ leftHandSideNames)) dtype
    pure (cBackend lhs rhs)
  pure ("\n".intercalate result)

/-- A C printer for the expressions of the model, printing as sympy's C printer does on the
simple cases: a symbol by its name, `a + b`, `a*b`, `pow(a, b)`, a cast `((t)(e))`, a
rational `p/q` as a quotient of doubles. The model's results hold for any printer; this
one is used in examples. -/
def cppPrint : Expr → String
  | .symbol n | .typedSymbol n _ => n
  | .access fa => fa.str
  | .rational p 1 => toString p
  | .rational p q => toString p ++ ".0/" ++ toString q ++ ".0"
  | .float m e => toString m ++ "e" ++ toString e
  | .cast e t => "((" ++ t ++ ")(" ++ cppPrint e ++ "))"
  | .add a b => cppPrint a ++ " + " ++ cppPrint b
  | .mul a b => cppPrint a ++ "*" ++ cppPrint b
  | .pow a b => "pow(" ++ cppPrint a ++ ", " ++ cppPrint b ++ ")"

/-! ### Field accesses lose their offset -/

/-- Every field access of an expression replaced by `g` of it. -/
def Expr.moveAccesses (g : Access → Access) : Expr → Expr :=
  Expr.mapLeaves fun
    | .access fa => .access (g fa)
    | e => e

theorem leafSubstitute_access_congr (variablePrefix : String) (variablesWithoutPrefix : List String)
    {fa fa' : Access} (hf : fa.field = fa'.field) (hi : fa.index = fa'.index) :
    leafSubstitute variablePrefix variablesWithoutPrefix (.access fa) =
      leafSubstitute variablePrefix variablesWithoutPrefix (.access fa') := by
  simp only [leafSubstitute, hf, hi]

/-- **Offsets are lost.** Moving the field accesses of any expression to any other cells,
keeping their fields and indices, does not change what `field_and_symbol_substitute`
makes of it: the accessor it emits addresses the centre cell `(x,y,z)` whatever the
offset. -/
theorem fieldAndSymbolSubstitute_moveAccesses (g : Access → Access) (hg : ∀ fa, (g fa).field = fa.field)
    (hgi : ∀ fa, (g fa).index = fa.index) (expr : Expr) (variablePrefix : String)
    (variablesWithoutPrefix : List String) :
    fieldAndSymbolSubstitute (expr.moveAccesses g) variablePrefix variablesWithoutPrefix =
      fieldAndSymbolSubstitute expr variablePrefix variablesWithoutPrefix := by
  unfold fieldAndSymbolSubstitute Expr.moveAccesses
  induction expr with
  | access fa => exact leafSubstitute_access_congr _ _ (hg fa) (hgi fa)
  | cast e t ih => simp only [Expr.mapLeaves, Expr.substLeaves, ih]
  | add a b iha ihb => simp only [Expr.mapLeaves, Expr.substLeaves, iha, ihb]
  | mul a b iha ihb => simp only [Expr.mapLeaves, Expr.substLeaves, iha, ihb]
  | pow a b iha ihb => simp only [Expr.mapLeaves, Expr.substLeaves, iha, ihb]
  | _ => rfl

/-- Moving every access to its field's centre cell, here the docstring's `field_W^1`. -/
theorem fieldAndSymbolSubstitute_moveAccesses_center :
    let field : Field := ⟨"field", "double", 3, [2], .generic⟩
    let center : Access → Access := fun fa => fa.field.center fa.index
    (∀ fa, (center fa).field = fa.field) ∧ (∀ fa, (center fa).index = fa.index) ∧
      fieldAndSymbolSubstitute ((Expr.access ⟨field, [-1, 0, 0], [.num 1], rfl⟩).moveAccesses center) "" [] =
        fieldAndSymbolSubstitute (.access ⟨field, [-1, 0, 0], [.num 1], rfl⟩) "" [] :=
  ⟨fun _ => rfl, fun _ => rfl,
    fieldAndSymbolSubstitute_moveAccesses (fun fa => fa.field.center fa.index) (fun _ => rfl) (fun _ => rfl) _ _ _⟩

/-- The docstring's example `field_W^1 -> field->get(-1, 0, 0, 1)`: the west and the east
neighbour of component 1 of `field` are both lowered to `field->get(x,y,z,1)`, the centre
cell, whatever the printer. -/
theorem expressionToCode_field_W (doprint : Expr → String) (accessName : Access → String) :
    let field : Field := ⟨"field", "double", 3, [2], .generic⟩
    fieldAndSymbolSubstitute (.access ⟨field, [-1, 0, 0], [.num 1], rfl⟩) "" [] =
        .ok (.symbol "field->get(x,y,z,1)") ∧
      expressionToCode doprint accessName (.access ⟨field, [-1, 0, 0], [.num 1], rfl⟩) "" [] "double" =
        expressionToCode doprint accessName (.access ⟨field, [1, 0, 0], [.num 1], rfl⟩) "" [] "double" :=
  ⟨rfl, rfl⟩

/-! ### Literals stay untyped -/

/-- A numeric literal: `Rational` or `Float`. -/
def Expr.isLiteral : Expr → Bool
  | .rational _ _ | .float _ _ => true
  | _ => false

/-- The numeric literals of an expression that are not typed, that is, not the argument of
a cast. -/
def Expr.untypedLiterals : Expr → List Expr
  | .rational p q => [.rational p q]
  | .float m e => [.float m e]
  | .cast e _ => if e.isLiteral then [] else e.untypedLiterals
  | .add a b | .mul a b | .pow a b => a.untypedLiterals ++ b.untypedLiterals
  | _ => []

/-- `Rational(1, 2)*x` typed as `float32`: `x` becomes a `float32` symbol and `1/2` stays an
untyped `Rational`. -/
theorem typeExpr_half (accessName : Access → String) :
    typeExpr accessName (.mul (.rational 1 2) (.symbol "x")) "float32" =
        .ok (.mul (.rational 1 2) (.typedSymbol "x" "float32")) ∧
      (Expr.mul (.rational 1 2) (.typedSymbol "x" "float32")).untypedLiterals = [.rational 1 2] :=
  ⟨rfl, rfl⟩

end WalberlaCodegen

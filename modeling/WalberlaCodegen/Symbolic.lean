import WalberlaCodegen.Python
import Mathlib.Logic.Function.Basic

/-!
# Fields, accesses and expressions

The symbolic layer that waLBerla's Python code generation (`pystencils_walberla.codegen`,
`lbmpy_walberla`) works on. It belongs to pystencils and sympy, not to this repository;
what is modelled here is what the generators read of it.

## The model

A pystencils `Field` keeps its name, its element type (`dtype`, kept as the type's
name), its number of spatial dimensions, its index shape and its `FieldType`. A
`Field.Access` is a field, an integer offset per spatial axis and an index per index
dimension; an access cannot be built with the wrong number of offsets
(`Access.offsets_length`), as pystencils' constructor ensures.

A sympy expression is a tree (`Expr`) whose leaves are symbols, typed symbols, field
accesses and numeric literals, and whose inner nodes are `Add`, `Mul`, `Pow` and
pystencils' `cast_func`. Sums and products are binary here; sympy flattens them, which no
generator depends on. `Expr.args` is sympy's `.args` and `Expr.accesses` is
`expr.atoms(Field.Access)`, as a list: the generators use it as a set.

An assignment list may hold items that are not `Assignment`s; the generators skip them
(`KernelItem.other`). An `AssignmentCollection` stands for its `all_assignments`,
subexpressions first.

`Expr.eval` gives an expression its value under an interpretation of symbols,
literals and operations and a store of field values; `execAssignments` runs an
assignment list one assignment after another, as a kernel does within one cell.

-/

namespace WalberlaCodegen

/-! ### Fields and accesses -/

/-- pystencils' `FieldType`, as far as the generators use it. -/
inductive FieldType where
  /-- `FieldType.GENERIC`. -/
  | generic
  /-- `FieldType.BUFFER`, the type of the pack buffers. -/
  | buffer
  deriving DecidableEq, Repr

/-- A pystencils `Field`. -/
structure Field where
  /-- `field.name`. -/
  name : String
  /-- `field.dtype`, by the name of the type. -/
  dtype : String
  /-- `field.spatial_dimensions`. -/
  spatialDimensions : Nat
  /-- `field.index_shape`. -/
  indexShape : List Nat
  /-- `field.field_type`. -/
  fieldType : FieldType
  deriving DecidableEq, Repr

/-- `field.index_dimensions`. -/
def Field.indexDimensions (f : Field) : Nat := f.indexShape.length

/-- One entry of an access's index: a number, or a symbol such as the `f` of
`field(sp.Symbol("f"))`. -/
inductive Idx where
  /-- An integer index. -/
  | num (k : Int)
  /-- A symbolic index. -/
  | sym (name : String)
  deriving DecidableEq, Repr

/-- `str` of an index entry. -/
def Idx.str : Idx → String
  | .num k => toString k
  | .sym n => n

/-- A pystencils `Field.Access`: the field, the offset of the accessed cell, and the index. -/
structure Access where
  /-- `fa.field`. -/
  field : Field
  /-- `fa.offsets`. -/
  offsets : List Int
  /-- `fa.index`. -/
  index : List Idx
  /-- One offset per spatial axis. -/
  offsets_length : offsets.length = field.spatialDimensions
  deriving DecidableEq

/-- `field.center(*index)`: the access to the field's own cell. -/
def Field.center (f : Field) (index : List Idx) : Access :=
  ⟨f, List.replicate f.spatialDimensions 0, index, List.length_replicate _ _⟩

@[simp] theorem Field.center_field (f : Field) (index : List Idx) : (f.center index).field = f := rfl

@[simp] theorem Field.center_index (f : Field) (index : List Idx) : (f.center index).index = index := rfl

/-- `str(fa)`: the field's name, the offsets and the index, as pystencils prints an
access. -/
def Access.str (fa : Access) : String :=
  fa.field.name ++ "[" ++ ",".intercalate (fa.offsets.map toString) ++ "]" ++
    if fa.index = [] then "" else "(" ++ ",".intercalate (fa.index.map Idx.str) ++ ")"

/-! ### Expressions -/

/-- A sympy expression over field accesses. -/
inductive Expr where
  /-- `sp.Symbol(name)`. -/
  | symbol (name : String)
  /-- pystencils' `TypedSymbol(name, dtype)`. -/
  | typedSymbol (name : String) (dtype : String)
  /-- A `Field.Access`. -/
  | access (fa : Access)
  /-- `sp.Rational(p, q)`; an integer has `q = 1`. -/
  | rational (p : Int) (q : Nat)
  /-- `sp.Float`, the value `m * 10 ^ e`. -/
  | float (m : Int) (e : Int)
  /-- pystencils' `cast_func(e, dtype)`. -/
  | cast (e : Expr) (dtype : String)
  /-- `Add`. -/
  | add (a b : Expr)
  /-- `Mul`. -/
  | mul (a b : Expr)
  /-- `Pow`. -/
  | pow (a b : Expr)
  deriving DecidableEq

/-- `expr.atoms(Field.Access)`, with repetitions. -/
def Expr.accesses : Expr → List Access
  | .access fa => [fa]
  | .cast e _ => e.accesses
  | .add a b | .mul a b | .pow a b => a.accesses ++ b.accesses
  | _ => []

/-- A sympy `Assignment(lhs, rhs)`. -/
structure Assignment where
  /-- The assigned symbol or field access. -/
  lhs : Expr
  /-- The assigned expression. -/
  rhs : Expr
  deriving DecidableEq

/-- An item of an assignment list: an `Assignment`, or anything else. -/
inductive KernelItem where
  /-- An `Assignment`. -/
  | assignment (a : Assignment)
  /-- An item that is not an `Assignment`. -/
  | other
  deriving DecidableEq

/-- A pystencils `AssignmentCollection`. -/
structure AssignmentCollection where
  /-- `subexpressions`. -/
  subexpressions : List Assignment
  /-- `main_assignments`. -/
  mainAssignments : List Assignment
  deriving DecidableEq

/-- The `assignments` argument of the generators: a sequence, or a collection. -/
inductive Assignments where
  /-- A list of items. -/
  | list (items : List KernelItem)
  /-- An `AssignmentCollection`. -/
  | collection (c : AssignmentCollection)
  deriving DecidableEq

/-- `AssignmentCollection.all_assignments`: subexpressions, then main assignments. -/
def AssignmentCollection.allAssignments (c : AssignmentCollection) : List Assignment :=
  c.subexpressions ++ c.mainAssignments

/-- `if isinstance(assignments, AssignmentCollection): assignments = assignments.all_assignments`. -/
def Assignments.items : Assignments → List KernelItem
  | .list items => items
  | .collection c => c.allAssignments.map .assignment

/-- The field accesses read by the `Assignment`s of a list: `reads.update(a.rhs.atoms(Field.Access))`. -/
def reads (items : List KernelItem) : List Access :=
  items.flatMap fun
    | .assignment a => a.rhs.accesses
    | .other => []

/-- The field accesses written: `writes.update(a.lhs.atoms(Field.Access))`. -/
def writes (items : List KernelItem) : List Access :=
  items.flatMap fun
    | .assignment a => a.lhs.accesses
    | .other => []

/-! ### Meaning of expressions and assignment lists -/

/-- What the symbols, literals and operations of an expression stand for. -/
structure Interp (V : Type) where
  /-- The value of a symbol, typed or not. -/
  symbol : String → V
  /-- The value of `Rational(p, q)`. -/
  rational : Int → Nat → V
  /-- The value of a float literal. -/
  float : Int → Int → V
  /-- A cast to a type. -/
  cast : String → V → V
  /-- Addition. -/
  add : V → V → V
  /-- Multiplication. -/
  mul : V → V → V
  /-- Power. -/
  pow : V → V → V

/-- The value of an expression, field accesses read from the store `σ`. -/
def Expr.eval {V : Type} (I : Interp V) (σ : Access → V) : Expr → V
  | .symbol n | .typedSymbol n _ => I.symbol n
  | .access fa => σ fa
  | .rational p q => I.rational p q
  | .float m e => I.float m e
  | .cast e t => I.cast t (e.eval I σ)
  | .add a b => I.add (a.eval I σ) (b.eval I σ)
  | .mul a b => I.mul (a.eval I σ) (b.eval I σ)
  | .pow a b => I.pow (a.eval I σ) (b.eval I σ)

/-- One assignment: the accessed cell on the left gets the value of the right-hand side.
An assignment to a plain symbol defines a temporary, which the store does not hold. -/
def Assignment.exec {V : Type} (I : Interp V) (σ : Access → V) (a : Assignment) : Access → V :=
  match a.lhs with
  | .access fa => Function.update σ fa (a.rhs.eval I σ)
  | _ => σ

/-- An assignment list run in order. -/
def execAssignments {V : Type} (I : Interp V) : List Assignment → (Access → V) → (Access → V)
  | [], σ => σ
  | a :: as, σ => execAssignments I as (a.exec I σ)

end WalberlaCodegen

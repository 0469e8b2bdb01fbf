/-
The primitives: the operations that a program can name.

They come in families. The arithmetic operations take two or more
numbers and combine them from the left; the relations and connectives
take exactly two operands of one kind; the rest work on pairs. In every
family the number of arguments is checked first, then all arguments are
coerced from left to right, and only then is anything computed.

A division by zero names the operation and the arguments as they were
given, not the numbers they count as.
-/
import PocketScheme.Value.Coercion
import PocketScheme.Value.Equivalence
import PocketScheme.Value.Pair

namespace PocketScheme

-- ============================================================ families

/-- The arithmetic operations. -/
inductive Arithmetic where
  | add
  | subtract
  | multiply
  | divide
  | modulo
  | quotient
  | remainder
  deriving DecidableEq, Repr

/-- The relations between numbers. -/
inductive NumberRelation where
  | equal
  | less
  | greater
  | unequal
  | atLeast
  | atMost
  deriving DecidableEq, Repr

/-- The connectives of truth values. -/
inductive Connective where
  | and
  | or
  deriving DecidableEq, Repr

/-- The relations between texts. -/
inductive TextRelation where
  | equal
  | less
  | greater
  | atMost
  | atLeast
  deriving DecidableEq, Repr

namespace Arithmetic

/-- The name of an arithmetic operation. -/
def name : Arithmetic → String
  | add => "+"
  | subtract => "-"
  | multiply => "*"
  | divide => "/"
  | modulo => "mod"
  | quotient => "quotient"
  | remainder => "remainder"

/-- A quotient rounded toward zero: that of the absolute values, below
zero if one of the numbers is and the other is not. -/
def quotientTowardZero (a b : Int) : Int :=
  let q := Int.fdiv a.natAbs b.natAbs
  if (a < 0) = (b < 0) then q else -q

/-- What a quotient rounded toward zero leaves of the dividend. -/
def remainderTowardZero (a b : Int) : Int := a - b * quotientTowardZero a b

/-- Two numbers combined, unless that takes a division by zero. The
first pair of divisions rounds down, so that a remainder has the sign of
the divisor; the second rounds toward zero, so that it has the sign of
the dividend. -/
def combine : Arithmetic → Int → Int → Option Int
  | add, a, b => some (a + b)
  | subtract, a, b => some (a - b)
  | multiply, a, b => some (a * b)
  | divide, a, b => if b = 0 then none else some (a.fdiv b)
  | modulo, a, b => if b = 0 then none else some (a.fmod b)
  | quotient, a, b => if b = 0 then none else some (quotientTowardZero a b)
  | remainder, a, b => if b = 0 then none else some (remainderTowardZero a b)

/-- An arithmetic operation on its arguments. -/
def apply (op : Arithmetic) (arguments : List Value) : Except Failure Value :=
  match arguments with
  | first :: second :: more => do
    let number ← first.asNumber
    let numbers ← (second :: more).mapM Value.asNumber
    match numbers.foldlM op.combine number with
    | some result => .ok (.int result)
    | none => .error (.divisionByZero op.name arguments)
  | _ => .error (.arity 2 arguments)

end Arithmetic

namespace NumberRelation

/-- The name of a relation between numbers. -/
def name : NumberRelation → String
  | equal => "="
  | less => "<"
  | greater => ">"
  | unequal => "/="
  | atLeast => ">="
  | atMost => "<="

/-- Whether two numbers stand in a relation. -/
def holds : NumberRelation → Int → Int → Bool
  | equal, a, b => a = b
  | less, a, b => a < b
  | greater, a, b => b < a
  | unequal, a, b => a ≠ b
  | atLeast, a, b => b ≤ a
  | atMost, a, b => a ≤ b

end NumberRelation

namespace Connective

/-- The name of a connective. -/
def name : Connective → String
  | and => "&&"
  | or => "||"

/-- Two truth values connected. -/
def holds : Connective → Bool → Bool → Bool
  | and, a, b => a && b
  | or, a, b => a || b

end Connective

namespace TextRelation

/-- The name of a relation between texts. -/
def name : TextRelation → String
  | equal => "string=?"
  | less => "string<?"
  | greater => "string>?"
  | atMost => "string<=?"
  | atLeast => "string>=?"

/-- Whether two texts stand in a relation. They are ordered by their
first differing code point. -/
def holds : TextRelation → String → String → Bool
  | equal, s, t => s = t
  | less, s, t => s < t
  | greater, s, t => t < s
  | atMost, s, t => s ≤ t
  | atLeast, s, t => t ≤ s

end TextRelation

/-- Two arguments, both coerced, the left one first, and then tested. -/
def testTwo {α : Type} (coerce : Value → Except Failure α) (test : α → α → Bool) :
    List Value → Except Failure Value
  | [left, right] => do
    let a ← coerce left
    let b ← coerce right
    return .bool (test a b)
  | arguments => .error (.arity 2 arguments)

-- =========================================================== the table

/-- The primitives. -/
inductive Primitive where
  | arithmetic (op : Arithmetic)
  | compareNumbers (relation : NumberRelation)
  | connect (connective : Connective)
  | compareTexts (relation : TextRelation)
  | car
  | cdr
  | cons
  | eqv
  deriving DecidableEq, Repr

namespace Primitive

/-- The name of a primitive. -/
def name : Primitive → String
  | arithmetic op => op.name
  | compareNumbers relation => relation.name
  | connect connective => connective.name
  | compareTexts relation => relation.name
  | car => "car"
  | cdr => "cdr"
  | cons => "cons"
  | eqv => "eqv?"

/-- Every primitive, once. -/
def all : List Primitive :=
  [.add, .subtract, .multiply, .divide, .modulo, .quotient, .remainder].map arithmetic
    ++ [.equal, .less, .greater, .unequal, .atLeast, .atMost].map compareNumbers
    ++ [.and, .or].map connect
    ++ [.equal, .less, .greater, .atMost, .atLeast].map compareTexts
    ++ [car, cdr, cons, eqv]

/-- The primitive of a name. -/
def ofName? (name : String) : Option Primitive := all.find? fun p => p.name = name

/-- A primitive on its arguments. -/
def apply : Primitive → List Value → Except Failure Value
  | arithmetic op, arguments => op.apply arguments
  | compareNumbers relation, arguments => testTwo Value.asNumber relation.holds arguments
  | connect connective, arguments => testTwo Value.asTruth connective.holds arguments
  | compareTexts relation, arguments => testTwo Value.asText relation.holds arguments
  | car, [v] => part Value.front? v
  | car, arguments => .error (.arity 1 arguments)
  | cdr, [v] => part Value.rest? v
  | cdr, arguments => .error (.arity 1 arguments)
  | cons, [v, w] => .ok (v.cons w)
  | cons, arguments => .error (.arity 2 arguments)
  | eqv, arguments => Value.eqv arguments
where
  /-- A part of a pair; any other value is refused. -/
  part (part? : Value → Option Value) (v : Value) : Except Failure Value :=
    match part? v with
    | some w => .ok w
    | none => .error (.mismatch "pair" v)

/-- Every primitive is in the enumeration. -/
theorem mem_all (p : Primitive) : p ∈ all := by
  cases p with
  | arithmetic op => cases op <;> decide
  | compareNumbers relation => cases relation <;> decide
  | connect connective => cases connective <;> decide
  | compareTexts relation => cases relation <;> decide
  | _ => decide

/-- Different primitives have different names, so that each is found by
its own. -/
@[simp] theorem ofName?_name (p : Primitive) : ofName? p.name = some p := by
  cases p with
  | arithmetic op => cases op <;> decide
  | compareNumbers relation => cases relation <;> decide
  | connect connective => cases connective <;> decide
  | compareTexts relation => cases relation <;> decide
  | _ => decide

end Primitive

/-- The primitive of a name on arguments; a name of none is refused
whatever the arguments are. -/
def apply (name : String) (arguments : List Value) : Except Failure Value :=
  match Primitive.ofName? name with
  | some primitive => primitive.apply arguments
  | none => .error (.unknownProcedure "Unrecognized primitive function args" name)

end PocketScheme

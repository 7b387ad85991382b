import ToolBindings.Octets
import ToolBindings.Script.Token
/-!
# Scripts as trees

Expressions and statements. What was in parentheses only to be grouped leaves no trace,
with one exception: `Statement.annotate` knows whether its target was a bare name.
-/
namespace ToolBindings.Script

/-- A value that a script writes down. -/
inductive Constant where
  | none
  | bool (value : Bool)
  | ellipsis
  | number (value : Numeral)
  | text (value : String)
  | octets (value : Octets)
deriving DecidableEq, Repr

inductive UnaryOp where
  | plus | minus | invert | not
deriving DecidableEq, Repr

inductive BinaryOp where
  | add | sub | mul | matMul | div | floorDiv | mod | pow
  | shiftLeft | shiftRight | bitAnd | bitOr | bitXor
deriving DecidableEq, Repr

inductive Comparison where
  | eq | ne | lt | le | gt | ge | same | notSame | within | notWithin
deriving DecidableEq, Repr

/-- What a comprehension makes of its items. -/
inductive Collection where
  | list | set | dict
  /-- Nothing until it is gone through. -/
  | lazy
deriving DecidableEq, Repr

inductive Argument (ε : Type) where
  | plain (value : ε)
  /-- A sequence of arguments. -/
  | spread (items : ε)
  | named (name : String) (value : ε)
  /-- Arguments by name. -/
  | spreadNamed (entries : ε)

def Argument.value {ε : Type} : Argument ε → ε
  | plain value | spread value | named _ value | spreadNamed value => value

/-- One loop of a comprehension, with the conditions under which it goes on. -/
structure Clause (ε : Type) where
  async : Bool
  target : ε
  items : ε
  conditions : List ε

structure Parameter (ε : Type) where
  name : String
  note : Option ε := none
  default : Option ε := none

structure Parameters (ε : Type) where
  /-- Those that can be given by place. -/
  positional : List (Parameter ε) := []
  /-- How many of them, the first ones, cannot be given by name. -/
  positionalOnly : Nat := 0
  /-- The one that takes all other arguments by place. -/
  rest : Option (Parameter ε) := none
  /-- Those that can be given only by name. -/
  named : List (Parameter ε) := []
  /-- The one that takes all other arguments by name. -/
  namedRest : Option (Parameter ε) := none

/-- All parameters, those that take what is left behind the others. -/
def Parameters.all {ε : Type} (p : Parameters ε) : List (Parameter ε) :=
  p.positional ++ p.named ++ p.rest.toList ++ p.namedRest.toList

/-- A part of a text into which values are put: a text, or a value with the way in which it is
to be written. -/
inductive FormatPart (ε : Type) where
  | text (value : String)
  | field (value : ε) (conversion : Option Char) (format : Option ε)

/-- An expression. -/
inductive Expr where
  | constant (value : Constant)
  | name (id : String)
  /-- A text into which the values of expressions are put. -/
  | formatted (parts : List (FormatPart Expr))
  | unary (op : UnaryOp) (operand : Expr)
  | binary (op : BinaryOp) (left right : Expr)
  /-- The first operand that does not hold, or else the last one. -/
  | conjunction (operands : List Expr)
  /-- The first operand that holds, or else the last one. -/
  | disjunction (operands : List Expr)
  | compare (first : Expr) (rest : List (Comparison × Expr))
  | choice (condition yes no : Expr)
  | lambda (parameters : Parameters Expr) (result : Expr)
  | tuple (items : List Expr)
  | list (items : List Expr)
  | set (items : List Expr)
  /-- Entries have a key, or else are a dictionary to be put in. -/
  | dict (entries : List (Option Expr × Expr))
  /-- A sequence to be put in where it stands. -/
  | spread (items : Expr)
  | call (function : Expr) (arguments : List (Argument Expr))
  | member (object : Expr) (name : String)
  | item (object index : Expr)
  | slice (first last step : Option Expr)
  /-- The value is there for dictionaries only. -/
  | comprehension (kind : Collection) (element : Expr) (value : Option Expr)
    (clauses : List (Clause Expr))
  | await (operand : Expr)
  | yield (value : Option Expr)
  | yieldAll (items : Expr)
  | assign (name : String) (value : Expr)

instance : Inhabited Expr := ⟨.constant .none⟩

inductive Pattern where
  /-- A value to be compared with. -/
  | value (value : Expr)
  | constant (value : Constant)
  /-- Anything; without a name it is not kept. -/
  | capture (name : Option String)
  | sequence (items : List Pattern)
  /-- All items that are left in the middle of a sequence. -/
  | rest (name : Option String)
  | mapping (entries : List (Expr × Pattern)) (rest : Option String)
  | object (type : Expr) (positional : List Pattern) (named : List (String × Pattern))
  | either (alternatives : List Pattern)
  | keep (pattern : Pattern) (name : String)

/-- A path of names, and the name under which what it leads to is known. -/
structure ImportName where
  path : List String
  knownAs : Option String := none

/-- A handler of errors: of which kind they are, and under which name they are known. -/
structure Handler (σ : Type) where
  kind : Option Expr
  name : Option String
  body : List σ

structure Case (σ : Type) where
  pattern : Pattern
  condition : Option Expr
  body : List σ

inductive Statement where
  | expression (value : Expr)
  | assign (targets : List Expr) (value : Expr)
  | update (target : Expr) (op : BinaryOp) (value : Expr)
  | annotate (target : Expr) (bare : Bool) (note : Expr) (value : Option Expr)
  | delete (targets : List Expr)
  | pass
  | leaveLoop
  | nextRound
  | give (value : Option Expr)
  | raise (error cause : Option Expr)
  | check (condition : Expr) (message : Option Expr)
  | load (names : List ImportName)
  /-- Names of a module; `none` is all of them. The level counts the dots in front. -/
  | loadFrom (level : Nat) (path : List String) (names : Option (List ImportName))
  | globals (names : List String)
  | nonlocals (names : List String)
  | branch (condition : Expr) (yes no : List Statement)
  | repeat (condition : Expr) (body otherwise : List Statement)
  | each (async : Bool) (target items : Expr) (body otherwise : List Statement)
  | guard (async : Bool) (managers : List (Expr × Option Expr)) (body : List Statement)
  /-- With `groups`, the handlers handle the parts of a group of errors. -/
  | attempt (body : List Statement) (groups : Bool) (handlers : List (Handler Statement))
      (otherwise cleanup : List Statement)
  | select (subject : Expr) (cases : List (Case Statement))
  | function (async : Bool) (name : String) (decorators : List Expr) (parameters : Parameters Expr)
      (result : Option Expr) (body : List Statement)
  | type (name : String) (decorators : List Expr) (bases : List (Argument Expr))
      (body : List Statement)

instance : Inhabited Statement := ⟨.pass⟩

abbrev Program := List Statement

end ToolBindings.Script

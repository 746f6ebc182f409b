import Refactory.Source.Token

/-! The syntax tree of a program.

Trees carry no positions, so two texts with the same tree differ only in layout and spelling.
Identifiers stand in their normal form.
-/

set_option autoImplicit false

namespace Refactory.Source

inductive Context where
  | load
  | store
  | delete
  deriving DecidableEq, Repr

inductive Constant where
  | none
  | bool (value : Bool)
  | ellipsis
  | number (value : Number)
  | text (points : List Nat)
  | bytes (codes : List Nat)
  deriving DecidableEq, Repr

inductive BoolOperator where
  | and
  | or
  deriving DecidableEq, Repr

inductive UnaryOperator where
  | not
  | plus
  | minus
  | invert
  deriving DecidableEq, Repr

inductive BinaryOperator where
  | add
  | sub
  | mul
  | matMul
  | div
  | floorDiv
  | mod
  | pow
  | shiftLeft
  | shiftRight
  | bitAnd
  | bitXor
  | bitOr
  deriving DecidableEq, Repr

inductive Comparison where
  | equal
  | notEqual
  | less
  | lessEqual
  | greater
  | greaterEqual
  | is
  | isNot
  | isIn
  | notIn
  deriving DecidableEq, Repr

inductive ParameterKind where
  | positionalOnly
  | positional
  | restPositional
  | keywordOnly
  | restKeyword
  deriving DecidableEq, Repr

mutual

inductive Expr where
  | constant (value : Constant)
  | name (id : String) (context : Context)
  | attribute (value : Expr) (attr : String) (context : Context)
  | subscript (value index : Expr) (context : Context)
  | starred (value : Expr) (context : Context)
  | list (items : List Expr) (context : Context)
  | tuple (items : List Expr) (context : Context)
  | slice (lower upper step : Option Expr)
  | boolean (op : BoolOperator) (operands : List Expr)
  | unary (op : UnaryOperator) (operand : Expr)
  | binary (left : Expr) (op : BinaryOperator) (right : Expr)
  | compare (left : Expr) (ops : List Comparison) (others : List Expr)
  | conditional (test body otherwise : Expr)
  | lambda (parameters : List Parameter) (body : Expr)
  | call (function : Expr) (arguments : List Expr) (keywords : List Keyword)
  | binding (target value : Expr)
  | dict (items : List DictItem)
  | set (items : List Expr)
  | listComp (element : Expr) (clauses : List Clause)
  | setComp (element : Expr) (clauses : List Clause)
  | dictComp (key value : Expr) (clauses : List Clause)
  | generator (element : Expr) (clauses : List Clause)
  | await (value : Expr)
  | yield (value : Option Expr)
  | yieldFrom (value : Expr)
  | formatted (parts : List Expr)
  | field (value : Expr) (conversion : Option Char) (spec : Option Expr)

inductive Parameter where
  | mk (kind : ParameterKind) (name : String) (typeHint default : Option Expr)

/-- A keyword argument; without a name it unpacks a mapping. -/
inductive Keyword where
  | mk (name : Option String) (value : Expr)

inductive DictItem where
  | entry (key value : Expr)
  | spread (value : Expr)

inductive Clause where
  | mk (target source : Expr) (conditions : List Expr) (isAsync : Bool)

end

inductive Pattern where
  | value (value : Expr)
  | singleton (value : Constant)
  | sequence (patterns : List Pattern)
  | mapping (keys : List Expr) (patterns : List Pattern) (rest : Option String)
  | construct (callee : Expr) (patterns : List Pattern) (keywords : List String)
      (keywordPatterns : List Pattern)
  | star (name : Option String)
  | capture (pattern : Option Pattern) (name : Option String)
  | alternatives (patterns : List Pattern)

structure Alias where
  name : Spelling
  asName : Option String
  deriving DecidableEq, Repr

structure WithItem where
  manager : Expr
  target : Option Expr

mutual

inductive Stmt where
  | functionDef (isAsync : Bool) (name : String) (parameters : List Parameter) (body : List Stmt)
      (decorators : List Expr) (returns : Option Expr)
  | classDef (name : String) (bases : List Expr) (keywords : List Keyword) (body : List Stmt)
      (decorators : List Expr)
  | ret (value : Option Expr)
  | del (targets : List Expr)
  | assign (targets : List Expr) (value : Expr)
  | augAssign (target : Expr) (op : BinaryOperator) (value : Expr)
  | annAssign (target typeHint : Expr) (value : Option Expr) (simple : Bool)
  | forLoop (isAsync : Bool) (target source : Expr) (body otherwise : List Stmt)
  | whileLoop (test : Expr) (body otherwise : List Stmt)
  | ifElse (test : Expr) (body otherwise : List Stmt)
  | withBlock (isAsync : Bool) (items : List WithItem) (body : List Stmt)
  | matchOn (subject : Expr) (cases : List Case)
  | raising (error cause : Option Expr)
  | tryBlock (groups : Bool) (body : List Stmt) (handlers : List Handler)
      (otherwise last : List Stmt)
  | assertion (test : Expr) (message : Option Expr)
  | importNames (names : List Alias)
  | importFrom (source : Option Spelling) (names : List Alias) (level : Nat)
  | globalNames (names : List String)
  | nonlocalNames (names : List String)
  | expression (value : Expr)
  | pass
  | breakLoop
  | continueLoop

inductive Handler where
  | mk (error : Option Expr) (name : Option String) (body : List Stmt)

inductive Case where
  | mk (pattern : Pattern) (guard : Option Expr) (body : List Stmt)

end

structure Program where
  body : List Stmt

end Refactory.Source

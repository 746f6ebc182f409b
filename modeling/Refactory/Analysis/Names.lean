import Refactory.Source.Outline
import Refactory.Source.Program

/-! The global names that a program uses.

A name counts as global when the program reads it somewhere and binds it nowhere: not as an assigned
name, not as a parameter, not as a function or class. Scopes are not told apart, and the names that
the language brings along do not count.
-/

set_option autoImplicit false

namespace Refactory.Analysis

open Source

def builtinNames : List String := ["ArithmeticError", "AssertionError", "AttributeError",
  "BaseException", "BaseExceptionGroup", "BlockingIOError", "BrokenPipeError", "BufferError",
  "BytesWarning", "ChildProcessError", "ConnectionAbortedError", "ConnectionError",
  "ConnectionRefusedError", "ConnectionResetError", "DeprecationWarning", "EOFError", "Ellipsis",
  "EncodingWarning", "EnvironmentError", "Exception", "ExceptionGroup", "False", "FileExistsError",
  "FileNotFoundError", "FloatingPointError", "FutureWarning", "GeneratorExit", "IOError",
  "ImportError", "ImportWarning", "IndentationError", "IndexError", "InterruptedError",
  "IsADirectoryError", "KeyError", "KeyboardInterrupt", "LookupError", "MemoryError",
  "ModuleNotFoundError", "NameError", "None", "NotADirectoryError", "NotImplemented",
  "NotImplementedError", "OSError", "OverflowError", "PendingDeprecationWarning",
  "PermissionError", "ProcessLookupError", "RecursionError", "ReferenceError", "ResourceWarning",
  "RuntimeError", "RuntimeWarning", "StopAsyncIteration", "StopIteration", "SyntaxError",
  "SyntaxWarning", "SystemError", "SystemExit", "TabError", "TimeoutError", "True", "TypeError",
  "UnboundLocalError", "UnicodeDecodeError", "UnicodeEncodeError", "UnicodeError",
  "UnicodeTranslateError", "UnicodeWarning", "UserWarning", "ValueError", "Warning",
  "ZeroDivisionError", "__build_class__", "__debug__", "__doc__", "__import__", "__loader__",
  "__name__", "__package__", "__spec__", "abs", "aiter", "all", "anext", "any", "ascii", "bin",
  "bool", "breakpoint", "bytearray", "bytes", "callable", "chr", "classmethod", "compile",
  "complex", "copyright", "credits", "delattr", "dict", "dir", "divmod", "enumerate", "eval",
  "exec", "exit", "filter", "float", "format", "frozenset", "getattr", "globals", "hasattr",
  "hash", "help", "hex", "id", "input", "int", "isinstance", "issubclass", "iter", "len",
  "license", "list", "locals", "map", "max", "memoryview", "min", "next", "object", "oct", "open",
  "ord", "pow", "print", "property", "quit", "range", "repr", "reversed", "round", "set",
  "setattr", "slice", "sorted", "staticmethod", "str", "sum", "super", "tuple", "type", "vars",
  "zip"]

def readName? : Node → Option String
  | .expr (.name id .load) => some id
  | _ => none

/-- The name that a node binds. Of functions only those that are not asynchronous count. -/
def boundName? : Node → Option String
  | .expr (.name id .store) => some id
  | .parameter (.mk _ name _ _) => some name
  | .stmt (.functionDef false name _ _ _ _) => some name
  | .stmt (.classDef name _ _ _ _) => some name
  | _ => none

def positionalParameters : Node → List String
  | .stmt (.functionDef false _ parameters _ _ _) => parameters.filterMap fun
      | .mk .positional name _ _ => some name
      | _ => none
  | _ => []

def sortNames (names : List String) : List String :=
  names.eraseDups.mergeSort fun left right => !(right < left)

def globalsOf (nodes : List Node) : List String :=
  let bound := nodes.filterMap boundName?
  (nodes.filterMap readName?).filter fun name =>
    !bound.contains name && !builtinNames.contains name

def globalNames (program : Program) : List String :=
  sortNames (globalsOf program.nodes)

/-- The global names of a text, of which one that cannot be read has none. -/
def globalNamesOfText (text : String) : List String :=
  match Program.parse text with
  | .ok program => globalNames program
  | .error _ => []

end Refactory.Analysis

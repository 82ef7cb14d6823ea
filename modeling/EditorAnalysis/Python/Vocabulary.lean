import EditorAnalysis.Keyword
import EditorAnalysis.Scope.Context

/-!
# The vocabulary of Python

The names that the language sets apart, and the names that every module can use without an import.
-/

namespace EditorAnalysis
namespace Python

/-- Declarations, loops and a few value words are primary; control flow and operators spelled as
words are secondary. -/
def keywords : KeywordSet where
  primary := [
    "def", "for", "class", "import", "from", "with", "global", "None", "while", "yield",
    "nonlocal", "lambda", "assert", "del", "async", "await"]
  secondary := [
    "in", "as", "is", "and", "or", "not", "pass", "break", "continue", "return", "else",
    "elif", "if", "except", "finally", "try", "raise"]
  trueLiteral := "True"
  falseLiteral := "False"

def builtinFunctions : List String := [
  "abs", "aiter", "all", "anext", "any", "ascii", "bin", "breakpoint", "callable", "chr",
  "compile", "delattr", "dir", "divmod", "eval", "exec", "format", "getattr", "globals",
  "hasattr", "hash", "hex", "id", "input", "isinstance", "issubclass", "iter", "len", "locals",
  "max", "min", "next", "oct", "open", "ord", "pow", "print", "repr", "round", "setattr",
  "sorted", "sum", "vars", "range"]

/-- The built-in classes, with the hierarchy of exceptions. -/
def builtinClasses : List String := [
  "bool", "bytearray", "bytes", "classmethod", "complex", "dict", "enumerate", "filter", "float",
  "frozenset", "int", "list", "map", "memoryview", "object", "property", "reversed", "set",
  "slice", "staticmethod", "str", "super", "tuple", "type", "zip", "ArithmeticError",
  "AssertionError", "AttributeError", "BaseException", "BaseExceptionGroup", "BlockingIOError",
  "BrokenPipeError", "BufferError", "BytesWarning", "ChildProcessError",
  "ConnectionAbortedError", "ConnectionError", "ConnectionRefusedError", "ConnectionResetError",
  "DeprecationWarning", "EOFError", "EncodingWarning", "EnvironmentError", "Exception",
  "ExceptionGroup", "FileExistsError", "FileNotFoundError", "FloatingPointError",
  "FutureWarning", "GeneratorExit", "IOError", "ImportError", "ImportWarning",
  "IndentationError", "IndexError", "InterruptedError", "IsADirectoryError", "KeyError",
  "KeyboardInterrupt", "LookupError", "MemoryError", "ModuleNotFoundError", "NameError",
  "NotADirectoryError", "NotImplementedError", "OSError", "OverflowError",
  "PendingDeprecationWarning", "PermissionError", "ProcessLookupError", "RecursionError",
  "ReferenceError", "ResourceWarning", "RuntimeError", "RuntimeWarning", "StopAsyncIteration",
  "StopIteration", "SyntaxError", "SyntaxWarning", "SystemError", "SystemExit", "TabError",
  "TimeoutError", "TypeError", "UnboundLocalError", "UnicodeDecodeError", "UnicodeEncodeError",
  "UnicodeError", "UnicodeTranslateError", "UnicodeWarning", "UserWarning", "ValueError",
  "Warning", "ZeroDivisionError"]

/-- The names known to every module. -/
def hostNames : HostNames where
  functions := builtinFunctions
  classes := builtinClasses

end Python
end EditorAnalysis

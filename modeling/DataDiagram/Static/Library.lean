import DataDiagram.Static.Value
/-!
# Libraries

The names that every program sees, and the libraries that a program can import names from.
-/

namespace DataDiagram.Static.Library

def functions : List String :=
  ["abs", "aiter", "all", "anext", "any", "ascii", "bin", "breakpoint", "callable", "chr",
   "compile", "delattr", "dir", "divmod", "eval", "exec", "format", "getattr", "globals",
   "hasattr", "hash", "hex", "id", "input", "isinstance", "issubclass", "iter", "len", "locals",
   "max", "min", "next", "oct", "open", "ord", "pow", "print", "repr", "round", "setattr",
   "sorted", "sum", "vars", "__build_class__", "__import__"]

def classes : List String :=
  ["bool", "bytearray", "bytes", "classmethod", "complex", "dict", "enumerate", "filter", "float",
   "frozenset", "int", "list", "map", "memoryview", "object", "property", "range", "reversed",
   "set", "slice", "staticmethod", "str", "super", "tuple", "type", "zip"]

def errors : List String :=
  ["ArithmeticError", "AssertionError", "AttributeError", "BaseException", "BaseExceptionGroup",
   "BlockingIOError", "BrokenPipeError", "BufferError", "BytesWarning", "ChildProcessError",
   "ConnectionAbortedError", "ConnectionError", "ConnectionRefusedError", "ConnectionResetError",
   "DeprecationWarning", "EOFError", "EncodingWarning", "EnvironmentError", "Exception",
   "ExceptionGroup", "FileExistsError", "FileNotFoundError", "FloatingPointError", "FutureWarning",
   "GeneratorExit", "IOError", "ImportError", "ImportWarning", "IndentationError", "IndexError",
   "InterruptedError", "IsADirectoryError", "KeyError", "KeyboardInterrupt", "LookupError",
   "MemoryError", "ModuleNotFoundError", "NameError", "NotADirectoryError", "NotImplementedError",
   "OSError", "OverflowError", "PendingDeprecationWarning", "PermissionError", "ProcessLookupError",
   "RecursionError", "ReferenceError", "ResourceWarning", "RuntimeError", "RuntimeWarning",
   "StopAsyncIteration", "StopIteration", "SyntaxError", "SyntaxWarning", "SystemError",
   "SystemExit", "TabError", "TimeoutError", "TypeError", "UnboundLocalError",
   "UnicodeDecodeError", "UnicodeEncodeError", "UnicodeError", "UnicodeTranslateError",
   "UnicodeWarning", "UserWarning", "ValueError", "Warning", "ZeroDivisionError"]

def predefined? (name : String) : Option Value :=
  if functions.contains name then some (.builtin name)
  else if classes.contains name || errors.contains name then some (.builtinClass name)
  else if name == "Ellipsis" then some .ellipsis
  else if name == "NotImplemented" then some .notImplemented
  else if name == "__name__" then some (.str 0 "builtins")
  else if name == "__debug__" then some (.bool true)
  else none

def libraries : List String :=
  ["abc", "argparse", "array", "ast", "asyncio", "base64", "bisect", "builtins", "calendar",
   "cmath", "cmd", "code", "codecs", "collections", "concurrent", "configparser", "contextlib",
   "copy", "csv", "ctypes", "dataclasses", "datetime", "decimal", "difflib", "dis", "email",
   "enum", "errno", "fnmatch", "fractions", "functools", "gc", "getopt", "getpass", "glob",
   "graphlib", "gzip", "hashlib", "heapq", "hmac", "html", "http", "importlib", "inspect", "io",
   "ipaddress", "itertools", "json", "keyword", "linecache", "locale", "logging", "lzma",
   "marshal", "math", "mmap", "multiprocessing", "numbers", "opcode", "operator", "optparse",
   "os", "pathlib", "pdb", "pickle", "pkgutil", "platform", "posixpath", "pprint", "profile",
   "queue", "random", "re", "reprlib", "resource", "sched", "secrets", "select", "selectors",
   "shelve", "shlex", "shutil", "signal", "site", "socket", "sqlite3", "ssl", "stat",
   "statistics", "string", "struct", "subprocess", "symtable", "sympy", "sys", "sysconfig",
   "tarfile", "tempfile", "textwrap", "threading", "time", "timeit", "token", "tokenize",
   "tomllib", "trace", "traceback", "types", "typing", "unicodedata", "unittest", "urllib",
   "uuid", "venv", "warnings", "wave", "weakref", "xml", "zipfile", "zlib", "zoneinfo",
   "__future__"]

def parts : List String :=
  ["os.path", "collections.abc", "concurrent.futures", "importlib.abc", "importlib.util",
   "json.decoder", "json.encoder", "logging.handlers", "multiprocessing.pool", "unittest.mock",
   "urllib.error", "urllib.parse", "urllib.request", "xml.dom", "xml.etree", "xml.sax",
   "email.message", "html.parser", "http.client", "http.server"]

def packages : List String :=
  ["asyncio", "collections", "concurrent", "ctypes", "email", "html", "http", "importlib", "json",
   "logging", "multiprocessing", "re", "sqlite3", "tomllib", "unittest", "urllib", "venv",
   "xml", "zoneinfo"]

def mathFunctions : List String :=
  ["acos", "acosh", "asin", "asinh", "atan", "atan2", "atanh", "cbrt", "ceil", "comb", "copysign",
   "cos", "cosh", "degrees", "dist", "erf", "erfc", "exp", "exp2", "expm1", "fabs", "factorial",
   "floor", "fmod", "frexp", "fsum", "gamma", "gcd", "hypot", "isclose", "isfinite", "isinf",
   "isnan", "isqrt", "lcm", "ldexp", "lgamma", "log", "log10", "log1p", "log2", "modf", "nextafter",
   "perm", "pow", "prod", "radians", "remainder", "sin", "sinh", "sqrt", "tan", "tanh", "trunc",
   "ulp"]

def member? (library name : String) : Option Value :=
  match library, name with
  | "math", "pi" => some (.float 0 (.ofDecimal false 3141592653589793 (-15)))
  | "math", "e" => some (.float 0 (.ofDecimal false 2718281828459045 (-15)))
  | "math", "tau" => some (.float 0 (.ofDecimal false 6283185307179586 (-15)))
  | "math", "inf" => some (.float 0 (.infinite false))
  | "math", "nan" => some (.float 0 .nan)
  | "math", name => if mathFunctions.contains name then some (.builtin ("math." ++ name)) else none
  | "dataclasses", "dataclass" => some (.builtin "dataclasses.dataclass")
  | "dataclasses", name =>
    if ["field", "fields", "asdict", "astuple", "replace", "is_dataclass",
      "make_dataclass"].contains
      name then some (.builtin ("dataclasses." ++ name))
    else none
  | "os", "path" => some (.library "posixpath")
  | "__future__", name => some (.plain "_Feature" name)
  | library, name =>
    if libraries.contains library && library != "math" then some (.plain "function" name) else none

def components (name : String) : List String :=
  (name.toList.splitOn '.').map String.ofList

def find (name : String) : Eval Value := do
  match components name with
  | [] => throw (.noLibrary name)
  | first :: rest =>
    if !libraries.contains first then throw (.noLibrary first)
    else if rest.isEmpty || parts.contains name then return .library name
    else if packages.contains first then throw (.noLibrary name)
    else throw (.notPackage name first)

end DataDiagram.Static.Library

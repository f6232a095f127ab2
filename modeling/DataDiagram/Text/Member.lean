/-!
# Members of texts

What a text has under a name, as far as it can be told without looking at the text: a function, or
the class of all texts.
-/

namespace DataDiagram.Text

def textFunctions : List String :=
  ["capitalize", "casefold", "center", "count", "encode", "endswith", "expandtabs", "find",
   "format", "format_map", "index", "isalnum", "isalpha", "isascii", "isdecimal", "isdigit",
   "isidentifier", "islower", "isnumeric", "isprintable", "isspace", "istitle", "isupper", "join",
   "ljust", "lower", "lstrip", "maketrans", "partition", "removeprefix", "removesuffix",
   "replace", "rfind", "rindex", "rjust", "rpartition", "rsplit", "rstrip", "split", "splitlines",
   "startswith", "strip", "swapcase", "title", "translate", "upper", "zfill"]

def commonFunctions : List String :=
  ["__dir__", "__format__", "__getstate__", "__init_subclass__", "__new__", "__reduce__",
   "__reduce_ex__", "__sizeof__", "__subclasshook__"]

def commonOperations : List String :=
  ["__delattr__", "__eq__", "__ge__", "__getattribute__", "__gt__", "__hash__", "__init__",
   "__le__", "__lt__", "__ne__", "__repr__", "__setattr__", "__str__"]

def textOperations : List String :=
  ["__add__", "__contains__", "__getitem__", "__iter__", "__len__", "__mod__", "__mul__",
   "__rmod__", "__rmul__"]

def descriptions : List String :=
  ["__doc__", "__name__", "__qualname__", "__self__", "__text_signature__"]

/-- A member of a text. -/
inductive Member
  | description
  | textClass
  | function
  | operation
  deriving DecidableEq

namespace Member

def kindName : Member → String
  | description => "str"
  | textClass => "type"
  | function => "builtin_function_or_method"
  | operation => "method-wrapper"

def ofText? (name : String) : Option Member :=
  if name == "__class__" then some textClass
  else if name == "__doc__" then some description
  else if textFunctions.contains name || commonFunctions.contains name ||
    name == "__getnewargs__" then
    some function
  else if commonOperations.contains name || textOperations.contains name then some operation
  else none

def member? (m : Member) (name : String) : Option Member :=
  match m with
  | description => ofText? name
  | textClass =>
    if ["__name__", "__qualname__", "__module__"].contains name then some description
      else ofText? name
  | function | operation =>
    if name == "__class__" then some textClass
    else if descriptions.contains name then some description
    else if commonFunctions.contains name then some function
    else if commonOperations.contains name || name == "__call__" then some operation
    else none

end Member

end DataDiagram.Text

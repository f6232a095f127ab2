import DataDiagram.Static.Builtin
import DataDiagram.Static.Scope
import DataDiagram.Text.Member
/-!
# Attributes

What values have under a name, and how that is changed.
-/

namespace DataDiagram.Static

def inherited? (name : String) : List ClassRef → Eval (Option Value)
  | [] => return none
  | .own addr :: rest => do
    match (← Eval.classInfo addr).attributes.lookup name with
    | some v => return some v
    | none => inherited? name rest
  | .builtin _ :: rest => inherited? name rest

def classAttribute? (addr : Nat) (name : String) : Eval (Option Value) := do
  inherited? name (.own addr :: (← Eval.classInfo addr).ancestors)

def classCommon? (own : String) : String → Option Value
  | "__name__" | "__qualname__" => some (.str 0 own)
  | "__module__" => some (.str 0 "builtins")
  | "__class__" => some (.builtinClass "type")
  | _ => none

def methodsOf : String → List String
  | "list" => ["append", "clear", "copy", "count", "extend", "index", "insert", "pop", "remove",
    "reverse", "sort"]
  | "tuple" | "range" => ["count", "index"]
  | "dict" => ["clear", "copy", "fromkeys", "get", "items", "keys", "pop", "popitem", "setdefault",
    "update", "values"]
  | "set" => ["add", "clear", "copy", "difference", "discard", "intersection", "isdisjoint",
              "issubset", "issuperset", "pop", "remove", "symmetric_difference", "union",
              "update"]
  | "str" => Text.textFunctions
  | "bytes" => ["count", "decode", "endswith", "find", "hex", "index", "join", "lower", "replace",
    "split", "startswith", "strip", "upper"]
  | "int" | "bool" => ["as_integer_ratio", "bit_count", "bit_length", "conjugate", "from_bytes",
    "to_bytes"]
  | "float" => ["as_integer_ratio", "conjugate", "fromhex", "hex", "is_integer"]
  | "complex" => ["conjugate"]
  | _ => []

def numberAttribute? (v : Value) (name : String) : Eval (Option Value) := do
  match v, v.int?, name with
  | .int .., _, "real" | .int .., _, "numerator" => return some v
  | _, some n, "real" | _, some n, "numerator" => do return some (← Eval.ofInt n)
  | _, some _, "imag" => return some (.int 0 0)
  | _, some _, "denominator" => return some (.int 0 1)
  | .float .., _, "real" => return some v
  | .float .., _, "imag" => do return some (← Eval.ofFloat (.zero false))
  | .complex _ z, _, "real" => do return some (← Eval.ofFloat z.re)
  | .complex _ z, _, "imag" => do return some (← Eval.ofFloat z.im)
  | _, _, _ => return none

def plainAttribute (v : Value) (name : String) : Eval Value := do
  let kind ← Eval.kindName v
  match ← numberAttribute? v name with
  | some w => return w
  | none =>
    if name == "__class__" then Builtin.classOf v
    else if (methodsOf kind).contains name then return .method v name
    else throw (.noAttribute kind name)

def attributeOf (v : Value) (name : String) : Eval Value := do
  match v with
  | .object addr =>
    match ← Eval.load addr with
    | .record cls fields =>
      match fields.lookup name with
      | some w => return w
      | none =>
        match ← classAttribute? cls name with
        | some w => return w
        | none =>
          if name == "__class__" then return .cls cls
          else if name == "__module__" then return .str 0 "builtins"
          else throw (.noAttribute (← Eval.kindName v) name)
    | _ => throw (.noAttribute (← Eval.kindName v) name)
  | .cls addr =>
    match ← classAttribute? addr name with
    | some w => return w
    | none =>
      let own := (← Eval.classInfo addr).name
      match classCommon? own name with
      | some w => return w
      | none => throw (.noClassAttribute own name)
  | .builtinClass cls =>
    match classCommon? cls name with
    | some w => return w
    | none =>
      if (methodsOf cls).contains name then return .method v name
      else throw (.noClassAttribute cls name)
  | .function addr =>
    match ← Eval.load addr with
    | .function f =>
      match f.attributes.lookup name, name with
      | some w, _ => return w
      | none, "__name__" | none, "__qualname__" => return .str 0 f.name
      | none, "__class__" => return .builtinClass "function"
      | none, name => throw (.noAttribute "function" name)
    | _ => throw (.noAttribute "function" name)
  | .library library =>
    match Library.member? library name with
    | some w => return w
    | none =>
      if name == "__name__" then return .str 0 library
      else throw (.noLibraryAttribute library name)
  | .builtin full =>
    match name with
    | "__name__" | "__qualname__" => return .str 0 (Eval.lastPart full)
    | name => throw (.noAttribute (← Eval.kindName v) name)
  | .range id a b c =>
    match name with
    | "start" => return .int (if Eval.isSmall a then 0 else id) a
    | "stop" => return .int (if Eval.isSmall b then 0 else id) b
    | "step" => return .int (if Eval.isSmall c then 0 else id) c
    | name => plainAttribute v name
  | .formula (.symbol s) => if name == "name" then return .str 0 s else plainAttribute v name
  | v => plainAttribute v name

def fixedAttributes : String → List String
  | "int" | "bool" => ["real", "imag", "numerator", "denominator"]
  | "float" | "complex" => ["real", "imag"]
  | _ => []

def setAttribute (v : Value) (name : String) (w : Value) : Eval Unit := do
  match v with
  | .object addr =>
    match ← Eval.load addr with
    | .record cls fields => Eval.store addr (.record cls (Names.put fields name w))
    | _ => throw (.noAttribute (← Eval.kindName v) name)
  | .cls addr =>
    let info ← Eval.classInfo addr
    Eval.store addr (.cls { info with attributes := Names.put info.attributes name w })
  | .function addr =>
    match ← Eval.load addr with
    | .function f =>
      Eval.store addr (.function { f with attributes := Names.put f.attributes name w })
    | _ => throw (.noAttribute "function" name)
  | .builtinClass cls =>
    throw (.refused .type s!"cannot set '{name}' attribute of immutable type '{cls}'")
  | .range .. =>
    if ["start", "stop", "step"].contains name then throw (.refused .attribute "readonly attribute")
    else if (methodsOf "range").contains name then
      throw (.refused .attribute s!"'range' object attribute '{name}' is read-only")
    else throw (.noAttribute "range" name)
  | v =>
    let kind ← Eval.kindName v
    let owner := if kind == "bool" then "int" else kind
    if (fixedAttributes kind).contains name then
      throw (.refused .attribute s!"attribute '{name}' of '{owner}' objects is not writable")
    else if (methodsOf kind).contains name then
      throw (.refused .attribute s!"'{kind}' object attribute '{name}' is read-only")
    else throw (.noAttribute kind name)

def calleeText (v : Value) : Eval String := do
  match v with
  | .function addr =>
    match ← Eval.load addr with
    | .function f => return f.name ++ "()"
    | _ => return "()"
  | .builtin name => return name ++ "()"
  | .method self name => return (← Eval.kindName self) ++ "." ++ name ++ "()"
  | v =>
    match ← Eval.className? v with
    | some name => return name ++ "()"
    | none => Eval.print v

end DataDiagram.Static

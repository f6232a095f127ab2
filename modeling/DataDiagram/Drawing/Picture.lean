import DataDiagram.Drawing.Literal
/-!
# Pictures of graphs

A graph whose nodes have been placed is drawn as a picture.  Coordinates are brought between zero
and one: the least becomes zero, the greatest becomes one.
-/

namespace DataDiagram.Drawing

/-- A node of a graph, with its place as text. -/
structure Vertex where
  name : String
  position : String
  label : String
  shape : Option String

/-- An arrow between two nodes; a bar divides the values on its label. -/
structure Arrow where
  source : String
  target : String
  label : String

/-- A graph with places for its nodes. -/
structure Graph where
  vertices : List Vertex
  arrows : List Arrow

/-- How a picture is drawn. -/
structure Style where
  definitions : Bool
  options : List (String × Datum)

/-- Why a graph cannot be drawn. -/
inductive DrawError
  | literal (e : LiteralError)
  | tooManyCoordinates
  | tooFewCoordinates (given : Nat)
  | arithmetic (e : DatumError)
  | reservedOption (name : String)
  | unnamedOption
  | unhashableOption (kind : String)
  | unencodable (message : String)

namespace DrawError

def message : DrawError → String
  | literal e => e.message
  | tooManyCoordinates => "too many values to unpack (expected 2)"
  | tooFewCoordinates given => s!"not enough values to unpack (expected 2, got {given})"
  | arithmetic e => e.message
  | reservedOption name => s!"dot2tikz() got multiple values for argument '{name}'"
  | unnamedOption => "keywords must be strings"
  | unhashableOption kind => s!"unhashable type: '{kind}'"
  | unencodable message => message

def kind : DrawError → ErrorKind
  | literal e => e.kind
  | tooManyCoordinates | tooFewCoordinates _ => .value
  | arithmetic e => e.kind
  | reservedOption _ | unnamedOption | unhashableOption _ => .type
  | unencodable _ => .encoding

end DrawError

/-! ### Places -/

def coordinates (position : String) : Except DrawError (Datum × Datum) := do
  let parts ← ((position.toList.splitOn ',').mapM readLiteral).mapError DrawError.literal
  match parts with
  | [x, y] => return (x, y)
  | [] | [_] => .error (.tooFewCoordinates parts.length)
  | _ => .error .tooManyCoordinates

/-- The least and the greatest of the coordinates so far. -/
structure Extent where
  least : Datum
  greatest : Datum

namespace Extent

def empty : Extent := ⟨.none, .none⟩

/-- The one of two coordinates that is chosen: the new one, unless the old one is before or after it
as `rel` asks. -/
def choose (rel : Datum.Relation) (old new : Datum) : Except DatumError Datum :=
  match old with
  | .none => .ok new
  | old => do if ← Datum.ordered rel old new then return old else return new

def extend (e : Extent) (x : Datum) : Except DatumError Extent := do
  let greatest ← choose .greater e.greatest x
  let least ← choose .less e.least x
  return ⟨least, greatest⟩

def size (e : Extent) : Except DatumError Datum := e.greatest.sub e.least

def normalise (e : Extent) (size x : Datum) : Except DatumError Datum := do
  (← x.sub e.least).div size

end Extent

/-- A node with its coordinates. -/
structure Placed where
  vertex : Vertex
  x : Datum
  y : Datum

def putPlaced : List Placed → Placed → List Placed
  | [], n => [n]
  | m :: rest, n => if m.vertex.name == n.vertex.name then n :: rest else m :: putPlaced rest n

/-- The nodes of a graph and how far they reach. -/
structure Layout where
  nodes : List Placed
  horizontal : Extent
  vertical : Extent

def computed {α : Type} (x : Except DatumError α) : Except DrawError α := x.mapError .arithmetic

def place : Layout → List Vertex → Except DrawError Layout
  | layout, [] => .ok layout
  | layout, v :: rest => do
    let (x, y) ← coordinates v.position
    let horizontal ← computed (layout.horizontal.extend x)
    let vertical ← computed (layout.vertical.extend y)
    place ⟨putPlaced layout.nodes ⟨v, x, y⟩, horizontal, vertical⟩ rest

/-! ### Texts -/

def coordinateText : Datum → String
  | .float x => x.fixedText 3
  | .complex z => z.fixedText 3
  | _ => ""

def definitionLines : List String :=
  ["\\tikzstyle\x7bdddvar\x7d=[draw,circle]\n",
   "\\tikzstyle\x7bdddone\x7d=[draw]\n",
   "\\tikzstyle\x7bdddarc\x7d=[fill=white,opacity=.8,text opacity=1,scale=.6]\n"]

def optionsText (options : List (String × Datum)) : String :=
  ",".intercalate (options.map fun o => o.1 ++ "=" ++ o.2.text)

def opening (style : Style) : String :=
  "\\begin\x7btikzpicture\x7d[" ++ optionsText style.options ++ "]\n"

def closing : String := "\\end\x7btikzpicture\x7d\n"

def nodeLine (v : Vertex) (x y : String) : String :=
  let style := if v.shape == some "square" then "dddone" else "dddvar"
  "  \\node[" ++ style ++ "] (" ++ v.name ++ ") at (" ++ x ++ "," ++ y ++ ") \x7b" ++ v.label ++
    "\x7d;\n"

def arrowLine (a : Arrow) : String :=
  let label := String.ofList (a.label.toList.map fun c => if c == '|' then ',' else c)
  "  \\draw[->] (" ++ a.source ++ ") -- node[dddarc] \x7b" ++ label ++ "\x7d (" ++ a.target ++
    ");\n"

def written (line : String) : Except DrawError String :=
  match Text.surrogateRefusal? line.toList with
  | some message => .error (.unencodable message)
  | none => .ok line

def nodeLines (layout : Layout) (width height : Datum) :
    List Placed → Except DrawError (List String)
  | [] => .ok []
  | n :: rest => do
    let x ← computed (layout.horizontal.normalise width n.x)
    let y ← computed (layout.vertical.normalise height n.y)
    let line ← written (nodeLine n.vertex (coordinateText x) (coordinateText y))
    let more ← nodeLines layout width height rest
    return line :: more

def reservedOptions : List String := ["src", "tgt", "layout", "styles"]

def namedOptions (entries : List (Datum × Datum)) : Except DrawError (List (String × Datum)) := do
  let options ← entries.foldlM (fun (options : List (Datum × Datum)) e =>
    match e.1.unhashable? with
    | some kind => .error (.unhashableOption kind)
    | none => .ok (Datum.putEntry options e.1 e.2)) []
  options.mapM fun o =>
    match o.1 with
    | .str name => .ok (name, o.2)
    | _ => .error .unnamedOption

def checkOptions (options : List (String × Datum)) : Except DrawError Unit :=
  match options.find? fun o => reservedOptions.contains o.1 with
  | some o => .error (.reservedOption o.1)
  | none => .ok ()

namespace Graph

def picture (g : Graph) (style : Style) : Except DrawError String := do
  checkOptions style.options
  let layout ← place ⟨[], .empty, .empty⟩ g.vertices
  let width ← computed layout.horizontal.size
  let height ← computed layout.vertical.size
  let start ← written (opening style)
  let nodes ← nodeLines layout width height layout.nodes
  let arrows ← g.arrows.mapM fun a => written (arrowLine a)
  return String.join ((if style.definitions then definitionLines else []) ++ start :: nodes ++
    arrows ++
    [closing])

end Graph

end DataDiagram.Drawing

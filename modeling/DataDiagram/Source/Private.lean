import DataDiagram.Source.Bind
/-!
# Private names

Inside of a class, names that start with two underscores and do not end with two belong to the class
alone: the name of the class is put in front of them.
-/

namespace DataDiagram.Source

def privateName (cls name : String) : String :=
  let owner := cls.toList.dropWhile (· == '_')
  let cs := name.toList
  let marked := "__".toList.isPrefixOf cs && !("__".toList.isPrefixOf cs.reverse)
  if marked && !owner.isEmpty then String.ofList ('_' :: owner ++ cs) else name

namespace Expr

def inClassNode (cls : String) : Expr → Expr
  | .name p id u => .name p (privateName cls id) u
  | .field p a attr u => .field p a (privateName cls attr) u
  | .lambda p params keywordDefaults defaults body =>
    .lambda p
      ⟨params.positionalOnly.map (privateName cls), params.positional.map (privateName cls),
        params.rest.map (privateName cls), params.keywordOnly.map (privateName cls),
        params.restKeywords.map (privateName cls)⟩
      keywordDefaults defaults body
  | e => e

def inClass : String → Expr → Expr := change inClassNode fun cls _ => cls

end Expr

end DataDiagram.Source

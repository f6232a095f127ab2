import DataDiagram.Source.Lexer
/-!
# Readers

A reader takes a part of a list of tokens, or fails.  The ones here are what the grammar is made of.
-/

namespace DataDiagram.Source

/-- A reader takes tokens from the front of a list: what it leaves are the last ones of the list. -/
structure Reader (α : Type) where
  run : List Token → Option (α × List Token)
  leaves : ∀ {ts a rest}, run ts = some (a, rest) → rest <:+ ts

namespace Reader

variable {α : Type}

instance : CoeFun (Reader α) fun _ => List Token → Option (α × List Token) := ⟨run⟩

instance : Monad Reader where
  pure a := ⟨fun ts => some (a, ts), by rintro _ _ _ ⟨⟩; exact List.suffix_rfl⟩
  bind r f := ⟨fun ts => (r ts).bind fun (a, rest) => f a rest, by
    intro ts b rest h
    obtain ⟨⟨a, mid⟩, ha, hb⟩ := Option.bind_eq_some_iff.1 h
    exact ((f a).leaves hb).trans (r.leaves ha)⟩

def fail : Reader α := ⟨fun _ => none, nofun⟩

/-- Says something about the tokens and takes none. -/
def look (f : List Token → Option α) : Reader α :=
  ⟨fun ts => (f ts).map (·, ts), by
    intro ts a rest h
    obtain ⟨_, -, ⟨⟩⟩ := Option.map_eq_some_iff.1 h
    exact List.suffix_rfl⟩

def peek : Reader (Option TokenKind) := look fun ts => some (ts.head?.map Token.kind)

def peekSecond : Reader (Option TokenKind) := look fun ts => some (ts[1]?.map Token.kind)

def here : Reader Position := look fun ts => ts.head?.map Token.position

def remaining : Reader Nat := look fun ts => some ts.length

/-- What another reader would take. -/
def ahead (r : Reader α) : Reader (Option α) := look fun ts => some ((r ts).map Prod.fst)

def advance : Reader Unit :=
  ⟨fun ts => match ts with
    | _ :: rest => some ((), rest)
    | [] => none, by
    rintro (_ | ⟨t, ts⟩) _ _ ⟨⟩
    exact List.suffix_cons t ts⟩

/-- Whether the next token is of a kind. -/
def isNext (kind : TokenKind) : Reader Bool := do return (← peek).any kind.is

/-- Takes a token of a kind if it is next, and says whether it was. -/
def skip (kind : TokenKind) : Reader Bool := do
  if ← isNext kind then
    advance
    return true
  else return false

def expect (kind : TokenKind) : Reader Unit := do
  if ← skip kind then pure () else fail

abbrev atSymbol (s : Symbol) : Reader Bool := isNext (.symbol s)

abbrev atKeyword (k : Keyword) : Reader Bool := isNext (.keyword k)

abbrev skipSymbol (s : Symbol) : Reader Bool := skip (.symbol s)

abbrev skipKeyword (k : Keyword) : Reader Bool := skip (.keyword k)

abbrev symbol (s : Symbol) : Reader Unit := expect (.symbol s)

abbrev keyword (k : Keyword) : Reader Unit := expect (.keyword k)

def word : Reader String := do
  match ← peek with
  | some (.name id) =>
    advance
    return id
  | _ => fail

/-- Takes a part if `mark` says that there is one. -/
def optionalAfter (mark : Reader Bool) (part : Reader α) : Reader (Option α) := do
  if ← mark then return some (← part) else return none

/-- Takes as many parts as there are, at most `fuel`: `part` gives nothing when there is none. -/
def manyUpTo (part : Reader (Option α)) : (fuel : Nat) → Reader (List α)
  | 0 => return []
  | fuel + 1 => do
    match ← part with
    | none => return []
    | some a =>
      let more ← manyUpTo part fuel
      return a :: more

def many (part : Reader (Option α)) : Reader (List α) := do manyUpTo part (← remaining)

/-- Takes parts with commas between them, until `stop` says that none follows.  Gives the parts and
whether a comma stands at the end. -/
def commaSeparatedUpTo (part : Reader α) (stop : Reader Bool) :
    (fuel : Nat) → Reader (List α × Bool)
  | 0 => fail
  | fuel + 1 => do
    let first ← part
    if ← skipSymbol .comma then
      if ← stop then return ([first], true)
      else
        let (more, trailing) ← commaSeparatedUpTo part stop fuel
        return (first :: more, trailing)
    else return ([first], false)

def commaSeparated (part : Reader α) (stop : Reader Bool) : Reader (List α × Bool) := do
  commaSeparatedUpTo part stop (← remaining)

def furtherParts (part : Reader α) (stop : Reader Bool) : Reader (List α) := do
  if ← skipSymbol .comma then
    if ← stop then return [] else return (← commaSeparated part stop).1
  else return []

def either (first second : Reader α) : Reader α :=
  ⟨fun ts => (first ts).or (second ts), by
    intro ts a rest h
    rcases Option.or_eq_some_iff.1 h with h | ⟨-, h⟩
    · exact first.leaves h
    · exact second.leaves h⟩

end Reader

end DataDiagram.Source

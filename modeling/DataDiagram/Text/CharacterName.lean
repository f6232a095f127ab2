import DataDiagram.Text.Abbreviated
import DataDiagram.Text.CharacterName.Table
/-!
# Names of characters

The character with a name.  Most names stand in a table; those of ideographs and of syllables that
are put together follow a rule.
-/

namespace DataDiagram.Text.CharacterName

/-! ### Names in the table -/

/-- What has been read of the table. -/
structure Scan where
  target : List (List Char)
  code : Nat := 0
  words : List (List Char) := []
  shared : Nat := 0
  kept : Nat := 0
  buffer : Option (List Char) := none
  gap : Option Nat := none
  found : Option Nat := none

namespace Scan

/-- The words of a name so far. -/
def begun (s : Scan) : List (List Char) :=
  match s.buffer with
  | none => [[]]
  | some cs => s.words.take s.shared ++ cs.reverse.splitOn ' '

def finish (s : Scan) : Scan :=
  if s.buffer.isNone then s
  else
    let words := s.begun ++ s.words.drop (s.words.length - s.kept)
    { s with
      words
      code := s.code + 1
      buffer := none
      found := if words == s.target then some s.code else s.found }

def start (s : Scan) (shared : Nat) : Scan :=
  { s with
    code := (s.code + s.gap.getD 0) % 0x110000
    gap := none, shared, kept := 0, buffer := some [] }

def step (s : Scan) (c : Char) : Scan :=
  if c == '$' then { s with kept := s.kept + 1 }
  else if c == '@' then { s.finish with gap := some 0 }
  else if c.isLower then s.finish.start (c.toNat - 'a'.toNat)
  else
    match s.gap, s.buffer with
    | some n, _ => { s with gap := some (10 * n + (c.toNat - '0'.toNat)) }
    | none, some cs => { s with buffer := some (c :: cs) }
    | none, none => s

end Scan

/-! ### The table -/

def wordKey (word : List Char) : UInt64 := word.foldl (fun n c => 61 * n + c.toNat.toUInt64) 0

/-- The contexts of the next character: the characters before it, its word so far, the words before
it, the word in its place in the name before, and how far the name has come.  `recent` are the last
four characters. -/
def contexts (s : Scan) (recent : Nat) : List Nat :=
  let name := s.begun
  let word := name.getLastD []
  let model := if s.buffer.isSome then s.words.getD (name.length - 1) [] else []
  let next :=
    ((model.drop word.length).head?.map Char.toNat).getD 0 * 2 + (word.isPrefixOf model).toNat
  let progress := ((s.shared * 16 + s.words.length) * 16 + s.kept) * 32 + name.length
  let key := wordKey word
  [recent.toUInt64, (recent % 4096).toUInt64, key, key * 4001 + wordKey (name.dropLast.getLastD []),
    key * 4001 + wordKey (name.headD []), wordKey model * 4001 + key,
    (progress * 2 + word.isEmpty.toNat).toUInt64, (next * 64 + recent % 64).toUInt64,
    (next * 32 + name.length).toUInt64].mapIdx Abbreviated.place

def readCharacters (alphabet : Array Char) : (length : Nat) → Scan → (recent : Nat) → List Char →
    Array Nat → Array Int → Abbreviated.Fraction → List Char
  | 0, _, _, text, _, _, _ => text.reverse
  | length + 1, s, recent, text, memory, weights, f =>
    let (node, memory, weights, f) :=
      Abbreviated.readCharacter (contexts s recent) (recent % 64) 6 1 memory
      weights f
    let c := alphabet.getD (node - 64) ' '
    readCharacters alphabet length (s.step c) ((recent * 64 + (node - 64)) % 16777216) (c :: text)
      memory weights f

def text : Thunk (List Char) := Thunk.mk fun _ =>
  readCharacters characters.toList.toArray textLength { target := [] } 0 []
    Abbreviated.memory Abbreviated.weights (.ofMarks (Packed.values nameTable))

def inTable? (name : List Char) : Option Nat :=
  (text.get.foldl Scan.step { target := name.splitOn ' ' }).finish.found

/-! ### Rules -/

def hexNumber? (digits : List Char) : Option Nat :=
  digits.foldlM (fun n c =>
    if c.isDigit then some (16 * n + (c.toNat - '0'.toNat))
    else if 'A' ≤ c && c ≤ 'F' then some (16 * n + (c.toNat - 'A'.toNat + 10))
    else none) 0

def after? (start text : List Char) : Option (List Char) :=
  if start.isPrefixOf text then some (text.drop start.length) else none

/-- The names that end with the digits of the code point, and the ranges of those code points. -/
def numbered : List (String × List (Nat × Nat)) :=
  [("CJK COMPATIBILITY IDEOGRAPH-", [(0xf900, 0xfa6d), (0xfa70, 0xfad9), (0x2f800, 0x2fa1d)]),
   ("KHITAN SMALL SCRIPT CHARACTER-", [(0x18b00, 0x18cd5)]),
   ("NUSHU CHARACTER-", [(0x1b170, 0x1b2fb)])]

/-- The ranges of the ideographs that are told apart by their code points. -/
def ideographs : List (Nat × Nat) :=
  [(0x3400, 0x4dbf), (0x4e00, 0x9fff), (0x20000, 0x2a6df), (0x2a700, 0x2b738), (0x2b740, 0x2b81d),
   (0x2b820, 0x2cea1), (0x2ceb0, 0x2ebe0), (0x30000, 0x3134a)]

def inRanges? (ranges : List (Nat × Nat)) (digits : List Char) : Option Nat := do
  let n ← hexNumber? digits
  if (digits.length == 4 || digits.length == 5) && ranges.any fun r =>
    r.1 ≤ n && n ≤ r.2 then some n
  else none

def byNumber? (name : List Char) : Option Nat :=
  numbered.findSome? fun (start, ranges) => do inRanges? ranges (← after? start.toList name)

/-- The first, the middle and the last parts of the names of syllables. -/
def leads : List String :=
  ["G", "GG", "N", "D", "DD", "R", "M", "B", "BB", "S", "SS", "", "J", "JJ", "C", "K", "T", "P",
   "H"]

@[inherit_doc leads]
def vowels : List String :=
  ["A", "AE", "YA", "YAE", "EO", "E", "YEO", "YE", "O", "WA", "WAE", "OE", "YO", "U", "WEO", "WE",
   "WI", "YU", "EU", "YI", "I"]

@[inherit_doc leads]
def tails : List String :=
  ["", "G", "GG", "GS", "N", "NJ", "NH", "D", "L", "LG", "LM", "LB", "LS", "LT", "LP", "LH", "M",
   "B", "BS", "S", "SS", "NG", "J", "C", "K", "T", "P", "H"]

def longest? (parts : List String) (text : List Char) : Option (Nat × List Char) :=
  (parts.zip (List.range parts.length)).foldl (fun best (part, i) =>
    match after? part.toList text, best with
    | some rest, some (j, other) =>
      if rest.length < other.length then some (i, rest) else some (j, other)
    | some rest, none => some (i, rest)
    | none, best => best) none

def syllable? (name : List Char) : Option Nat := do
  let parts ← after? "HANGUL SYLLABLE ".toList name
  let (lead, rest) ← longest? leads parts
  let (vowel, rest) ← longest? vowels rest
  let (tail, rest) ← longest? tails rest
  if rest.isEmpty then some (0xac00 + (lead * 21 + vowel) * 28 + tail) else none

/-- The code point of a component of ideographs, which have three-digit numbers. -/
def component? (name : List Char) : Option Nat := do
  let digits ← after? "TANGUT COMPONENT-".toList name
  let n := digits.foldl (fun n c => 10 * n + (c.toNat - '0'.toNat)) 0
  if digits.length == 3 && digits.all Char.isDigit && 1 ≤ n && n ≤ 768 then some (0x18800 + n - 1)
  else none

def selector? (name : List Char) : Option Nat := do
  let digits ← after? ['V', 'S'] name
  let n := digits.foldl (fun n c => 10 * n + (c.toNat - '0'.toNat)) 0
  if !digits.isEmpty && digits.all Char.isDigit && digits.head? != some '0' && n ≤ 256 then
    some (if n ≤ 16 then 0xfe00 + n - 1 else 0xe0100 + n - 17)
  else none

/-- The code point with a name.  Only the names of ideographs and syllables tell lower case from
upper case. -/
def find? (name : String) : Option Nat :=
  let upper := name.toList.map Char.toUpper
  let ideograph? := do inRanges? ideographs (← after? "CJK UNIFIED IDEOGRAPH-".toList name.toList)
  ideograph?.orElse fun _ => (syllable? name.toList).orElse fun _ =>
    (byNumber? upper).orElse fun _ => (component? upper).orElse fun _ =>
      (selector? upper).orElse fun _ =>
      inTable? upper

end DataDiagram.Text.CharacterName

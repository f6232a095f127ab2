import DataDiagram.Code.Origin
/-!
# Tokens

The words of a source text: reserved words, names, numbers, strings and symbols, and the marks that
show where logical lines and indented blocks begin and end.
-/

namespace DataDiagram.Source

/-- A reserved word. -/
inductive Keyword
  | and_ | as_ | assert_ | async_ | await_ | break_ | class_ | continue_ | def_ | del_ | elif_
  | else_
  | except_ | false_ | finally_ | for_ | from_ | global_ | if_ | import_ | in_ | is_ | lambda_
  | none_ | nonlocal_ | not_ | or_ | pass_ | raise_ | return_ | true_ | try_ | while_ | with_
  | yield_
  deriving DecidableEq

/-- A symbol. -/
inductive Symbol
  | openParen | closeParen | openBracket | closeBracket | openBrace | closeBrace
  | colon | comma | semicolon | dot | ellipsis | arrow | walrus | equals
  | plus | minus | star | slash | percent | at_ | ampersand | bar | caret | tilde
  | less | greater | doubleStar | doubleSlash | shiftLeft | shiftRight
  | equal | notEqual | lessEqual | greaterEqual
  | plusEquals | minusEquals | starEquals | slashEquals | percentEquals | atEquals
  | ampersandEquals | barEquals | caretEquals | doubleStarEquals | doubleSlashEquals
  | shiftLeftEquals | shiftRightEquals
  deriving DecidableEq

/-- What a token is. -/
inductive TokenKind
  | keyword (k : Keyword)
  | name (id : String)
  | symbol (s : Symbol)
  | number (value : Datum)
  | text (s : String)
  | bytes (value : List Char)
  /-- A string with expressions in it, not yet taken apart; `raw` if backslashes stand for
  themselves.  So many characters as `lead` says stand before the content. -/
  | formatted (raw : Bool) (lead : Nat) (content : List Char)
  | newline
  | indent
  | dedent

/-- Whether a kind is a certain mark or word. -/
def TokenKind.is : TokenKind → TokenKind → Bool
  | .keyword k, .keyword l => k == l
  | .name a, .name b => a == b
  | .symbol s, .symbol t => s == t
  | .newline, .newline | .indent, .indent | .dedent, .dedent => true
  | _, _ => false

/-- A token with the place where it starts. -/
structure Token where
  kind : TokenKind
  position : Position

namespace Keyword

def spellings : List (String × Keyword) :=
  [("and", and_), ("as", as_), ("assert", assert_), ("async", async_), ("await", await_),
   ("break", break_), ("class", class_), ("continue", continue_), ("def", def_), ("del", del_),
   ("elif", elif_), ("else", else_), ("except", except_), ("False", false_), ("finally", finally_),
   ("for", for_), ("from", from_), ("global", global_), ("if", if_), ("import", import_),
   ("in", in_), ("is", is_), ("lambda", lambda_), ("None", none_), ("nonlocal", nonlocal_),
   ("not", not_), ("or", or_), ("pass", pass_), ("raise", raise_), ("return", return_),
   ("True", true_), ("try", try_), ("while", while_), ("with", with_), ("yield", yield_)]

def ofString? (s : String) : Option Keyword := spellings.lookup s

end Keyword

namespace Symbol

def split? : List Char → Option (Symbol × List Char)
  | '*' :: '*' :: '=' :: r => some (doubleStarEquals, r)
  | '/' :: '/' :: '=' :: r => some (doubleSlashEquals, r)
  | '<' :: '<' :: '=' :: r => some (shiftLeftEquals, r)
  | '>' :: '>' :: '=' :: r => some (shiftRightEquals, r)
  | '.' :: '.' :: '.' :: r => some (ellipsis, r)
  | '*' :: '*' :: r => some (doubleStar, r)
  | '/' :: '/' :: r => some (doubleSlash, r)
  | '<' :: '<' :: r => some (shiftLeft, r)
  | '>' :: '>' :: r => some (shiftRight, r)
  | '-' :: '>' :: r => some (arrow, r)
  | ':' :: '=' :: r => some (walrus, r)
  | '=' :: '=' :: r => some (equal, r)
  | '!' :: '=' :: r => some (notEqual, r)
  | '<' :: '=' :: r => some (lessEqual, r)
  | '>' :: '=' :: r => some (greaterEqual, r)
  | '+' :: '=' :: r => some (plusEquals, r)
  | '-' :: '=' :: r => some (minusEquals, r)
  | '*' :: '=' :: r => some (starEquals, r)
  | '/' :: '=' :: r => some (slashEquals, r)
  | '%' :: '=' :: r => some (percentEquals, r)
  | '@' :: '=' :: r => some (atEquals, r)
  | '&' :: '=' :: r => some (ampersandEquals, r)
  | '|' :: '=' :: r => some (barEquals, r)
  | '^' :: '=' :: r => some (caretEquals, r)
  | '<' :: '>' :: _ => none
  | '(' :: r => some (openParen, r)
  | ')' :: r => some (closeParen, r)
  | '[' :: r => some (openBracket, r)
  | ']' :: r => some (closeBracket, r)
  | '{' :: r => some (openBrace, r)
  | '}' :: r => some (closeBrace, r)
  | ':' :: r => some (colon, r)
  | ',' :: r => some (comma, r)
  | ';' :: r => some (semicolon, r)
  | '.' :: r => some (dot, r)
  | '=' :: r => some (equals, r)
  | '+' :: r => some (plus, r)
  | '-' :: r => some (minus, r)
  | '*' :: r => some (star, r)
  | '/' :: r => some (slash, r)
  | '%' :: r => some (percent, r)
  | '@' :: r => some (at_, r)
  | '&' :: r => some (ampersand, r)
  | '|' :: r => some (bar, r)
  | '^' :: r => some (caret, r)
  | '~' :: r => some (tilde, r)
  | '<' :: r => some (less, r)
  | '>' :: r => some (greater, r)
  | _ => none

def closing? : Symbol → Option Symbol
  | openParen => some closeParen
  | openBracket => some closeBracket
  | openBrace => some closeBrace
  | _ => none

def isClosing (s : Symbol) : Bool := s == closeParen || s == closeBracket || s == closeBrace

end Symbol

end DataDiagram.Source

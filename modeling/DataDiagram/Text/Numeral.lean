import DataDiagram.Text.CharTable
/-!
# Numerals

A numeral is any character that denotes a number: digits of every script, fractions, roman and
ideographic numerals.  A decimal digit is a numeral that can be written in positional notation.
-/

namespace DataDiagram.Text

def numeralTable : CharTable := .ofNumbers 0 [
  178,1,5,0,2,2,1441,9,134,9,198,9,412,9,118,9,4,5,108,9,118,9,118,9,2,5,110,12,115,9,8,6,103,9,
  104,6,7,18,109,9,96,9,118,9,70,19,268,9,70,9,719,19,881,2,239,9,6,9,22,9,300,9,128,10,165,9,6,
  9,182,9,86,9,134,9,6,9,1046,0,3,5,6,9,198,50,2,4,726,59,78,21,630,29,1385,0,777,0,25,8,14,2,
  343,3,138,9,30,7,1,14,32,9,39,14,325,0,125,0,934,0,802,0,4786,0,2,0,3,0,1,0,83,0,46,0,7,0,1,0,
  40,1,30,0,8,0,36,0,98,0,403,0,65,0,34,0,1,0,1,0,467,0,1,2,6,0,116,3,790,0,533,0,7,0,1408,0,131,
  1,12,2,1,0,1005,0,77,0,1157,0,1843,0,1167,0,743,0,2567,0,933,0,2177,0,4,0,124,0,2288,0,36,0,5,
  0,43,0,125,0,3881,9,188,9,320,5,154,9,38,9,198,9,22,9,86,9,406,9,19825,0,7,0,4,0,57,0,30,0,1,0,
  41,0,1298,9,493,44,12,56,17,1,341,26,36,3,29,0,8,0,134,4,202,9,942,7,25,6,39,8,75,4,22,5,160,1,
  2,15,2,45,64,8,52,1,30,2,75,4,104,7,24,7,41,6,330,5,48,9,294,30,158,9,42,3,112,6,134,29,128,9,
  60,9,144,9,7,19,251,9,342,9,118,9,374,9,102,9,102,11,420,18,93,9,758,28,227,9,70,9,534,20,1067,
  110,17905,9,86,9,134,9,1,6,798,22,25673,19,108,24,1109,49,2368,9,422,9,1485,8,128,9,791,58,1,2,
  1,3,76,44,1,14,962,12,2787,9,1031,0,98,0,125,0,62,0,2056,0,88,0,8,0,15,0,333,0,18,0,27,0,6262,
  0,1543,0,4482,0,10065,0,38434,0]

def isNumeral (c : Char) : Bool :=
  if c.toNat < 128 then c.isDigit else numeralTable.contains c

/-- The zeros of the decimal systems beyond the first 128 characters; the nine code points after a
zero are the other digits of its system. -/
def decimalZeros : List Nat := [
  0x660, 0x6f0, 0x7c0, 0x966, 0x9e6, 0xa66, 0xae6, 0xb66, 0xbe6, 0xc66, 0xce6, 0xd66, 0xde6,
  0xe50, 0xed0, 0xf20, 0x1040, 0x1090, 0x17e0, 0x1810, 0x1946, 0x19d0, 0x1a80, 0x1a90, 0x1b50,
  0x1bb0, 0x1c40, 0x1c50, 0xa620, 0xa8d0, 0xa900, 0xa9d0, 0xa9f0, 0xaa50, 0xabf0, 0xff10,
  0x104a0, 0x10d30, 0x11066, 0x110f0, 0x11136, 0x111d0, 0x112f0, 0x11450, 0x114d0, 0x11650,
  0x116c0, 0x11730, 0x118e0, 0x11950, 0x11c50, 0x11d50, 0x11da0, 0x16a60, 0x16ac0, 0x16b50,
  0x1d7ce, 0x1d7d8, 0x1d7e2, 0x1d7ec, 0x1d7f6, 0x1e140, 0x1e2f0, 0x1e950, 0x1fbf0]

def decimalValue? (c : Char) : Option Nat :=
  let n := c.toNat
  if n < 128 then
    if c.isDigit then some (n - 48) else none
  else
    (decimalZeros.find? fun first => first ≤ n && n < first + 10).map (n - ·)

/-- The number that a non-empty text of decimal digits denotes in base ten. -/
def decimalNumber? : List Char → Option Nat
  | [] => none
  | cs => cs.foldlM (fun acc c => (decimalValue? c).map (acc * 10 + ·)) 0

end DataDiagram.Text

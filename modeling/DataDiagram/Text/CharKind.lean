import DataDiagram.Text.CharTable
/-!
# Kinds of characters

What the characters beyond the first 128 can be used for.  There are seven kinds: 0 for what cannot
be printed, 1 for letters, 2 for other characters that can be printed, 3 for marks, 4 for numerals,
5 for digits, and 6 for letters that are no letters of words.
-/

namespace DataDiagram.Text

namespace CharTable

/-- The characters of each kind, run after run.  The digits of the runs are read from the right, up
to the first one. -/
def kindTable : List Nat := [
  0x1278f927f89068a0107931195a1279470925b49c92e91214d5b5b96997a08ae23ab23ba22a21423212397a01912f0cb,
  0x1229096c205d127da93097a48979a7cc0a021991890e9196a5a7ea1e32292292327ec00a7191bc5c1748c048aa197b,
  0x10f4c22ca4b7890271a1da04c977b11a13f10b4aa193717a093f1cb4893b911991d9971fa49b3175b911979489090b,
  0x17c1909489729790095a31e11a72975d1376a69103d04aa70972e01a2d9248919290895d12f911a4ed3cb04ca0cc4e,
  0x11a04e1375b00903d04aa07901f01a7f2379294892d106a2d3691a7295a7b0370900900903d04aa7095a4c01a732119,
  0x1696a079694c0137f7c12489729790095a1a2d1a72975d1375b00903d04aa70972e01a06c12d19489729092c9171a0,
  0x12d48972909717790292d0b01a05d1372d903ba07902e7b4b3e2a4893b933c170b01a697b5a69969796909690901009,
  0x1729796d3795a210b01a05d1291bc07901f0b4a9090489729090093c292d0b01a05d1375b008903ba07902e21a126d2,
  0x130890102ca05b010094fb1948924e3d25a5d51329d59922974893c4e0306c5a3693d7101f02ca690f901a04c24f489,
  0x1489109a7cc4fb6a905c33e00fb01995b29209a5a6eb02e297a3232323894895c294ba11bb6a748976c0105b713f51,
  0x119e03c976a0103d76a01cb76a01bc76a0103d76a05acc27cc714b1048c190b489310a95a90b795d091a11a6a0b4c5c,
  0x105a9599290f90f191a7f90f0b0f92d7890a788969190ea01e9196db89274c74a993c1892d9692995f2f1a779f76a0,
  0x15b749b489196925a0a95a0a903ab7f4cf4b130db595b2d1d993c489301a0993c3893c4897317a10a4bb6cd59929079,
  0x11a00993f2e9489692e3e938d7b0ad4d926b975c14d3c4893c4893778b02895dd1977b3ba1db693993c0ea5a6dc689,
  0x174c74aeb4fe2fca4b11a0934c36a79a21a1e3e7977cc2d1f196eb48979694896b6909a6eb7a1e6b96dc489097a949b,
  0x16b38916b7c7140e9189308a294c91e3ca0e9193d07970a5a90a04c76a0a3d0790a123d05dd73ab01010102e74c748c,
  0x10990da4b8995a1941bc5d9217a5b6b6a1978966a2121215c5b619120891917a1192c90a90a37a7a92c92cb695a90,
  0x103d03d03d03d03d0f3ba33b9212d28e714b1048c1947a4b091a6a5c5f8b2bb903bb73bcd979b5ec897aa5b891ce49a,
  0x107cc4b6a20e99279192974a9900a5b195b26c1f2da797a4b7997da5afa5992d9901ea7cb5fc448d4bb03d03d03d,
  0x12d90a5adb194fc0f4fd695afedc3fe2f8ab93fac6c949c3893bb6c925e59b38904ab2d95997eb2bb1891b19049a9,
  0x11e7a6cd3c7a7c6937a7b3ba36a37932d91ca5b010094b2fe1939b9191f4ba1e5c292d89293ab22897a338d58a09489,
  0x10f6b91bc05b48908935b195a489106a96b938d0b6958b26897a93ba194e6fa489309210a4c2f93c489191e2f90bd29,
  0x124e7bc95a194b927cc03d03d0f4c74c74c7f2979197b78919791ca131295b29091a130bd1a10a3ba7a74897292e379,
  0x10efa7c78f91d92e96db90090090105b05a92089314b5b5993d38c0cb974ffc5acbe91ad5a3ba5996ed8ba3c489729,
  0x10ea237a0ea4d4894c95a4dd94141414140414145a7a008a00a1a3ca290a4d93c1894d97a390891bb22d4ed72fe1f9,
  0x100a392e91b5dd2f690fc5a0a4b7ad97cb4b973c900907f900ea06997194a94d04d697974c74c74c693ab4928e099,
  0x12ac5a6eb5a6eb3c4897499a7bc5b22e5a6eb2049b4b7b48c4b49b0f1b2bb5a2fa32c91ad6958b78e936ec28d2696a9,
  0x1193ba5e203ba71690906dc0174c4bf1f00cc04c1ca2e7f4aa0f3f9c69f0903d03c9078900903d03c9078926896cd1e,
  0x123958b2d2f2d4f35a1a758b07906a0b4b2901a17fc75d909395a28e1fe24b0ea2697c4aa0c4b0907f919d4f1e3ab6d,
  0x1388c4891e0b6eb7c2d7bd4a97bd2fd1ff1d896d5997a2d0f95e4b7f95e74aa4d694ed0f4d0c5a296fa22e1bb2a58b,
  0x15ec0b0f12909348919a5a4d5c95dd1a0f3ba58a6d59a38c7a0b0f93aa6b1b1994aa1e138958b3b8909722900cc06ab,
  0x10a91da00f968919a00a1214892920b7a6a6b929d1a0f11937db1e12917a48906b96eb1a3c4892d1da4a937a019199,
  0x168f97b695d7295b4b33c171a72975d12905b00903d04aa70972e00b3c4894b0a938d3c208903c906a0103d08f35c,
  0x13c217a97cc6f96a93c48968910a3e929d7cb296a4ba3f75d38d38aa4891e120909a29d39b79320194896b6a2f95dd,
  0x139c72e3cf4890f0a291310b72906c2ca00902e7172e5994f4892fe5ea925c96dc09ca3d7a394895a5c977ea3ed489,
  0x10ff6b906aa749b196928a4897f6b14e04e5fb01f2dcb1ff4a96b10a4d94fc19911e33e0b15d2ac28916ea31215d75d,
  0x138c938b90ecc924a968b0aa2c912fba190b7f93e9c4892d17b02907b2bb00904c3c4891e315d02903696c48c00903d,
  0x17f196a2f5d29d7f27b749b3c48903c89195a48903ab2d19ef098ee93dff0eafe38de94a9191ca9598cc6ada6896b0,
  0x106a299af91f7bc4af8a1e28fba93b929689312091fe5a90b2d5fd135a78894fa97a6ba2fe19b997f94b59a06d0489,
  0x10a7b7be749c7f5eab5be7cc90f5ba76fc1ba889229270892d1f695a94b7cb95acfb69bd1e6a0e9794ec7dfb00903d,
  0x103d02e76a018f03d01069906a7097170903df059992de94da0f4b9959919a7d8a21a19f49a6ce0b59b5d194e1e6c,
  0x107b2c94d35b933e2bd7a5fd3ffe4bd72e21da23ab21da23ab21da23ab21da23ab21da21da768dc03d69105b06a06fa,
  0x103c900906a03d1b89a24b4890b6dc0e9349b1fac215a48973d5d695ec49fa7b02905d73e905d0c8b3ab1d8f95c9,
  0x10790101015a13c10106a0089017100907ea06a78da6c920fc59891b22a22be0eda9195a4895a15d6af0bc5d4f75bda,
  0x10b97f6fb04c904c974c95997ea95a7dc3bdb195cd1e905b0794b1e900890106a06a03d06a71009010101010171009,
  0x11e3ac3c1891e38e5a7992c925a7992d2d995997cc9696a9693d94b3cbd97d8a5c3b9192d2f5a7dc4a968b18e2c9a,
  0x119e8f1bb2b889993c8e94894fb4fd0088a0f4d1e3e3c1897f5c4b0996968b0f4d696b696b75b959978dc3b8919759b,
  0x149ab4dfff8ba78cb897ccca49bf2abad1a9ec93b909ee997498b2d]

/-- The numbers that are made of the digits of `n`.  A digit below 8 ends a number, and `high` is
what stands before it. -/
def numbersOf (high n : Nat) : (digits : Nat) → List Nat
  | 0 => []
  | digits + 1 =>
    if n ≤ 1 then []
    else if n % 16 < 8 then (8 * high + n % 16) :: numbersOf 0 (n / 16) digits
    else numbersOf (8 * high + n % 16 - 8) (n / 16) digits

/-- A run is 7 times the number of its characters but one, and their kind. -/
def ofRuns (kinds : List Nat) (next : Nat) : List Nat → CharTable
  | [] => []
  | run :: rest =>
    let last := next + run / 7
    if kinds.contains (run % 7) then (next, last) :: ofRuns kinds (last + 1) rest
    else ofRuns kinds (last + 1) rest

/-- The characters of some kinds. -/
def ofKinds (kinds : List Nat) : CharTable :=
  ofRuns kinds 128 (kindTable.flatMap fun n => numbersOf 0 n 100)

end CharTable

def printableTable : CharTable := .ofKinds [1, 2, 3, 4, 5, 6]

/-- Neither a control, a format character, a private or unassigned code point, nor a separator other
than the space. -/
def isPrintable (c : Char) : Bool :=
  let n := c.toNat
  if n < 128 then 32 ≤ n && n < 127 else printableTable.contains c

def alphanumericTable : CharTable := .ofKinds [1, 4, 5]

def isAlphanumeric (c : Char) : Bool :=
  if c.toNat < 128 then c.isAlphanum else alphanumericTable.contains c

def isWordChar (c : Char) : Bool := isAlphanumeric c || c == '_'

def identifierStartTable : CharTable := .ofKinds [1, 6]

def identifierContinueTable : CharTable := .ofKinds [1, 3, 5, 6]

/-- A letter of any script, a letter-like numeral, or the low line. -/
def isIdentifierStart (c : Char) : Bool :=
  if c.toNat < 128 then c.isAlpha || c == '_' else identifierStartTable.contains c

def isIdentifierContinue (c : Char) : Bool :=
  if c.toNat < 128 then c.isAlphanum || c == '_' else identifierContinueTable.contains c

def isIdentifier : List Char → Bool
  | [] => false
  | c :: rest => isIdentifierStart c && rest.all isIdentifierContinue

end DataDiagram.Text

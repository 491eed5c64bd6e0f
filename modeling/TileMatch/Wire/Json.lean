import TileMatch.Binary32.Decimal

/-!
# JSON documents

The tree of a JSON document, and how it is read from text: the text is cut into tokens, and the
tokens are put together. Both steps fail as soon as the text leaves the grammar.

A text literal whose escapes leave half a surrogate pair is no text; it is kept without content, so
that it may still be passed over.
-/

namespace TileMatch.Wire

/-- A JSON document. -/
inductive Json where
  | null
  | bool (value : Bool)
  /-- A number without fraction and exponent; minus zero is not one. -/
  | integer (value : Int)
  | decimal (value : Decimal)
  | text (content : Option String)
  | array (items : List Json)
  | object (members : List (Option String × Json))
  deriving Repr

namespace Json

/-- The smallest pieces of a document. -/
inductive Token where
  | openBracket
  | closeBracket
  | openBrace
  | closeBrace
  | comma
  | colon
  | null
  | bool (value : Bool)
  | integer (value : Int)
  | decimal (value : Decimal)
  | text (content : Option String)
  deriving DecidableEq, Repr

/-- Whether a character only separates tokens. -/
def isSpace (c : Char) : Bool := c == ' ' || c == '\t' || c == '\n' || c == '\r'

/-- The value of a hexadecimal digit. -/
def hexDigit? (c : Char) : Option Nat :=
  if '0' ≤ c ∧ c ≤ '9' then some (c.toNat - '0'.toNat)
  else if 'a' ≤ c ∧ c ≤ 'f' then some (c.toNat - 'a'.toNat + 10)
  else if 'A' ≤ c ∧ c ≤ 'F' then some (c.toNat - 'A'.toNat + 10)
  else none

/-- The value of hexadecimal digits, the greatest first. -/
def hexValue? (digits : List Char) : Option Nat :=
  digits.foldlM (fun value digit => (hexDigit? digit).map (16 * value + ·)) 0

/-- The character that an escape of one letter stands for. -/
def escaped? : Char → Option Char
  | '"' => some '"'
  | '\\' => some '\\'
  | '/' => some '/'
  | 'b' => some '\x08'
  | 'f' => some '\x0c'
  | 'n' => some '\n'
  | 'r' => some '\r'
  | 't' => some '\t'
  | _ => none

/-- The code units of a text literal up to its closing quote, and what follows it. Characters stand
for themselves; a numeric escape is one unit and may be half a surrogate pair. -/
def textUnits : List Char → Option (List Nat × List Char)
  | [] => none
  | '"' :: rest => some ([], rest)
  | '\\' :: 'u' :: a :: b :: c :: d :: rest =>
    (hexValue? [a, b, c, d]).bind fun unit =>
      (textUnits rest).map fun result => (unit :: result.1, result.2)
  | '\\' :: c :: rest =>
    (escaped? c).bind fun character =>
      (textUnits rest).map fun result => (character.toNat :: result.1, result.2)
  | c :: rest =>
    if c.toNat < 0x20 then none
    else (textUnits rest).map fun result => (c.toNat :: result.1, result.2)

/-- The characters for code units; halves of a surrogate pair belong together. -/
def charsOfUnits : List Nat → Option (List Char)
  | [] => some []
  | [unit] => if 0xd800 ≤ unit ∧ unit < 0xe000 then none else some [Char.ofNat unit]
  | unit :: next :: rest =>
    if 0xd800 ≤ unit ∧ unit < 0xdc00 then
      if 0xdc00 ≤ next ∧ next < 0xe000 then
        (charsOfUnits rest).map
          (Char.ofNat (0x10000 + (unit - 0xd800) * 0x400 + (next - 0xdc00)) :: ·)
      else none
    else if 0xdc00 ≤ unit ∧ unit < 0xe000 then none
    else (charsOfUnits (next :: rest)).map (Char.ofNat unit :: ·)

/-- The digits at the start of a text, and what follows them. -/
def digits (characters : List Char) : List Char × List Char :=
  (characters.takeWhile Char.isDigit, characters.dropWhile Char.isDigit)

/-- The digits of the fraction of a number, none without a point, and what follows. -/
def fraction? : List Char → Option (List Char × List Char)
  | '.' :: rest =>
    let (fraction, rest) := digits rest
    if fraction.isEmpty then none else some (fraction, rest)
  | rest => some ([], rest)

/-- The exponent of a number, `none` inside without one, and what follows. -/
def exponent? : List Char → Option (Option Int × List Char)
  | [] => some (none, [])
  | c :: rest =>
    if c = 'e' ∨ c = 'E' then
      let (negative, rest) := match rest with
        | '+' :: rest => (false, rest)
        | '-' :: rest => (true, rest)
        | rest => (false, rest)
      let (power, rest) := digits rest
      if power.isEmpty then none
      else
        let size := Decimal.digitsValue power
        some (some (if negative then -(size : Int) else size), rest)
    else some (none, c :: rest)

/-- The token of a number, and what follows it. A leading zero stands alone. -/
def number? (characters : List Char) : Option (Token × List Char) :=
  let (negative, characters) := match characters with
    | '-' :: rest => (true, rest)
    | rest => (false, rest)
  let (whole, rest) := digits characters
  if whole.isEmpty || (whole.head? == some '0' && 1 < whole.length) then none
  else
    (fraction? rest).bind fun (fraction, rest) =>
      (exponent? rest).map fun (exponent, rest) =>
        let coefficient := Decimal.digitsValue (whole ++ fraction)
        if fraction.isEmpty && exponent.isNone && !(negative && coefficient == 0) then
          (.integer (if negative then -(coefficient : Int) else coefficient), rest)
        else (.decimal ⟨negative, coefficient, exponent.getD 0 - fraction.length⟩, rest)

/-- The first token of a text that does not start with a space, and what follows it. -/
def token? : List Char → Option (Token × List Char)
  | '[' :: rest => some (.openBracket, rest)
  | ']' :: rest => some (.closeBracket, rest)
  | '{' :: rest => some (.openBrace, rest)
  | '}' :: rest => some (.closeBrace, rest)
  | ',' :: rest => some (.comma, rest)
  | ':' :: rest => some (.colon, rest)
  | 'n' :: 'u' :: 'l' :: 'l' :: rest => some (.null, rest)
  | 't' :: 'r' :: 'u' :: 'e' :: rest => some (.bool true, rest)
  | 'f' :: 'a' :: 'l' :: 's' :: 'e' :: rest => some (.bool false, rest)
  | '"' :: rest =>
    (textUnits rest).map fun result =>
      (.text ((charsOfUnits result.1).map String.ofList), result.2)
  | rest => number? rest

/-- The tokens of a text. The first argument bounds the length of the text. -/
def tokensWithin : Nat → List Char → Option (List Token)
  | _, [] => some []
  | 0, _ :: _ => none
  | bound + 1, c :: rest =>
    if isSpace c then tokensWithin bound rest
    else
      (token? (c :: rest)).bind fun result =>
        (tokensWithin bound result.2).map (result.1 :: ·)

/-- The tokens of a text. -/
def tokens? (characters : List Char) : Option (List Token) :=
  tokensWithin characters.length characters

mutual

/-- The document at the start of the tokens, and what follows it. The first argument bounds the
number of tokens, here and below. -/
def documentWithin : Nat → List Token → Option (Json × List Token)
  | _ + 1, .null :: rest => some (.null, rest)
  | _ + 1, .bool value :: rest => some (.bool value, rest)
  | _ + 1, .integer value :: rest => some (.integer value, rest)
  | _ + 1, .decimal value :: rest => some (.decimal value, rest)
  | _ + 1, .text content :: rest => some (.text content, rest)
  | _ + 1, .openBracket :: .closeBracket :: rest => some (.array [], rest)
  | bound + 1, .openBracket :: rest =>
    (itemsWithin bound rest).map fun result => (.array result.1, result.2)
  | _ + 1, .openBrace :: .closeBrace :: rest => some (.object [], rest)
  | bound + 1, .openBrace :: rest =>
    (membersWithin bound rest).map fun result => (.object result.1, result.2)
  | _, _ => none

/-- One or more items and the end of their array. -/
def itemsWithin : Nat → List Token → Option (List Json × List Token)
  | 0, _ => none
  | bound + 1, tokens =>
    (documentWithin bound tokens).bind fun (item, rest) =>
      match rest with
      | .comma :: rest => (itemsWithin bound rest).map fun result => (item :: result.1, result.2)
      | .closeBracket :: rest => some ([item], rest)
      | _ => none

/-- One or more members and the end of their object. -/
def membersWithin : Nat → List Token → Option (List (Option String × Json) × List Token)
  | bound + 1, .text name :: .colon :: rest =>
    (documentWithin bound rest).bind fun (value, rest) =>
      match rest with
      | .comma :: rest =>
        (membersWithin bound rest).map fun result => ((name, value) :: result.1, result.2)
      | .closeBrace :: rest => some ([(name, value)], rest)
      | _ => none
  | _, _ => none

end

/-- The document that tokens make up, all of them. -/
def ofTokens? (tokens : List Token) : Option Json :=
  match documentWithin tokens.length tokens with
  | some (document, []) => some document
  | _ => none

/-- The document that a text holds. -/
def ofText? (text : String) : Option Json := (tokens? text.toList).bind ofTokens?

end Json

end TileMatch.Wire

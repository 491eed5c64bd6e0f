import TileMatch.Text.Identifier
import TileMatch.Wire.Ron.Numeral

/-!
# The tokens of RON texts

A RON text is cut into tokens before it is put together. Spaces and comments separate tokens, and
block comments nest.

A backslash at the end of a line of a text literal joins it to the next line, without the spaces
there. Two numbers with two points between them are one token, a range; either number may be left
out, and nothing may stand in between.

An opening parenthesis tells what it seems to hold. This is seen from the characters up to the first
comma between its parts, or up to where it is closed; a byte beyond ASCII in quotes is not known
there as a literal, so that its quotes count as characters like any others.
-/

namespace TileMatch.Wire.Ron

/-- What parentheses seem to hold. -/
inductive Contents where
  /-- Parts that begin with a name and a colon. -/
  | named
  | one
  | several
  deriving DecidableEq, Repr

/-- The smallest pieces of a document. -/
inductive Token where
  /-- One of the characters that stand alone. -/
  | mark (c : Char)
  /-- An opening parenthesis, unless what follows it cannot be read to the end. -/
  | opening (contents : Option Contents)
  /-- An opening parenthesis and the closing one right behind it. -/
  | unit
  | word (name : String)
  /-- A name written after `r#`, which never stands for a value. -/
  | rawWord (name : String)
  | numeral (characters : List Char)
  | byte (value : Nat)
  | character (value : Char)
  | text (content : String)
  | bytes
  | range
  deriving DecidableEq, Repr

/-- The name that a token is. -/
def Token.name? : Token → Option String
  | word name => some name
  | rawWord name => some name
  | _ => none

/-- Whether a character only separates tokens. -/
def isSpace (c : Char) : Bool :=
  c == ' ' || c == '\t' || c == '\n' || c == '\r' || c == '\x0b' || c == '\x0c' ||
    c == '\u0085' || c == '\u200e' || c == '\u200f' || c == '\u2028' || c == '\u2029'

/-- Whether a character is a token by itself. -/
def isMark (c : Char) : Bool :=
  c == ')' || c == '[' || c == ']' || c == '{' || c == '}' || c == ',' || c == ':' || c == '#' ||
    c == '!' || c == '='

/-- What follows a block comment that is open a number of times. -/
def afterComment? : Nat → List Char → Option (List Char)
  | 0, rest => some rest
  | _ + 1, [] => none
  | level + 1, '/' :: '*' :: rest => afterComment? (level + 2) rest
  | level + 1, '*' :: '/' :: rest => afterComment? level rest
  | level + 1, _ :: rest => afterComment? (level + 1) rest

/-- What follows spaces and comments. The first argument bounds the length of the text. -/
def afterSpace? : Nat → List Char → Option (List Char)
  | bound + 1, '/' :: '/' :: rest => afterSpace? bound (rest.dropWhile (· != '\n'))
  | bound + 1, '/' :: '*' :: rest => (afterComment? 1 rest).bind (afterSpace? bound)
  | _, '/' :: _ => none
  | bound + 1, c :: rest => if isSpace c then afterSpace? bound rest else some (c :: rest)
  | _, characters => some characters

/-- The character that a letter after a backslash stands for. -/
def escapedBy? : Char → Option Char
  | '\'' => some '\''
  | '"' => some '"'
  | '\\' => some '\\'
  | 'n' => some '\n'
  | 'r' => some '\r'
  | 't' => some '\t'
  | '0' => some '\x00'
  | _ => none

/-- The character for the bytes of one escaped character in UTF-8, if they are complete. -/
def charOfBytes? (bytes : List Nat) : Option Char :=
  (String.fromUTF8? ⟨(bytes.map UInt8.ofNat).toArray⟩).bind fun text => text.toList.head?

/-- The character that one to four escaped bytes stand for, the first of them given, and what
follows them. -/
def byteEscape? : Nat → List Nat → List Char → Option (Char × List Char)
  | 0, _, _ => none
  | more + 1, escaped, characters =>
    match charOfBytes? escaped with
    | some c => some (c, characters)
    | none =>
      match characters with
      | '\\' :: 'x' :: a :: b :: rest =>
        (Json.hexValue? [a, b]).bind fun next => byteEscape? more (escaped ++ [next]) rest
      | _ => none

/-- The character for one to six hexadecimal digits up to a closing brace, and what follows. -/
def unicodeEscape? (characters : List Char) : Option (Char × List Char) :=
  let digits := characters.takeWhile (· != '\x7d')
  let rest := characters.dropWhile (· != '\x7d')
  if digits.isEmpty || 6 < digits.length || rest.isEmpty then none
  else
    (Json.hexValue? digits).bind fun code =>
      if code.isValidChar then some (Char.ofNat code, rest.drop 1) else none

/-- The character for an escape after its backslash, and what follows it. A character literal
escapes one byte at most. -/
def escape? (maximalBytes : Nat) : List Char → Option (Char × List Char)
  | 'x' :: a :: b :: rest =>
    (Json.hexValue? [a, b]).bind fun byte => byteEscape? maximalBytes [byte] rest
  | 'u' :: '{' :: rest => unicodeEscape? rest
  | c :: rest => (escapedBy? c).map fun character => (character, rest)
  | [] => none

/-- The character of a literal after its opening quote, and what follows it. -/
def character? : List Char → Option (Char × List Char)
  | '\\' :: rest =>
    (escape? 1 rest).bind fun (c, rest) =>
      match rest with
      | '\'' :: rest => some (c, rest)
      | _ => none
  | c :: '\'' :: rest => some (c, rest)
  | _ => none

/-- What follows the end of a line after a backslash, and the spaces of the next line. -/
def continued? (characters : List Char) : Option (List Char) :=
  let isLineSpace (c : Char) : Bool := c == ' ' || c == '\t' || c == '\n' || c == '\r'
  match characters with
  | '\n' :: rest => some (rest.dropWhile isLineSpace)
  | '\r' :: '\n' :: rest => some (rest.dropWhile isLineSpace)
  | _ => none

/-- The characters of a text literal up to its closing quote, and what follows it. The first
argument bounds the length of the text. -/
def quotedWithin : Nat → List Char → Option (List Char × List Char)
  | bound + 1, c :: rest =>
    if c = '"' then some ([], rest)
    else
      match if c = '\\' then continued? rest else none with
      | some rest => quotedWithin bound rest
      | none =>
        (if c = '\\' then escape? 4 rest else some (c, rest)).bind fun (c, rest) =>
          (quotedWithin bound rest).map fun result => (c :: result.1, result.2)
  | _, _ => none

/-- The characters of a raw text literal up to a quote and a number of hash signs, and what follows
them. -/
def raw? (hashes : Nat) : List Char → Option (List Char × List Char)
  | [] => none
  | c :: rest =>
    if c = '"' ∧ rest.take hashes = List.replicate hashes '#' then some ([], rest.drop hashes)
    else (raw? hashes rest).map fun result => (c :: result.1, result.2)

/-- A raw text literal after its letter, and what follows it. -/
def rawText? (characters : List Char) : Option (List Char × List Char) :=
  let hashes := (characters.takeWhile (· == '#')).length
  match characters.drop hashes with
  | '"' :: rest => raw? hashes rest
  | _ => none

/-- What follows an escape in a byte text literal, given what follows its backslash. Any byte may be
escaped. -/
def afterByteEscape? : List Char → Option (List Char)
  | 'x' :: a :: b :: rest => (Json.hexValue? [a, b]).map fun _ => rest
  | 'u' :: '{' :: rest => (unicodeEscape? rest).map Prod.snd
  | c :: rest => (escapedBy? c).map fun _ => rest
  | [] => none

/-- What a text begins with. -/
inductive Beginning where
  /-- A literal, with what follows it. -/
  | literal (rest : List Char)
  | openLiteral
  | otherwise

/-- What a text or byte text literal is, given how an escape is passed over behind its backslash and
what follows its opening quote. The first argument bounds the length of the text. -/
def literalWithin (afterEscape? : List Char → Option (List Char)) : Nat → List Char → Beginning
  | _ + 1, '"' :: rest => .literal rest
  | bound + 1, '\\' :: rest =>
    if rest.contains '"' then
      ((continued? rest).or (afterEscape? rest)).elim .otherwise (literalWithin afterEscape? bound)
    else .openLiteral
  | bound + 1, _ :: rest => literalWithin afterEscape? bound rest
  | _, _ => .openLiteral

/-- What follows a byte text literal, whose content is not kept, after its opening quote. The first
argument bounds the length of the text. -/
def afterByteText? (bound : Nat) (characters : List Char) : Option (List Char) :=
  match literalWithin afterByteEscape? bound characters with
  | .literal rest => some rest
  | _ => none

/-- The value of a byte literal after its opening quote, and what follows it. -/
def byte? : List Char → Option (Nat × List Char)
  | '\\' :: 'x' :: a :: b :: '\'' :: rest => (Json.hexValue? [a, b]).map fun byte => (byte, rest)
  | '\\' :: c :: '\'' :: rest => (escapedBy? c).map fun character => (character.toNat, rest)
  | c :: '\'' :: rest => if c != '\\' && c.toNat < 128 then some (c.toNat, rest) else none
  | _ => none

/-- The names that stand for numbers, by themselves or with a suffix. -/
def numberNames : List String := ["inf", "inff32", "inff64", "NaN", "NaNf32", "NaNf64"]

/-- The name at the start of a text, and what follows it. -/
def splitName (characters : List Char) : String × List Char :=
  (String.ofList (characters.takeWhile Text.isNamePart), characters.dropWhile Text.isNamePart)

/-- The number at the start of a text, and what follows it. -/
def number? : List Char → Option (Token × List Char)
  | [] => none
  | 'b' :: '\'' :: rest => (byte? rest).map fun result => (.byte result.1, result.2)
  | c :: rest =>
    if Text.isNameStart c then
      let (name, rest) := splitName (c :: rest)
      if name ∈ numberNames then some (.word name, rest) else none
    else
      let (numeral, rest) := splitNumeral (c :: rest)
      if isNumeral numeral then some (.numeral numeral, rest) else none

/-- What follows a range, from its two points on. With an equals sign it needs a second number. -/
def afterRange? : List Char → Option (List Char)
  | '.' :: '.' :: '=' :: rest => (number? rest).map Prod.snd
  | '.' :: '.' :: rest => some (((number? rest).map Prod.snd).getD rest)
  | _ => none

/-- The token of a number, or of the range that begins with it, and what follows. -/
def numberOrRange? (characters : List Char) : Option (Token × List Char) :=
  (number? characters).map fun (token, rest) =>
    match afterRange? rest with
    | some rest => (.range, rest)
    | none => (token, rest)

/-- Whether a raw name goes on with a character. -/
def isRawNamePart (c : Char) : Bool := c == '.' || c == '+' || c == '-' || Text.isNamePart c

/-- The name at the start of a text, raw or not, and what follows it. A text or byte literal is no
name. -/
def name? : List Char → Option (Token × List Char)
  | [] => none
  | 'b' :: '"' :: _ => none
  | 'b' :: '\'' :: _ => none
  | 'b' :: 'r' :: '"' :: _ => none
  | 'b' :: 'r' :: '#' :: _ => none
  | 'r' :: '"' :: _ => none
  | 'r' :: '#' :: rest =>
    if rest.head?.any isRawNamePart then
      some (.rawWord (String.ofList (rest.takeWhile isRawNamePart)), rest.dropWhile isRawNamePart)
    else none
  | c :: rest =>
    if Text.isNameStart c then
      let (name, rest) := splitName (c :: rest)
      some (.word name, rest)
    else none

/-- What a text begins with. A literal that breaks the rules of its characters begins nothing. The
first argument bounds the length of the text. -/
def beginning (bound : Nat) : List Char → Beginning
  | '\'' :: rest => (character? rest).elim .otherwise fun result => .literal result.2
  | '"' :: rest => literalWithin (fun rest => (escape? 4 rest).map Prod.snd) bound rest
  | 'b' :: '"' :: rest => literalWithin afterByteEscape? bound rest
  | 'b' :: 'r' :: rest => raw rest
  | 'r' :: rest => raw rest
  | _ => .otherwise
where
  /-- What a text begins with, given what follows the letter of a raw text. -/
  raw (rest : List Char) : Beginning :=
    if (rest.dropWhile (· == '#')).head? = some '"' then
      (rawText? rest).elim .openLiteral fun result => .literal result.2
    else .otherwise

/-- What the parentheses hold whose inside a text starts in, where a number of brackets is open. The
first argument bounds the length of the text. -/
def contentsWithin : Nat → Nat → List Char → Option Contents
  | _, 0, _ => some .one
  | 0, _ + 1, _ => none
  | bound + 1, level + 1, characters =>
    (afterSpace? (bound + 1) characters).bind fun characters =>
      match beginning (bound + 1) characters, characters with
      | .literal rest, _ => contentsWithin bound (level + 1) rest
      | .otherwise, c :: rest =>
        if c = '(' ∨ c = '[' ∨ c = '\x7b' then contentsWithin bound (level + 2) rest
        else if c = ')' ∨ c = ']' ∨ c = '\x7d' then contentsWithin bound level rest
        else if c = ',' ∧ level = 0 then
          (afterSpace? (bound + 1) rest).map fun rest =>
            if rest.head? = some ')' then .one else .several
        else contentsWithin bound (level + 1) rest
      | _, _ => none

/-- What parentheses seem to hold, given what follows the opening one. The first argument bounds the
length of the text. -/
def contents? (bound : Nat) (characters : List Char) : Option Contents :=
  (afterSpace? bound characters).bind fun characters =>
    match name? characters with
    | none => contentsWithin bound 1 characters
    | some (_, rest) =>
      (afterSpace? bound rest).bind fun rest =>
        if rest.head? = some ':' then some .named else contentsWithin bound 1 rest

/-- The first token of a text that starts with neither a space nor a comment, and what follows it.
The first argument bounds the length of the text. -/
def token? (bound : Nat) : List Char → Option (Token × List Char)
  | [] => none
  | '"' :: rest =>
    (quotedWithin bound rest).map fun result => (.text (String.ofList result.1), result.2)
  | '\'' :: rest => (character? rest).map fun result => (.character result.1, result.2)
  | 'b' :: '\'' :: rest => numberOrRange? ('b' :: '\'' :: rest)
  | 'b' :: '"' :: rest => (afterByteText? bound rest).map fun rest => (.bytes, rest)
  | 'b' :: 'r' :: '"' :: rest => (rawText? ('"' :: rest)).map fun result => (.bytes, result.2)
  | 'b' :: 'r' :: '#' :: rest => (rawText? ('#' :: rest)).map fun result => (.bytes, result.2)
  | '(' :: ')' :: rest => some (.unit, rest)
  | '(' :: rest => some (.opening (contents? bound rest), rest)
  | '.' :: '.' :: rest => (afterRange? ('.' :: '.' :: rest)).map fun rest => (.range, rest)
  | c :: rest =>
    if isMark c then some (.mark c, rest)
    else
      ((numberOrRange? (c :: rest)).or (name? (c :: rest))).or <|
        if c = 'r' then
          (rawText? rest).map fun result => (.text (String.ofList result.1), result.2)
        else none

/-- The tokens of a text. The first argument bounds the length of the text. -/
def tokensWithin : Nat → List Char → Option (List Token)
  | 0, _ => none
  | bound + 1, characters =>
    (afterSpace? (bound + 1) characters).bind fun characters =>
      if characters.isEmpty then some []
      else
        (token? (bound + 1) characters).bind fun result =>
          (tokensWithin bound result.2).map (result.1 :: ·)

/-- The tokens of a text. -/
def tokens? (characters : List Char) : Option (List Token) :=
  tokensWithin (characters.length + 1) characters

end TileMatch.Wire.Ron

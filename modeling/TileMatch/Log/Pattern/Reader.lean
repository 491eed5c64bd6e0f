import TileMatch.Log.Pattern
import TileMatch.Text.Alphanumeric
import TileMatch.Text.Blank

/-!
# How patterns are written

The text of a regular expression and the `Pattern` that it writes. A pattern that is verbose may
have blanks and comments nearly everywhere.

Braces are for numbers of repetitions, for code points and for properties, and none of these is
read: a value ends at the first brace that closes.
-/

namespace TileMatch

namespace Log

namespace Pattern

/-- What follows blanks and comments, in a comment or outside of one. -/
def afterBlanksIn : Bool → List Char → List Char
  | _, [] => []
  | true, c :: rest => afterBlanksIn (c != '\n') rest
  | false, c :: rest =>
    if Text.isBlank c then afterBlanksIn false rest
    else if c == '#' then afterBlanksIn true rest
    else c :: rest

/-- What follows blanks and comments, if they count for nothing. -/
def afterBlanks (verbose : Bool) (characters : List Char) : List Char :=
  if verbose then afterBlanksIn false characters else characters

/-- What an escape stands for. -/
inductive Escape where
  | single (letter : Letter)
  | shorthand (negated : Bool)
  | limit
  | wordEdge
  deriving DecidableEq, Repr

namespace Escape

/-- The pattern that an escape writes. -/
def pattern : Escape → Pattern
  | single letter => .single letter
  | shorthand negated => .shorthand negated
  | limit => .limit
  | wordEdge => .wordEdge

/-- The set that an escape writes; a place between characters is none. -/
def set? : Escape → Option CharacterSet
  | single letter => some (.single letter)
  | shorthand negated => some (.shorthand negated)
  | _ => none

/-- A character that stands for itself and is not written as a byte. -/
def plain (c : Char) : Escape := single ⟨c, false⟩

end Escape

/-- Whether a character is a hexadecimal digit. -/
def isHexDigit (c : Char) : Bool := c.isDigit || ('a' ≤ c && c ≤ 'f') || ('A' ≤ c && c ≤ 'F')

/-- The value of a hexadecimal digit. -/
def hexDigit (c : Char) : Nat :=
  if c.isDigit then c.toNat - '0'.toNat else c.toLower.toNat - 'a'.toNat + 10

/-- A number of hexadecimal digits, and what follows them. -/
def hexDigits? (verbose : Bool) : Nat → List Char → Option (List Char × List Char)
  | 0, characters => some ([], characters)
  | _ + 1, [] => none
  | count + 1, c :: rest =>
    if isHexDigit c then
      (hexDigits? verbose count (afterBlanks verbose rest)).map fun result =>
        (c :: result.1, result.2)
    else none

/-- The character of a number of hexadecimal digits, and what follows them. -/
def codePoint? (verbose : Bool) (count : Nat) (characters : List Char) :
    Option (Char × List Char) :=
  (hexDigits? verbose count (afterBlanks verbose characters)).bind fun (digits, rest) =>
    let code := digits.foldl (fun code digit => 16 * code + hexDigit digit) 0
    if code.isValidChar then some (Char.ofNat code, rest) else none

/-- What an escape stands for, given what follows its backslash, and what follows it. -/
def escape? (verbose : Bool) : List Char → Option (Escape × List Char)
  | [] => none
  | c :: rest =>
    match c with
    | 'x' => (codePoint? verbose 2 rest).map fun (c, rest) => (.single ⟨c, true⟩, rest)
    | 'u' => (codePoint? verbose 4 rest).map fun (c, rest) => (.plain c, rest)
    | 'U' => (codePoint? verbose 8 rest).map fun (c, rest) => (.plain c, rest)
    | 'd' | 's' | 'w' => some (.shorthand false, rest)
    | 'D' | 'S' | 'W' => some (.shorthand true, rest)
    | 'b' | 'B' | '<' | '>' => some (.wordEdge, rest)
    | 'A' | 'z' => some (.limit, rest)
    | 'a' => some (.plain '\x07', rest)
    | 'f' => some (.plain '\x0c', rest)
    | 't' => some (.plain '\t', rest)
    | 'n' => some (.plain '\n', rest)
    | 'r' => some (.plain '\r', rest)
    | 'v' => some (.plain '\x0b', rest)
    | c => if c.toNat < 128 && !c.isAlphanum then some (.plain c, rest) else none

/-- The names of the sets of characters that are written between colons. -/
def setNames : List String :=
  ["alnum", "alpha", "ascii", "blank", "cntrl", "digit", "graph", "lower", "print", "punct",
    "space", "upper", "word", "xdigit"]

/-- Whether a set with a name is negated, given what follows its opening bracket, and what follows
it. -/
def namedSet? : List Char → Option (Bool × List Char)
  | ':' :: rest =>
    let negated := rest.head? == some '^'
    let (name, rest) := (if negated then rest.drop 1 else rest).span (· != ':')
    match rest with
    | ':' :: ']' :: rest => if String.ofList name ∈ setNames then some (negated, rest) else none
    | _ => none
  | _ => none

/-- An end of a range in a set, or an item by itself, and what follows it. -/
def setItem? (verbose : Bool) : List Char → Option (Escape × List Char)
  | [] => none
  | '\\' :: rest => escape? verbose rest
  | c :: rest => some (.plain c, rest)

/-- The character behind a hyphen that tells whether the hyphen makes a range. Of a comment only the
mark that opens it is passed over. -/
def behindHyphen? (verbose : Bool) (characters : List Char) : Option Char :=
  if verbose then
    match characters.dropWhile Text.isBlank with
    | '#' :: rest => (rest.dropWhile Text.isBlank).head?
    | rest => rest.head?
  else characters.head?

/-- A range in a set, or an item by itself, and what follows. -/
def setPart? (verbose : Bool) (characters : List Char) : Option (CharacterSet × List Char) :=
  (setItem? verbose characters).bind fun (first, rest) =>
    match afterBlanks verbose rest with
    | '-' :: rest =>
      let next := behindHyphen? verbose rest
      if next = some ']' ∨ next = some '-' then first.set?.map fun set => (set, '-' :: rest)
      else
        (setItem? verbose (afterBlanks verbose rest)).bind fun (last, rest) =>
          match first, last with
          | .single first, .single last =>
            if first.character ≤ last.character then some (.range first last, rest) else none
          | _, _ => none
    | rest => first.set?.map fun set => (set, rest)

/-- The number of hyphens at the start of a set, and what follows them, in a comment or outside of
one. -/
def hyphensIn (verbose : Bool) : Bool → List Char → Nat × List Char
  | _, [] => (0, [])
  | true, c :: rest => hyphensIn verbose (c != '\n') rest
  | false, c :: rest =>
    if c == '-' then
      let (count, rest) := hyphensIn verbose false rest
      (count + 1, rest)
    else if verbose && Text.isBlank c then hyphensIn verbose false rest
    else if verbose && c == '#' then hyphensIn verbose true rest
    else (0, c :: rest)

/-- The start of a set: whether it is negated, and what belongs to it by its place, namely hyphens
or a bracket that does not close it. -/
structure SetStart where
  negated : Bool
  members : List CharacterSet

/-- The start of a set, given what follows its opening bracket, and what follows it. -/
def setStart (verbose : Bool) (characters : List Char) : SetStart × List Char :=
  let characters := afterBlanks verbose characters
  let negated := characters.head? == some '^'
  let (count, rest) := hyphensIn verbose false (if negated then characters.drop 1 else characters)
  match count, rest with
  | 0, ']' :: rest => (⟨negated, [.single ⟨']', false⟩]⟩, afterBlanks verbose rest)
  | count, rest => (⟨negated, List.replicate count (.single ⟨'-', false⟩)⟩, rest)

/-- The set whose parts have been read, the last one first, to be combined with one before them. -/
def setOf (left : Option CharacterSet) (parts : List CharacterSet) : CharacterSet :=
  let right := CharacterSet.ofParts parts.reverse
  left.elim right fun left => .combined left right

/-- What stands in the brackets of a set up to its end, and what follows them. The first argument
bounds the length of the text. -/
def setWithin (verbose : Bool) :
    Nat → Option CharacterSet → List CharacterSet → List Char → Option (CharacterSet × List Char)
  | 0, _, _, _ => none
  | bound + 1, left, parts, characters =>
    match afterBlanks verbose characters with
    | [] => none
    | '[' :: rest =>
      match namedSet? rest with
      | some (negated, rest) => setWithin verbose bound left (.named negated :: parts) rest
      | none =>
        let (start, rest) := setStart verbose rest
        (setWithin verbose bound none start.members rest).bind fun (content, rest) =>
          setWithin verbose bound left (.bracketed start.negated content :: parts) rest
    | ']' :: rest => some (setOf left parts, rest)
    | '&' :: '&' :: rest => setWithin verbose bound (some (setOf left parts)) [] rest
    | '-' :: '-' :: rest => setWithin verbose bound (some (setOf left parts)) [] rest
    | '~' :: '~' :: rest => setWithin verbose bound (some (setOf left parts)) [] rest
    | characters =>
      (setPart? verbose characters).bind fun (part, rest) =>
        setWithin verbose bound left (part :: parts) rest

/-- The set of characters in brackets, given what follows the opening one, and what follows it. -/
def set? (verbose : Bool) (characters : List Char) : Option (Pattern × List Char) :=
  let (start, rest) := setStart verbose characters
  (setWithin verbose (rest.length + 1) none start.members rest).map fun (content, rest) =>
    (.set start.negated content, rest)

/-- Nothing is said about the flags. -/
def FlagChange.none : FlagChange := ⟨.none, .none, .none⟩

/-- Sets or clears the flag of a letter. Some flags do not matter here. -/
def FlagChange.with? (change : FlagChange) (letter : Char) (value : Bool) : Option FlagChange :=
  match letter with
  | 'i' => some { change with ignoresCase := some value }
  | 'u' => some { change with unicode := some value }
  | 'x' => some { change with verbose := some value }
  | 'm' | 's' | 'U' | 'R' => some change
  | _ => Option.none

/-- The flags that a list of letters sets, and clears behind a hyphen, up to a mark that is given
together with what follows. The first argument holds the letters and hyphens so far, the last one
first. -/
def flags? (seen : List Char) (change : FlagChange) :
    List Char → Option (FlagChange × Char × List Char)
  | [] => none
  | c :: rest =>
    if c = ':' ∨ c = ')' then
      if seen.head? = some '-' ∨ c = ')' ∧ seen.isEmpty then none else some (change, c, rest)
    else if seen.contains c then none
    else if c = '-' then flags? (c :: seen) change rest
    else (change.with? c (!seen.contains '-')).bind fun change => flags? (c :: seen) change rest

/-- Whether a text is the name of a group. -/
def isGroupName : List Char → Bool
  | [] => false
  | c :: rest =>
    (c == '_' || Text.isAlphabetic c) && rest.all fun c =>
      c == '_' || c == '.' || c == '[' || c == ']' || Text.isAlphanumeric c

/-- What an opening parenthesis begins. -/
inductive Opening where
  | setting (change : FlagChange)
  | group (change : FlagChange)
  | named (name : List Char)

/-- What an opening parenthesis begins, given what follows it, and what follows that. -/
def opening? : List Char → Option (Opening × List Char)
  | '?' :: 'P' :: '<' :: rest => named? rest
  | '?' :: '<' :: rest => named? rest
  | '?' :: rest =>
    (flags? [] .none rest).map fun (change, mark, rest) =>
      (if mark = ':' then .group change else .setting change, rest)
  | rest => some (.group .none, rest)
where
  /-- A group with a name, given what follows the mark in front of it, and what follows. -/
  named? (characters : List Char) : Option (Opening × List Char) :=
    let (name, rest) := characters.span (· != '>')
    if isGroupName name && !rest.isEmpty then some (.named name, rest.drop 1) else none

/-- What matters for the rest of a pattern. -/
structure Context where
  verbose : Bool
  /-- The names of the groups so far. -/
  names : List (List Char)

namespace Context

/-- The context behind a change of flags. -/
def after (context : Context) (change : FlagChange) : Context :=
  { context with verbose := change.verbose.getD context.verbose }

/-- The context in a group of given name, which no other group has. -/
def naming? (context : Context) (name : List Char) : Option Context :=
  if context.names.contains name then none
  else some { context with names := name :: context.names }

end Context

/-- The pattern whose branches and parts have been read, the last ones first. -/
def ofBranches (branches parts : List Pattern) : Pattern :=
  let last := ofParts parts.reverse
  if branches.isEmpty then last else .alternatives (last :: branches).reverse

/-- A pattern up to a parenthesis that closes or the end of the text, with the context there and
what follows. Given are the branches before the current one and its parts so far, the last ones
first. The first argument bounds the length of the text. -/
def patternWithin :
    Nat → Context → List Pattern → List Pattern → List Char →
      Option (Pattern × Context × List Char)
  | 0, _, _, _, _ => none
  | bound + 1, context, branches, parts, characters =>
    let follow (part : Pattern) (rest : List Char) :=
      patternWithin bound context branches (part :: parts) rest
    let inside (context : Context) (change : FlagChange) (rest : List Char) :=
      (patternWithin bound (context.after change) [] [] rest).bind fun (body, inner, rest) =>
        match rest with
        | ')' :: rest =>
          patternWithin bound { context with names := inner.names } branches
            (.group change body :: parts) rest
        | _ => none
    match afterBlanks context.verbose characters with
    | [] => some (ofBranches branches parts, context, [])
    | ')' :: rest => some (ofBranches branches parts, context, ')' :: rest)
    | '(' :: rest =>
      (opening? (afterBlanks context.verbose rest)).bind fun (opening, rest) =>
        match opening with
        | .setting change =>
          patternWithin bound (context.after change) branches (.setting change :: parts) rest
        | .group change => inside context change rest
        | .named name => (context.naming? name).bind fun context => inside context .none rest
    | '|' :: rest => patternWithin bound context (ofParts parts.reverse :: branches) [] rest
    | '[' :: rest => (set? context.verbose rest).bind fun (part, rest) => follow part rest
    | '\\' :: rest =>
      (escape? context.verbose rest).bind fun (escape, rest) => follow escape.pattern rest
    | '.' :: rest => follow .anything rest
    | c :: rest =>
      if c = '?' ∨ c = '*' ∨ c = '+' then
        match parts with
        | [] => none
        | part :: parts =>
          if part.isRepeatable then
            patternWithin bound context branches (.repeated part :: parts)
              (if rest.head? = some '?' then rest.drop 1 else rest)
          else none
      else if c = '\x7b' then none
      else if c = '^' ∨ c = '$' then follow .limit rest
      else follow (.single ⟨c, false⟩) rest

/-- The pattern that a text writes. -/
def ofText? (text : List Char) : Option Pattern :=
  match patternWithin (text.length + 1) ⟨false, []⟩ [] [] text with
  | some (pattern, _, []) => some pattern
  | _ => none

end Pattern

end Log

end TileMatch

/-!
# Patterns of field values

A directive may ask for a field whose value matches a regular expression. No record outside of all
spans is ever compared with one, so a `Pattern` only keeps what tells whether it may be used.

Sets of characters that are given by a property, letters whose case is ignored and edges of words
are known for ASCII alone, that is where the flag `u` is switched off. There nothing may be written
that a byte outside of ASCII matches by itself. How deep a pattern may nest is limited.
-/

namespace TileMatch

namespace Log

namespace Pattern

/-- The flags that tell what a pattern may hold. -/
structure Flags where
  ignoresCase : Bool
  unicode : Bool
  deriving DecidableEq, Repr

/-- What a list of letters says about the flags; a flag that it does not mention stays as it is. -/
structure FlagChange where
  ignoresCase : Option Bool
  unicode : Option Bool
  /-- Whether blanks and comments count for nothing. -/
  verbose : Option Bool
  deriving DecidableEq, Repr

/-- The flags at the start of a pattern. -/
def Flags.standard : Flags := ⟨false, true⟩

/-- The flags after a change. -/
def FlagChange.apply (change : FlagChange) (flags : Flags) : Flags :=
  ⟨change.ignoresCase.getD flags.ignoresCase, change.unicode.getD flags.unicode⟩

/-- A character that stands for itself. -/
structure Letter where
  character : Char
  /-- Whether it is written as a byte, in two hexadecimal digits. -/
  isByte : Bool
  deriving DecidableEq, Repr

/-- Whether letters may be written, whose case is known everywhere but in Unicode. -/
def Flags.allowLetters (flags : Flags) : Bool := !(flags.ignoresCase && flags.unicode)

/-- Whether a letter may stand by itself. -/
def Letter.mayStand (letter : Letter) (flags : Flags) : Bool :=
  flags.allowLetters && (flags.unicode || !letter.isByte || letter.character.toNat < 128)

/-- Whether a letter may belong to a set. -/
def Letter.mayBelong (letter : Letter) (flags : Flags) : Bool :=
  flags.allowLetters && (flags.unicode || letter.character.toNat < 128)

/-- What stands in the brackets of a set of characters. -/
inductive CharacterSet where
  | nothing
  | single (letter : Letter)
  | range (first last : Letter)
  /-- A set whose name is written between colons. -/
  | named (negated : Bool)
  /-- A set with an escape of its own. -/
  | shorthand (negated : Bool)
  | bracketed (negated : Bool) (content : CharacterSet)
  | union (parts : List CharacterSet)
  /-- What two sets have in common, or in what they differ. -/
  | combined (left right : CharacterSet)
  deriving Repr

namespace CharacterSet

mutual

/-- Whether a set may be used with given flags. -/
def mayBeUsed (flags : Flags) : CharacterSet → Bool
  | nothing => true
  | single letter => letter.mayBelong flags
  | range first last => first.mayBelong flags && last.mayBelong flags
  | named negated => flags.allowLetters && (flags.unicode || !negated)
  | shorthand negated => !flags.unicode && !negated
  | bracketed negated content => (flags.unicode || !negated) && content.mayBeUsed flags
  | union parts => allMayBeUsed flags parts
  | combined left right => left.mayBeUsed flags && right.mayBeUsed flags

/-- Whether all of some sets may be used with given flags. -/
def allMayBeUsed (flags : Flags) : List CharacterSet → Bool
  | [] => true
  | part :: rest => part.mayBeUsed flags && allMayBeUsed flags rest

end

mutual

/-- The number of levels that a set takes. -/
def nesting : CharacterSet → Nat
  | bracketed _ content => content.nesting + 1
  | union parts => partsNesting parts + 1
  | combined left right => max left.nesting right.nesting + 1
  | _ => 0

/-- The number of levels that the parts of a set take. -/
def partsNesting : List CharacterSet → Nat
  | [] => 0
  | part :: rest => max part.nesting (partsNesting rest)

end

/-- The set of the given parts. -/
def ofParts : List CharacterSet → CharacterSet
  | [] => nothing
  | [part] => part
  | parts => union parts

end CharacterSet

end Pattern

open Pattern

/-- A regular expression. -/
inductive Pattern where
  | nothing
  | setting (change : FlagChange)
  | single (letter : Letter)
  /-- Any character but the end of a line. -/
  | anything
  | shorthand (negated : Bool)
  /-- An end of a line or of the text. -/
  | limit
  /-- An edge of a word, or a place that is none. -/
  | wordEdge
  | set (negated : Bool) (content : CharacterSet)
  | repeated (body : Pattern)
  | group (change : FlagChange) (body : Pattern)
  | sequence (parts : List Pattern)
  | alternatives (branches : List Pattern)
  deriving Repr

namespace Pattern

/-- Whether something can be repeated. -/
def isRepeatable : Pattern → Bool
  | nothing => false
  | setting _ => false
  | _ => true

/-- The pattern of the given parts, one behind the other. -/
def ofParts : List Pattern → Pattern
  | [] => nothing
  | [part] => part
  | parts => sequence parts

mutual

/-- The flags behind a pattern, given those before it, if it may be used. Flags that are set in a
group hold up to its end. -/
def after? : Pattern → Flags → Option Flags
  | nothing, flags => some flags
  | setting change, flags => some (change.apply flags)
  | single letter, flags => if letter.mayStand flags then some flags else none
  | anything, flags => if flags.unicode then some flags else none
  | shorthand negated, flags =>
    if (CharacterSet.shorthand negated).mayBeUsed flags then some flags else none
  | limit, flags => some flags
  | wordEdge, flags => if flags.unicode then none else some flags
  | set negated content, flags =>
    if (CharacterSet.bracketed negated content).mayBeUsed flags then some flags else none
  | repeated body, flags => body.after? flags
  | group change body, flags => (body.after? (change.apply flags)).map fun _ => flags
  | sequence parts, flags => afterAll? parts flags
  | alternatives branches, flags => afterAll? branches flags

/-- The flags behind some patterns, given those before them, if all of them may be used. -/
def afterAll? : List Pattern → Flags → Option Flags
  | [], flags => some flags
  | part :: rest, flags => (part.after? flags).bind (afterAll? rest)

end

mutual

/-- The number of levels that a pattern takes. -/
def nesting : Pattern → Nat
  | set _ content => content.nesting + 1
  | repeated body => body.nesting + 1
  | group _ body => body.nesting + 1
  | sequence parts => partsNesting parts + 1
  | alternatives branches => partsNesting branches + 1
  | _ => 0

/-- The number of levels that the parts of a pattern take. -/
def partsNesting : List Pattern → Nat
  | [] => 0
  | part :: rest => max part.nesting (partsNesting rest)

end

/-- The number of levels that a pattern may have. -/
def room : Nat := 250

/-- Whether a pattern may be used. -/
def mayBeUsed (pattern : Pattern) : Bool :=
  pattern.nesting ≤ room && (pattern.after? .standard).isSome

end Pattern

end Log

end TileMatch

import TileMatch.Wire.Ron.Token

/-!
# RON documents

The tree of a RON document, and how it is put together from tokens.

Parentheses hold either items or fields, with a name in front of them or without. What is held is
taken for fields if it begins with a name and a colon; further fields may then have any document in
place of their names. At the head of a text extensions may be switched on that loosen or tighten how
it is read, and remarks may tell which type or schema it has.

How deep a document may nest is limited: an opened bracket takes a level, each place in it another,
and so does the `Some` of what is present.
-/

namespace TileMatch.Wire

/-- A RON document. -/
inductive Ron where
  | bool (value : Bool)
  | numeral (characters : List Char)
  | byte (value : Nat)
  | character (value : Char)
  | text (content : String)
  | bytes
  | range
  /-- Parentheses with nothing between them, not even a space. -/
  | unit
  | word (name : String)
  | absent
  /-- A `Some` with a colon behind it, which may be the name of a field and is no document else. -/
  | bare
  /-- What stands between two commas, which is no document; a pair may end with it. -/
  | nothing
  /-- What is present, in parentheses of its own or without. -/
  | present (bracketed : Bool) (held : Ron)
  | list (items : List Ron)
  | map (entries : List (Ron × Ron))
  /-- Parentheses with items, or with nothing. -/
  | items (name : Option String) (items : List Ron)
  /-- Parentheses with fields. -/
  | fields (name : Option String) (fields : List (Ron × Ron))
  /-- Fields whose parentheses are those of what holds them. -/
  | unwrapped (fields : List (Ron × Ron))
  deriving Repr

namespace Ron

/-- What may be switched on at the head of a text. -/
structure Extensions where
  implicitSome : Bool
  unwrapVariantNewtypes : Bool
  explicitStructNames : Bool
  deriving DecidableEq, Repr

namespace Extensions

/-- Nothing is switched on. -/
def none : Extensions := ⟨false, false, false⟩

/-- Switches on an extension of given name. Unwrapping newtypes has no effect on the types read
here. -/
def enable? (extensions : Extensions) (name : String) : Option Extensions :=
  if name = "implicit_some" then some { extensions with implicitSome := true }
  else if name = "unwrap_variant_newtypes" then
    some { extensions with unwrapVariantNewtypes := true }
  else if name = "explicit_struct_names" then some { extensions with explicitStructNames := true }
  else if name = "unwrap_newtypes" then some extensions
  else Option.none

end Extensions

/-- The name that a document is in the place of the name of a field. -/
def fieldName? : Ron → Option String
  | word name => some name
  | bool value => some (if value then "true" else "false")
  | absent => some "None"
  | bare => some "Some"
  | numeral characters =>
    if String.ofList characters ∈ numberNames then some (String.ofList characters) else none
  | _ => none

mutual

/-- Whether a document may be passed over where a number of levels is left, here and below. -/
def mayBePassed : Nat → Ron → Bool
  | _, bare => false
  | _, nothing => false
  | 0, present _ _ => false
  | room + 1, present _ held => held.mayBePassed room
  | 0, list _ => false
  | room + 1, list content => itemsMayBePassed room content
  | 0, map _ => false
  | room + 1, map entries => entriesMayBePassed room entries
  | 0, items _ _ => false
  | room + 1, items _ content => itemsMayBePassed room content
  | 0, fields _ _ => false
  | room + 1, fields _ entries => entriesMayBePassed room entries
  | _, unwrapped [] => true
  | 0, unwrapped _ => false
  | room + 1, unwrapped entries => entriesMayBePassed room entries
  | _, _ => true

/-- Whether items may be passed over. -/
def itemsMayBePassed : Nat → List Ron → Bool
  | _, [] => true
  | 0, _ :: _ => false
  | room + 1, item :: rest => item.mayBePassed room && itemsMayBePassed (room + 1) rest

/-- Whether entries or fields may be passed over. -/
def entriesMayBePassed : Nat → List (Ron × Ron) → Bool
  | _, [] => true
  | 0, _ :: _ => false
  | room + 1, (key, value) :: rest =>
    key.mayBePassed room && value.mayBePassed room && entriesMayBePassed (room + 1) rest

end

/-- After a part of a list: whether another part may follow, and what follows. -/
def afterPart (tokens : List Token) : Bool × List Token :=
  match tokens with
  | .mark ',' :: rest => (true, rest)
  | rest => (false, rest)

mutual

/-- The document at the start of the tokens, and what follows it. The first argument bounds the
number of tokens, here and below. -/
def documentWithin (extensions : Extensions) : Nat → List Token → Option (Ron × List Token)
  | _ + 1, .word "Some" :: .mark ':' :: rest => some (.bare, .mark ':' :: rest)
  | bound + 1, .word "Some" :: rest => heldWithin extensions bound rest
  | bound + 1, .word name :: rest =>
    if name = "true" ∨ name = "false" then some (.bool (name == "true"), rest)
    else if name = "None" then some (.absent, rest)
    else if name ∈ numberNames then some (.numeral name.toList, rest)
    else namedWithin extensions bound name rest
  | bound + 1, .rawWord name :: rest => namedWithin extensions bound name rest
  | _ + 1, .numeral characters :: rest => some (.numeral characters, rest)
  | _ + 1, .byte value :: rest => some (.byte value, rest)
  | _ + 1, .character value :: rest => some (.character value, rest)
  | _ + 1, .text content :: rest => some (.text content, rest)
  | _ + 1, .bytes :: rest => some (.bytes, rest)
  | _ + 1, .range :: rest => some (.range, rest)
  | _ + 1, .unit :: rest => some (.unit, rest)
  | bound + 1, .opening _ :: rest => bodyWithin extensions bound none rest
  | bound + 1, .mark '[' :: rest =>
    (itemsWithin extensions bound ']' rest).map fun result => (.list result.1, result.2)
  | bound + 1, .mark '{' :: rest =>
    (entriesWithin extensions bound '}' rest).map fun result => (.map result.1, result.2)
  | _, _ => none

/-- What is present, behind its `Some`, and what follows it. When newtypes are unwrapped, its
parentheses may also be those of a record or of several items. -/
def heldWithin (extensions : Extensions) : Nat → List Token → Option (Ron × List Token)
  | 0, _ => none
  | bound + 1, .opening contents :: rest =>
    if extensions.unwrapVariantNewtypes then
      match contents, rest with
      | _, .mark ')' :: rest => some (.present true (.unwrapped []), rest)
      | some .named, rest =>
        (entriesWithin extensions bound ')' rest).map fun result =>
          (.present true (.unwrapped result.1), result.2)
      | some .several, rest =>
        (itemsWithin extensions bound ')' rest).map fun result =>
          (.present true (.items none result.1), result.2)
      | some .one, rest => soleWithin extensions bound rest
      | none, _ => none
    else soleWithin extensions bound rest
  | bound + 1, tokens =>
    match extensions.unwrapVariantNewtypes, tokens with
    | true, .unit :: rest => some (.present true (.unwrapped []), rest)
    | false, .unit :: _ => none
    | _, tokens =>
      if extensions.implicitSome then
        (documentWithin extensions bound tokens).map fun result =>
          (.present false result.1, result.2)
      else none

/-- One document up to a closing parenthesis, and what follows. -/
def soleWithin (extensions : Extensions) : Nat → List Token → Option (Ron × List Token)
  | 0, _ => none
  | bound + 1, tokens =>
    (documentWithin extensions bound tokens).bind fun (held, rest) =>
      match (afterPart rest).2 with
      | .mark ')' :: rest => some (.present true held, rest)
      | _ => none

/-- A name alone or with the parentheses behind it, and what follows. -/
def namedWithin (extensions : Extensions) :
    Nat → String → List Token → Option (Ron × List Token)
  | bound + 1, name, .opening _ :: rest => bodyWithin extensions bound (some name) rest
  | _, name, .unit :: rest => some (.items (some name) [], rest)
  | _, name, rest => some (.word name, rest)

/-- What stands in parentheses, and what follows them. -/
def bodyWithin (extensions : Extensions) :
    Nat → Option String → List Token → Option (Ron × List Token)
  | 0, _, _ => none
  | bound + 1, name, tokens =>
    if (tokens.head?.bind Token.name?).isSome && tokens[1]? == some (.mark ':') then
      (entriesWithin extensions bound ')' tokens).map fun result =>
        (.fields name result.1, result.2)
    else
      (itemsWithin extensions bound ')' tokens).map fun result => (.items name result.1, result.2)

/-- Items up to a closing mark; the last one may have a comma after it. In parentheses there may be
a second comma, with nothing in between. -/
def itemsWithin (extensions : Extensions) :
    Nat → Char → List Token → Option (List Ron × List Token)
  | 0, _, _ => none
  | bound + 1, closing, tokens =>
    if tokens.head? = some (.mark closing) then some ([], tokens.tail)
    else if closing = ')' ∧ tokens.take 2 = [.mark ',', .mark ')'] then
      some ([.nothing], tokens.drop 2)
    else
      (documentWithin extensions bound tokens).bind fun (item, rest) =>
        match afterPart rest with
        | (true, rest) =>
          (itemsWithin extensions bound closing rest).map fun result =>
            (item :: result.1, result.2)
        | (false, rest) =>
          if rest.head? = some (.mark closing) then some ([item], rest.tail) else none

/-- Entries or fields up to a closing mark; the last one may have a comma after it. -/
def entriesWithin (extensions : Extensions) :
    Nat → Char → List Token → Option (List (Ron × Ron) × List Token)
  | 0, _, _ => none
  | bound + 1, closing, tokens =>
    if tokens.head? = some (.mark closing) then some ([], tokens.tail)
    else
      (documentWithin extensions bound tokens).bind fun (key, rest) =>
        match rest with
        | .mark ':' :: rest =>
          (documentWithin extensions bound rest).bind fun (value, rest) =>
            match afterPart rest with
            | (true, rest) =>
              (entriesWithin extensions bound closing rest).map fun result =>
                ((key, value) :: result.1, result.2)
            | (false, rest) =>
              if rest.head? = some (.mark closing) then some ([(key, value)], rest.tail) else none
        | _ => none

end

/-- The extensions of a list of names up to its closing marks, and what follows. -/
def enabled? (extensions : Extensions) : List Token → Option (Extensions × List Token)
  | [] => none
  | first :: rest =>
    (first.name?.bind extensions.enable?).bind fun extensions =>
      match rest with
      | .mark ',' :: .mark ')' :: .mark ']' :: rest => some (extensions, rest)
      | .mark ')' :: .mark ']' :: rest => some (extensions, rest)
      | .mark ',' :: rest => enabled? extensions rest
      | _ => none

/-- The extensions that the head of a text switches on, and what follows the head. Remarks about the
type or the schema are passed over. The first argument bounds the number of tokens. -/
def headWithin : Nat → Extensions → List Token → Option (Extensions × List Token)
  | bound + 1, extensions,
      .mark '#' :: .mark '!' :: .mark '[' :: .word "enable" :: .opening _ :: rest =>
    (enabled? extensions rest).bind fun result => headWithin bound result.1 result.2
  | bound + 1, extensions,
      .mark '#' :: .mark '!' :: .mark '[' :: .word "type" :: .mark '=' :: .text _ :: .mark ']' ::
        rest => headWithin bound extensions rest
  | bound + 1, extensions,
      .mark '#' :: .mark '!' :: .mark '[' :: .word "schema" :: .mark '=' :: .text _ :: .mark ']' ::
        rest => headWithin bound extensions rest
  | _, extensions, tokens => some (extensions, tokens)

/-- The extensions and the document that tokens make up, all of them. -/
def ofTokens? (tokens : List Token) : Option (Extensions × Ron) :=
  (headWithin tokens.length .none tokens).bind fun (extensions, rest) =>
    match documentWithin extensions (4 * rest.length) rest with
    | some (document, []) => some (extensions, document)
    | _ => none

/-- The extensions and the document that a text holds. -/
def ofText? (text : String) : Option (Extensions × Ron) := (tokens? text.toList).bind ofTokens?

end Ron

end TileMatch.Wire

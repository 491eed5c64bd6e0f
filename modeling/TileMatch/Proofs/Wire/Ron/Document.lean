import TileMatch.Proofs.Wire.Ron.Token
import TileMatch.Wire.Form

/-!
# Reading back written documents

Values made of texts, numbers and records are written so that the text holds their document:
`IsWritten` says which document that is. The text is cut into tokens that do not depend on how deep
its lines are, and the tokens are put together to the document.
-/

namespace TileMatch.Wire

namespace Ron

/-- The names that stand for something else than themselves. -/
def reservedNames : List String := ["Some", "None", "true", "false"] ++ numberNames

/-- A name that only stands for itself. -/
structure IsFieldName (name : String) : Prop extends IsName name where
  notReserved : name ∉ reservedNames

/-- Parentheses with named fields, or with nothing. -/
def ofMembers : List (String × Ron) → Ron
  | [] => .items none []
  | members => .fields none (members.map fun member => (.word member.1, member.2))

mutual

/-- A value of texts, numbers and records is written as a document. -/
inductive IsWritten : Value → Ron → Prop where
  | text (content : String) : IsWritten (.text content) (.text content)
  | integer (number : ℤ) : IsWritten (.integer number) (.numeral (toString number).toList)
  | single (number : Binary32) : IsWritten (.single number) (.numeral number.text.toList)
  | record (name : String) {fields : List (String × Value)} {members : List (String × Ron)}
    (written : AreWritten fields members) : IsWritten (.record name fields) (ofMembers members)

/-- The fields of a record are written with their names. -/
inductive AreWritten : List (String × Value) → List (String × Ron) → Prop where
  | nil : AreWritten [] []
  | cons {name : String} {value : Value} {document : Ron} {fields : List (String × Value)}
      {members : List (String × Ron)} (isName : IsFieldName name)
      (first : IsWritten value document) (more : AreWritten fields members) :
      AreWritten ((name, value) :: fields) ((name, document) :: members)

end

/-- Tokens are what a value is cut into, and make up a document. -/
structure ReadBack (value : Value) (document : Ron) (tokens : List Token) : Prop where
  cuts : ∀ (depth : ℕ) (rest : List Char) (more : List Token), EndsToken rest → Cuts rest more →
    Cuts ((value.ronText depth).toList ++ rest) (tokens ++ more)
  document : ∀ bound rest, 2 * tokens.length ≤ bound →
    documentWithin .none bound (tokens ++ rest) = some (document, rest)

/-- Tokens are what fields are cut into, and make up members. -/
structure FieldsReadBack (fields : List (String × Value)) (members : List (String × Ron))
    (tokens : List Token) : Prop where
  cuts : ∀ (depth : ℕ) (rest : List Char) (more : List Token), Cuts rest more →
    Cuts ((Value.ronFields depth fields).toList ++ rest) (tokens ++ more)
  entries : ∀ bound rest, 2 * tokens.length < bound →
    entriesWithin .none bound ')' (tokens ++ .mark ')' :: rest) =
      some (members.map fun member => (.word member.1, member.2), rest)
  begins : ∀ name value rest, fields = (name, value) :: rest →
    IsFieldName name ∧ ∃ more, tokens = .word name :: .mark ':' :: more

theorem ReadBack.of_token {value : Value} {document : Ron} {token : Token}
    (isPiece : ∀ depth, IsPiece (value.ronText depth).toList token)
    (read : ∀ bound rest,
      documentWithin .none (bound + 1) (token :: rest) = some (document, rest)) :
    ReadBack value document [token] where
  cuts depth rest more ends cuts :=
    Cuts.cons (isPiece depth).solid ((isPiece depth).begins rest ends) cuts
  document bound rest enough := by
    obtain ⟨bound, rfl⟩ := Nat.exists_eq_add_one_of_ne_zero (Nat.ne_zero_of_lt enough)
    exact read bound rest

theorem documentWithin_numberName {name : String} (named : name ∈ numberNames) (bound : ℕ)
    (rest : List Token) :
    documentWithin .none (bound + 1) (.word name :: rest) =
      some (.numeral name.toList, rest) := by
  have others : ∀ other ∈ numberNames, other ≠ "Some" ∧ ¬(other = "true" ∨ other = "false") ∧
      other ≠ "None" := by decide
  obtain ⟨noSome, noBool, noNone⟩ := others name named
  rw [documentWithin, if_neg noBool, if_neg noNone, if_pos named]
  · intros
    exact noSome ‹_›
  · exact noSome

theorem documentWithin_fieldName {name : String} (isName : IsFieldName name) (bound : ℕ)
    (rest : List Token) :
    documentWithin .none (bound + 1) (.word name :: .mark ':' :: rest) =
      some (.word name, .mark ':' :: rest) := by
  have notReserved := isName.notReserved
  simp only [reservedNames, List.mem_append, List.mem_cons, List.not_mem_nil, or_false,
    not_or] at notReserved
  obtain ⟨⟨noSome, noNone, noTrue, noFalse⟩, noNumber⟩ := notReserved
  have alone : namedWithin .none bound name (.mark ':' :: rest) =
      some (.word name, .mark ':' :: rest) := by
    cases bound <;> rfl
  rw [documentWithin, if_neg (not_or.mpr ⟨noTrue, noFalse⟩), if_neg noNone, if_neg noNumber, alone]
  · intros
    exact noSome ‹_›
  · exact noSome

theorem readBack_single (number : Binary32) :
    ReadBack (.single number) (.numeral number.text.toList) [singleToken number] := by
  refine .of_token (fun depth => ?_) fun bound rest => ?_
  · rw [Value.ronText]
    exact isPiece_text number
  · rw [singleToken]
    split_ifs with named
    · exact documentWithin_numberName named bound rest
    · rw [documentWithin]

theorem isSpace_of_mem_indent (depth : ℕ) : ∀ c ∈ (indent depth).toList, isSpace c = true := by
  intro c mem
  rw [indent, String.toList_ofList] at mem
  rw [List.eq_of_mem_replicate mem]
  rfl

/-- A new line starts with spaces only. -/
theorem isSpace_of_mem_line (depth : ℕ) : ∀ c ∈ '\n' :: (indent depth).toList, isSpace c = true :=
  List.forall_mem_cons.mpr ⟨rfl, isSpace_of_mem_indent depth⟩

theorem Cuts.closing {rest : List Char} {tokens : List Token} (cuts : Cuts rest tokens) :
    Cuts ([')'] ++ rest) (.mark ')' :: tokens) :=
  .cons ⟨')', [], rfl, rfl, by decide⟩ (begins_mark (.inl rfl) rest) cuts

theorem Cuts.comma {rest : List Char} {tokens : List Token} (cuts : Cuts rest tokens) :
    Cuts ([','] ++ rest) (.mark ',' :: tokens) :=
  .cons ⟨',', [], rfl, rfl, by decide⟩ (begins_mark (.inr (.inl rfl)) rest) cuts

theorem Cuts.colon {rest : List Char} {tokens : List Token} (cuts : Cuts rest tokens) :
    Cuts ([':'] ++ rest) (.mark ':' :: tokens) :=
  .cons ⟨':', [], rfl, rfl, by decide⟩ (begins_mark (.inr (.inr rfl)) rest) cuts

theorem readBack_empty (name : String) :
    ReadBack (.record name []) (ofMembers []) [.opening (some .one), .mark ')'] := by
  constructor
  · intro depth rest more ends cuts
    have inside := isSpace_of_mem_line depth
    have written : (Value.ronText depth (.record name [])).toList ++ rest =
        ['('] ++ '\n' :: ((indent depth).toList ++ ([')'] ++ rest)) := by
      simp [Value.ronText, Value.ronFields]
    have opening : Begins ['('] ('\n' :: ((indent depth).toList ++ ([')'] ++ rest)))
        (.opening (some .one)) := begins_opening fun bound enough => contents?_empty inside enough
    rw [written]
    exact Cuts.cons ⟨'(', [], rfl, rfl, by decide⟩ opening (cuts.closing.spaces inside)
  · intro bound rest enough
    obtain ⟨bound, rfl⟩ := Nat.exists_eq_add_of_le' enough
    rfl

theorem FieldsReadBack.nil : FieldsReadBack [] [] [] where
  cuts depth rest more cuts := by
    rw [Value.ronFields]
    exact cuts
  entries bound rest enough := by
    obtain ⟨bound, rfl⟩ := Nat.exists_eq_add_one_of_ne_zero (Nat.ne_zero_of_lt enough)
    rw [List.nil_append, entriesWithin]
    rfl
  begins name value rest eq := absurd eq (List.cons_ne_nil _ _).symm

theorem FieldsReadBack.cons {name : String} {value : Value} {document : Ron}
    {fields : List (String × Value)} {members : List (String × Ron)}
    {tokens fieldTokens : List Token} (isName : IsFieldName name)
    (first : ReadBack value document tokens) (more : FieldsReadBack fields members fieldTokens) :
    FieldsReadBack ((name, value) :: fields) ((name, document) :: members)
      (.word name :: .mark ':' :: (tokens ++ .mark ',' :: fieldTokens)) := by
  refine ⟨?_, ?_, ?_⟩
  · intro depth rest behind cuts
    have written : (Value.ronFields depth ((name, value) :: fields)).toList ++ rest =
        (indent depth).toList ++ (name.toList ++ ([':'] ++ ([' '] ++
          ((value.ronText depth).toList ++ ([','] ++ (['\n'] ++
            ((Value.ronFields depth fields).toList ++ rest))))))) := by
      simp [Value.ronFields]
    have colon : ∀ rest : List Char, EndsToken ([':'] ++ rest) :=
      fun rest c first => .inr (Option.some.inj first).symm
    have comma : ∀ rest : List Char, EndsToken ([','] ++ rest) :=
      fun rest c first => .inl (Option.some.inj first).symm
    -- From the end, since a token is only known to end where it does by what follows it.
    have others := @Cuts.spaces ['\n'] _ _ (List.forall_mem_singleton.mpr rfl)
      (more.cuts depth rest behind cuts)
    have fromValue := @Cuts.spaces [' '] _ _ (List.forall_mem_singleton.mpr rfl)
      (first.cuts depth _ _ (comma _) others.comma)
    have piece := isName.toIsName.isPiece
    have all := Cuts.cons piece.solid (piece.begins _ (colon _)) fromValue.colon
    rw [written]
    simpa using all.spaces (isSpace_of_mem_indent depth)
  · intro bound rest enough
    simp only [List.length_cons, List.length_append] at enough
    obtain ⟨bound, rfl⟩ := Nat.exists_eq_add_of_le' (show 2 ≤ bound by omega)
    have value := first.document (bound + 1) (.mark ',' :: (fieldTokens ++ .mark ')' :: rest))
      (by omega)
    have others := more.entries (bound + 1) rest (by omega)
    rw [List.cons_append, List.cons_append, List.append_assoc, List.cons_append, entriesWithin,
      if_neg (by simp), documentWithin_fieldName isName, Option.bind_some]
    simp only
    rw [value, Option.bind_some]
    simp only [afterPart]
    rw [others, Option.map_some, List.map_cons]
  · rintro _ _ _ ⟨⟩
    exact ⟨isName, _, rfl⟩

/-- Parentheses with fields are seen to hold fields. -/
theorem contents?_fields {field : String × Value} (isName : IsName field.1) (depth : ℕ)
    (fields : List (String × Value)) (rest : List Char) (bound : ℕ)
    (enough : ('\n' :: ((Value.ronFields depth (field :: fields)).toList ++ rest)).length < bound) :
    contents? bound ('\n' :: ((Value.ronFields depth (field :: fields)).toList ++ rest)) =
      some .named := by
  obtain ⟨name, value⟩ := field
  have first : '\n' :: ((Value.ronFields depth ((name, value) :: fields)).toList ++ rest) =
      ('\n' :: (indent depth).toList) ++ (name.toList ++ ':' ::
        ([' '] ++ ((value.ronText depth).toList ++ ([',', '\n'] ++
          ((Value.ronFields depth fields).toList ++ rest))))) := by
    simp [Value.ronFields]
  rw [first] at enough ⊢
  exact contents?_named (isSpace_of_mem_line depth) isName enough

theorem FieldsReadBack.record {field : String × Value} {fields : List (String × Value)}
    {member : String × Ron} {members : List (String × Ron)} {tokens : List Token}
    (read : FieldsReadBack (field :: fields) (member :: members) tokens) (name : String) :
    ReadBack (.record name (field :: fields)) (ofMembers (member :: members))
      (.opening (some .named) :: (tokens ++ [.mark ')'])) := by
  obtain ⟨isName, rest, begins⟩ := read.begins field.1 field.2 fields rfl
  constructor
  · intro depth rest more ends cuts
    have inside := read.cuts (depth + 1) _ _ (cuts.closing.spaces (isSpace_of_mem_indent depth))
    have written : (Value.ronText depth (.record name (field :: fields))).toList ++ rest =
        ['('] ++ '\n' :: ((Value.ronFields (depth + 1) (field :: fields)).toList ++
          ((indent depth).toList ++ ([')'] ++ rest))) := by
      simp [Value.ronText]
    have opening : Begins ['('] ('\n' :: ((Value.ronFields (depth + 1) (field :: fields)).toList ++
        ((indent depth).toList ++ ([')'] ++ rest)))) (.opening (some .named)) :=
      begins_opening (contents?_fields isName.toIsName (depth + 1) fields _)
    have onNextLine := @Cuts.spaces ['\n'] _ _ (List.forall_mem_singleton.mpr rfl) inside
    rw [List.singleton_append] at onNextLine
    have followed : tokens ++ [.mark ')'] ++ more = tokens ++ .mark ')' :: more := by simp
    rw [written, @List.cons_append Token, followed]
    exact Cuts.cons ⟨'(', [], rfl, rfl, by decide⟩ opening onNextLine
  · intro bound rest enough
    simp only [List.length_cons, List.length_append] at enough
    obtain ⟨bound, rfl⟩ := Nat.exists_eq_add_of_le' (show 2 ≤ bound by omega)
    have inside := read.entries bound rest (by omega)
    have named : ((tokens ++ .mark ')' :: rest).head?.bind Token.name?).isSome &&
        (tokens ++ .mark ')' :: rest)[1]? == some (.mark ':') := by
      rw [begins]
      rfl
    rw [List.cons_append, documentWithin, List.append_assoc, List.singleton_append, bodyWithin,
      if_pos named, inside, Option.map_some]
    rfl

mutual

theorem IsWritten.exists_readBack {value : Value} {document : Ron}
    (written : IsWritten value document) : ∃ tokens, ReadBack value document tokens := by
  cases written with
  | text content =>
      refine ⟨_, @ReadBack.of_token _ _ (.text content) (fun depth => ?_) fun bound rest => ?_⟩
      · rw [Value.ronText]
        exact isPiece_quote content
      · rw [documentWithin]
  | integer number =>
      refine ⟨_, @ReadBack.of_token _ _ (.numeral (toString number).toList)
        (fun depth => ?_) fun bound rest => ?_⟩
      · rw [Value.ronText]
        exact isPiece_toString number
      · rw [documentWithin]
  | single number => exact ⟨_, readBack_single number⟩
  | record name written =>
      obtain ⟨tokens, read⟩ := written.exists_readBack
      -- The token of an opening parenthesis says what is inside, and so whether there are fields.
      cases written with
      | nil => exact ⟨_, readBack_empty name⟩
      | cons => exact ⟨_, read.record name⟩

theorem AreWritten.exists_readBack {fields : List (String × Value)} {members : List (String × Ron)}
    (written : AreWritten fields members) : ∃ tokens, FieldsReadBack fields members tokens := by
  cases written with
  | nil => exact ⟨_, .nil⟩
  | cons isName first more =>
      obtain ⟨tokens, read⟩ := first.exists_readBack
      obtain ⟨fieldTokens, others⟩ := more.exists_readBack
      exact ⟨_, .cons isName read others⟩

end

/-- What begins with a document has no head. -/
theorem headWithin_of_documentWithin {bound steps : ℕ} {tokens : List Token}
    {result : Ron × List Token} (read : documentWithin .none steps tokens = some result) :
    headWithin bound .none tokens = some (.none, tokens) := by
  have noHash : ∀ rest, tokens ≠ .mark '#' :: rest := by
    rintro rest rfl
    have nothing : documentWithin .none steps (.mark '#' :: rest) = none := by
      cases steps <;> rfl
    rw [nothing] at read
    contradiction
  unfold headWithin
  split
  · exact absurd rfl (noHash _)
  · exact absurd rfl (noHash _)
  · exact absurd rfl (noHash _)
  · rfl

/-- The text of a written value holds its document, and switches nothing on. -/
theorem IsWritten.ofText?_ronText {value : Value} {document : Ron}
    (written : IsWritten value document) (depth : ℕ) :
    ofText? (value.ronText depth) = some (.none, document) := by
  obtain ⟨tokens, read⟩ := written.exists_readBack
  have cut := (read.cuts depth [] [] (fun _ first => by contradiction) .nil).tokens?
  have together := read.document (4 * tokens.length) [] (by omega)
  rw [List.append_nil] at cut together
  rw [List.append_nil] at cut
  have head : headWithin tokens.length .none tokens = some (.none, tokens) :=
    headWithin_of_documentWithin together
  rw [ofText?, cut, Option.bind_some, ofTokens?, head, Option.bind_some]
  simp only [together]

end Ron

end TileMatch.Wire

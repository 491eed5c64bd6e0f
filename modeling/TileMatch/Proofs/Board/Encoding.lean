import TileMatch.Proofs.Board.Decoding

/-!
# Boards as the server writes them

A decoded snapshot can be written again (`Snapshot.encode`), and `Snapshot.decode` accepts exactly
what is written so: the two are inverse to each other on snapshots with the board's dimensions and
known codes. Anything else is refused for the dimensions, or for the first unknown code with its
place.

Every code comes from the owner that it stands for (`CellOwner.code_of_ofCode?`), which gives the
one direction square by square. The other needs no second walk through the rows: what is written can
be decoded, and what it is decoded to is written the same.
-/

namespace TileMatch

namespace CellOwner

@[simp]
theorem ofCode?_code (owner : CellOwner) : ofCode? owner.code = some owner := by
  cases owner with
  | empty => rfl
  | obstacle => rfl
  | owned slot =>
      have notEmpty : ¬slot.toServer = 0 := by
        simp only [Slot.toServer]
        omega
      have notObstacle : ¬slot.toServer = -1 := by
        simp only [Slot.toServer]
        omega
      simp [ofCode?, code, notEmpty, notObstacle, Except.toOption]

theorem code_of_ofCode? {code : Int} {owner : CellOwner} (stands : ofCode? code = some owner) :
    owner.code = code := by
  unfold ofCode? at stands
  split at stands
  case isTrue isEmpty =>
    cases stands
    exact isEmpty.symm
  case isFalse =>
    split at stands
    case isTrue isObstacle =>
      cases stands
      exact isObstacle.symm
    case isFalse =>
      rcases Option.map_eq_some_iff.mp stands with ⟨slot, found, rfl⟩
      cases seat : Slot.ofServer code with
      | error error => simp [seat, Except.toOption] at found
      | ok other =>
          simp only [seat, Except.toOption, Option.some.injEq] at found
          subst found
          exact Slot.toServer_of_ofServer seat

theorem isCode_code (owner : CellOwner) : IsCode owner.code := by
  rw [← isSome_ofCode?_iff, ofCode?_code]
  rfl

theorem code_injective {first second : CellOwner} (same : first.code = second.code) :
    first = second := by
  have stands := ofCode?_code first
  rw [same, ofCode?_code] at stands
  exact (Option.some.inj stands).symm

end CellOwner

namespace Snapshot

/-- The code at coordinates, if there is one. -/
def codeAt? (rows : List (List Int)) (row column : Nat) : Option Int := rows[row]?.bind (·[column]?)

/-- This is the length of the longest row, or zero when there are no rows. -/
structure IsWidth {α : Type} (rows : List (List α)) (width : Nat) : Prop where
  bounds : ∀ row ∈ rows, row.length ≤ width
  reached : (rows = [] ∧ width = 0) ∨ ∃ row ∈ rows, row.length = width

/-- A number that is no code stands at these coordinates, and codes stand before it in row-major
order. -/
structure IsFirstUnknown (rows : List (List Int)) (row column : Nat) (code : Int) : Prop where
  found : codeAt? rows row column = some code
  unknown : ¬CellOwner.IsCode code
  first : ∀ rowBefore columnBefore earlier,
    rowBefore < row ∨ (rowBefore = row ∧ columnBefore < column) →
      codeAt? rows rowBefore columnBefore = some earlier → CellOwner.IsCode earlier

/-! ## Dimensions -/

theorem widest_cons {α : Type} (row : List α) (rest : List (List α)) :
    widest (row :: rest) = max row.length (widest rest) := by
  rw [widest, List.map_cons, List.foldl_cons, Nat.max_comm]
  exact List.foldl_assoc

theorem isWidth_widest {α : Type} (rows : List (List α)) : IsWidth rows (widest rows) := by
  induction rows with
  | nil => exact ⟨nofun, .inl ⟨rfl, rfl⟩⟩
  | cons row rest hypothesis =>
      rw [widest_cons]
      constructor
      · intro other other_mem
        rcases List.mem_cons.mp other_mem with rfl | later
        · exact Nat.le_max_left _ _
        · exact Nat.le_trans (hypothesis.bounds other later) (Nat.le_max_right _ _)
      · right
        rcases hypothesis.reached with ⟨rfl, none⟩ | ⟨longest, longest_mem, length⟩
        · exact ⟨row, List.mem_cons_self, by simp [none]⟩
        · rcases Nat.le_total row.length (widest rest) with shorter | longer
          · exact ⟨longest, List.mem_cons_of_mem _ longest_mem, by omega⟩
          · exact ⟨row, List.mem_cons_self, by omega⟩

theorem hasBoardSize_encode_iff (owners : List (List CellOwner)) :
    HasBoardSize (encode owners) ↔ HasBoardSize owners := by
  simp [HasBoardSize, encode]

/-! ## What is decoded -/

theorem decode_eq_mapM {rows : List (List Int)} (fits : HasBoardSize rows) :
    decode rows = rows.zipIdx.mapM fun entry => decodeRow entry.2 entry.1 := by
  unfold decode checkSize
  rw [if_pos fits]
  rfl

theorem decode_of_not_hasBoardSize {rows : List (List Int)} (unfit : ¬HasBoardSize rows) :
    decode rows = .error (.malformed rows.length (widest rows)) := by
  unfold decode checkSize
  rw [if_neg unfit]
  rfl

theorem exists_decode_iff (rows : List (List Int)) : (∃ owners, decode rows = .ok owners) ↔
    HasBoardSize rows ∧ ∀ row ∈ rows, ∀ code ∈ row, CellOwner.IsCode code := by
  have failure := ofBoardError_failure?_decode rows
  rw [← failure?_eq_none_iff, ← Option.map_eq_none_iff (f := SyncError.ofBoardError), failure]
  split
  case isTrue fits =>
    simp only [fits, true_and, Option.map_eq_none_iff, List.find?_eq_none, List.mem_flatten]
    constructor
    · intro known row row_mem code code_mem
      simpa using known code ⟨row, row_mem, code_mem⟩
    · rintro known code ⟨row, row_mem, code_mem⟩
      simpa using known row row_mem code code_mem
  case isFalse unfit => simp [unfit]

theorem map_code_of_decodeRow {row : Nat} {codes : List Int} {owners : List CellOwner}
    (decoded : decodeRow row codes = .ok owners) : owners.map CellOwner.code = codes := by
  have undone := map_of_mapM Prod.fst CellOwner.code decoded fun entry owner read => by
    unfold decodeCell at read
    split at read
    case h_1 stands =>
      cases read
      exact CellOwner.code_of_ofCode? stands
    case h_2 => cases read
  rw [undone, List.zipIdx_map_fst]

theorem encode_of_decode {rows : List (List Int)} {owners : List (List CellOwner)}
    (decoded : decode rows = .ok owners) : encode owners = rows := by
  have fits := ((exists_decode_iff rows).mp ⟨owners, decoded⟩).1
  rw [decode_eq_mapM fits] at decoded
  have undone := map_of_mapM Prod.fst (List.map CellOwner.code) decoded
    fun _ _ read => map_code_of_decodeRow read
  rw [encode, undone, List.zipIdx_map_fst]

theorem encode_injective {first second : List (List CellOwner)}
    (same : encode first = encode second) : first = second :=
  (List.map_inj_right fun _ _ sameRow =>
    (List.map_inj_right fun _ _ sameCode => CellOwner.code_injective sameCode).mp sameRow).mp same

theorem decode_encode {owners : List (List CellOwner)} (fits : HasBoardSize owners) :
    decode (encode owners) = .ok owners := by
  have known : ∀ row ∈ encode owners, ∀ code ∈ row, CellOwner.IsCode code := by
    intro row row_mem code code_mem
    rcases List.mem_map.mp row_mem with ⟨ownersOfRow, _, rfl⟩
    rcases List.mem_map.mp code_mem with ⟨owner, _, rfl⟩
    exact owner.isCode_code
  rcases (exists_decode_iff _).mpr ⟨(hasBoardSize_encode_iff owners).mpr fits, known⟩ with
    ⟨read, decoded⟩
  rw [decoded, encode_injective (encode_of_decode decoded)]

/-! ## What is refused -/

theorem failure?_decodeRow_eq_none_iff {row : Nat} {codes : List Int} :
    failure? (decodeRow row codes) = none ↔
      ∀ (column : Nat) code, codes[column]? = some code → CellOwner.IsCode code := by
  simp only [decodeRow, failure?_mapM, failure?_decodeCell, findSome?_zipIdx_eq_none_iff]
  simp

theorem failure?_decodeRow_eq_some_iff {row : Nat} {codes : List Int} {error : BoardError} :
    failure? (decodeRow row codes) = some error ↔ ∃ column code, codes[column]? = some code ∧
      (¬CellOwner.IsCode code ∧ error = .invalidCell row column code) ∧
      ∀ before < column, ∀ earlier, codes[before]? = some earlier → CellOwner.IsCode earlier := by
  simp only [decodeRow, failure?_mapM, failure?_decodeCell, findSome?_zipIdx_eq_some_iff]
  simp [eq_comm]

/-- With the board's dimensions a snapshot is refused for its first unknown code. -/
theorem decode_eq_error_iff {rows : List (List Int)} (fits : HasBoardSize rows)
    {error : BoardError} : decode rows = .error error ↔
      ∃ row column code, IsFirstUnknown rows row column code ∧
        error = .invalidCell row column code := by
  rw [decode_eq_mapM fits, ← failure?_eq_some_iff, failure?_mapM, findSome?_zipIdx_eq_some_iff]
  simp only [failure?_decodeRow_eq_none_iff, failure?_decodeRow_eq_some_iff]
  constructor
  · rintro ⟨row, codes, atRow, ⟨column, code, atColumn, ⟨unknown, named⟩, inRow⟩, above⟩
    refine ⟨row, column, code, ⟨by simp [codeAt?, atRow, atColumn], unknown, ?_⟩, named⟩
    rintro rowBefore columnBefore earlier order listed
    rcases Option.bind_eq_some_iff.mp listed with ⟨codesBefore, atBefore, inBefore⟩
    rcases order with higher | ⟨rfl, left⟩
    · exact above rowBefore higher codesBefore atBefore columnBefore earlier inBefore
    · cases atRow.symm.trans atBefore
      exact inRow columnBefore left earlier inBefore
  · rintro ⟨row, column, code, ⟨found, unknown, first⟩, named⟩
    rcases Option.bind_eq_some_iff.mp found with ⟨codes, atRow, atColumn⟩
    refine ⟨row, codes, atRow, ⟨column, code, atColumn, ⟨unknown, named⟩, ?_⟩, ?_⟩
    · intro before left earlier inRow
      exact first row before earlier (.inr ⟨rfl, left⟩) (by simp [codeAt?, atRow, inRow])
    · intro above higher codesAbove atAbove columnAbove earlier inAbove
      exact first above columnAbove earlier (.inl higher) (by simp [codeAt?, atAbove, inAbove])

/-- A snapshot is accepted exactly if it has the board's dimensions and every number in it is a
code. What is read from it is written as it was, and whatever rows of owners with the board's
dimensions are written are read as they were. Other dimensions are refused with the number of rows
and the length of the longest, whatever the rows hold; and with the right dimensions it is the first
number in row-major order that is no code which is named, with its place. -/
theorem decode_exact (rows : List (List Int)) :
    ((∃ owners, decode rows = .ok owners) ↔
      HasBoardSize rows ∧ ∀ row ∈ rows, ∀ code ∈ row, CellOwner.IsCode code) ∧
    (∀ owners, decode rows = .ok owners → HasBoardSize owners ∧ encode owners = rows) ∧
    (∀ owners, HasBoardSize owners → decode (encode owners) = .ok owners) ∧
    (¬HasBoardSize rows → ∃ width, IsWidth rows width ∧
      decode rows = .error (.malformed rows.length width)) ∧
    (HasBoardSize rows → ∀ error, decode rows = .error error ↔
      ∃ row column code, IsFirstUnknown rows row column code ∧
        error = .invalidCell row column code) := by
  refine ⟨exists_decode_iff rows, ?_, ?_, ?_, ?_⟩
  · intro owners decoded
    exact ⟨hasBoardSize_of_decode decoded, encode_of_decode decoded⟩
  · intro owners fits
    exact decode_encode fits
  · intro unfit
    exact ⟨widest rows, isWidth_widest rows, decode_of_not_hasBoardSize unfit⟩
  · intro fits error
    exact decode_eq_error_iff fits

/-- An empty board but for two numbers that are no codes, of which the lower stands further left. -/
def twiceUnknown : List (List Int) :=
  List.replicate 2 (List.replicate 20 0) ++
    [List.replicate 19 0 ++ [5], -2 :: List.replicate 19 0] ++
    List.replicate 16 (List.replicate 20 0)

/-- Two rows, an empty one and one of numbers that are no codes. -/
def ragged : List (List Int) := [[], [7, 7, 7]]

theorem unreadable_refused :
    (HasBoardSize twiceUnknown ∧ IsFirstUnknown twiceUnknown 2 19 5) ∧
    (¬HasBoardSize ragged ∧ IsWidth ragged 3) := by
  have fits : HasBoardSize twiceUnknown := by decide
  have unfit : ¬HasBoardSize ragged := by decide
  have unknown : decode twiceUnknown = .error (.invalidCell 2 19 5) := rfl
  have malformed : decode ragged = .error (.malformed 2 3) := rfl
  refine ⟨⟨fits, ?_⟩, unfit, ?_⟩
  · rcases ((decode_exact twiceUnknown).2.2.2.2 fits _).mp unknown with ⟨_, _, _, first, same⟩
    cases same
    exact first
  · rcases (decode_exact ragged).2.2.2.1 unfit with ⟨width, longest, refused⟩
    cases malformed.symm.trans refused
    exact longest

end Snapshot

end TileMatch

import TileMatch.InFlight

/-!
# What a ledger holds

Dropping entries never makes a ledger hold more, and beginning a request changes what is held for
its own key alone. These two facts carry every argument about keys in flight.
-/

namespace TileMatch

namespace RequestKey

@[simp]
theorem pass_ne_resync (slot other : Slot) : pass slot ≠ resync other := by
  simp [pass, resync]

@[simp]
theorem pass_ne_placement (slot other : Slot) (anchor : Position) (piece : Piece) :
    pass slot ≠ placement other anchor piece := by
  simp [pass, placement]

@[simp]
theorem placement_ne_resync (slot other : Slot) (anchor : Position) (piece : Piece) :
    placement slot anchor piece ≠ resync other := by
  simp [placement, resync]

end RequestKey

namespace Ledger

variable {ledger after : Ledger} {key begun : RequestKey} {now : Instant}

/-- A ledger without some of its entries holds no key that it did not hold before. -/
theorem holds_of_filter {keep : RequestKey × Instant → Bool}
    (held : (ledger.filter keep).holds key = true) : ledger.holds key = true := by
  unfold holds at held ⊢
  rw [expiry?_filter] at held
  cases found : ledger.expiry? key with
  | none => simp [found] at held
  | some expiry => rfl

theorem holds_of_release (held : (ledger.release begun).holds key = true) :
    ledger.holds key = true :=
  holds_of_filter held

theorem holds_of_releaseAll {operation : Operation} {slot : Slot}
    (held : (ledger.releaseAll operation slot).holds key = true) : ledger.holds key = true :=
  holds_of_filter held

theorem holds_of_sweep (held : (ledger.sweep now).holds key = true) : ledger.holds key = true :=
  holds_of_filter held

@[simp]
theorem holds_release_self : (ledger.release key).holds key = false := by
  simp [holds, expiry?_release]

theorem ne_of_holds_release (held : (ledger.release begun).holds key = true) : key ≠ begun := by
  rintro rfl
  simp at held

theorem mem_keys_iff :
    key ∈ ledger.entries.map Prod.fst ↔ ledger.holds key = true := by
  simp only [holds, expiry?, List.lookup_isSome_iff, List.mem_map, beq_iff_eq]
  exact exists_congr fun _ => and_congr_right fun _ => eq_comm

/-- A ledger that holds none but the listed keys has no more entries than are listed. -/
theorem size_le_length {keys : List RequestKey}
    (listed : ∀ key, ledger.holds key = true → key ∈ keys) : ledger.size ≤ keys.length := by
  rw [size, ← List.length_map Prod.fst]
  exact ledger.nodup.length_le_of_subset fun key key_mem => listed key (mem_keys_iff.mp key_mem)

/-- A ledger reduced to the keys of one kind holds no other kind. -/
theorem operation_of_holds_filter {operation : Operation}
    (held : (ledger.filter (·.1.operation == operation)).holds key = true) :
    key.operation = operation := by
  unfold holds at held
  rw [expiry?_filter] at held
  cases found : ledger.expiry? key with
  | none => simp [found] at held
  | some expiry => simpa [found, Option.filter] using held

/-! ## Releasing what is not held -/

theorem filter_eq_self {keep : RequestKey × Instant → Bool}
    (kept : ∀ entry ∈ ledger.entries, keep entry = true) : ledger.filter keep = ledger := by
  rcases ledger with ⟨lifetime, entries, nodup⟩
  simp only [filter, List.filter_eq_self.mpr kept]

theorem release_of_not_holds (free : ledger.holds key = false) : ledger.release key = ledger := by
  apply filter_eq_self
  intro entry entry_mem
  have held := mem_keys_iff.mp (List.mem_map_of_mem entry_mem)
  rw [bne_iff_ne]
  rintro rfl
  exact Bool.false_ne_true (free.symm.trans held)

theorem releaseAll_of_not_holds {operation : Operation} {slot : Slot}
    (free : ∀ key : RequestKey, key.operation = operation → key.slot = slot →
      ledger.holds key = false) : ledger.releaseAll operation slot = ledger := by
  apply filter_eq_self
  intro entry entry_mem
  have held := mem_keys_iff.mp (List.mem_map_of_mem entry_mem)
  simp only [Bool.not_eq_true', Bool.and_eq_false_imp, beq_iff_eq, beq_eq_false_iff_ne]
  intro kind seat
  exact Bool.false_ne_true ((free entry.1 kind seat).symm.trans held)

theorem not_holds_releaseAll {operation : Operation} {slot : Slot}
    (kind : key.operation = operation) (seat : key.slot = slot) :
    (ledger.releaseAll operation slot).holds key = false := by
  simp [holds, expiry?_releaseAll, kind, seat]

/-- Releasing a key undoes holding it. -/
theorem release_hold (free : ledger.holds key = false) (expiry : Instant) :
    (ledger.hold key expiry).release key = ledger := by
  refine Eq.trans ?_ (release_of_not_holds free)
  simp [release, filter, hold]

/-! ## Beginning a request -/

theorem begin?_eq_some_iff : ledger.begin? begun now = some after ↔
    ledger.blocks begun now = false ∧ ledger.hold begun (now + ledger.lifetime) = after := by
  unfold begin?
  split <;> simp_all

theorem lifetime_of_begin? (began : ledger.begin? begun now = some after) :
    after.lifetime = ledger.lifetime := by
  rcases begin?_eq_some_iff.mp began with ⟨_, rfl⟩
  rfl

theorem panics_iff : ledger.panics begun now = true ↔
    ledger.begin? begun now ≠ none ∧ Instant.limit ≤ now + ledger.lifetime := by
  rw [panics, decide_eq_true_eq, attempt_eq, ← Nat.not_lt]
  cases ledger.begin? begun now with
  | none => simp
  | some after => by_cases lasts : now + ledger.lifetime < Instant.limit <;> simp [lasts]

theorem begin?_of_not_holds (free : ledger.holds begun = false) (now : Instant) :
    ledger.begin? begun now = some (ledger.hold begun (now + ledger.lifetime)) := by
  rw [begin?_eq_some_iff]
  refine ⟨?_, rfl⟩
  unfold holds at free
  cases found : ledger.expiry? begun with
  | none => simp [blocks, found]
  | some expiry => simp [found] at free

theorem expiry?_of_begin? (began : ledger.begin? begun now = some after) (key : RequestKey) :
    after.expiry? key =
      if key = begun then some (now + ledger.lifetime) else ledger.expiry? key := by
  rcases begin?_eq_some_iff.mp began with ⟨_, rfl⟩
  exact expiry?_hold ledger begun _ key

theorem holds_begin?_of_ne (began : ledger.begin? begun now = some after) (other : key ≠ begun) :
    after.holds key = ledger.holds key := by
  simp [holds, expiry?_of_begin? began, other]

/-- A request can be begun once the key that is held for it, if any, has run out. -/
theorem blocks_eq_false_iff : ledger.blocks key now = false ↔
    ∀ expiry, ledger.expiry? key = some expiry → expiry ≤ now := by
  simp only [blocks]
  cases ledger.expiry? key <;> simp

end Ledger

end TileMatch

set_option autoImplicit false

/- Bulk stores into buffers of a fixed size. A store either lies inside the
buffer or is not made at all: it needs the proof that it fits, or is checked. -/
namespace Buffer

variable {α : Type} {n : Nat}

/-- The buffer after `items` were copied over its cells from `offset` on. -/
def store (buf : Vector α n) (offset : Nat) (items : List α) (fits : offset + items.length ≤ n) :
    Vector α n :=
  ⟨(buf.toList.take offset ++ items ++ buf.toList.drop (offset + items.length)).toArray, by
    have size := buf.length_toList
    simp only [List.size_toArray, List.length_append, List.length_take, List.length_drop]
    omega⟩

/-- A store with the bound checked; none when it would leave the buffer. -/
def store? (buf : Vector α n) (offset : Nat) (items : List α) : Option (Vector α n) :=
  if fits : offset + items.length ≤ n then some (store buf offset items fits) else none

theorem store_toList (buf : Vector α n) (offset : Nat) (items : List α)
    (fits : offset + items.length ≤ n) :
    (store buf offset items fits).toList =
      buf.toList.take offset ++ items ++ buf.toList.drop (offset + items.length) := rfl

theorem store?_of_fits (buf : Vector α n) (offset : Nat) (items : List α)
    (fits : offset + items.length ≤ n) :
    store? buf offset items = some (store buf offset items fits) := by
  simp only [store?, fits, ↓reduceDIte]

theorem store?_eq_none (buf : Vector α n) (offset : Nat) (items : List α) :
    store? buf offset items = none ↔ n < offset + items.length := by
  unfold store?
  split
  · rename_i fits
    exact iff_of_false (Option.some_ne_none _) (Nat.not_lt.mpr fits)
  · rename_i leaves
    exact iff_of_true rfl (Nat.lt_of_not_le leaves)

theorem fits_of_store? {buf filled : Vector α n} {offset : Nat} {items : List α}
    (stored : store? buf offset items = some filled) : offset + items.length ≤ n := by
  apply Nat.le_of_not_lt
  intro leaves
  rw [(store?_eq_none buf offset items).mpr leaves] at stored
  cases stored

theorem store_front_toList (buf : Vector α n) (items : List α) (fits : 0 + items.length ≤ n) :
    (store buf 0 items fits).toList = items ++ buf.toList.drop items.length := by
  rw [store_toList, List.take_zero, List.nil_append, Nat.zero_add]

/-- A store in front of a position does not reach the cells from there on. -/
theorem store_drop_of_le (buf : Vector α n) (offset : Nat) (items : List α)
    (fits : offset + items.length ≤ n) (position : Nat)
    (before : offset + items.length ≤ position) :
    (store buf offset items fits).toList.drop position = buf.toList.drop position := by
  have size := buf.length_toList
  have reach : (buf.toList.take offset ++ items).length = offset + items.length := by
    rw [List.length_append, List.length_take]
    omega
  rw [store_toList, List.drop_append, List.drop_eq_nil_of_le (reach ▸ before), List.nil_append,
    reach, List.drop_drop]
  congr 1
  omega

/-- The cells a store covers are its items. -/
theorem store_drop_take (buf : Vector α n) (offset : Nat) (items : List α)
    (fits : offset + items.length ≤ n) :
    ((store buf offset items fits).toList.drop offset).take items.length = items := by
  have size := buf.length_toList
  have front : (buf.toList.take offset).length = offset := by
    rw [List.length_take]
    omega
  rw [store_toList, List.append_assoc, List.drop_left' front]
  exact List.take_left' rfl

theorem store_front_take (buf : Vector α n) (items : List α) (fits : 0 + items.length ≤ n) :
    (store buf 0 items fits).toList.take items.length = items :=
  store_drop_take buf 0 items fits

/-- A store behind what the buffer begins with makes it begin with both. -/
theorem store_extends {buf : Vector α n} {front : List α} (begins : front <+: buf.toList)
    (items : List α) (fits : front.length + items.length ≤ n) :
    front ++ items <+: (store buf front.length items fits).toList := by
  obtain ⟨rest, same⟩ := begins
  rw [store_toList, ← same, List.take_left]
  exact List.prefix_append _ _

/-- A store over a part of what the buffer begins with replaces that part. -/
theorem store_replaces {buf : Vector α n} {front old back : List α}
    (begins : front ++ old ++ back <+: buf.toList) (items : List α)
    (size : items.length = old.length) (fits : front.length + items.length ≤ n) :
    front ++ items ++ back <+: (store buf front.length items fits).toList := by
  obtain ⟨rest, same⟩ := begins
  have before : (front ++ old ++ back ++ rest).take front.length = front := by
    rw [List.append_assoc, List.append_assoc, List.take_left]
  have behind : (front ++ old ++ back ++ rest).drop (front.length + items.length) =
      back ++ rest := by
    rw [List.append_assoc (front ++ old)]
    exact List.drop_left' (by rw [List.length_append, size])
  rw [store_toList, ← same, before, behind, ← List.append_assoc]
  exact List.prefix_append _ _

/-- Stores that all go to the front, one over the other; none if one of them
would leave the buffer. -/
def overlay? (buf : Vector α n) : List (List α) → Option (Vector α n)
  | [] => some buf
  | piece :: rest => (store? buf 0 piece).bind fun filled => overlay? filled rest

@[simp] theorem overlay?_nil (buf : Vector α n) : overlay? buf [] = some buf := rfl

@[simp] theorem overlay?_cons (buf : Vector α n) (piece : List α) (rest : List (List α)) :
    overlay? buf (piece :: rest) =
      (store? buf 0 piece).bind fun filled => overlay? filled rest := rfl

theorem overlay?_eq_none (buf : Vector α n) (pieces : List (List α)) :
    overlay? buf pieces = none ↔ ∃ piece ∈ pieces, n < piece.length := by
  induction pieces generalizing buf with
  | nil => simp
  | cons piece rest ih =>
      simp only [overlay?_cons, List.mem_cons, exists_eq_or_imp]
      cases filled : store? buf 0 piece with
      | none =>
          have leaves := (store?_eq_none buf 0 piece).mp filled
          rw [Nat.zero_add] at leaves
          exact iff_of_true rfl (Or.inl leaves)
      | some next =>
          have fits := fits_of_store? filled
          rw [Nat.zero_add] at fits
          rw [Option.bind_some, ih next, or_iff_right (Nat.not_lt.mpr fits)]

theorem fits_of_overlay? {buf filled : Vector α n} {pieces : List (List α)}
    (stored : overlay? buf pieces = some filled) : ∀ piece ∈ pieces, piece.length ≤ n := by
  intro piece member
  apply Nat.le_of_not_lt
  intro leaves
  rw [(overlay?_eq_none buf pieces).mpr ⟨piece, member, leaves⟩] at stored
  cases stored

/-- Nothing changes behind the longest of them. -/
theorem overlay?_drop {buf filled : Vector α n} {pieces : List (List α)}
    (stored : overlay? buf pieces = some filled) (position : Nat)
    (within : ∀ piece ∈ pieces, piece.length ≤ position) :
    filled.toList.drop position = buf.toList.drop position := by
  induction pieces generalizing buf with
  | nil =>
      cases stored
      rfl
  | cons piece rest ih =>
      have first := within piece List.mem_cons_self
      have later := fun other member => within other (List.mem_cons_of_mem piece member)
      rcases Option.bind_eq_some_iff.mp stored with ⟨next, here, remaining⟩
      have fits := fits_of_store? here
      rw [store?_of_fits buf 0 piece fits] at here
      cases here
      rw [ih remaining later]
      exact store_drop_of_le buf 0 piece fits position (by omega)

end Buffer

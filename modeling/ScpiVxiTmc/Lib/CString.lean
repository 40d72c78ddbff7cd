import Mathlib.Data.List.TakeWhile

set_option autoImplicit false

/- Strings that end at their first zero byte. -/
namespace CString

/-- `strlen` of the bytes from a pointer to the end of its array; none if it
would run out of the array. -/
def strlen : List UInt8 → Option Nat
  | [] => none
  | byte :: rest => if byte = 0 then some 0 else (strlen rest).map (· + 1)

/-- With a zero byte in the array, what lies behind it does not matter. -/
theorem strlen_append_zero (front rest : List UInt8) :
    strlen (front ++ 0 :: rest) = some (front.takeWhile (· ≠ 0)).length := by
  induction front with
  | nil => rfl
  | cons byte tail ih =>
      by_cases zero : byte = 0
      · subst zero
        rfl
      · simp only [List.cons_append, strlen, zero, ↓reduceIte, ih, Option.map_some, ne_eq,
          not_false_eq_true, decide_true, List.takeWhile_cons_of_pos, List.length_cons]

theorem takeWhile_eq_self {bytes : List UInt8} :
    bytes.takeWhile (· ≠ 0) = bytes ↔ 0 ∉ bytes := by
  rw [List.takeWhile_eq_self_iff]
  constructor
  · intro nonzero member
    exact absurd (nonzero 0 member) (by decide)
  · intro free byte member
    exact decide_eq_true fun zero => free (zero ▸ member)

theorem zero_not_mem_takeWhile (bytes : List UInt8) : 0 ∉ bytes.takeWhile (· ≠ 0) := by
  intro member
  exact absurd (List.mem_takeWhile_imp member) (by decide)

/-- Bytes with a zero among them are those in front of the first one, and more. -/
theorem exists_behind {bytes : List UInt8} (terminated : 0 ∈ bytes) :
    ∃ behind, bytes = bytes.takeWhile (· ≠ 0) ++ 0 :: behind := by
  induction bytes with
  | nil => cases terminated
  | cons byte rest ih =>
      by_cases zero : byte = 0
      · subst zero
        exact ⟨rest, rfl⟩
      · rcases ih ((List.mem_cons.mp terminated).resolve_left (Ne.symm zero)) with ⟨behind, split⟩
        refine ⟨behind, ?_⟩
        rw [List.takeWhile_cons_of_pos (by simpa using zero), List.cons_append, ← split]

/-- The length found is the place of a zero byte. -/
theorem getElem?_of_strlen {bytes : List UInt8} {len : Nat} (found : strlen bytes = some len) :
    bytes[len]? = some 0 := by
  induction bytes generalizing len with
  | nil => cases found
  | cons byte rest ih =>
      rw [strlen] at found
      split at found
      · rename_i zero
        cases found
        exact congrArg some zero
      · rcases Option.map_eq_some_iff.mp found with ⟨shorter, inRest, rfl⟩
        exact ih inRest

/-- A zero byte bounds the length found. -/
theorem strlen_le {bytes : List UInt8} {len position : Nat} (found : strlen bytes = some len)
    (zero : bytes[position]? = some 0) : len ≤ position := by
  obtain ⟨inside, value⟩ := List.getElem?_eq_some_iff.mp zero
  have split : bytes = bytes.take position ++ 0 :: bytes.drop (position + 1) := by
    rw [← value, ← List.drop_eq_getElem_cons inside, List.take_append_drop]
  rw [split, strlen_append_zero, Option.some.injEq] at found
  have short := (List.takeWhile_sublist (l := bytes.take position) (· ≠ 0)).length_le
  rw [List.length_take] at short
  omega

/-- A bound on the length found is a zero byte in front of it. -/
theorem strlen_le_iff {bytes : List UInt8} {bound : Nat} :
    (∃ len ≤ bound, strlen bytes = some len) ↔ 0 ∈ bytes.take (bound + 1) := by
  induction bytes generalizing bound with
  | nil => simp [strlen]
  | cons byte rest ih =>
      rw [strlen, List.take_succ_cons, List.mem_cons]
      by_cases zero : byte = 0
      · exact iff_of_true ⟨0, Nat.zero_le _, if_pos zero⟩ (Or.inl zero.symm)
      · rw [if_neg zero, or_iff_right (Ne.symm zero)]
        cases bound with
        | zero => simp
        | succ bound =>
            rw [← ih]
            constructor
            · rintro ⟨len, short, found⟩
              rcases Option.map_eq_some_iff.mp found with ⟨shorter, inRest, rfl⟩
              exact ⟨shorter, Nat.le_of_succ_le_succ short, inRest⟩
            · rintro ⟨len, short, found⟩
              exact ⟨len + 1, Nat.succ_le_succ short, congrArg (Option.map (· + 1)) found⟩

end CString

import Mathlib.Data.List.FinRange
import DeltaScan.Kernel

/-!
# Deletion vectors as selection vectors

`DuckSVFromDeltaSV` turns the deletion vector the kernel gives for a file into a DuckDB
selection vector over one chunk of it: it keeps, in order, the rows whose row number is past
the end of the vector or marked `true` in it. The row numbers are the `int64_t`s of the
chunk's `file_row_number` column, read through its unified format, so that a flat, a constant
and a dictionary vector are all read through `sel`.

`row_id >= dv.len` compares an `int64_t` with a `uintptr_t`, so the row number is compared as
unsigned; `dv.ptr[row_id]` indexes with its signed value. A read or a write outside its buffer
is undefined behaviour in the source; the model gives `none` for it, so that a result is a
proof that none happens.
-/

namespace DeltaScan

/-- A BIGINT vector in `UnifiedVectorFormat`, for `count` rows: the data, and `sel`, which
gives each row its entry of the data. -/
structure UnifiedFormat (count : Nat) where
  data : List (BitVec 64)
  sel : Fin count → Fin data.length

/-- `row_ids[data.sel->get_index(i)]`. -/
def UnifiedFormat.rowId {count : Nat} (u : UnifiedFormat count) (i : Fin count) : BitVec 64 :=
  u.data.get (u.sel i)

/-- `dv.ptr[offset]`, undefined outside the slice. -/
def KernelBoolSlice.read (dv : KernelBoolSlice) (offset : Int) : Option Bool :=
  if 0 ≤ offset then dv.ptr[offset.toNat]? else none

/-- `row_id >= dv.len || dv.ptr[row_id]`: the vector is read only when the comparison fails. -/
def keepTest (dv : KernelBoolSlice) (rowId : BitVec 64) : Option Bool :=
  if dv.len ≤ rowId.toNat then some true else dv.read rowId.toInt

/-- `result.data()[k] = v` in the buffer of `SelectionVector result {count}`, undefined past
its end. -/
def writeAt (buffer : List (Option Nat)) (k v : Nat) : Option (List (Option Nat)) :=
  if k < buffer.length then some (buffer.set k (some v)) else none

section Select

variable (dv : KernelBoolSlice) {count : Nat} (rowIdColumn : UnifiedFormat count)

/-- The loop of `DuckSVFromDeltaSV` over the rows, with the buffer and `current_select`. -/
def selectLoop : List (Fin count) → List (Option Nat) × Nat → Option (List (Option Nat) × Nat)
  | [], acc => some acc
  | i :: rows, (result, currentSelect) => do
    let keep ← keepTest dv (rowIdColumn.rowId i)
    if keep then
      let result ← writeAt result currentSelect i
      selectLoop rows (result, currentSelect + 1)
    else selectLoop rows (result, currentSelect)

/-- `DuckSVFromDeltaSV`: the buffer of the selection vector and `select_count`. -/
def duckSVFromDeltaSV : Option (List (Option Nat) × Nat) :=
  selectLoop dv rowIdColumn (List.finRange count) (List.replicate count none, 0)

/-- Whether a row of row number `r` is kept: `r` is past the end of the vector, compared as
unsigned, or marked `true` in it. -/
def keepsRow (r : BitVec 64) : Bool :=
  decide (dv.len ≤ r.toNat) || dv.ptr[r.toNat]?.getD false

/-- The rows the selection vector is meant to hold, in order. -/
def keptRows : List (Fin count) :=
  (List.finRange count).filter fun i => keepsRow dv (rowIdColumn.rowId i)

/-! ## The loop -/

/-- The test of the loop is `keepsRow`, and it reads the vector inside it only: a row number
below `dv.len` is below `2 ^ 63`, so its signed value is its unsigned one. -/
theorem keepTest_eq_keepsRow (r : BitVec 64) : keepTest dv r = some (keepsRow dv r) := by
  unfold keepTest keepsRow
  split
  · rename_i h; simp [h]
  · rename_i h
    have hlt : r.toNat < dv.ptr.length := Nat.lt_of_not_le h
    have hint : r.toInt = r.toNat := by
      rw [BitVec.toInt_eq_toNat_cond, if_pos (by have := dv.len_lt; omega)]
    simp [KernelBoolSlice.read, hint, h, List.getElem?_eq_getElem hlt, Int.ofNat_nonneg]

theorem take_succ_set (l : List (Option Nat)) {k : Nat} (hk : k < l.length) (v : Option Nat) :
    (l.set k v).take (k + 1) = l.take k ++ [v] := by
  simp [List.set_eq_take_append_cons_drop, hk, List.take_append_eq_append_take,
    Nat.min_eq_left hk.le]

/-- The loop over increasing rows from `currentSelect` on writes the kept rows, in order,
right after the entries already written, and nothing before them or past the buffer. -/
theorem selectLoop_spec : ∀ (rows : List (Fin count)) (result : List (Option Nat))
    (currentSelect : Nat), result.length = count → rows.Pairwise (· < ·) →
    (∀ i ∈ rows, currentSelect ≤ i.val) →
    let kept := rows.filter fun i => keepsRow dv (rowIdColumn.rowId i)
    ∃ result', selectLoop dv rowIdColumn rows (result, currentSelect) =
        some (result', currentSelect + kept.length) ∧ result'.length = count ∧
      result'.take (currentSelect + kept.length) =
        result.take currentSelect ++ kept.map fun i => some i.val
  | [], result, currentSelect, hlen, _, _ => ⟨result, rfl, hlen, by simp⟩
  | i :: rows, result, currentSelect, hlen, hsorted, hbound => by
    intro kept
    rw [List.pairwise_cons] at hsorted
    have hi := hbound i (List.mem_cons_self _ _)
    simp only [selectLoop, keepTest_eq_keepsRow, Option.bind_eq_bind, Option.some_bind]
    by_cases hkeep : keepsRow dv (rowIdColumn.rowId i) = true
    · have hk : currentSelect < result.length := by omega
      obtain ⟨result', hrun, hlen', htake⟩ := selectLoop_spec rows (result.set currentSelect (some i))
        (currentSelect + 1) (by simpa using hlen) hsorted.2
        fun j hj => by have := hsorted.1 j hj; simp only [Fin.lt_def] at this; omega
      have hkept : kept = i :: rows.filter fun i => keepsRow dv (rowIdColumn.rowId i) := by
        simp [kept, List.filter_cons, hkeep]
      refine ⟨result', ?_, hlen', ?_⟩
      · simp only [hkeep, if_true, writeAt, if_pos hk, Option.some_bind, hrun, hkept,
          List.length_cons]
        congr 2; omega
      · rw [hkept, List.length_cons, Nat.add_comm _ 1, ← Nat.add_assoc, htake,
          take_succ_set _ hk]
        simp
    · have hkept : kept = rows.filter fun i => keepsRow dv (rowIdColumn.rowId i) := by
        simp [kept, List.filter_cons, hkeep]
      obtain ⟨result', hrun, hlen', htake⟩ := selectLoop_spec rows result currentSelect hlen
        hsorted.2 fun j hj => by have := hsorted.1 j hj; simp only [Fin.lt_def] at this; omega
      refine ⟨result', ?_, hlen', ?_⟩
      · simp only [hkeep, Bool.false_eq_true, if_false, hrun, hkept]
      · rw [hkept, htake]

/-- `DuckSVFromDeltaSV` writes the kept rows, in order, to the front of its buffer. -/
theorem duckSVFromDeltaSV_eq :
    ∃ result, duckSVFromDeltaSV dv rowIdColumn =
        some (result, (keptRows dv rowIdColumn).length) ∧ result.length = count ∧
      result.take (keptRows dv rowIdColumn).length =
        (keptRows dv rowIdColumn).map (fun i => some i.val) := by
  obtain ⟨result, hrun, hlen, htake⟩ := selectLoop_spec dv rowIdColumn (List.finRange count)
    (List.replicate count none) 0 (by simp) (List.pairwise_lt_finRange count) (by simp)
  simp only [Nat.zero_add, List.take_zero, List.nil_append] at hrun htake
  exact ⟨result, hrun, hlen, htake⟩

end Select

/-- `DuckSVFromDeltaSV` selects exactly the rows whose row number, read through `sel` and
compared as unsigned, is past the end of the deletion vector or marked `true` in it: its
buffer of `count` entries starts with those rows in increasing order, and `select_count` is
their number, so at most `count`; no read or write falls outside the vector or the buffer. -/
theorem duckSVFromDeltaSV_selects (dv : KernelBoolSlice) (count : Nat)
    (rowIdColumn : UnifiedFormat count) :
    ∃ result selectCount, duckSVFromDeltaSV dv rowIdColumn = some (result, selectCount) ∧
      result.length = count ∧ selectCount = (keptRows dv rowIdColumn).length ∧
      selectCount ≤ count ∧
      result.take selectCount = (keptRows dv rowIdColumn).map (fun i => some i.val) ∧
      ((keptRows dv rowIdColumn).map Fin.val).Pairwise (· < ·) := by
  obtain ⟨result, hrun, hlen, htake⟩ := duckSVFromDeltaSV_eq dv rowIdColumn
  refine ⟨result, _, hrun, hlen, rfl, ?_, htake, ?_⟩
  · simpa using List.length_filter_le _ (List.finRange count)
  · exact List.pairwise_map.2 ((List.pairwise_lt_finRange count).filter _)

example : duckSVFromDeltaSV ⟨[false, true], by decide⟩ (⟨[0, 1, -1], id⟩ : UnifiedFormat 3) =
    some ([some 1, some 2, none], 2) := rfl

end DeltaScan

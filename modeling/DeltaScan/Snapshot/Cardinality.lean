import Mathlib
import DeltaScan.Snapshot.Expansion

/-!
# What `GetCardinality` reports

`GetCardinality` expands the whole list and adds up, as an `idx_t`, the cardinalities of the files
whose metadata has one: `stats->num_records` where the kernel passed statistics for the file,
and `INVALID_INDEX` where it did not. It reports `NodeStatistics(total, total)` when some file
has statistics, and nothing when none has; a list with no files gets `(0, 0)`.

So the statistics count the records of the files that carry statistics and no others. Where
every file carries them, that is every record of the table; where some file does not, its
records are left out of both the estimate and the maximum.

`GetCardinality` takes the lock twice, once in `GetTotalFileCount` and once for the sum, so
other threads may run operations in between. Once `GetTotalFileCount` has expanded every file,
none of them changes the list, and the answer is that of the call with nothing in between.
-/

namespace DeltaScan

namespace DeltaSnapshot

/-! ## The sum of the cardinalities -/

/-- The cardinality `GetCardinality` counts for a file, where the metadata has one. -/
def knownCardinality (m : DeltaFileMetaData) : Option Nat :=
  if m.cardinality ≠ INVALID_INDEX then some m.cardinality else none

/-- The records of the files that carry statistics. -/
def statsTotal (files : List ScanFile) : Nat := (files.filterMap ScanFile.numRecords).sum

/-- The loop of `GetCardinality` from any running total below `2 ^ 64`. -/
theorem foldl_cardinalities (ms : List DeltaFileMetaData) :
    ∀ (total : Nat) (any : Bool), total < 2 ^ 64 →
      ms.foldl (fun (acc : Nat × Bool) m => match acc with
        | (total, any) =>
          if m.cardinality ≠ INVALID_INDEX then ((total + m.cardinality) % 2 ^ 64, true)
          else (total, any)) (total, any) =
        ((total + ((ms.map knownCardinality).filterMap id).sum) % 2 ^ 64,
          any || (ms.map knownCardinality).any Option.isSome) := by
  induction ms with
  | nil =>
    intro total any h
    rw [List.foldl_nil, List.map_nil, List.filterMap_nil, List.sum_nil, Nat.add_zero,
      Nat.mod_eq_of_lt h, List.any_nil, Bool.or_false]
  | cons m ms ih =>
    intro total any h
    rw [List.foldl_cons]
    dsimp only
    by_cases hm : m.cardinality = INVALID_INDEX
    · rw [if_neg (not_not.2 hm), ih total any h]
      simp [knownCardinality, hm]
    · rw [if_pos hm, ih _ true (Nat.mod_lt _ (Nat.two_pow_pos 64))]
      simp [knownCardinality, hm, Nat.add_mod_mod, Nat.add_assoc]

/-- `GetCardinality`'s sum is the sum of the known cardinalities, as an `idx_t`, and it has some
exactly when some file has one. -/
theorem sumCardinalities_eq (ms : List DeltaFileMetaData) :
    sumCardinalities ms =
      (((ms.map knownCardinality).filterMap id).sum % 2 ^ 64,
        (ms.map knownCardinality).any Option.isSome) := by
  have h := foldl_cardinalities ms 0 false (Nat.two_pow_pos 64)
  rw [Nat.zero_add, Bool.false_or] at h
  exact h

section Eager

variable {s₀ : DeltaSnapshot} {snap : SharedKernelSnapshot} {B : List (List ScanFile)}

/-- The metadata of a file knows the file's record count, an `int64_t`, where the kernel passed
statistics. -/
theorem map_knownCardinality_eager
    (hrecords : ∀ f ∈ B.flatten, ∀ n, f.numRecords = some n → n < 2 ^ 63) :
    (eagerMetaData s₀ snap B).map knownCardinality = B.flatten.map ScanFile.numRecords := by
  apply List.ext_getElem (by rw [List.length_map, List.length_map, eagerMetaData_length])
  intro j hj hj'
  rw [List.length_map] at hj'
  simp only [List.getElem_map, eagerMetaData, List.getElem_mapIdx, fileMetaData, initialMetaData,
    knownCardinality]
  cases hn : B.flatten[j].numRecords with
  | none => simp [hn]
  | some n =>
    have := hrecords _ (List.getElem_mem _) n hn
    simp only [Option.getD_some, hn, ite_eq_left_iff, not_not, INVALID_INDEX]
    omega

/-- What `GetCardinality` builds from the whole list. -/
theorem cardinalityOf_eager
    (hrecords : ∀ f ∈ B.flatten, ∀ n, f.numRecords = some n → n < 2 ^ 63)
    (hsum : statsTotal B.flatten < 2 ^ 64) :
    cardinalityOf B.flatten.length (eagerMetaData s₀ snap B) =
      if B.flatten.isEmpty then some (0, 0)
      else if B.flatten.any (·.numRecords.isSome) then
        some (statsTotal B.flatten, statsTotal B.flatten)
      else none := by
  have hfm : ((B.flatten.map ScanFile.numRecords).filterMap id) =
      B.flatten.filterMap ScanFile.numRecords := by
    rw [List.filterMap_map]; rfl
  simp only [cardinalityOf, sumCardinalities_eq, map_knownCardinality_eager hrecords, hfm,
    ← List.isEmpty_iff_length_eq_zero]
  rw [← statsTotal, Nat.mod_eq_of_lt hsum]
  have hany : (B.flatten.map ScanFile.numRecords).any Option.isSome =
      B.flatten.any (·.numRecords.isSome) := Bool.eq_iff_iff.2 (by simp)
  simp only [hany]

/-- With no empty path, every `GetCardinality` of a run answers from the whole list. -/
theorem runOps_getCardinality {E : Env} (hf : Fresh s₀) (hk : Serves E s₀ snap B)
    (hne : [] ∉ eagerPaths E s₀ B) {ops : List Op} {k : Nat} (hlt : k < ops.length)
    (hop : ops[k] = .getCardinality) :
    (runOps E ops s₀).1[k]? =
      some (.ok (.cardinality (cardinalityOf B.flatten.length (eagerMetaData s₀ snap B)))) := by
  have hrun := runOps_reached hf hk ops none
  rw [show reached E s₀ snap B none = s₀ from rfl] at hrun
  rw [hrun, List.getElem?_map, runAbstract_getElem? ops none hlt, Option.map_some']
  have hagree := @answer_agrees E s₀ snap B hf hk
    (runAbstract B (eagerPaths E s₀ B) (eagerMetaData s₀ snap B) (ops.take k) none).2 ops[k]
  rw [hop] at hagree ⊢
  rw [hagree hne]

end Eager

/-- `GetCardinality` reports the records of the files that carry statistics. For every batching
of the table by the kernel with no empty resolved path, every run of operations on one list and
every `GetCardinality` in it, the answer is `(0, 0)` for a table with no files; otherwise it is
`NodeStatistics(s, s)`, with `s` the sum of `stats->num_records` over the files that carry
statistics, when some file does, and no statistics when none does. The record counts are
`int64_t`s, and their sum stays below `2 ^ 64`, where the `idx_t` sum would wrap. -/
theorem getCardinality_counts_files_with_stats (E : Env) (s₀ : DeltaSnapshot)
    (snap : SharedKernelSnapshot) (B : List (List ScanFile)) (hf : Fresh s₀)
    (hk : Serves E s₀ snap B) (hne : [] ∉ eagerPaths E s₀ B)
    (hrecords : ∀ f ∈ B.flatten, ∀ n, f.numRecords = some n → n < 2 ^ 63)
    (hsum : statsTotal B.flatten < 2 ^ 64) (ops : List Op) (k : Nat) (hlt : k < ops.length)
    (hop : ops[k] = .getCardinality) :
    (runOps E ops s₀).1[k]? = some (.ok (.cardinality
      (if B.flatten.isEmpty then some (0, 0)
        else if B.flatten.any (·.numRecords.isSome) then
          some (statsTotal B.flatten, statsTotal B.flatten)
        else none))) := by
  rw [runOps_getCardinality hf hk hne hlt hop, cardinalityOf_eager hrecords hsum]

theorem getCardinality_counts_files_with_stats_sample :
    Fresh (create [] (bytes "t")) ∧ Serves sampleKernel (create [] (bytes "t")) ⟨3, []⟩ sampleBatches ∧
    [] ∉ eagerPaths sampleKernel (create [] (bytes "t")) sampleBatches ∧
    (∀ f ∈ sampleBatches.flatten, ∀ n, f.numRecords = some n → n < 2 ^ 63) ∧
    statsTotal sampleBatches.flatten < 2 ^ 64 ∧ 0 < [Op.getCardinality].length ∧
    (runOps sampleKernel [.getCardinality] (create [] (bytes "t"))).1[0]? = some (.ok (.cardinality
      (if sampleBatches.flatten.isEmpty then some (0, 0)
        else if sampleBatches.flatten.any (·.numRecords.isSome) then
          some (statsTotal sampleBatches.flatten, statsTotal sampleBatches.flatten)
        else none))) :=
  have hrecords : ∀ f ∈ sampleBatches.flatten, ∀ n, f.numRecords = some n → n < 2 ^ 63 :=
    fun f hf n hn => by
      simp only [sampleBatches, List.flatten, List.mem_append, List.mem_singleton,
        List.not_mem_nil, or_false, false_or, List.append_nil] at hf
      rcases hf with rfl | rfl <;> cases hn
      decide
  ⟨create_fresh [] (bytes "t"), sampleKernel_serves, by decide, hrecords, by decide, by decide,
    getCardinality_counts_files_with_stats sampleKernel _ _ _ (create_fresh [] (bytes "t"))
      sampleKernel_serves (by decide) hrecords (by decide) [.getCardinality] 0 (by decide) rfl⟩

/-- Two files, the second without statistics: `GetCardinality` reports the two records of the
first as both the estimate and the maximum, so a maximum below the table's row count as soon as
the second file holds a record. -/
theorem cardinality_leaves_out_files_without_stats :
    (runOps sampleKernel [.getCardinality] (create [] (bytes "t"))).1[0]? =
        some (.ok (.cardinality (some (2, 2)))) ∧
      sampleBatches.flatten.map ScanFile.numRecords = [some 2, none] := by
  refine ⟨?_, rfl⟩
  rw [@runOps_getCardinality _ _ _ sampleKernel (create_fresh [] (bytes "t")) sampleKernel_serves
    (by decide) [.getCardinality] 0 (by decide) rfl]
  rfl

/-! ## Between the two locked sections -/

/-- `GetCardinality` as the source runs it on a list other threads share: `GetTotalFileCount`
under the lock, then the operations `ops` of other threads while the lock is free, then the sum
over the metadata under the lock again, with the count the first section returned. -/
def getCardinalityInterleaved (E : Env) (ops : List Op) : Step (Option (Nat × Nat)) := do
  let totalFileCount ← getTotalFileCount E
  modify fun s => (runOps E ops s).2
  return cardinalityOf totalFileCount (← get).metadata

section Interleaving

variable {E : Env} {s₀ : DeltaSnapshot} {snap : SharedKernelSnapshot} {B : List (List ScanFile)}

/-- Once the kernel has said there are no more files, a run of operations leaves the list as it
is. -/
theorem runOps_exhausted (hf : Fresh s₀) (hk : Serves E s₀ snap B) {o : Option Nat}
    (hex : (reached E s₀ snap B o).filesExhausted = true) (ops : List Op) :
    (runOps E ops (reached E s₀ snap B o)).2 = reached E s₀ snap B o := by
  induction ops with
  | nil => rfl
  | cons op ops ih =>
    have hsame := run_reached_unchanged hf hk o op (.inr hex)
    rw [run_reached hf hk, after_ok] at hsame
    rw [runOps, run_reached hf hk]
    dsimp only
    rw [hsame, ih]

/-- With no empty path, `GetTotalFileCount` leaves the list fully expanded. -/
theorem getTotalFileCount_exhausts (hne : [] ∉ eagerPaths E s₀ B) (o : Option Nat) :
    (reached E s₀ snap B (some (expanded B (eagerPaths E s₀ B) o))).filesExhausted = true := by
  have hle : B.flatten.length ≤ expanded B (eagerPaths E s₀ B) o := by
    rw [expanded, firstEmpty_of_nil_not_mem hne, eagerPaths_length]
    exact Nat.le_trans (Nat.le_max_right _ _) (Nat.le_max_right _ _)
  simpa [reached, stateAt] using hle

/-- Operations of other threads between the two locked sections of `GetCardinality` change
neither its answer nor the list: with no empty resolved path, after any run of operations,
`GetCardinality` with any operations run between its sections returns what it returns alone and
leaves the list as it leaves it. -/
theorem getCardinality_interleaved (hf : Fresh s₀) (hk : Serves E s₀ snap B)
    (hne : [] ∉ eagerPaths E s₀ B) (before during : List Op) :
    getCardinalityInterleaved E during (runOps E before s₀).2 =
      getCardinality E (runOps E before s₀).2 := by
  rw [runOps_state hf hk]
  simp only [getCardinalityInterleaved, getCardinality, Step.bind_apply, Step.modify_apply,
    Step.get_apply, Step.pure_apply, getTotalFileCount_reached hf hk,
    runOps_exhausted hf hk (getTotalFileCount_exhausts hne _)]

theorem getCardinality_interleaved_sample :
    Fresh (create [] (bytes "t")) ∧ Serves sampleKernel (create [] (bytes "t")) ⟨3, []⟩ sampleBatches ∧
    [] ∉ eagerPaths sampleKernel (create [] (bytes "t")) sampleBatches ∧
    getCardinalityInterleaved sampleKernel [.getFile 0, .getAllFiles]
        (runOps sampleKernel [.getFile 1] (create [] (bytes "t"))).2 =
      getCardinality sampleKernel (runOps sampleKernel [.getFile 1] (create [] (bytes "t"))).2 :=
  ⟨create_fresh [] (bytes "t"), sampleKernel_serves, by decide,
    getCardinality_interleaved (create_fresh [] (bytes "t")) sampleKernel_serves (by decide)
      [.getFile 1] [.getFile 0, .getAllFiles]⟩

end Interleaving

end DeltaSnapshot

end DeltaScan

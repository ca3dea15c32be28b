import DeltaScan.Reader.Mapping
import DeltaScan.Reader.Selection

/-!
# Finalizing a chunk: deleted rows out

After the file reader has filled a chunk and the base class has written the constants,
`DeltaMultiFileReader::FinalizeChunk` drops the rows the file's deletion vector deletes: it
builds a selection vector from the chunk's vector at `file_row_number_idx` with
`DuckSVFromDeltaSV` and slices the chunk with it. It then evaluates the demonstration
expression `0 + 7` into the vector at `delta_file_number_idx`.

The file reader and the base class's `FinalizeChunk` are not among these sources. What they
hand over is described by `DataChunk.FilledFrom`: a position with a single constant holds that
constant, and a position mapped to a single local column holds the file's vector for it, cast
where `cast_map` says. Casts are a parameter.
-/

namespace DeltaScan

/-- A vector of a chunk, as far as the delta reader tells vectors apart. -/
inductive ChunkVector where
  /-- A constant vector: one value for every row. -/
  | constant (value : Value)
  /-- A flat vector: a value for each row. -/
  | flat (values : List Value)
  deriving DecidableEq, Repr

/-- A `DataChunk`: its size and its vectors. -/
structure DataChunk where
  size : Nat
  data : List ChunkVector
  deriving DecidableEq, Repr

/-- A BIGINT as the `int64_t` it is stored as. -/
def asBigint : Value → Option (BitVec 64)
  | .bigint v => some (BitVec.ofInt 64 v)
  | _ => none

/-- `Vector::ToUnifiedFormat` on a BIGINT vector of `count` rows: a constant vector gives every
row its one value, a flat one each row its own; `none` for a vector that is not BIGINT, where
`DuckSVFromDeltaSV` fails its `D_ASSERT`. -/
def ChunkVector.toUnifiedFormat (count : Nat) : ChunkVector → Option (UnifiedFormat count)
  | .constant v => (asBigint v).map fun r => ⟨[r], fun _ => ⟨0, Nat.zero_lt_one⟩⟩
  | .flat values => do
    let data ← values.mapM asBigint
    if h : count ≤ data.length then some ⟨data, fun i => ⟨i, Nat.lt_of_lt_of_le i.2 h⟩⟩
    else none

/-- `Vector::Slice` by the rows `rows`. -/
def ChunkVector.slice (rows : List Nat) : ChunkVector → ChunkVector
  | .constant v => .constant v
  | .flat values => .flat (rows.filterMap fun k => values[k]?)

/-- The chunk of the rows `rows`, in that order. -/
def DataChunk.keepRows (chunk : DataChunk) (rows : List Nat) : DataChunk :=
  ⟨rows.length, chunk.data.map (·.slice rows)⟩

/-- `chunk.Slice(sel, count)`: the first `count` entries of `sel`, which must have been
written. -/
def DataChunk.sliceBy (chunk : DataChunk) (sel : List (Option Nat)) (count : Nat) :
    Option DataChunk := do
  let rows ← (sel.take count).mapM id
  pure ⟨count, chunk.data.map (·.slice rows)⟩

/-- The first part of `DeltaMultiFileReader::FinalizeChunk`: the slice by the deletion vector. -/
def removeDeleted (globalState : GlobalState) (metadata : DeltaFileMetaData) (chunk : DataChunk) :
    Option DataChunk :=
  match metadata.selectionVector with
  | some dv =>
    if chunk.size ≠ 0 then do
      let fileRowNumberColumn ← chunk.data[globalState.fileRowNumberIdx]?
      let rowIds ← fileRowNumberColumn.toUnifiedFormat chunk.size
      let (sv, selectCount) ← duckSVFromDeltaSV dv rowIds
      chunk.sliceBy sv selectCount
    else some chunk
  | none => some chunk

/-- The second part: `0 + 7` evaluated into the vector at `delta_file_number_idx`. -/
def fillFileNumber (globalState : GlobalState) (chunk : DataChunk) : Option DataChunk :=
  if globalState.deltaFileNumberIdx ≠ INVALID_INDEX then
    if globalState.deltaFileNumberIdx < chunk.data.length then
      some { chunk with
        data := chunk.data.set globalState.deltaFileNumberIdx (.constant (.ubigint 7)) }
    else none
  else some chunk

/-- `DeltaMultiFileReader::FinalizeChunk` after the base class. -/
def finalizeChunk (globalState : GlobalState) (metadata : DeltaFileMetaData) (chunk : DataChunk) :
    Option DataChunk :=
  removeDeleted globalState metadata chunk >>= fillFileNumber globalState

/-- A local vector under the cast `cast_map` records for it. -/
def castTo (cast : LogicalType → ChunkVector → ChunkVector) :
    Option LogicalType → ChunkVector → ChunkVector
  | none, v => v
  | some type, v => cast type v

/-- The chunk the file reader and the base `FinalizeChunk` hand over for reader data `d`, with
`fileVectors j` the file's vector of local column `j` for the chunk's rows. -/
def DataChunk.FilledFrom (chunk : DataChunk) (d : ReaderData) (fileVectors : Nat → ChunkVector)
    (cast : LogicalType → ChunkVector → ChunkVector) : Prop :=
  (∀ p v, d.constantsAt p = [(p, v)] → chunk.data[p]? = some (.constant v)) ∧
  ∀ p j, d.constantsAt p = [] → d.mappingsAt p = [(p, j)] →
    chunk.data[p]? = some (castTo cast (d.castMap j) (fileVectors j))

/-- The rows of a file chunk with row numbers `rowNumbers` that the deletion vector keeps:
those whose row number is past its end, compared as unsigned, or marked `true` in it. -/
def survivors (dv : KernelBoolSlice) (rowNumbers : List Int) : List Nat :=
  (List.range rowNumbers.length).filter fun k =>
    keepsRow dv (BitVec.ofInt 64 (rowNumbers.getD k 0))

/-! ## Slicing a chunk -/

theorem mapM_id_map_some : ∀ l : List Nat, (l.map some).mapM id = some l
  | [] => rfl
  | k :: l => by rw [List.map_cons, List.mapM_cons, mapM_id_map_some l]; rfl

theorem mapM_asBigint : ∀ l : List Int,
    (l.map Value.bigint).mapM asBigint = some (l.map (BitVec.ofInt 64))
  | [] => rfl
  | k :: l => by rw [List.map_cons, List.mapM_cons, mapM_asBigint l]; rfl

/-- A flat vector of row numbers reads, row by row, as those row numbers. -/
theorem toUnifiedFormat_flat (rowNumbers : List Int) :
    ∃ u, (ChunkVector.flat (rowNumbers.map .bigint)).toUnifiedFormat rowNumbers.length = some u ∧
      ∀ i, u.rowId i = BitVec.ofInt 64 (rowNumbers.getD i 0) := by
  refine ⟨⟨rowNumbers.map (BitVec.ofInt 64), fun i => ⟨i, by simp⟩⟩, ?_, fun i => ?_⟩
  · simp only [ChunkVector.toUnifiedFormat]
    rw [mapM_asBigint]
    simp
  · simp [UnifiedFormat.rowId, List.getD_eq_getElem?_getD, List.getElem?_eq_getElem i.2]

/-- The rows the loop keeps are the survivors. -/
theorem keptRows_map_val (dv : KernelBoolSlice) (rowNumbers : List Int)
    (u : UnifiedFormat rowNumbers.length)
    (hrow : ∀ i, u.rowId i = BitVec.ofInt 64 (rowNumbers.getD i 0)) :
    (keptRows dv u).map Fin.val = survivors dv rowNumbers := by
  unfold keptRows survivors
  simp only [hrow]
  rw [← List.map_coe_finRange, List.filter_map]
  rfl

/-- On a non-empty chunk whose vector at `file_row_number_idx` holds the row numbers of its
rows, the deletion slice keeps the survivors, in order. -/
theorem removeDeleted_slices {globalState : GlobalState} {metadata : DeltaFileMetaData}
    {dv : KernelBoolSlice} (hdv : metadata.selectionVector = some dv) {chunk : DataChunk}
    (hsize : chunk.size ≠ 0) {rowNumbers : List Int}
    (hcolumn : chunk.data[globalState.fileRowNumberIdx]? = some (.flat (rowNumbers.map .bigint)))
    (hrows : rowNumbers.length = chunk.size) :
    removeDeleted globalState metadata chunk = some (chunk.keepRows (survivors dv rowNumbers)) := by
  obtain ⟨u, hu, hrow⟩ := toUnifiedFormat_flat rowNumbers
  obtain ⟨result, hrun, -, htake⟩ := duckSVFromDeltaSV_eq dv u
  have hval := keptRows_map_val dv rowNumbers u hrow
  have hslice : chunk.sliceBy result (keptRows dv u).length =
      some (chunk.keepRows (survivors dv rowNumbers)) := by
    have hsome : (keptRows dv u).map (fun i => some i.val) = ((keptRows dv u).map Fin.val).map some :=
      by simp
    rw [DataChunk.sliceBy, htake, hsome, mapM_id_map_some, hval]
    simp [DataChunk.keepRows, ← hval]
  cases chunk with
  | mk size data =>
    dsimp only at hsize hrows hcolumn
    subst hrows
    simp [removeDeleted, hdv, hsize, hcolumn, hu, hrun, hslice]

/-! ## The `file_row_number` column of a file -/

section FileRowNumber

variable {isRowIdColumnId : Nat → Bool} {globalColumns : List ColumnDefinition}
  {defaultCastAs : Value → LogicalType → Except String Value} {unset : Nat}
  {deltaFileNumber : Option Bool}
  {iterate : List (String × LogicalType) → List (String × LogicalType)} {ids : List Nat}
  {globalState : GlobalState} {metadata : DeltaFileMetaData}
  {localColumns : List ColumnDefinition} {baseConstants : List (Nat × Value)}

/-- A sound cast map never marks the file's `file_row_number` column when it and the global
columns of that name are all BIGINT. -/
theorem castMap_fileRowNumber {castMap : Nat → Option LogicalType}
    (hsound : CastsSound globalColumns localColumns castMap)
    (htype : ∀ column ∈ globalColumns, ciEquals column.name "file_row_number" = true →
      column.type = .bigint)
    {j : Nat} (hlocal : lastLocal localColumns "file_row_number" = some j)
    (hlocalType : localColumns[j]?.map (·.type) = some .bigint) : castMap j = none := by
  cases hcj : castMap j with
  | none => rfl
  | some t =>
    obtain ⟨G, hG, hGl, rfl, hne⟩ := hsound j _ hcj
    obtain ⟨c, hc, hname⟩ := lastLocal_some hGl
    obtain ⟨c', hc', hname'⟩ := lastLocal_some hlocal
    cases hc.symm.trans hc'
    have hG' : ciEquals G.name "file_row_number" = true := by
      simp only [ciEquals_iff] at hname hname' ⊢
      exact hname.symm.trans hname'
    exact absurd (hlocalType.trans (by rw [htype G hG hG'])) hne

/-- Where no constant competes for it, the position `file_row_number_idx` of a file that has a
BIGINT `file_row_number` column is read from that column, without a cast: through the name
mapping when the projection holds `file_row_number`, and through the mapping
`CreateColumnMapping` adds otherwise. -/
theorem bindFile_fileRowNumber
    (hrange : ∀ id ∈ ids, isRowIdColumnId id = false → id < globalColumns.length)
    (horder : (iterate (columnsToMap deltaFileNumber)).Perm (columnsToMap deltaFileNumber))
    (hglobal : initializeGlobalState isRowIdColumnId globalColumns unset deltaFileNumber iterate
      ids = .ok globalState)
    (hbase : (baseConstants.map Prod.fst).Nodup)
    (hbaseRange : ∀ p ∈ baseConstants.map Prod.fst, p < ids.length)
    (hbaseName : ∀ p (hp : p < ids.length), (baseConstants.lookup p).isSome →
      ∀ column, globalColumns[ids[p]]? = some column →
        ciEquals column.name "file_row_number" = false)
    (hpartition : metadata.partitionMap.find? "file_row_number" = none ∨
      ∀ id ∈ ids, ∀ column, globalColumns[id]? = some column →
        ciEquals column.name "file_row_number" = false)
    (htype : ∀ column ∈ globalColumns, ciEquals column.name "file_row_number" = true →
      column.type = .bigint)
    {j : Nat} (hlocal : lastLocal localColumns "file_row_number" = some j)
    (hlocalType : localColumns[j]?.map (·.type) = some .bigint) {d : ReaderData}
    (hd : bindFile isRowIdColumnId globalColumns defaultCastAs deltaFileNumber globalState metadata
      localColumns ids baseConstants = .ok d) :
    d.Resolves globalState.fileRowNumberIdx (.column j none) := by
  obtain ⟨d₁, d₂, hfb, h₂, hconst, hcast, hmap⟩ := bindFile_eq hd
  obtain ⟨hcast₁, hmap₁, hat⟩ := finalizeBind_spec hrange hfb
  have hsound₁ : CastsSound globalColumns localColumns d₁.castMap := by
    intro j t ht; rw [hcast₁] at ht; cases ht
  have hm₁ : ∀ q, d₁.mappingsAt q = [] := fun q => by simp [ReaderData.mappingsAt, hmap₁]
  have hnocast : d.castMap j = none := by
    rw [hcast]
    exact castMap_fileRowNumber (nameMappingLoop_casts h₂ hsound₁).1 htype hlocal hlocalType
  have hconstAt : d.constantsAt globalState.fileRowNumberIdx =
      d₂.constantsAt globalState.fileRowNumberIdx := by
    simp only [ReaderData.constantsAt, hconst]
  obtain ⟨c, hc, hcg, hconst₁⟩ := hat globalState.fileRowNumberIdx
  rw [filter_key_eq_lookup hbase, fileNumberEntry_filter fun ⟨hopt, h⟩ =>
    initializeGlobalState_idx_ne unset deltaFileNumber iterate ids hrange horder hglobal hopt
      h.symm] at hconst₁
  by_cases hlt : globalState.fileRowNumberIdx < ids.length
  · -- the projection holds `file_row_number`: the name mapping reads it
    have hfirst := initializeGlobalState_lt_length unset deltaFileNumber iterate ids hrange horder
      hglobal (c := ("file_row_number", .bigint)) (by simp [columnsToMap]) (by simpa using hlt)
    obtain ⟨_, -, column, hcol, hname⟩ := firstPosition_some hfirst
    simp only [GlobalState.columnIdx_fileRowNumber] at hcol hname
    have hlookup : baseConstants.lookup globalState.fileRowNumberIdx = none :=
      Option.not_isSome_iff_eq_none.1 fun hs => by
        rw [hbaseName _ hlt hs column hcol] at hname; cases hname
    have hcnone : c = none := by
      refine Except.ok.inj ((hc hlt).symm.trans (partitionConstant_none
        (hrange _ (List.getElem_mem hlt)) fun column' hcol' => ?_))
      cases hcol.symm.trans hcol'
      rw [CaseInsensitiveMap.find?_congr _ hname]
      exact hpartition.resolve_right fun h => by
        rw [h _ (List.getElem_mem hlt) column hcol] at hname; cases hname
    rw [hlookup, hcnone] at hconst₁
    have hnil₁ : d₁.constantsAt globalState.fileRowNumberIdx = [] := by simpa using hconst₁
    have hnm := nameMappingLoop_at h₂ hsound₁ _ hlt
    rw [Nat.zero_add] at hnm
    unfold NameMapped at hnm
    rw [if_pos hnil₁] at hnm
    obtain ⟨global, hg, hmatch⟩ := hnm
    cases hcol.symm.trans hg
    rw [lastLocal_congr _ hname, hlocal] at hmatch
    obtain ⟨hc₂, hm₂, -⟩ := hmatch
    rcases hmap with ⟨-, hmap⟩ | ⟨_, hle, -, -⟩
    · refine ⟨hconstAt.trans hc₂, ?_, hnocast⟩
      rw [show d.mappingsAt globalState.fileRowNumberIdx = d₂.mappingsAt globalState.fileRowNumberIdx
        by simp [ReaderData.mappingsAt, hmap], hm₂, hm₁]
      rfl
    · omega
  · -- `file_row_number` goes past the projection: `CreateColumnMapping` maps it
    have hlookup : baseConstants.lookup globalState.fileRowNumberIdx = none :=
      List.lookup_eq_none_iff.2 fun q hq => bne_iff_ne.2 fun hq' => by
        have := hbaseRange _ (List.mem_map_of_mem Prod.fst hq); omega
    rw [hlookup, hcg (by omega)] at hconst₁
    obtain ⟨hc₂, hm₂⟩ := nameMappingLoop_frame h₂ globalState.fileRowNumberIdx (.inr (by omega))
    rcases hmap with ⟨hlt', -⟩ | ⟨j', -, hj', hmap⟩
    · omega
    · rw [hlocal] at hj'
      cases hj'
      refine ⟨hconstAt.trans (hc₂.trans (by simpa using hconst₁)), ?_, hnocast⟩
      rw [show d.mappingsAt globalState.fileRowNumberIdx =
          d₂.mappingsAt globalState.fileRowNumberIdx ++ [(globalState.fileRowNumberIdx, j)]
        by simp [ReaderData.mappingsAt, hmap, List.filter_append], hm₂, hm₁]
      rfl

end FileRowNumber

/-- A file with a deletion vector that deletes its row 0, read under the projection `a`: the
file's `file_row_number` column goes to position 1. -/
def maskedFile : DeltaFileMetaData := ⟨0, 0, 2, some ⟨[false, true], by decide⟩, .empty⟩

/-- The file's vectors for a chunk of its rows 0 and 1: `a` and `file_row_number`. -/
def maskedVectors (j : Nat) : ChunkVector :=
  if j = 1 then .flat [.bigint 0, .bigint 1] else .flat [.bigint 5, .bigint 6]

example : finalizeChunk ⟨[.bigint], 1, INVALID_INDEX⟩ maskedFile
    ⟨2, [maskedVectors 0, maskedVectors 1]⟩ = some ⟨1, [.flat [.bigint 6], .flat [.bigint 1]]⟩ :=
  rfl

/-- One value `1` of the BIGINT cast of a one-digit string. -/
def castDigit : Value → LogicalType → Except String Value
  | .varchar [c], .bigint => .ok (.bigint (c.toNat - 48 : Nat))
  | v, _ => .ok v

/-- A table partitioned by a column named `file_row_number`, a file of its partition `1` whose
deletion vector deletes row 0. -/
def partitionedFile : DeltaFileMetaData :=
  ⟨0, 0, 2, some ⟨[false], by decide⟩, ⟨[("file_row_number", bytes "1")]⟩⟩

end DeltaScan

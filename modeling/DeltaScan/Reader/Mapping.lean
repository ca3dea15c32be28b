import Mathlib.Data.List.Nodup
import DeltaScan.Reader.GlobalState
import DeltaScan.Snapshot.State

/-!
# Reconciling one file's columns with the projection

For every file the scan opens, `FinalizeBind` and `CreateColumnMapping` decide how each
position of the projection is filled from that file: by a constant for the whole file (one the
base `MultiFileReader::FinalizeBind` recorded, the `delta_file_number` placeholder, the file's
partition value, or a NULL where the file lacks the column), or by one of the file's own
columns, cast where its type is not the global one. `CustomMulfiFileNameMapping` is the base
class's name mapping with that NULL fallback.

What the base class records is taken as given: `baseConstants` are the constants its
`FinalizeBind` leaves in `constant_map`, and nothing else of the reader data is filled before.
`DefaultCastAs` and `IsRowIdColumnId` are parameters. `column_mapping` and `column_ids` are
only ever pushed to together, so they are kept as one list of pairs.
-/

namespace DeltaScan

/-- The fields of `MultiFileReaderData` the reader fills for one file. -/
structure ReaderData where
  constantMap : List (Nat × Value)
  /-- `cast_map`, by local column id. -/
  castMap : Nat → Option LogicalType
  /-- `(column_mapping[k], column_ids[k])`: position `column_mapping[k]` of the result is read
  from local column `column_ids[k]`. -/
  mapping : List (Nat × Nat)
  emptyColumns : Bool

namespace ReaderData

/-- The reader data the base `FinalizeBind` hands over: its constants and nothing else. -/
def ofConstants (constants : List (Nat × Value)) : ReaderData :=
  ⟨constants, fun _ => none, [], false⟩

def columnIds (d : ReaderData) : List Nat := d.mapping.map Prod.snd

/-- The `constant_map` entries for position `i`. -/
def constantsAt (d : ReaderData) (i : Nat) : List (Nat × Value) :=
  d.constantMap.filter (·.1 == i)

/-- The `column_mapping` entries for position `i`, with their local column. -/
def mappingsAt (d : ReaderData) (i : Nat) : List (Nat × Nat) :=
  d.mapping.filter (·.1 == i)

end ReaderData

section Reconcile

variable (isRowIdColumnId : Nat → Bool) (globalColumns : List ColumnDefinition)

/-! ## `FinalizeBind` -/

section FinalizeBind

variable (defaultCastAs : Value → LogicalType → Except String Value)

/-- The constant `FinalizeBind` records at a position projecting `colId` for the file's
partition values: a BLOB takes the bytes as they are, any other type the cast of the string. -/
def partitionConstant (partitionMap : CaseInsensitiveMap Bytes) (colId : Nat) :
    Except ReaderException (Option Value) :=
  if isRowIdColumnId colId then .ok none
  else match globalColumns[colId]? with
    | none => .error .outOfRange
    | some column =>
      match partitionMap.find? column.name with
      | none => .ok none
      | some value =>
        if column.type = .blob then .ok (some (.blobRaw value))
        else match defaultCastAs (.varchar value) column.type with
          | .ok v => .ok (some v)
          | .error e => .error (.conversion e)

/-- The loop of `FinalizeBind` over the projection, appending the partition constants. -/
def partitionConstants (partitionMap : CaseInsensitiveMap Bytes) :
    List (Nat × Value) → Nat → List Nat → Except ReaderException (List (Nat × Value))
  | constantMap, _, [] => .ok constantMap
  | constantMap, i, colId :: ids => do
    let c ← partitionConstant isRowIdColumnId globalColumns defaultCastAs partitionMap colId
    partitionConstants partitionMap (constantMap ++ (c.map (i, ·)).toList) (i + 1) ids

/-- The `delta_file_number` placeholder `FinalizeBind` adds when the option is true. -/
def addFileNumberConstant (deltaFileNumber : Option Bool) (globalState : GlobalState)
    (data : ReaderData) : ReaderData :=
  if deltaFileNumber = some true then
    { data with constantMap := data.constantMap ++ [(globalState.deltaFileNumberIdx, .ubigint 0)] }
  else data

/-- `DeltaMultiFileReader::FinalizeBind` after the base class; `metadata` is the file's entry
of the file list. -/
def finalizeBind (deltaFileNumber : Option Bool) (globalState : GlobalState)
    (metadata : DeltaFileMetaData) (globalColumnIds : List Nat) (data : ReaderData) :
    Except ReaderException ReaderData := do
  let data := addFileNumberConstant deltaFileNumber globalState data
  if metadata.partitionMap.isEmpty then pure data
  else
    let constantMap ← partitionConstants isRowIdColumnId globalColumns defaultCastAs
      metadata.partitionMap data.constantMap 0 globalColumnIds
    pure { data with constantMap }

end FinalizeBind

/-! ## The name mapping -/

/-- `name_map`: each local column's name to its index, a later column of a name taking the
name's entry. -/
def nameMap (localColumns : List ColumnDefinition) : CaseInsensitiveMap Nat :=
  localColumns.enum.foldl (fun m c => m.set c.2.name c.1) .empty

/-- The loop of `CustomMulfiFileNameMapping` over the projection. -/
def nameMappingLoop (localColumns : List ColumnDefinition) (names : CaseInsensitiveMap Nat) :
    ReaderData → Nat → List Nat → Except ReaderException ReaderData
  | data, _, [] => .ok data
  | data, i, globalId :: ids =>
    if data.constantMap.any (·.1 == i) then nameMappingLoop localColumns names data (i + 1) ids
    else match globalColumns[globalId]? with
      | none => .error (.internal
          "MultiFileReader::CreatePositionalMapping - global_id is out of range in global_types for this file")
      | some global =>
        match names.find? global.name with
        | none => nameMappingLoop localColumns names
            { data with constantMap := data.constantMap ++ [(i, .null global.type)] } (i + 1) ids
        | some localId =>
          match localColumns[localId]? with
          | none => .error .outOfRange
          | some localColumn =>
            nameMappingLoop localColumns names
              { data with
                castMap := if global.type = localColumn.type then data.castMap
                  else Function.update data.castMap localId (some global.type)
                mapping := data.mapping ++ [(i, localId)] } (i + 1) ids

/-- `CustomMulfiFileNameMapping`. -/
def customMulfiFileNameMapping (localColumns : List ColumnDefinition) (globalColumnIds : List Nat)
    (data : ReaderData) : Except ReaderException ReaderData := do
  let data ← nameMappingLoop globalColumns localColumns (nameMap localColumns) data 0
    globalColumnIds
  pure { data with emptyColumns := data.columnIds.isEmpty }

/-- `DeltaMultiFileReader::CreateColumnMapping`. -/
def createColumnMapping (localColumns : List ColumnDefinition) (globalColumnIds : List Nat)
    (globalState : GlobalState) (data : ReaderData) : Except ReaderException ReaderData := do
  let data ← customMulfiFileNameMapping globalColumns localColumns globalColumnIds data
  let data ← if globalColumnIds.length ≤ globalState.fileRowNumberIdx then
      match (nameMap localColumns).find? "file_row_number" with
      | none => throw (.io "Failed to find the file_row_number column")
      | some localId =>
        pure { data with mapping := data.mapping ++ [(globalState.fileRowNumberIdx, localId)] }
    else pure data
  pure { data with emptyColumns := data.columnIds.isEmpty }

/-- The reader data of one file: `FinalizeBind`, then `CreateColumnMapping`, from the constants
the base class recorded. -/
def bindFile (defaultCastAs : Value → LogicalType → Except String Value)
    (deltaFileNumber : Option Bool) (globalState : GlobalState) (metadata : DeltaFileMetaData)
    (localColumns : List ColumnDefinition) (globalColumnIds : List Nat)
    (baseConstants : List (Nat × Value)) : Except ReaderException ReaderData := do
  let data ← finalizeBind isRowIdColumnId globalColumns defaultCastAs deltaFileNumber globalState
    metadata globalColumnIds (.ofConstants baseConstants)
  createColumnMapping globalColumns localColumns globalColumnIds globalState data

/-! ## What the reconciliation is meant to do -/

/-- The last local column named `name` up to case. -/
def lastLocal (localColumns : List ColumnDefinition) (name : String) : Option Nat :=
  ((List.range localColumns.length).filter fun j =>
    localColumns[j]?.any fun c => ciEquals c.name name).getLast?

/-- How one position of the projection is filled for a file. -/
inductive Resolution where
  /-- The same value in every row. -/
  | constant (value : Value)
  /-- The file's local column, cast to the given type where there is one. -/
  | column (localId : Nat) (cast : Option LogicalType)
  deriving DecidableEq, Repr

/-- Position `i` is filled by `r` and by nothing else. -/
def ReaderData.Resolves (d : ReaderData) (i : Nat) : Resolution → Prop
  | .constant v => d.constantsAt i = [(i, v)] ∧ d.mappingsAt i = []
  | .column j cast => d.constantsAt i = [] ∧ d.mappingsAt i = [(i, j)] ∧ d.castMap j = cast

/-- How position `i`, which projects `globalId`, is to be filled: by the base class's constant
there, by the `delta_file_number` placeholder, by the file's partition value for the column,
by the NULL of the column's type where the file has no column of its name, or by the last
local column of its name, cast where the types differ. -/
def expectedResolution (defaultCastAs : Value → LogicalType → Except String Value)
    (deltaFileNumber : Option Bool) (globalState : GlobalState) (metadata : DeltaFileMetaData)
    (localColumns : List ColumnDefinition) (baseConstants : List (Nat × Value))
    (i globalId : Nat) : Except ReaderException Resolution :=
  match baseConstants.lookup i with
  | some v => .ok (.constant v)
  | none =>
    if deltaFileNumber = some true ∧ globalState.deltaFileNumberIdx = i then
      .ok (.constant (.ubigint 0))
    else do
      match ← partitionConstant isRowIdColumnId globalColumns defaultCastAs metadata.partitionMap
          globalId with
      | some v => pure (.constant v)
      | none =>
        match globalColumns[globalId]? with
        | none => throw .outOfRange
        | some global =>
          pure <| match lastLocal localColumns global.name with
            | none => .constant (.null global.type)
            | some j => .column j (if localColumns[j]?.map (·.type) = some global.type then none
                else some global.type)

/-- Every cast recorded is to the type of a global column whose name finds that local column,
which does not have that type. -/
def CastsSound (localColumns : List ColumnDefinition) (castMap : Nat → Option LogicalType) :
    Prop :=
  ∀ j t, castMap j = some t → ∃ global ∈ globalColumns,
    lastLocal localColumns global.name = some j ∧ t = global.type ∧
      localColumns[j]?.map (·.type) ≠ some t

/-- What the name mapping leaves at position `i`, which projects `globalId`: a position that
holds a constant is left alone; any other gets the NULL of its column's type if the file has
no column of that name, and is read from the last local column of that name otherwise, which
is then marked for a cast if its type is not the column's. -/
def NameMapped (localColumns : List ColumnDefinition) (before after : ReaderData)
    (i globalId : Nat) : Prop :=
  if before.constantsAt i = [] then
    ∃ global, globalColumns[globalId]? = some global ∧
      match lastLocal localColumns global.name with
      | none => after.constantsAt i = [(i, .null global.type)] ∧
          after.mappingsAt i = before.mappingsAt i
      | some j => after.constantsAt i = [] ∧ after.mappingsAt i = before.mappingsAt i ++ [(i, j)] ∧
          (localColumns[j]?.map (·.type) ≠ some global.type → after.castMap j ≠ none)
  else after.constantsAt i = before.constantsAt i ∧ after.mappingsAt i = before.mappingsAt i

/-- One iteration of the name mapping, at position `i`, which projects `globalId`. -/
inductive NameStep (localColumns : List ColumnDefinition) (names : CaseInsensitiveMap Nat)
    (i globalId : Nat) : ReaderData → ReaderData → Prop
  | constant {data : ReaderData} : data.constantsAt i ≠ [] → NameStep localColumns names i globalId data data
  | null {data : ReaderData} {global : ColumnDefinition} : data.constantsAt i = [] →
      globalColumns[globalId]? = some global → names.find? global.name = none →
      NameStep localColumns names i globalId data
        { data with constantMap := data.constantMap ++ [(i, .null global.type)] }
  | column {data : ReaderData} {global localColumn : ColumnDefinition} {j : Nat} :
      data.constantsAt i = [] → globalColumns[globalId]? = some global →
      names.find? global.name = some j → localColumns[j]? = some localColumn →
      NameStep localColumns names i globalId data
        { data with
          castMap := if global.type = localColumn.type then data.castMap
            else Function.update data.castMap j (some global.type)
          mapping := data.mapping ++ [(i, j)] }

/-! ## Keyed lists and names -/

variable {isRowIdColumnId globalColumns}

/-- With distinct keys, the entries of key `i` are the one `lookup` finds. -/
theorem filter_key_eq_lookup {β : Type} :
    ∀ {l : List (Nat × β)}, (l.map Prod.fst).Nodup → ∀ i,
      l.filter (·.1 == i) = ((l.lookup i).map (i, ·)).toList
  | [], _, _ => rfl
  | (k, v) :: rest, hnd, i => by
    simp only [List.map_cons, List.nodup_cons] at hnd
    by_cases hk : k = i
    · subst hk
      have hrest : rest.filter (·.1 == k) = [] := List.filter_eq_nil_iff.2 fun e he h =>
        hnd.1 (by simp only [beq_iff_eq] at h; exact h ▸ List.mem_map_of_mem _ he)
      simp [List.lookup_cons, hrest]
    · simp [List.lookup_cons, hk, beq_false_of_ne (Ne.symm hk), filter_key_eq_lookup hnd.2 i]

theorem filter_key_option {β : Type} (i q : Nat) (c : Option β) :
    ((c.map (i, ·)).toList).filter (·.1 == q) = if i = q then (c.map (i, ·)).toList else [] := by
  cases c <;> by_cases h : i = q <;> simp [h]

theorem ReaderData.constantsAt_eq_nil_iff (d : ReaderData) (i : Nat) :
    d.constantsAt i = [] ↔ d.constantMap.any (·.1 == i) = false := by
  simp [ReaderData.constantsAt, List.filter_eq_nil_iff, List.any_eq_false]

theorem nameMap_append (localColumns : List ColumnDefinition) (c : ColumnDefinition) :
    nameMap (localColumns ++ [c]) = (nameMap localColumns).set c.name localColumns.length := by
  simp [nameMap, List.enum_append, List.foldl_append]

theorem lastLocal_append (localColumns : List ColumnDefinition) (c : ColumnDefinition)
    (name : String) :
    lastLocal (localColumns ++ [c]) name =
      if ciEquals c.name name then some localColumns.length else lastLocal localColumns name := by
  unfold lastLocal
  rw [List.length_append, List.length_singleton, List.range_succ, List.filter_append,
    List.getLast?_append]
  have hcongr : (List.range localColumns.length).filter
      (fun j => (localColumns ++ [c])[j]?.any fun c => ciEquals c.name name) =
      (List.range localColumns.length).filter
        fun j => localColumns[j]?.any fun c => ciEquals c.name name :=
    List.filter_congr fun j hj => by rw [List.getElem?_append_left (List.mem_range.1 hj)]
  rw [hcongr]
  by_cases h : ciEquals c.name name <;> simp [h]

/-- `name_map` finds the last local column of a name. -/
theorem nameMap_find? (localColumns : List ColumnDefinition) (name : String) :
    (nameMap localColumns).find? name = lastLocal localColumns name := by
  induction localColumns using List.reverseRecOn with
  | nil => rfl
  | append_singleton localColumns c ih =>
    rw [nameMap_append, CaseInsensitiveMap.find?_set, lastLocal_append, ih]

theorem lastLocal_some {localColumns : List ColumnDefinition} {name : String} {j : Nat}
    (h : lastLocal localColumns name = some j) :
    ∃ c, localColumns[j]? = some c ∧ ciEquals c.name name = true := by
  have hmem := List.mem_of_getLast?_eq_some h
  simp only [List.mem_filter, List.mem_range] at hmem
  obtain ⟨hj, hany⟩ := hmem
  rw [List.getElem?_eq_getElem hj] at hany ⊢
  exact ⟨_, rfl, by simpa using hany⟩

theorem lastLocal_congr (localColumns : List ColumnDefinition) {a b : String}
    (h : ciEquals a b = true) : lastLocal localColumns a = lastLocal localColumns b := by
  rw [← nameMap_find?, ← nameMap_find?, CaseInsensitiveMap.find?_congr _ h]

/-- With distinct names up to case, one global column finds a given local column. -/
theorem global_eq_of_lastLocal (hnames : (globalColumns.map fun c => lower c.name).Nodup)
    {localColumns : List ColumnDefinition} {g g' : ColumnDefinition} (hg : g ∈ globalColumns)
    (hg' : g' ∈ globalColumns) {j : Nat} (h : lastLocal localColumns g.name = some j)
    (h' : lastLocal localColumns g'.name = some j) : g = g' := by
  obtain ⟨c, hc, hname⟩ := lastLocal_some h
  obtain ⟨c', hc', hname'⟩ := lastLocal_some h'
  cases hc.symm.trans hc'
  simp only [ciEquals_iff] at hname hname'
  exact List.inj_on_of_nodup_map hnames hg hg' (hname.symm.trans hname')

/-- With distinct names up to case, a sound cast map marks the last local column of a global
column's name with the cast its types call for, once it marks it wherever they differ. -/
theorem castMap_lastLocal (hnames : (globalColumns.map fun c => lower c.name).Nodup)
    {localColumns : List ColumnDefinition} {castMap : Nat → Option LogicalType}
    (hsound : CastsSound globalColumns localColumns castMap) {global : ColumnDefinition}
    (hg : global ∈ globalColumns) {j : Nat} (hlast : lastLocal localColumns global.name = some j)
    (hmarked : localColumns[j]?.map (·.type) ≠ some global.type → castMap j ≠ none) :
    castMap j =
      if localColumns[j]?.map (·.type) = some global.type then none else some global.type := by
  have hcast_to : ∀ t, castMap j = some t →
      t = global.type ∧ localColumns[j]?.map (·.type) ≠ some t := fun t ht => by
    obtain ⟨G, hG, hGl, rfl, hne⟩ := hsound j t ht
    cases global_eq_of_lastLocal hnames hG hg hGl hlast
    exact ⟨rfl, hne⟩
  split
  · rename_i heq
    cases hcj : castMap j with
    | none => rfl
    | some t =>
      obtain ⟨rfl, hne⟩ := hcast_to t hcj
      exact absurd heq hne
  · rename_i hne
    obtain ⟨t, ht⟩ := Option.ne_none_iff_exists'.1 (hmarked hne)
    rw [ht, (hcast_to t ht).1]

/-! ## `FinalizeBind` -/

section FinalizeBindSpec

variable {defaultCastAs : Value → LogicalType → Except String Value}

/-- A partition constant fails only on a column outside `global_columns` or on the cast. -/
theorem partitionConstant_error {partitionMap : CaseInsensitiveMap Bytes} {colId : Nat}
    {e : ReaderException}
    (h : partitionConstant isRowIdColumnId globalColumns defaultCastAs partitionMap colId =
      .error e) :
    (isRowIdColumnId colId = false ∧ globalColumns.length ≤ colId) ∨ ∃ m, e = .conversion m := by
  unfold partitionConstant at h
  split at h
  · cases h
  · rename_i hr
    split at h
    · rename_i hnone
      exact .inl ⟨by simpa using hr, List.getElem?_eq_none_iff.1 hnone⟩
    · split at h
      · cases h
      · split at h
        · cases h
        · split at h
          · cases h
          · cases h; exact .inr ⟨_, rfl⟩

/-- A column without a partition value gets no partition constant. -/
theorem partitionConstant_none {partitionMap : CaseInsensitiveMap Bytes} {colId : Nat}
    (hin : isRowIdColumnId colId = false → colId < globalColumns.length)
    (hnone : ∀ column, globalColumns[colId]? = some column →
      partitionMap.find? column.name = none) :
    partitionConstant isRowIdColumnId globalColumns defaultCastAs partitionMap colId = .ok none := by
  unfold partitionConstant
  cases hr : isRowIdColumnId colId
  · have hlt := hin hr
    simp [List.getElem?_eq_getElem hlt, hnone _ (List.getElem?_eq_getElem hlt)]
  · rfl

/-- The partition loop adds at position `i + p` the partition constant of `ids[p]`, and
nothing at any position outside the loop. -/
theorem partitionConstants_spec (partitionMap : CaseInsensitiveMap Bytes) :
    ∀ (constantMap : List (Nat × Value)) (i : Nat) (ids : List Nat) {result},
      partitionConstants isRowIdColumnId globalColumns defaultCastAs partitionMap constantMap i
        ids = .ok result →
      (∀ q, q < i ∨ i + ids.length ≤ q →
        result.filter (·.1 == q) = constantMap.filter (·.1 == q)) ∧
      ∀ p (hp : p < ids.length), ∃ c,
        partitionConstant isRowIdColumnId globalColumns defaultCastAs partitionMap ids[p] =
          .ok c ∧
        result.filter (·.1 == i + p) =
          constantMap.filter (·.1 == i + p) ++ (c.map (i + p, ·)).toList
  | constantMap, i, [], result, h => by
    cases h
    exact ⟨fun _ _ => rfl, fun p hp => absurd hp (Nat.not_lt_zero p)⟩
  | constantMap, i, id :: ids, result, h => by
    simp only [partitionConstants] at h
    cases hc : partitionConstant isRowIdColumnId globalColumns defaultCastAs partitionMap id with
    | error e => simp [hc] at h
    | ok c =>
      simp only [hc, except_ok_bind] at h
      obtain ⟨hframe, hat⟩ := partitionConstants_spec partitionMap _ (i + 1) ids h
      have hentry : ∀ q, q ≠ i → (constantMap ++ (c.map (i, ·)).toList).filter (·.1 == q) =
          constantMap.filter (·.1 == q) := fun q hq => by
        rw [List.filter_append, filter_key_option, if_neg (Ne.symm hq), List.append_nil]
      refine ⟨fun q hq => ?_, fun p hp => ?_⟩
      · simp only [List.length_cons] at hq
        rw [hframe q (by omega), hentry q (by omega)]
      · cases p with
        | zero =>
          refine ⟨c, hc, ?_⟩
          rw [Nat.add_zero, hframe _ (by omega), List.filter_append, filter_key_option, if_pos rfl]
        | succ p =>
          obtain ⟨c', hc', he⟩ := hat p (by simpa using hp)
          refine ⟨c', by simpa using hc', ?_⟩
          rw [show i + (p + 1) = i + 1 + p by omega, he, hentry _ (by omega)]

/-- The partition loop fails only where a partition constant fails. -/
theorem partitionConstants_error (partitionMap : CaseInsensitiveMap Bytes) :
    ∀ (constantMap : List (Nat × Value)) (i : Nat) (ids : List Nat) {e},
      partitionConstants isRowIdColumnId globalColumns defaultCastAs partitionMap constantMap i
        ids = .error e →
      ∃ id ∈ ids,
        partitionConstant isRowIdColumnId globalColumns defaultCastAs partitionMap id = .error e
  | _, _, [], _, h => by cases h
  | constantMap, i, id :: ids, e, h => by
    simp only [partitionConstants] at h
    cases hc : partitionConstant isRowIdColumnId globalColumns defaultCastAs partitionMap id with
    | error e' =>
      simp only [hc, except_error_bind] at h
      cases h
      exact ⟨id, List.mem_cons_self _ _, hc⟩
    | ok c =>
      simp only [hc, except_ok_bind] at h
      obtain ⟨id', hid', he⟩ := partitionConstants_error partitionMap _ _ ids h
      exact ⟨id', List.mem_cons_of_mem _ hid', he⟩

/-- The constants `FinalizeBind` leaves at each position: the base class's, the
`delta_file_number` placeholder, and the partition constant of a projected column. -/
theorem finalizeBind_spec {deltaFileNumber : Option Bool} {globalState : GlobalState}
    {metadata : DeltaFileMetaData} {ids : List Nat} {baseConstants : List (Nat × Value)}
    {d : ReaderData}
    (hrange : ∀ id ∈ ids, isRowIdColumnId id = false → id < globalColumns.length)
    (h : finalizeBind isRowIdColumnId globalColumns defaultCastAs deltaFileNumber globalState
      metadata ids (.ofConstants baseConstants) = .ok d) :
    d.castMap = (fun _ => none) ∧ d.mapping = [] ∧
      ∀ p, ∃ c, (∀ hp : p < ids.length, partitionConstant isRowIdColumnId globalColumns
          defaultCastAs metadata.partitionMap ids[p] = .ok c) ∧ (ids.length ≤ p → c = none) ∧
        d.constantsAt p = baseConstants.filter (·.1 == p) ++
          (if deltaFileNumber = some true then [(globalState.deltaFileNumberIdx, .ubigint 0)]
            else []).filter (·.1 == p) ++ (c.map (p, ·)).toList := by
  simp only [finalizeBind] at h
  generalize hdata : addFileNumberConstant deltaFileNumber globalState
    (.ofConstants baseConstants) = data at h
  have hcast : data.castMap = fun _ => none := by
    rw [← hdata, addFileNumberConstant]; split <;> rfl
  have hmap : data.mapping = [] := by rw [← hdata, addFileNumberConstant]; split <;> rfl
  have hconst : ∀ p, data.constantMap.filter (·.1 == p) = baseConstants.filter (·.1 == p) ++
      (if deltaFileNumber = some true then [(globalState.deltaFileNumberIdx, .ubigint 0)]
        else []).filter (·.1 == p) := fun p => by
    rw [← hdata, addFileNumberConstant]
    split <;> simp [ReaderData.ofConstants]
  by_cases hempty : metadata.partitionMap.isEmpty = true
  · simp only [hempty, if_true, pure, Except.pure, Except.ok.injEq] at h
    subst h
    refine ⟨hcast, hmap, fun p => ⟨none, fun hp => ?_, fun _ => rfl, ?_⟩⟩
    · refine partitionConstant_none (hrange _ (List.getElem_mem hp)) fun column _ => ?_
      simp only [CaseInsensitiveMap.isEmpty, List.isEmpty_iff] at hempty
      simp [CaseInsensitiveMap.find?, hempty]
    · simp [ReaderData.constantsAt, hconst]
  · simp only [hempty, Bool.false_eq_true, if_false] at h
    cases hres : partitionConstants isRowIdColumnId globalColumns defaultCastAs
        metadata.partitionMap data.constantMap 0 ids with
    | error e => simp [hres] at h
    | ok result =>
      simp only [hres, except_ok_bind, pure, Except.pure, Except.ok.injEq] at h
      subst h
      obtain ⟨hframe, hat⟩ := partitionConstants_spec metadata.partitionMap _ 0 ids hres
      refine ⟨hcast, hmap, fun p => ?_⟩
      by_cases hp : p < ids.length
      · obtain ⟨c, hc, he⟩ := hat p hp
        refine ⟨c, fun _ => hc, fun hle => absurd hp (by omega), ?_⟩
        simpa [ReaderData.constantsAt, hconst] using he
      · refine ⟨none, fun hp' => absurd hp' hp, fun _ => rfl, ?_⟩
        simpa [ReaderData.constantsAt, hconst] using hframe p (.inr (by omega))

/-- `FinalizeBind` fails only where a partition constant fails. -/
theorem finalizeBind_error {deltaFileNumber : Option Bool} {globalState : GlobalState}
    {metadata : DeltaFileMetaData} {ids : List Nat} {data : ReaderData} {e : ReaderException}
    (h : finalizeBind isRowIdColumnId globalColumns defaultCastAs deltaFileNumber globalState
      metadata ids data = .error e) :
    ∃ id ∈ ids, partitionConstant isRowIdColumnId globalColumns defaultCastAs
      metadata.partitionMap id = .error e := by
  simp only [finalizeBind] at h
  split at h
  · cases h
  · cases hres : partitionConstants isRowIdColumnId globalColumns defaultCastAs
        metadata.partitionMap (addFileNumberConstant deltaFileNumber globalState data).constantMap
        0 ids with
    | error e' =>
      simp only [hres, except_error_bind] at h
      cases h
      exact partitionConstants_error _ _ _ _ hres
    | ok _ => simp [hres, pure, Except.pure] at h

/-- After `FinalizeBind`, a position of the projection without a constant projects a column of
`global_columns`: every row id of the projection holds a constant of the base class. -/
theorem finalizeBind_unfilled_in_range {deltaFileNumber : Option Bool}
    {globalState : GlobalState} {metadata : DeltaFileMetaData} {ids : List Nat}
    {baseConstants : List (Nat × Value)} {d : ReaderData}
    (hrange : ∀ id ∈ ids, isRowIdColumnId id = false → id < globalColumns.length)
    (hbase : (baseConstants.map Prod.fst).Nodup)
    (hrowid : ∀ p (hp : p < ids.length), isRowIdColumnId ids[p] = true →
      (baseConstants.lookup p).isSome)
    (h : finalizeBind isRowIdColumnId globalColumns defaultCastAs deltaFileNumber globalState
      metadata ids (.ofConstants baseConstants) = .ok d) (p : Nat) (hp : p < ids.length)
    (hnil : d.constantsAt p = []) : ids[p] < globalColumns.length := by
  obtain ⟨c, -, -, hconst⟩ := (finalizeBind_spec hrange h).2.2 p
  rw [hnil, filter_key_eq_lookup hbase] at hconst
  refine hrange _ (List.getElem_mem hp) ?_
  cases hr : isRowIdColumnId ids[p]
  · rfl
  · obtain ⟨v, hv⟩ := Option.isSome_iff_exists.1 (hrowid p hp hr)
    rw [hv] at hconst; simp at hconst

end FinalizeBindSpec

/-! ## The name mapping -/

section NameMappingSpec

variable {localColumns : List ColumnDefinition} {names : CaseInsensitiveMap Nat}

/-- One turn of the name mapping loop is a `NameStep`. -/
theorem nameMappingLoop_cons {data : ReaderData} {i id : Nat} {ids : List Nat} {d : ReaderData}
    (h : nameMappingLoop globalColumns localColumns names data i (id :: ids) = .ok d) :
    ∃ data₁, NameStep globalColumns localColumns names i id data data₁ ∧
      nameMappingLoop globalColumns localColumns names data₁ (i + 1) ids = .ok d := by
  simp only [nameMappingLoop] at h
  split at h
  · rename_i hany
    refine ⟨data, .constant fun hnil => ?_, h⟩
    rw [ReaderData.constantsAt_eq_nil_iff] at hnil
    rw [hnil] at hany
    exact Bool.false_ne_true hany
  · rename_i hany
    have hnil : data.constantsAt i = [] :=
      (ReaderData.constantsAt_eq_nil_iff _ _).2 (Bool.eq_false_iff.2 hany)
    split at h
    · cases h
    · rename_i global hg
      split at h
      · rename_i hn
        exact ⟨_, .null hnil hg hn, h⟩
      · rename_i j hj
        split at h
        · cases h
        · rename_i localColumn hl
          exact ⟨_, .column hnil hg hj hl, h⟩

/-- A step touches its own position only. -/
theorem NameStep.frame {i id : Nat} {data data₁ : ReaderData}
    (h : NameStep globalColumns localColumns names i id data data₁) {q : Nat} (hq : q ≠ i) :
    data₁.constantsAt q = data.constantsAt q ∧ data₁.mappingsAt q = data.mappingsAt q := by
  cases h <;> simp [ReaderData.constantsAt, ReaderData.mappingsAt, List.filter_append, Ne.symm hq]

/-- A step records only sound casts, and keeps every cast recorded before. -/
theorem NameStep.castsSound {i id : Nat} {data data₁ : ReaderData}
    (h : NameStep globalColumns localColumns (nameMap localColumns) i id data data₁)
    (hs : CastsSound globalColumns localColumns data.castMap) :
    CastsSound globalColumns localColumns data₁.castMap ∧
      ∀ j, data.castMap j ≠ none → data₁.castMap j ≠ none := by
  cases h with
  | constant => exact ⟨hs, fun _ h => h⟩
  | null => exact ⟨hs, fun _ h => h⟩
  | @column global localColumn j _ hg hj hl =>
    dsimp only
    split
    · exact ⟨hs, fun _ h => h⟩
    · rename_i hne
      refine ⟨fun j' t ht => ?_, fun j' hj' => ?_⟩
      · by_cases hj' : j' = j
        · subst hj'
          simp only [Function.update_same, Option.some.injEq] at ht
          subst ht
          exact ⟨global, List.mem_iff_getElem?.2 ⟨_, hg⟩, by rwa [← nameMap_find?], rfl,
            by simpa [hl] using Ne.symm hne⟩
        · exact hs j' t (by rwa [Function.update_noteq hj'] at ht)
      · by_cases hjj : j' = j
        · subst hjj; simp
        · rwa [Function.update_noteq hjj]

theorem nameMappingLoop_frame : ∀ {data : ReaderData} {i : Nat} {ids : List Nat} {d : ReaderData},
    nameMappingLoop globalColumns localColumns names data i ids = .ok d →
    ∀ q, q < i ∨ i + ids.length ≤ q →
      d.constantsAt q = data.constantsAt q ∧ d.mappingsAt q = data.mappingsAt q
  | _, _, [], _, h => by cases h; exact fun _ _ => ⟨rfl, rfl⟩
  | _, i, _ :: ids, _, h => fun q hq => by
    obtain ⟨data₁, hstep, hrest⟩ := nameMappingLoop_cons h
    simp only [List.length_cons] at hq
    obtain ⟨hc, hm⟩ := nameMappingLoop_frame hrest q (by omega)
    obtain ⟨hc₁, hm₁⟩ := hstep.frame (q := q) (by omega)
    exact ⟨hc.trans hc₁, hm.trans hm₁⟩

theorem nameMappingLoop_casts : ∀ {data : ReaderData} {i : Nat} {ids : List Nat} {d : ReaderData},
    nameMappingLoop globalColumns localColumns (nameMap localColumns) data i ids = .ok d →
    CastsSound globalColumns localColumns data.castMap →
    CastsSound globalColumns localColumns d.castMap ∧
      ∀ j, data.castMap j ≠ none → d.castMap j ≠ none
  | _, _, [], _, h, hs => by cases h; exact ⟨hs, fun _ h => h⟩
  | _, _, _ :: _, _, h, hs => by
    obtain ⟨data₁, hstep, hrest⟩ := nameMappingLoop_cons h
    obtain ⟨hs₁, hmono₁⟩ := hstep.castsSound hs
    obtain ⟨hs', hmono'⟩ := nameMappingLoop_casts hrest hs₁
    exact ⟨hs', fun j hj => hmono' j (hmono₁ j hj)⟩

theorem NameMapped.congr {before before' after : ReaderData} {i globalId : Nat}
    (hc : before.constantsAt i = before'.constantsAt i)
    (hm : before.mappingsAt i = before'.mappingsAt i)
    (h : NameMapped globalColumns localColumns before after i globalId) :
    NameMapped globalColumns localColumns before' after i globalId := by
  unfold NameMapped at h ⊢
  rwa [← hc, ← hm]

/-- Every position of the loop is name-mapped from what it held before the loop. -/
theorem nameMappingLoop_at : ∀ {data : ReaderData} {i : Nat} {ids : List Nat} {d : ReaderData},
    nameMappingLoop globalColumns localColumns (nameMap localColumns) data i ids = .ok d →
    CastsSound globalColumns localColumns data.castMap →
    ∀ p (hp : p < ids.length), NameMapped globalColumns localColumns data d (i + p) ids[p]
  | _, _, [], _, _, _ => fun p hp => absurd hp (Nat.not_lt_zero p)
  | data, i, id :: ids, d, h, hs => fun p hp => by
    obtain ⟨data₁, hstep, hrest⟩ := nameMappingLoop_cons h
    cases p with
    | zero =>
      obtain ⟨hc, hm⟩ := nameMappingLoop_frame hrest i (.inl (Nat.lt_succ_self i))
      have hmono := (nameMappingLoop_casts hrest (hstep.castsSound hs).1).2
      simp only [Nat.add_zero, List.getElem_cons_zero]
      unfold NameMapped
      cases hstep with
      | constant hne => rw [if_neg hne]; exact ⟨hc, hm⟩
      | @null global hnil hg hn =>
        rw [if_pos hnil]
        refine ⟨_, hg, ?_⟩
        rw [← nameMap_find?, hn]
        refine ⟨hc.trans ?_, hm⟩
        simp only [ReaderData.constantsAt, List.filter_append] at hnil ⊢
        simp [hnil]
      | @column global localColumn j hnil hg hj hl =>
        rw [if_pos hnil]
        refine ⟨_, hg, ?_⟩
        rw [← nameMap_find?, hj]
        refine ⟨hc.trans hnil, hm.trans ?_, fun hne => hmono j ?_⟩
        · simp [ReaderData.mappingsAt, List.filter_append]
        · have hne' : global.type ≠ localColumn.type := fun h => hne (by simp [hl, h])
          simp [hne']
    | succ p =>
      obtain ⟨hc₁, hm₁⟩ := hstep.frame (q := i + 1 + p) (by omega)
      rw [show i + (p + 1) = i + 1 + p by omega]
      exact NameMapped.congr hc₁ hm₁
        (nameMappingLoop_at hrest (hstep.castsSound hs).1 p (by simpa using hp))

/-- The loop runs through when every position without a constant projects a column of
`global_columns`. -/
theorem nameMappingLoop_ok : ∀ (data : ReaderData) (i : Nat) (ids : List Nat),
    (∀ p (hp : p < ids.length), data.constantsAt (i + p) = [] →
      ids[p] < globalColumns.length) →
    ∃ d, nameMappingLoop globalColumns localColumns (nameMap localColumns) data i ids = .ok d
  | data, _, [], _ => ⟨data, rfl⟩
  | data, i, id :: ids, hin => by
    have hnext : ∀ data' : ReaderData, (∀ q, q ≠ i → data'.constantsAt q = data.constantsAt q) →
        ∀ p (hp : p < ids.length), data'.constantsAt (i + 1 + p) = [] →
          ids[p] < globalColumns.length := fun data' hframe p hp hnil => by
      have := hin (p + 1) (by simpa using hp)
        (by rwa [show i + (p + 1) = i + 1 + p by omega, ← hframe _ (by omega)])
      simpa using this
    simp only [nameMappingLoop]
    split
    · exact nameMappingLoop_ok data (i + 1) ids (hnext data fun _ _ => rfl)
    · rename_i hany
      have hnil : data.constantsAt i = [] :=
        (ReaderData.constantsAt_eq_nil_iff _ _).2 (Bool.eq_false_iff.2 hany)
      have hlt : id < globalColumns.length := by simpa using hin 0 (by simp) (by simpa using hnil)
      have hg := List.getElem?_eq_getElem hlt
      rw [hg]
      dsimp only
      split
      · rename_i hn
        exact nameMappingLoop_ok _ (i + 1) ids
          (hnext _ fun q hq => ((@NameStep.null globalColumns localColumns _ _ _ _ _ hnil hg hn).frame hq).1)
      · rename_i j hj
        obtain ⟨localColumn, hl, -⟩ := lastLocal_some (by rwa [nameMap_find?] at hj)
        rw [hl]
        exact nameMappingLoop_ok _ (i + 1) ids
          (hnext _ fun q hq => ((NameStep.column hnil hg hj hl).frame hq).1)

/-- `CreateColumnMapping` is the name mapping, then, when `file_row_number` is not projected,
one more mapping of its index to the file's column of that name. -/
theorem createColumnMapping_spec {ids : List Nat} {globalState : GlobalState}
    {data d : ReaderData}
    (h : createColumnMapping globalColumns localColumns ids globalState data = .ok d) :
    ∃ d₂, nameMappingLoop globalColumns localColumns (nameMap localColumns) data 0 ids = .ok d₂ ∧
      d.constantMap = d₂.constantMap ∧ d.castMap = d₂.castMap ∧
      ((globalState.fileRowNumberIdx < ids.length ∧ d.mapping = d₂.mapping) ∨
        ∃ j, ids.length ≤ globalState.fileRowNumberIdx ∧
          lastLocal localColumns "file_row_number" = some j ∧
          d.mapping = d₂.mapping ++ [(globalState.fileRowNumberIdx, j)]) := by
  simp only [createColumnMapping, customMulfiFileNameMapping] at h
  cases hloop : nameMappingLoop globalColumns localColumns (nameMap localColumns) data 0 ids with
  | error e => simp [hloop] at h
  | ok d₂ =>
    refine ⟨d₂, rfl, ?_⟩
    simp only [hloop, except_ok_bind, pure, Except.pure] at h
    split at h
    · rename_i hle
      split at h
      · cases h
      · rename_i j hj
        cases h
        exact ⟨rfl, rfl, .inr ⟨j, hle, by rwa [← nameMap_find?], rfl⟩⟩
    · rename_i hlt
      cases h
      exact ⟨rfl, rfl, .inl ⟨by omega, rfl⟩⟩

/-- `CreateColumnMapping` fails where the name mapping fails, or for want of a
`file_row_number` column in the file. -/
theorem createColumnMapping_error {ids : List Nat} {globalState : GlobalState}
    {data : ReaderData} {e : ReaderException}
    (h : createColumnMapping globalColumns localColumns ids globalState data = .error e) :
    nameMappingLoop globalColumns localColumns (nameMap localColumns) data 0 ids = .error e ∨
      e = .io "Failed to find the file_row_number column" := by
  simp only [createColumnMapping, customMulfiFileNameMapping] at h
  cases hloop : nameMappingLoop globalColumns localColumns (nameMap localColumns) data 0 ids with
  | error e' => simp only [hloop, except_error_bind] at h; exact .inl (by rw [h])
  | ok d₂ =>
    simp only [hloop, except_ok_bind, pure, Except.pure] at h
    split at h
    · split at h
      · cases h; exact .inr rfl
      · cases h
    · cases h

end NameMappingSpec

/-! ## Every position resolved once -/

section Resolution

variable {defaultCastAs : Value → LogicalType → Except String Value} {unset : Nat}
  {deltaFileNumber : Option Bool}
  {iterate : List (String × LogicalType) → List (String × LogicalType)} {ids : List Nat}
  {globalState : GlobalState} {metadata : DeltaFileMetaData}
  {localColumns : List ColumnDefinition} {baseConstants : List (Nat × Value)}

theorem fileNumberEntry_filter {deltaFileNumber : Option Bool} {idx i : Nat}
    (h : ¬(deltaFileNumber = some true ∧ idx = i)) :
    (if deltaFileNumber = some true then [(idx, Value.ubigint 0)] else []).filter (·.1 == i) =
      [] := by
  split
  · rename_i hopt
    simp [show idx ≠ i from fun hidx => h ⟨hopt, hidx⟩]
  · rfl

/-- The `delta_file_number` placeholder inside the projection sits at a column of that name. -/
theorem fileNumber_position
    (hrange : ∀ id ∈ ids, isRowIdColumnId id = false → id < globalColumns.length)
    (horder : (iterate (columnsToMap deltaFileNumber)).Perm (columnsToMap deltaFileNumber))
    (hglobal : initializeGlobalState isRowIdColumnId globalColumns unset deltaFileNumber iterate
      ids = .ok globalState)
    (hopt : deltaFileNumber = some true) {i : Nat} (hi : i < ids.length)
    (hidx : globalState.deltaFileNumberIdx = i) :
    isRowIdColumnId ids[i] = false ∧ ∃ c, globalColumns[ids[i]]? = some c ∧
      ciEquals c.name "delta_file_number" = true := by
  subst hopt hidx
  have hfirst := initializeGlobalState_lt_length unset (some true) iterate ids hrange horder
    hglobal (c := ("delta_file_number", .ubigint)) (by simp [columnsToMap])
    (by simpa [GlobalState.columnIdx] using hi)
  obtain ⟨_, hr, hc⟩ := firstPosition_some hfirst
  simpa [GlobalState.columnIdx] using And.intro hr hc

variable (localColumns) in
/-- After `FinalizeBind`, a position of the projection holds the one constant the resolution
names, or no constant at all and a column of `global_columns` whose name decides the rest. -/
theorem finalizeBind_at
    (hrange : ∀ id ∈ ids, isRowIdColumnId id = false → id < globalColumns.length)
    (horder : (iterate (columnsToMap deltaFileNumber)).Perm (columnsToMap deltaFileNumber))
    (hglobal : initializeGlobalState isRowIdColumnId globalColumns unset deltaFileNumber iterate
      ids = .ok globalState)
    (hbase : (baseConstants.map Prod.fst).Nodup)
    (hrowid : ∀ p (hp : p < ids.length), isRowIdColumnId ids[p] = true →
      (baseConstants.lookup p).isSome)
    (hpartitionBase : ∀ p (hp : p < ids.length), (baseConstants.lookup p).isSome →
      ∀ column, globalColumns[ids[p]]? = some column → metadata.partitionMap.find? column.name = none)
    (hpartitionDelta : metadata.partitionMap.find? "delta_file_number" = none)
    (hbaseDelta : deltaFileNumber = some true → ∀ p (hp : p < ids.length),
      (baseConstants.lookup p).isSome → ∀ column, globalColumns[ids[p]]? = some column →
        ciEquals column.name "delta_file_number" = false)
    {d : ReaderData}
    (hd : finalizeBind isRowIdColumnId globalColumns defaultCastAs deltaFileNumber globalState
      metadata ids (.ofConstants baseConstants) = .ok d) {i : Nat} (hi : i < ids.length) :
    (∃ v, expectedResolution isRowIdColumnId globalColumns defaultCastAs deltaFileNumber
        globalState metadata localColumns baseConstants i ids[i] = .ok (.constant v) ∧
      d.constantsAt i = [(i, v)]) ∨
    (d.constantsAt i = [] ∧ ∃ global, globalColumns[ids[i]]? = some global ∧
      expectedResolution isRowIdColumnId globalColumns defaultCastAs deltaFileNumber globalState
        metadata localColumns baseConstants i ids[i] =
        .ok (match lastLocal localColumns global.name with
          | none => .constant (.null global.type)
          | some j => .column j (if localColumns[j]?.map (·.type) = some global.type then none
              else some global.type))) := by
  obtain ⟨-, -, hat⟩ := finalizeBind_spec hrange hd
  obtain ⟨c, hc, -, hconst⟩ := hat i
  have hc := hc hi
  rw [filter_key_eq_lookup hbase] at hconst
  -- a constant of the base class or the placeholder leaves no partition value
  have hnopart : (∀ column, globalColumns[ids[i]]? = some column →
      metadata.partitionMap.find? column.name = none) → c = none := fun hnone =>
    Except.ok.inj (hc.symm.trans (partitionConstant_none (hrange _ (List.getElem_mem hi)) hnone))
  unfold expectedResolution
  cases hlookup : baseConstants.lookup i with
  | some v =>
    have hnodelta : ¬(deltaFileNumber = some true ∧ globalState.deltaFileNumberIdx = i) :=
      fun ⟨hopt, hidx⟩ => by
        obtain ⟨-, column, hcol, hname⟩ :=
          fileNumber_position hrange horder hglobal hopt hi hidx
        simp [hbaseDelta hopt i hi (by simp [hlookup]) column hcol] at hname
    rw [hnopart (hpartitionBase i hi (by simp [hlookup])), hlookup] at hconst
    refine .inl ⟨v, rfl, ?_⟩
    rw [hconst, fileNumberEntry_filter hnodelta]
    rfl
  | none =>
    rw [hlookup] at hconst
    dsimp only
    by_cases hdelta : deltaFileNumber = some true ∧ globalState.deltaFileNumberIdx = i
    · obtain ⟨-, column, hcol, hname⟩ :=
        fileNumber_position hrange horder hglobal hdelta.1 hi hdelta.2
      have hcnone : c = none := hnopart fun column' hcol' => by
        cases hcol.symm.trans hcol'
        rw [CaseInsensitiveMap.find?_congr _ hname, hpartitionDelta]
      refine .inl ⟨.ubigint 0, by rw [if_pos hdelta], ?_⟩
      rw [hconst, hcnone]
      simp [hdelta.1, hdelta.2]
    · rw [fileNumberEntry_filter hdelta] at hconst
      rw [if_neg hdelta, hc]
      cases c with
      | some v => exact .inl ⟨v, rfl, by simpa using hconst⟩
      | none =>
        have hrow : isRowIdColumnId ids[i] = false := by
          by_contra hr
          simpa [hlookup] using hrowid i hi (Bool.eq_true_of_not_eq_false hr)
        obtain ⟨global, hg⟩ : ∃ global, globalColumns[ids[i]]? = some global :=
          ⟨_, List.getElem?_eq_getElem (hrange _ (List.getElem_mem hi) hrow)⟩
        exact .inr ⟨by simpa using hconst, global, hg, by simp only [except_ok_bind, hg]; rfl⟩

/-- The reader data of a file is `FinalizeBind`'s, through the name mapping, with
`file_row_number` mapped past the projection when the projection lacks it. -/
theorem bindFile_eq {d : ReaderData}
    (h : bindFile isRowIdColumnId globalColumns defaultCastAs deltaFileNumber globalState metadata
      localColumns ids baseConstants = .ok d) :
    ∃ d₁ d₂, finalizeBind isRowIdColumnId globalColumns defaultCastAs deltaFileNumber globalState
        metadata ids (.ofConstants baseConstants) = .ok d₁ ∧
      nameMappingLoop globalColumns localColumns (nameMap localColumns) d₁ 0 ids = .ok d₂ ∧
      d.constantMap = d₂.constantMap ∧ d.castMap = d₂.castMap ∧
      ((globalState.fileRowNumberIdx < ids.length ∧ d.mapping = d₂.mapping) ∨
        ∃ j, ids.length ≤ globalState.fileRowNumberIdx ∧
          lastLocal localColumns "file_row_number" = some j ∧
          d.mapping = d₂.mapping ++ [(globalState.fileRowNumberIdx, j)]) := by
  unfold bindFile at h
  cases h₁ : finalizeBind isRowIdColumnId globalColumns defaultCastAs deltaFileNumber globalState
      metadata ids (.ofConstants baseConstants) with
  | error e => simp [h₁] at h
  | ok d₁ =>
    simp only [h₁, except_ok_bind] at h
    obtain ⟨d₂, h₂⟩ := createColumnMapping_spec h
    exact ⟨d₁, d₂, rfl, h₂⟩

/-- At the positions of the projection, the reader data of a file is what the name mapping
made of `FinalizeBind`'s. -/
theorem bindFile_ok {d : ReaderData}
    (h : bindFile isRowIdColumnId globalColumns defaultCastAs deltaFileNumber globalState metadata
      localColumns ids baseConstants = .ok d) :
    ∃ d₁ d₂, finalizeBind isRowIdColumnId globalColumns defaultCastAs deltaFileNumber globalState
        metadata ids (.ofConstants baseConstants) = .ok d₁ ∧
      nameMappingLoop globalColumns localColumns (nameMap localColumns) d₁ 0 ids = .ok d₂ ∧
      d.castMap = d₂.castMap ∧
      ∀ i, i < ids.length → d.constantsAt i = d₂.constantsAt i ∧ d.mappingsAt i = d₂.mappingsAt i := by
  obtain ⟨d₁, d₂, h₁, h₂, hconst, hcast, hmap⟩ := bindFile_eq h
  refine ⟨d₁, d₂, h₁, h₂, hcast, fun i hi => ⟨by simp [ReaderData.constantsAt, hconst], ?_⟩⟩
  rcases hmap with ⟨-, hmap⟩ | ⟨j, hle, -, hmap⟩
  · simp [ReaderData.mappingsAt, hmap]
  · simp [ReaderData.mappingsAt, hmap, List.filter_append, show globalState.fileRowNumberIdx ≠ i by omega]

end Resolution

end Reconcile

/-- A schema `a INTEGER, region VARCHAR, b BIGINT`. -/
def reconcileColumns : List ColumnDefinition :=
  [⟨"a", .integer⟩, ⟨"region", .varchar⟩, ⟨"b", .bigint⟩]

/-- A file of partition `region = us`. -/
def regionFile : DeltaFileMetaData := ⟨0, 0, 0, none, ⟨[("region", bytes "us")]⟩⟩

/-- A cast that keeps the value. -/
def castAsIs (v : Value) (_ : LogicalType) : Except String Value := .ok v

example : expectedResolution sampleRowId reconcileColumns castAsIs none ⟨[.bigint], 3, INVALID_INDEX⟩
    regionFile [⟨"A", .bigint⟩, ⟨"file_row_number", .bigint⟩] [] 0 0 =
      .ok (.column 0 (some .integer)) := rfl

/-- Partition values as `FinalizeBind` decodes them: at a projected position whose column has a
value in the file's partition map, the last constant recorded is the value's bytes as they are
for a BLOB column and the cast of the string to the column's type otherwise. No value is set
apart: the empty string, which the table format writes for a NULL partition value, is decoded
like any other. -/
theorem finalizeBind_decodes_partition_value {isRowIdColumnId : Nat → Bool}
    {globalColumns : List ColumnDefinition}
    (defaultCastAs : Value → LogicalType → Except String Value) (deltaFileNumber : Option Bool)
    (globalState : GlobalState) (metadata : DeltaFileMetaData) (ids : List Nat)
    (baseConstants : List (Nat × Value)) (d : ReaderData)
    (hrange : ∀ id ∈ ids, isRowIdColumnId id = false → id < globalColumns.length)
    (hd : finalizeBind isRowIdColumnId globalColumns defaultCastAs deltaFileNumber globalState
      metadata ids (.ofConstants baseConstants) = .ok d)
    (i : Nat) (hi : i < ids.length) (hrow : isRowIdColumnId ids[i] = false)
    (column : ColumnDefinition) (hcol : globalColumns[ids[i]]? = some column) (v : Bytes)
    (hv : metadata.partitionMap.find? column.name = some v) :
    ∃ value earlier, d.constantsAt i = earlier ++ [(i, value)] ∧
      if column.type = .blob then value = .blobRaw v
      else defaultCastAs (.varchar v) column.type = .ok value := by
  obtain ⟨c, hc, -, hconst⟩ := (finalizeBind_spec hrange hd).2.2 i
  have hpart := hc hi
  simp only [partitionConstant, hrow, hcol, hv, Bool.false_eq_true, if_false] at hpart
  rw [hconst]
  by_cases hblob : column.type = .blob
  · rw [if_pos hblob] at hpart
    cases hpart
    exact ⟨_, _, rfl, by rw [if_pos hblob]⟩
  · rw [if_neg hblob] at hpart
    cases hcast : defaultCastAs (.varchar v) column.type with
    | error e => rw [hcast] at hpart; cases hpart
    | ok value => rw [hcast] at hpart; cases hpart; exact ⟨_, _, rfl, by rw [if_neg hblob]⟩

/-- A table partitioned by a BLOB column `p`, and a file of its NULL partition. -/
def nullBlobPartition : DeltaFileMetaData := ⟨0, 0, INVALID_INDEX, none, ⟨[("p", [])]⟩⟩

/-- The NULL partition value of a BLOB column is read as the empty BLOB. -/
theorem finalizeBind_decodes_partition_value_sample :
    (∀ id ∈ [0], sampleRowId id = false → id < [ColumnDefinition.mk "p" .blob].length) ∧
    finalizeBind sampleRowId [⟨"p", .blob⟩] castAsIs none ⟨[.bigint], 1, INVALID_INDEX⟩
        nullBlobPartition [0] (.ofConstants []) =
      .ok ⟨[(0, .blobRaw [])], fun _ => none, [], false⟩ ∧
    0 < [0].length ∧ sampleRowId [0][0] = false ∧
    [ColumnDefinition.mk "p" .blob][[0][0]]? = some ⟨"p", .blob⟩ ∧
    nullBlobPartition.partitionMap.find? "p" = some [] ∧
    (∃ value earlier, (⟨[(0, .blobRaw [])], fun _ => none, [], false⟩ : ReaderData).constantsAt 0 =
        earlier ++ [(0, value)] ∧
      if LogicalType.blob = .blob then value = .blobRaw []
      else castAsIs (.varchar []) .blob = .ok value) :=
  ⟨by decide, rfl, by decide, rfl, rfl, rfl,
    @finalizeBind_decodes_partition_value sampleRowId [⟨"p", .blob⟩] castAsIs none
      ⟨[.bigint], 1, INVALID_INDEX⟩ nullBlobPartition [0] [] _ (by decide) rfl 0 (by decide) rfl _
      rfl [] rfl⟩

/-- The empty partition value, which the table format writes for NULL, is not read as NULL: for
the NULL partition of a BLOB column the last constant `FinalizeBind` records is the empty BLOB. -/
theorem finalizeBind_null_partition_not_null :
    ¬ ∀ (globalColumns : List ColumnDefinition) (metadata : DeltaFileMetaData) (ids : List Nat)
      (d : ReaderData) (i : Nat) (hi : i < ids.length) (column : ColumnDefinition),
      finalizeBind sampleRowId globalColumns castAsIs none ⟨[.bigint], 1, INVALID_INDEX⟩ metadata
          ids (.ofConstants []) = .ok d →
      sampleRowId ids[i] = false → globalColumns[ids[i]]? = some column →
      metadata.partitionMap.find? column.name = some [] →
      ∃ earlier, d.constantsAt i = earlier ++ [(i, .null column.type)] := fun h => by
  obtain ⟨earlier, he⟩ := h [⟨"p", .blob⟩] nullBlobPartition [0]
    ⟨[(0, .blobRaw [])], fun _ => none, [], false⟩ 0 (by decide) _ rfl rfl rfl rfl
  have hlast := congrArg List.getLast? he
  simp [ReaderData.constantsAt] at hlast

end DeltaScan

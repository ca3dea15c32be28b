import Mathlib.Data.List.Nodup
import DeltaScan.Kernel

/-!
# Where the reader's extra columns go

`DeltaMultiFileReader::InitializeGlobalState` decides once for a scan where the columns the
reader adds are found in a result chunk: `file_row_number` always, and `delta_file_number`
when the option of that name is true. A column the projection already holds is found at its
first position there; any other goes after the projection, as an extra column of its type.

`columns_to_map` is a `case_insensitive_map_t`, so the loop sees its entries in an order the
hash map chooses: `iterate` stands for that order, and the results hold for every order that
is a permutation of the entries. `IsRowIdColumnId` is not among the sources and is a
parameter, and so is `unset`, the index the global state's constructor starts both indices at.
-/

namespace DeltaScan

/-- `MultiFileReaderColumnDefinition`, by the two fields the reader reads. -/
structure ColumnDefinition where
  name : String
  type : LogicalType
  deriving DecidableEq, Repr

/-- The exceptions of the multi-file reader. -/
inductive ReaderException where
  | io (message : String)
  | internal (message : String)
  /-- `DefaultCastAs` failing on a partition value. -/
  | conversion (message : String)
  /-- Not an exception of the source: a read past the end of a vector that the source does not
  check, whose behaviour is undefined. -/
  | outOfRange
  deriving DecidableEq, Repr

/-- `DeltaMultiFileReaderGlobalState`, without the file list it also holds. -/
structure GlobalState where
  extraColumns : List LogicalType
  fileRowNumberIdx : Nat
  deltaFileNumberIdx : Nat
  deriving DecidableEq, Repr

/-- The two columns `SetColumnIdx` knows. -/
def RequiredColumn (column : String) : Prop :=
  column = "file_row_number" ∨ column = "delta_file_number"

namespace GlobalState

/-- `DeltaMultiFileReaderGlobalState::SetColumnIdx`. -/
def setColumnIdx (st : GlobalState) (column : String) (idx : Nat) :
    Except ReaderException GlobalState :=
  if column = "file_row_number" then .ok { st with fileRowNumberIdx := idx }
  else if column = "delta_file_number" then .ok { st with deltaFileNumberIdx := idx }
  else .error (.io "Unknown column \x27%s\x27 found as required by the DeltaMultiFileReader")

/-- The index the state keeps for one of the two columns. -/
def columnIdx (st : GlobalState) (column : String) : Nat :=
  if column = "delta_file_number" then st.deltaFileNumberIdx else st.fileRowNumberIdx

@[simp] theorem columnIdx_fileRowNumber (st : GlobalState) :
    st.columnIdx "file_row_number" = st.fileRowNumberIdx := if_neg (by decide)

@[simp] theorem columnIdx_deltaFileNumber (st : GlobalState) :
    st.columnIdx "delta_file_number" = st.deltaFileNumberIdx := if_pos rfl

/-- `SetColumnIdx` never raises for the two columns, and sets the index of that column only. -/
theorem setColumnIdx_spec (st : GlobalState) {column : String} (hc : RequiredColumn column)
    (idx : Nat) :
    ∃ st', st.setColumnIdx column idx = .ok st' ∧ st'.columnIdx column = idx ∧
      st'.extraColumns = st.extraColumns ∧
      ∀ other, RequiredColumn other → other ≠ column → st'.columnIdx other = st.columnIdx other := by
  rcases hc with rfl | rfl <;>
    refine ⟨_, rfl, by simp [columnIdx], rfl, ?_⟩ <;>
    rintro other (rfl | rfl) hne <;> simp_all [columnIdx]

end GlobalState

section Allocation

variable (isRowIdColumnId : Nat → Bool) (globalColumns : List ColumnDefinition)

/-- The first loop of `InitializeGlobalState`: `selected_columns` takes the name of each
projected column that is not a row id, keeping the first position of a name. -/
def selectColumns : Nat → List Nat → CaseInsensitiveMap Nat →
    Except ReaderException (CaseInsensitiveMap Nat)
  | _, [], selected => .ok selected
  | i, globalId :: ids, selected =>
    if isRowIdColumnId globalId then selectColumns (i + 1) ids selected
    else match globalColumns[globalId]? with
      | some column => selectColumns (i + 1) ids (selected.insert column.name i)
      | none => .error .outOfRange

/-- The second loop: each column of `columns_to_map`, in the order the map yields them, at its
position in the projection, or else at the next position past the projection, whose type is
then added to the extra columns. -/
def mapColumns (selected : CaseInsensitiveMap Nat) (g : Nat) :
    Nat → List (String × LogicalType) → List (String × Nat) × List LogicalType
  | _, [] => ([], [])
  | colOffset, (name, type) :: rest =>
    match selected.find? name with
    | some i =>
      let r := mapColumns selected g colOffset rest
      ((name, i) :: r.1, r.2)
    | none =>
      let r := mapColumns selected g (colOffset + 1) rest
      ((name, g + colOffset) :: r.1, type :: r.2)

/-- `columns_to_map`: `file_row_number`, and `delta_file_number` when the option is true. -/
def columnsToMap (deltaFileNumber : Option Bool) : List (String × LogicalType) :=
  ("file_row_number", .bigint) ::
    if deltaFileNumber = some true then [("delta_file_number", .ubigint)] else []

/-- `DeltaMultiFileReader::InitializeGlobalState`. -/
def initializeGlobalState (unset : Nat) (deltaFileNumber : Option Bool)
    (iterate : List (String × LogicalType) → List (String × LogicalType))
    (globalColumnIds : List Nat) : Except ReaderException GlobalState := do
  let selected ← selectColumns isRowIdColumnId globalColumns 0 globalColumnIds .empty
  let r := mapColumns selected globalColumnIds.length 0 (iterate (columnsToMap deltaFileNumber))
  r.1.foldlM (fun st c => st.setColumnIdx c.1 c.2) ⟨r.2, unset, unset⟩

/-! ## What the allocation is meant to do -/

/-- Whether a projected global id is a column named `column` up to case. -/
def projects (column : String) (globalId : Nat) : Bool :=
  !isRowIdColumnId globalId && (globalColumns[globalId]?.any fun c => ciEquals c.name column)

/-- The first position of the projection that holds a column named `column` up to case. -/
def firstPosition (column : String) (globalColumnIds : List Nat) : Option Nat :=
  globalColumnIds.findIdx? (projects isRowIdColumnId globalColumns column)

/-- The columns to map that the projection lacks, in the order the map yields them. -/
def absentColumns (order : List (String × LogicalType)) (globalColumnIds : List Nat) :
    List (String × LogicalType) :=
  order.filter fun c => (firstPosition isRowIdColumnId globalColumns c.1 globalColumnIds).isNone

/-! ## The loops -/

variable {isRowIdColumnId globalColumns}

/-- The first position of a column holds a column of that name, and no row id. -/
theorem firstPosition_some {column : String} {ids : List Nat} {i : Nat}
    (h : firstPosition isRowIdColumnId globalColumns column ids = some i) :
    ∃ hi : i < ids.length, isRowIdColumnId ids[i] = false ∧
      ∃ c, globalColumns[ids[i]]? = some c ∧ ciEquals c.name column = true := by
  obtain ⟨hi, hp, -⟩ := List.findIdx?_eq_some_iff_getElem.1 h
  simp only [projects, Bool.and_eq_true, Bool.not_eq_true'] at hp
  refine ⟨hi, hp.1, ?_⟩
  cases hc : globalColumns[ids[i]]? with
  | none => simp [hc] at hp
  | some c => exact ⟨c, rfl, by simpa [hc] using hp.2⟩

/-- `selected_columns` finds a name at its first position in the projection. -/
theorem selectColumns_find? {ids : List Nat}
    (hrange : ∀ id ∈ ids, isRowIdColumnId id = false → id < globalColumns.length)
    (i : Nat) (selected : CaseInsensitiveMap Nat) :
    ∃ m, selectColumns isRowIdColumnId globalColumns i ids selected = .ok m ∧
      ∀ c, m.find? c =
        (selected.find? c).or (ids.findIdx? (projects isRowIdColumnId globalColumns c) i) := by
  induction ids generalizing i selected with
  | nil => exact ⟨selected, rfl, by simp⟩
  | cons id ids ih =>
    have hrest := fun id' h => hrange id' (List.mem_cons_of_mem id h)
    cases hr : isRowIdColumnId id with
    | true =>
      obtain ⟨m, hm, hf⟩ := ih hrest (i + 1) selected
      exact ⟨m, by simp [selectColumns, hr, hm], fun c => by
        simp [hf, List.findIdx?_cons, projects, hr]⟩
    | false =>
      have hlt := hrange id (List.mem_cons_self id ids) hr
      obtain ⟨m, hm, hf⟩ := ih hrest (i + 1) (selected.insert globalColumns[id].name i)
      refine ⟨m, by simp [selectColumns, hr, List.getElem?_eq_getElem hlt, hm], fun c => ?_⟩
      rw [hf, CaseInsensitiveMap.find?_insert, List.findIdx?_cons]
      by_cases hc : ciEquals globalColumns[id].name c <;>
        simp [projects, hr, List.getElem?_eq_getElem hlt, hc, Option.or_assoc]

/-- The extra columns are the types of the columns the projection lacks. -/
theorem mapColumns_extra (selected : CaseInsensitiveMap Nat) (g : Nat) :
    ∀ (colOffset : Nat) (order : List (String × LogicalType)),
      (mapColumns selected g colOffset order).2 =
        (order.filter fun c => (selected.find? c.1).isNone).map Prod.snd
  | _, [] => rfl
  | colOffset, (name, type) :: rest => by
    cases h : selected.find? name <;>
      simp [mapColumns, h, mapColumns_extra selected g _ rest]

/-- The third loop over the second: every column of `order` is set, a column the projection
holds to its position, and the ones it lacks, in order, to the positions from `g + colOffset`
on; the extra columns and every other index are left as they were. -/
theorem setColumns_mapColumns (selected : CaseInsensitiveMap Nat) (g : Nat) :
    ∀ (colOffset : Nat) (order : List (String × LogicalType)) (st : GlobalState),
      (∀ c ∈ order, RequiredColumn c.1) → (order.map Prod.fst).Nodup →
      ∃ st', (mapColumns selected g colOffset order).1.foldlM
          (fun st c => st.setColumnIdx c.1 c.2) st = .ok st' ∧
        st'.extraColumns = st.extraColumns ∧
        (∀ c ∈ order, ∀ i, selected.find? c.1 = some i → st'.columnIdx c.1 = i) ∧
        ((order.filter fun c => (selected.find? c.1).isNone).map fun c => st'.columnIdx c.1) =
          List.range' (g + colOffset)
            (order.filter fun c => (selected.find? c.1).isNone).length ∧
        ∀ other, RequiredColumn other → other ∉ order.map Prod.fst →
          st'.columnIdx other = st.columnIdx other
  | _, [], st, _, _ => ⟨st, rfl, rfl, by simp, rfl, fun _ _ _ => rfl⟩
  | colOffset, (name, type) :: rest, st, hreq, hnodup => by
    simp only [List.map_cons, List.nodup_cons] at hnodup
    have hrest : ∀ c ∈ rest, RequiredColumn c.1 := fun c h => hreq c (List.mem_cons_of_mem _ h)
    have hname : RequiredColumn name := hreq _ (List.mem_cons_self _ _)
    cases hsel : selected.find? name with
    | some i =>
      obtain ⟨st₁, h₁, hidx₁, hextra₁, hother₁⟩ := st.setColumnIdx_spec hname i
      obtain ⟨st', h', hextra', hpos', hrange', hother'⟩ :=
        setColumns_mapColumns selected g colOffset rest st₁ hrest hnodup.2
      refine ⟨st', by simp [mapColumns, hsel, h₁, h'], hextra'.trans hextra₁, ?_, ?_, ?_⟩
      · intro c hc j hj
        rcases List.mem_cons.1 hc with rfl | hc
        · rw [hsel] at hj; cases hj
          rw [hother' _ hname hnodup.1, hidx₁]
        · exact hpos' c hc j hj
      · simpa [hsel] using hrange'
      · intro other hother hnot
        simp only [List.map_cons, List.mem_cons, not_or] at hnot
        rw [hother' other hother hnot.2, hother₁ other hother hnot.1]
    | none =>
      obtain ⟨st₁, h₁, hidx₁, hextra₁, hother₁⟩ := st.setColumnIdx_spec hname (g + colOffset)
      obtain ⟨st', h', hextra', hpos', hrange', hother'⟩ :=
        setColumns_mapColumns selected g (colOffset + 1) rest st₁ hrest hnodup.2
      refine ⟨st', by simp [mapColumns, hsel, h₁, h'], hextra'.trans hextra₁, ?_, ?_, ?_⟩
      · intro c hc j hj
        rcases List.mem_cons.1 hc with rfl | hc
        · rw [hsel] at hj; cases hj
        · exact hpos' c hc j hj
      · simp only [List.filter_cons, hsel, Option.isNone_none, if_true, List.map_cons,
          List.length_cons, List.range'_succ]
        rw [hother' _ hname hnodup.1, hidx₁, hrange', Nat.add_assoc]
      · intro other hother hnot
        simp only [List.map_cons, List.mem_cons, not_or] at hnot
        rw [hother' other hother hnot.2, hother₁ other hother hnot.1]

/-- An entry of a list whose images are consecutive positions from `g` sits at its own
position minus `g` in the list of its second components. -/
theorem getElem?_of_map_range' {order : List (String × LogicalType)} {f : String → Nat}
    {g : Nat} (hmap : (order.map fun c => f c.1) = List.range' g order.length)
    {c : String × LogicalType} (hc : c ∈ order) :
    g ≤ f c.1 ∧ (order.map Prod.snd)[f c.1 - g]? = some c.2 := by
  obtain ⟨k, hk, rfl⟩ := List.getElem_of_mem hc
  have hf : f order[k].1 = g + k := by
    have h := List.getElem_of_eq hmap (by simpa using hk)
    rw [List.getElem_map, List.getElem_range'] at h
    simpa using h
  simp [hf, hk]

/-! ## The allocation -/

/-- The columns to map: `file_row_number`, and `delta_file_number` exactly when the option is
true. -/
theorem mem_columnsToMap {deltaFileNumber : Option Bool} {c : String × LogicalType} :
    c ∈ columnsToMap deltaFileNumber ↔ c = ("file_row_number", .bigint) ∨
      deltaFileNumber = some true ∧ c = ("delta_file_number", .ubigint) := by
  unfold columnsToMap
  split <;> simp [*]

theorem columnsToMap_required (deltaFileNumber : Option Bool) :
    ∀ c ∈ columnsToMap deltaFileNumber, RequiredColumn c.1 := by
  unfold columnsToMap
  split <;> simp [RequiredColumn]

theorem columnsToMap_nodup (deltaFileNumber : Option Bool) :
    ((columnsToMap deltaFileNumber).map Prod.fst).Nodup := by
  unfold columnsToMap
  split <;> simp

section Spec

variable (unset : Nat) (deltaFileNumber : Option Bool)
  (iterate : List (String × LogicalType) → List (String × LogicalType)) (ids : List Nat)
  (hrange : ∀ id ∈ ids, isRowIdColumnId id = false → id < globalColumns.length)
  (horder : (iterate (columnsToMap deltaFileNumber)).Perm (columnsToMap deltaFileNumber))
include hrange horder

/-- What `InitializeGlobalState` computes: the extra columns are the columns the projection
lacks, which get the positions from `g` on in the map's order; every other column to map gets
its first position, and an index for a column not to map stays `unset`. -/
theorem initializeGlobalState_spec :
    let absent := absentColumns isRowIdColumnId globalColumns
      (iterate (columnsToMap deltaFileNumber)) ids
    ∃ st, initializeGlobalState isRowIdColumnId globalColumns unset deltaFileNumber iterate ids =
        .ok st ∧
      st.extraColumns = absent.map Prod.snd ∧
      (∀ c ∈ columnsToMap deltaFileNumber, ∀ i,
        firstPosition isRowIdColumnId globalColumns c.1 ids = some i → st.columnIdx c.1 = i) ∧
      (absent.map fun c => st.columnIdx c.1) = List.range' ids.length absent.length ∧
      ∀ other, RequiredColumn other → other ∉ (columnsToMap deltaFileNumber).map Prod.fst →
        st.columnIdx other = unset := by
  intro absent
  obtain ⟨selected, hsel, hfind⟩ := selectColumns_find? hrange 0 CaseInsensitiveMap.empty
  have hfirst : ∀ c, selected.find? c = firstPosition isRowIdColumnId globalColumns c ids := by
    simp [hfind, firstPosition]
  obtain ⟨st, hst, hextra, hpos, hmap, hother⟩ :=
    setColumns_mapColumns selected ids.length 0 _
      ⟨(mapColumns selected ids.length 0 (iterate (columnsToMap deltaFileNumber))).2, unset, unset⟩
      (fun c hc => columnsToMap_required deltaFileNumber c (horder.mem_iff.1 hc))
      ((horder.map Prod.fst).nodup_iff.2 (columnsToMap_nodup deltaFileNumber))
  simp only [hfirst, Nat.add_zero] at hpos hmap
  have habsent : absent = (iterate (columnsToMap deltaFileNumber)).filter
      fun c => (selected.find? c.1).isNone := by simp [absent, absentColumns, hfirst]
  refine ⟨st, by simpa [initializeGlobalState, hsel] using hst,
    by rw [hextra, mapColumns_extra, ← habsent], fun c hc => hpos c (horder.mem_iff.2 hc), hmap,
    fun other hreq hnot => ?_⟩
  rw [hother other hreq (by rwa [(horder.map Prod.fst).mem_iff])]
  rcases hreq with rfl | rfl <;> simp [GlobalState.columnIdx]

/-- A column to map that the projection lacks goes past the projection, where the extra
column has its type. -/
theorem initializeGlobalState_absent {st : GlobalState}
    (hst : initializeGlobalState isRowIdColumnId globalColumns unset deltaFileNumber iterate ids =
      .ok st)
    {c : String × LogicalType} (hc : c ∈ columnsToMap deltaFileNumber)
    (hnone : firstPosition isRowIdColumnId globalColumns c.1 ids = none) :
    ids.length ≤ st.columnIdx c.1 ∧ st.extraColumns[st.columnIdx c.1 - ids.length]? = some c.2 := by
  obtain ⟨st', hst', hextra, -, hmap, -⟩ :=
    initializeGlobalState_spec unset deltaFileNumber iterate ids hrange horder
  cases hst.symm.trans hst'
  rw [hextra]
  exact getElem?_of_map_range' hmap (List.mem_filter.2 ⟨horder.mem_iff.2 hc, by simp [hnone]⟩)

/-- An index inside the projection is the first position of its column there. -/
theorem initializeGlobalState_lt_length {st : GlobalState}
    (hst : initializeGlobalState isRowIdColumnId globalColumns unset deltaFileNumber iterate ids =
      .ok st)
    {c : String × LogicalType} (hc : c ∈ columnsToMap deltaFileNumber)
    (hlt : st.columnIdx c.1 < ids.length) :
    firstPosition isRowIdColumnId globalColumns c.1 ids = some (st.columnIdx c.1) := by
  obtain ⟨st', hst', -, hpos, -, -⟩ :=
    initializeGlobalState_spec unset deltaFileNumber iterate ids hrange horder
  cases hst.symm.trans hst'
  cases hfirst : firstPosition isRowIdColumnId globalColumns c.1 ids with
  | none =>
    have := (initializeGlobalState_absent unset deltaFileNumber iterate ids hrange horder hst hc
      hfirst).1
    omega
  | some i => rw [hpos c hc i hfirst]

/-- An index past the projection is that of a column the projection lacks. -/
theorem initializeGlobalState_le_length {st : GlobalState}
    (hst : initializeGlobalState isRowIdColumnId globalColumns unset deltaFileNumber iterate ids =
      .ok st)
    {c : String × LogicalType} (hc : c ∈ columnsToMap deltaFileNumber)
    (hle : ids.length ≤ st.columnIdx c.1) :
    firstPosition isRowIdColumnId globalColumns c.1 ids = none := by
  obtain ⟨st', hst', -, hpos, -, -⟩ :=
    initializeGlobalState_spec unset deltaFileNumber iterate ids hrange horder
  cases hst.symm.trans hst'
  cases hfirst : firstPosition isRowIdColumnId globalColumns c.1 ids with
  | none => rfl
  | some i =>
    have := (firstPosition_some hfirst).1
    rw [hpos c hc i hfirst] at hle
    omega

/-- With the option set, the two columns get different indices. -/
theorem initializeGlobalState_idx_ne {st : GlobalState}
    (hst : initializeGlobalState isRowIdColumnId globalColumns unset deltaFileNumber iterate ids =
      .ok st) (hopt : deltaFileNumber = some true) :
    st.fileRowNumberIdx ≠ st.deltaFileNumberIdx := by
  subst hopt
  have hfrn : ("file_row_number", LogicalType.bigint) ∈ columnsToMap (some true) := by
    simp [columnsToMap]
  have hdfn : ("delta_file_number", LogicalType.ubigint) ∈ columnsToMap (some true) := by
    simp [columnsToMap]
  intro heq
  by_cases hlt : st.fileRowNumberIdx < ids.length
  · -- inside the projection, one position would hold a column of both names
    have hf := initializeGlobalState_lt_length unset (some true) iterate ids hrange horder hst hfrn
      (by simpa using hlt)
    have hd := initializeGlobalState_lt_length unset (some true) iterate ids hrange horder hst hdfn
      (by simpa [← heq] using hlt)
    simp only [GlobalState.columnIdx_fileRowNumber, GlobalState.columnIdx_deltaFileNumber,
      ← heq] at hf hd
    obtain ⟨_, -, c, hc, hcf⟩ := firstPosition_some hf
    obtain ⟨_, -, c', hc', hcd⟩ := firstPosition_some hd
    cases hc.symm.trans hc'
    simp only [ciEquals_iff] at hcf hcd
    exact absurd (hcf.symm.trans hcd) (by decide)
  · -- past the projection, the columns the projection lacks get distinct positions
    obtain ⟨st', hst', -, -, hmap, -⟩ :=
      initializeGlobalState_spec unset (some true) iterate ids hrange horder
    cases hst.symm.trans hst'
    have hnodup := List.nodup_range' ids.length
      (absentColumns isRowIdColumnId globalColumns (iterate (columnsToMap (some true))) ids).length
    rw [← hmap] at hnodup
    have habsent : ∀ c ∈ columnsToMap (some true), ids.length ≤ st.columnIdx c.1 →
        c ∈ absentColumns isRowIdColumnId globalColumns (iterate (columnsToMap (some true))) ids :=
      fun c hc hle => List.mem_filter.2 ⟨horder.mem_iff.2 hc, by
        simp [initializeGlobalState_le_length unset (some true) iterate ids hrange horder hst hc hle]⟩
    have := List.inj_on_of_nodup_map hnodup (habsent _ hfrn (by simpa using hlt))
      (habsent _ hdfn (by simpa [← heq] using hlt)) (by simpa [GlobalState.columnIdx] using heq)
    simp at this

end Spec

/-- `InitializeGlobalState` never raises on a projection that stays inside `global_columns`,
whatever order the map yields its entries in. The columns to map are the BIGINT
`file_row_number`, and the UBIGINT `delta_file_number` exactly when the option is true. Each
gets the first position of the projection that holds a column of its name up to case; those the
projection lacks get the positions `g, g + 1, …` past it in the map's order, each with its type
as the extra column there; `delta_file_number_idx` is only set when the option is true. -/
theorem initializeGlobalState_allocates (unset : Nat) (deltaFileNumber : Option Bool)
    (iterate : List (String × LogicalType) → List (String × LogicalType)) (ids : List Nat)
    (hrange : ∀ id ∈ ids, isRowIdColumnId id = false → id < globalColumns.length)
    (horder : (iterate (columnsToMap deltaFileNumber)).Perm (columnsToMap deltaFileNumber)) :
    let absent := absentColumns isRowIdColumnId globalColumns
      (iterate (columnsToMap deltaFileNumber)) ids
    ∃ st, initializeGlobalState isRowIdColumnId globalColumns unset deltaFileNumber iterate ids =
        .ok st ∧
      (∀ c, c ∈ columnsToMap deltaFileNumber ↔ c = ("file_row_number", .bigint) ∨
        deltaFileNumber = some true ∧ c = ("delta_file_number", .ubigint)) ∧
      (∀ c ∈ columnsToMap deltaFileNumber, ∀ i,
        firstPosition isRowIdColumnId globalColumns c.1 ids = some i → st.columnIdx c.1 = i) ∧
      (absent.map fun c => st.columnIdx c.1) = List.range' ids.length absent.length ∧
      st.extraColumns = absent.map Prod.snd ∧
      (∀ c ∈ columnsToMap deltaFileNumber,
        firstPosition isRowIdColumnId globalColumns c.1 ids = none →
          ids.length ≤ st.columnIdx c.1 ∧
            st.extraColumns[st.columnIdx c.1 - ids.length]? = some c.2) ∧
      (deltaFileNumber ≠ some true → st.deltaFileNumberIdx = unset) := by
  obtain ⟨st, hst, hextra, hpos, hmap, hother⟩ :=
    initializeGlobalState_spec unset deltaFileNumber iterate ids hrange horder
  refine ⟨st, hst, fun _ => mem_columnsToMap, hpos, hmap, hextra, fun c hc hnone =>
    initializeGlobalState_absent unset deltaFileNumber iterate ids hrange horder hst hc hnone,
    fun hopt => ?_⟩
  simpa [GlobalState.columnIdx] using
    hother "delta_file_number" (.inr rfl) (by simp [columnsToMap, hopt])

/-- A schema with a column `File_Row_Number`. -/
def sampleColumns : List ColumnDefinition := [⟨"a", .integer⟩, ⟨"File_Row_Number", .bigint⟩]

/-- Global id 9 is the row id. -/
def sampleRowId (id : Nat) : Bool := id = 9

/-- The projection `a, File_Row_Number, rowid` with the option set and the map yielding its
entries in reverse: `file_row_number` is found at 1, `delta_file_number` goes to 3. -/
theorem initializeGlobalState_allocates_sample :
    (∀ id ∈ [0, 1, 9], sampleRowId id = false → id < sampleColumns.length) ∧
      (columnsToMap (some true)).reverse.Perm (columnsToMap (some true)) ∧
      let absent := absentColumns sampleRowId sampleColumns (columnsToMap (some true)).reverse
        [0, 1, 9]
      ∃ st, initializeGlobalState sampleRowId sampleColumns INVALID_INDEX (some true)
          List.reverse [0, 1, 9] = .ok st ∧
        (∀ c, c ∈ columnsToMap (some true) ↔ c = ("file_row_number", .bigint) ∨
          some true = some true ∧ c = ("delta_file_number", .ubigint)) ∧
        (∀ c ∈ columnsToMap (some true), ∀ i,
          firstPosition sampleRowId sampleColumns c.1 [0, 1, 9] = some i →
            st.columnIdx c.1 = i) ∧
        (absent.map fun c => st.columnIdx c.1) = List.range' [0, 1, 9].length absent.length ∧
        st.extraColumns = absent.map Prod.snd ∧
        (∀ c ∈ columnsToMap (some true),
          firstPosition sampleRowId sampleColumns c.1 [0, 1, 9] = none →
            [0, 1, 9].length ≤ st.columnIdx c.1 ∧
              st.extraColumns[st.columnIdx c.1 - [0, 1, 9].length]? = some c.2) ∧
        (some true ≠ some true → st.deltaFileNumberIdx = INVALID_INDEX) :=
  ⟨by decide, List.reverse_perm _,
    initializeGlobalState_allocates INVALID_INDEX (some true) List.reverse [0, 1, 9] (by decide)
      (List.reverse_perm _)⟩

example : initializeGlobalState sampleRowId sampleColumns INVALID_INDEX (some true) List.reverse
    [0, 1, 9] = .ok ⟨[.ubigint], 1, 3⟩ := rfl

end Allocation

end DeltaScan

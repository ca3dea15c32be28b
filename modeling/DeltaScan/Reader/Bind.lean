import DeltaScan.Snapshot.Expansion
import DeltaScan.Reader.GlobalState

/-!
# The multi-file reader's bind

`delta_scan` is DuckDB's parquet scan with `DeltaMultiFileReader` put into it. Before the scan
reads a file, the reader takes the call's named parameters through `ParseOption`, makes the file
list with `CreateFileList`, and binds the columns with `Bind` and `BindOptions`.

The list's own `Bind` opens the table the first time and keeps the schema: over every run of
operations after it, a list binds one schema and has opened the snapshot once.

`ParseOption` keeps the two parameters the reader adds, `delta_file_number` and
`file_row_number`, in the options' custom map under the lowered key, and hands every other one
to DuckDB's `MultiFileReader::ParseOption`. Both are BOOLEAN parameters. `Bind` adds the
`file_row_number` column where the parameter was given at all, whatever its value, and
`BindOptions` adds `delta_file_number` only where it is true. DuckDB's
`MultiFileReader::BindOptions` is not among the sources and is a parameter.
-/

namespace DeltaScan

namespace DeltaSnapshot

/-! ## The list binds once -/

section Lifecycle

variable {E : Env} {snap : SharedKernelSnapshot}

/-- The list `Bind` leaves on a list just created, where the kernel opens the table. -/
theorem bind_create (workingDirectory rawPath : Bytes)
    (hengine : E.buildEngine (toDeltaPath workingDirectory rawPath) = .ok ())
    (hsnapshot : E.snapshot (toDeltaPath workingDirectory rawPath) = .ok snap) :
    bind E (create workingDirectory rawPath) =
      .ok (snap.schema.map Prod.snd, snap.schema.map Prod.fst)
        { create workingDirectory rawPath with
          calls := ⟨1, 1, 0, 0, 0⟩, snapshot := some snap, initializedSnapshot := true,
          haveBound := true, names := snap.schema.map Prod.fst,
          types := snap.schema.map Prod.snd } := by
  simp only [bind, Step.bind_apply, Step.get_apply]
  simp [create, initializeSnapshot_eq, hengine, hsnapshot]

theorem bind_create_fresh (workingDirectory rawPath : Bytes)
    (hengine : E.buildEngine (toDeltaPath workingDirectory rawPath) = .ok ())
    (hsnapshot : E.snapshot (toDeltaPath workingDirectory rawPath) = .ok snap) :
    Fresh (after (bind E (create workingDirectory rawPath))) := by
  rw [bind_create workingDirectory rawPath hengine hsnapshot]
  exact ⟨rfl, rfl, rfl, rfl, fun _ => rfl, rfl, rfl, rfl, rfl⟩

/-- A list DuckDB creates and binds opens its table once. For every working directory and raw
path at which the kernel builds an engine and opens a snapshot, `Bind` answers the snapshot's
schema and leaves a fresh list; and for every batching the kernel serves that list by and every
run of operations on it, a second `Bind` answers the same schema and changes nothing, and the
list has built one engine and opened the snapshot once. -/
theorem bind_opens_table_once (workingDirectory rawPath : Bytes)
    (hengine : E.buildEngine (toDeltaPath workingDirectory rawPath) = .ok ())
    (hsnapshot : E.snapshot (toDeltaPath workingDirectory rawPath) = .ok snap)
    {B : List (List ScanFile)} (hk : Serves E (after (bind E (create workingDirectory rawPath))) snap B)
    (ops : List Op) :
    let s₁ := after (bind E (create workingDirectory rawPath))
    bind E (create workingDirectory rawPath) =
        .ok (snap.schema.map Prod.snd, snap.schema.map Prod.fst) s₁ ∧ Fresh s₁ ∧
      bind E (runOps E ops s₁).2 =
        .ok (snap.schema.map Prod.snd, snap.schema.map Prod.fst) (runOps E ops s₁).2 ∧
      (runOps E ops s₁).2.calls.buildEngine = 1 ∧ (runOps E ops s₁).2.calls.snapshot = 1 := by
  intro s₁
  have hf : Fresh s₁ := bind_create_fresh workingDirectory rawPath hengine hsnapshot
  refine ⟨by simp only [s₁, bind_create workingDirectory rawPath hengine hsnapshot, after_ok], hf, ?_⟩
  rw [runOps_state hf hk]
  simp only [s₁, bind_create workingDirectory rawPath hengine hsnapshot, after_ok]
  cases (runAbstract B _ _ ops none).2 <;> simp [bind, reached, stateAt]

theorem bind_opens_table_once_sample :
    sampleKernel.buildEngine (toDeltaPath [] (bytes "t")) = .ok () ∧
    sampleKernel.snapshot (toDeltaPath [] (bytes "t")) = .ok ⟨3, []⟩ ∧
    Serves sampleKernel (after (bind sampleKernel (create [] (bytes "t")))) ⟨3, []⟩ sampleBatches ∧
    let s₁ := after (bind sampleKernel (create [] (bytes "t")))
    bind sampleKernel (create [] (bytes "t")) =
        .ok ((⟨3, []⟩ : SharedKernelSnapshot).schema.map Prod.snd,
          (⟨3, []⟩ : SharedKernelSnapshot).schema.map Prod.fst) s₁ ∧ Fresh s₁ ∧
      bind sampleKernel (runOps sampleKernel [.getFile 0, .getAllFiles] s₁).2 =
        .ok ((⟨3, []⟩ : SharedKernelSnapshot).schema.map Prod.snd,
          (⟨3, []⟩ : SharedKernelSnapshot).schema.map Prod.fst)
          (runOps sampleKernel [.getFile 0, .getAllFiles] s₁).2 ∧
      (runOps sampleKernel [.getFile 0, .getAllFiles] s₁).2.calls.buildEngine = 1 ∧
      (runOps sampleKernel [.getFile 0, .getAllFiles] s₁).2.calls.snapshot = 1 :=
  have hk : Serves sampleKernel (after (bind sampleKernel (create [] (bytes "t")))) ⟨3, []⟩
      sampleBatches := ⟨fun _ => rfl, .inl rfl, rfl, rfl, by simp [sampleBatches]⟩
  ⟨rfl, rfl, hk, bind_opens_table_once [] (bytes "t") rfl rfl hk [.getFile 0, .getAllFiles]⟩

end Lifecycle

end DeltaSnapshot

/-! ## The reader's options and columns -/

/-- `MultiFileReaderOptions`, by the fields the Delta reader reads or writes. -/
structure MultiFileReaderOptions where
  autoDetectHivePartitioning : Bool
  hivePartitioning : Bool
  unionByName : Bool
  /-- `custom_options`: the values of the BOOLEAN parameters the reader captures. -/
  customOptions : CaseInsensitiveMap Bool
  deriving DecidableEq, Repr

namespace DeltaMultiFileReader

/-- `DeltaMultiFileReader::ParseOption`: the options with the parameter stored under its lowered
key, for the two parameters the reader captures; `none` for every other, which the source hands
to `MultiFileReader::ParseOption`. -/
def parseOption (key : String) (val : Bool) (options : MultiFileReaderOptions) :
    Option MultiFileReaderOptions :=
  let loption := key.toLower
  if loption = "delta_file_number" then
    some { options with customOptions := options.customOptions.set loption val }
  else if loption = "file_row_number" then
    some { options with customOptions := options.customOptions.set loption val }
  else none

/-- The named parameters of a call, given to `ParseOption` one after the other; one the reader
does not capture leaves the options as they are. -/
def parseOptions (params : List (String × Bool)) (options : MultiFileReaderOptions) :
    MultiFileReaderOptions :=
  params.foldl (fun o p => (parseOption p.1 p.2 o).getD o) options

/-- The two parameters the reader captures. -/
def Captured (name : String) : Prop := name = "delta_file_number" ∨ name = "file_row_number"

theorem parseOption_find? (key : String) (val : Bool) (options : MultiFileReaderOptions)
    {name : String} (hname : Captured name) :
    ((parseOption key val options).getD options).customOptions.find? name =
      if key.toLower = name then some val else options.customOptions.find? name := by
  have hne : lower "delta_file_number" ≠ lower "file_row_number" := by decide
  unfold parseOption
  dsimp only
  rcases hname with rfl | rfl <;> split_ifs <;> simp_all [hne.symm]

/-- After a call's parameters, the value of a captured option is that of the last parameter that
names it, up to case. -/
theorem parseOptions_find? (params : List (String × Bool)) (options : MultiFileReaderOptions)
    {name : String} (hname : Captured name) :
    (parseOptions params options).customOptions.find? name =
      ((params.reverse.find? fun p => p.1.toLower == name).map Prod.snd).or
        (options.customOptions.find? name) := by
  induction params generalizing options with
  | nil => rfl
  | cons p ps ih =>
    rw [parseOptions, List.foldl_cons, ← parseOptions, ih, parseOption_find? _ _ _ hname,
      List.reverse_cons, List.find?_append]
    cases ps.reverse.find? (fun p => p.1.toLower == name) <;>
      by_cases h : p.1.toLower = name <;> simp [h]

/-- `DeltaMultiFileReader::CreateFileList`: the list `CreateInstance` injected, whatever the
path, or else a new list at the one path. -/
def createFileList (snapshot : Option DeltaSnapshot) (workingDirectory : Bytes)
    (paths : List Bytes) : Except String DeltaSnapshot :=
  match paths with
  | [path] => .ok (snapshot.getD (DeltaSnapshot.create workingDirectory path))
  | _ => .error "\x27delta_scan\x27 only supports single path as input"

section Bind

variable (E : Env)

/-- `DeltaMultiFileReader::Bind`: the columns the list binds, then a BIGINT `file_row_number`
where that option is present, whatever its value; and `bind_data.file_row_number_idx`, the
number of the list's columns either way. -/
def bind (options : MultiFileReaderOptions) : Step (List LogicalType × List String × Nat) := do
  let (returnTypes, names) ← DeltaSnapshot.bind E
  let fileRowNumberEnabled := (options.customOptions.find? "file_row_number").isSome
  if fileRowNumberEnabled then
    return (returnTypes ++ [.bigint], names ++ ["file_row_number"], names.length)
  else
    return (returnTypes, names, names.length)

end Bind

/-- `DeltaMultiFileReader::BindOptions`, with DuckDB's `MultiFileReader::BindOptions` as `base`:
hive partitioning and union by name are turned off before the base binds, and a UBIGINT
`delta_file_number` follows where that option is true. -/
def bindOptions
    (base : MultiFileReaderOptions → List LogicalType × List String → List LogicalType × List String)
    (options : MultiFileReaderOptions) (returnTypes : List LogicalType) (names : List String) :
    MultiFileReaderOptions × List LogicalType × List String :=
  let options := { options with
    autoDetectHivePartitioning := false, hivePartitioning := false, unionByName := false }
  let (returnTypes, names) := base options (returnTypes, names)
  match options.customOptions.find? "delta_file_number" with
  | some true => (options, returnTypes ++ [.ubigint], names ++ ["delta_file_number"])
  | _ => (options, returnTypes, names)

theorem bind_of_snapshot_bind {E : Env} (options : MultiFileReaderOptions) {s s' : DeltaSnapshot}
    {types : List LogicalType} {names : List String}
    (hbind : DeltaSnapshot.bind E s = .ok (types, names) s') :
    bind E options s = .ok (if (options.customOptions.find? "file_row_number").isSome then
        (types ++ [.bigint], names ++ ["file_row_number"], names.length)
      else (types, names, names.length)) s' := by
  simp only [bind, Step.bind_apply, hbind]
  split <;> rfl

/-- The columns the reader adds to a scan. For every call's named parameters, every
`MultiFileReader::BindOptions` and every list whose `Bind` answers a schema: `Bind` puts a
BIGINT `file_row_number` after the schema, at `file_row_number_idx`, exactly when a parameter
names it up to case, whatever its value; `BindOptions` puts a UBIGINT `delta_file_number` last
exactly when the last parameter that names it is true; and that is also exactly when
`InitializeGlobalState` maps `delta_file_number`. -/
theorem bind_columns (params : List (String × Bool)) {options : MultiFileReaderOptions}
    (hfresh : options.customOptions = .empty) {E : Env} {s s' : DeltaSnapshot}
    {types : List LogicalType} {names : List String}
    (hbind : DeltaSnapshot.bind E s = .ok (types, names) s')
    (base : MultiFileReaderOptions → List LogicalType × List String →
      List LogicalType × List String) (returnTypes : List LogicalType) (boundNames : List String) :
    let o := parseOptions params options
    let rowNumber := params.any fun p => p.1.toLower == "file_row_number"
    let fileNumber := (params.reverse.find? fun p => p.1.toLower == "delta_file_number").map Prod.snd
    let o' := { o with
      autoDetectHivePartitioning := false, hivePartitioning := false, unionByName := false }
    bind E o s = .ok (types ++ (if rowNumber then [.bigint] else []),
      names ++ (if rowNumber then ["file_row_number"] else []), names.length) s' ∧
    bindOptions base o returnTypes boundNames =
      (o', (base o' (returnTypes, boundNames)).1 ++ (if fileNumber = some true then [.ubigint] else []),
        (base o' (returnTypes, boundNames)).2 ++
          (if fileNumber = some true then ["delta_file_number"] else [])) ∧
    (("delta_file_number", LogicalType.ubigint) ∈ columnsToMap (o.customOptions.find? "delta_file_number") ↔
      fileNumber = some true) := by
  intro o rowNumber fileNumber o'
  have hrow : (o.customOptions.find? "file_row_number").isSome = rowNumber := by
    rw [parseOptions_find? _ _ (.inr rfl), hfresh, CaseInsensitiveMap.find?_empty, Option.or_none,
      Option.isSome_map', Bool.eq_iff_iff, List.find?_isSome, List.any_eq_true]
    simp only [List.mem_reverse]
  have hfile : o.customOptions.find? "delta_file_number" = fileNumber := by
    rw [parseOptions_find? _ _ (.inl rfl), hfresh, CaseInsensitiveMap.find?_empty, Option.or_none]
  refine ⟨?_, ?_, ?_⟩
  · rw [bind_of_snapshot_bind o hbind, hrow]
    cases rowNumber <;> simp
  · simp only [bindOptions]
    rw [hfile]
    generalize fileNumber = f
    rcases f with _ | _ | _ <;> simp [o']
  · rw [hfile]
    simp [columnsToMap]

theorem bind_columns_sample :
    (⟨true, true, true, .empty⟩ : MultiFileReaderOptions).customOptions = .empty ∧
    DeltaSnapshot.bind DeltaSnapshot.sampleKernel { DeltaSnapshot.create [] (bytes "t") with
        haveBound := true, names := ["x"], types := [.integer] } =
      .ok ([.integer], ["x"]) { DeltaSnapshot.create [] (bytes "t") with
        haveBound := true, names := ["x"], types := [.integer] } ∧
    let params := [("FILE_ROW_NUMBER", false), ("delta_file_number", true)]
    let o := parseOptions params ⟨true, true, true, .empty⟩
    let rowNumber := params.any fun p => p.1.toLower == "file_row_number"
    let fileNumber := (params.reverse.find? fun p => p.1.toLower == "delta_file_number").map Prod.snd
    let o' := { o with
      autoDetectHivePartitioning := false, hivePartitioning := false, unionByName := false }
    let s := { DeltaSnapshot.create [] (bytes "t") with
      haveBound := true, names := ["x"], types := [.integer] }
    bind DeltaSnapshot.sampleKernel o s = .ok ([.integer] ++ (if rowNumber then [.bigint] else []),
      ["x"] ++ (if rowNumber then ["file_row_number"] else []), ["x"].length) s ∧
    bindOptions (fun _ columns => columns) o [.integer] ["x"] =
      (o', ((fun _ columns => columns : MultiFileReaderOptions → List LogicalType × List String →
          List LogicalType × List String) o' ([.integer], ["x"])).1 ++
          (if fileNumber = some true then [.ubigint] else []),
        ((fun _ columns => columns : MultiFileReaderOptions → List LogicalType × List String →
          List LogicalType × List String) o' ([.integer], ["x"])).2 ++
          (if fileNumber = some true then ["delta_file_number"] else [])) ∧
    (("delta_file_number", LogicalType.ubigint) ∈ columnsToMap (o.customOptions.find? "delta_file_number") ↔
      fileNumber = some true) :=
  have hfresh : (⟨true, true, true, .empty⟩ : MultiFileReaderOptions).customOptions = .empty := rfl
  have hbind : DeltaSnapshot.bind DeltaSnapshot.sampleKernel { DeltaSnapshot.create [] (bytes "t") with
        haveBound := true, names := ["x"], types := [.integer] } =
      .ok ([.integer], ["x"]) { DeltaSnapshot.create [] (bytes "t") with
        haveBound := true, names := ["x"], types := [.integer] } := rfl
  ⟨hfresh, hbind, bind_columns [("FILE_ROW_NUMBER", false), ("delta_file_number", true)] hfresh
    hbind (fun _ columns => columns) [.integer] ["x"]⟩

end DeltaMultiFileReader
end DeltaScan

import DeltaScan.Snapshot.State

/-!
# The operations of a `DeltaSnapshot`

`GetFileInternal(i)` opens the snapshot and the scan on first use, answers from the files
already found when it can, and otherwise pulls batches from the kernel until file `i` exists or
the kernel says there is nothing more, which it records in `files_exhausted`. Every pull runs
`VisitCallback` on each file of the batch, which appends the file's resolved path and its
metadata.

`GetTotalFileCount` and `GetAllFiles` ask for the next file until the answer is the empty
string. That loop is the only one not driven by the batches alone: it ends because each round
either opens the scan, consumes a batch, or moves past a file already found.

Each public operation holds the list's lock for its whole run, so an operation is one step of
the state machine; `GetCardinality` takes the lock twice, and its second part only reads.
-/

namespace DeltaScan

namespace DeltaSnapshot

variable (E : Env)

/-! ## Visiting files -/

/-- The partition values `VisitCallback` keeps: every bound name the kernel has a value for. -/
def partitionMapOf (names : List String) (values : List (String × Bytes)) :
    CaseInsensitiveMap Bytes :=
  names.foldl (fun m col => match values.lookup col with
    | some v => m.set col v
    | none => m) .empty

theorem foldl_partitionMap_find? (values : List (String × Bytes)) (key : String) :
    ∀ (names : List String) (m : CaseInsensitiveMap Bytes),
      (names.foldl (fun m col => match values.lookup col with
        | some v => m.set col v
        | none => m) m).find? key =
        ((names.reverse.filterMap fun col =>
          if ciEquals col key then values.lookup col else none).head?).or (m.find? key)
  | [], m => rfl
  | col :: names, m => by
    rw [List.foldl_cons, foldl_partitionMap_find? values key names, List.reverse_cons,
      List.filterMap_append, List.head?_append, Option.or_assoc]
    congr 1
    cases hv : values.lookup col with
    | none => by_cases hc : ciEquals col key <;> simp [hv, hc]
    | some v => by_cases hc : ciEquals col key <;> simp [hv, hc, -ciEquals_iff]

/-- The partition map a visit keeps answers, for every name, the kernel's value of the last
bound column with that name up to case that the kernel has a value for; the kernel's map is read
with the column's own spelling. -/
theorem partitionMapOf_find? (names : List String) (values : List (String × Bytes))
    (key : String) :
    (partitionMapOf names values).find? key =
      (names.reverse.filterMap fun col =>
        if ciEquals col key then values.lookup col else none).head? := by
  have h := foldl_partitionMap_find? values key names .empty
  rw [CaseInsensitiveMap.find?_empty, Option.or_none] at h
  exact h

/-- The metadata `VisitCallback` builds before it asks for the deletion vector. -/
def initialMetaData (version fileNumber : Nat) (f : ScanFile) : DeltaFileMetaData where
  deltaSnapshotVersion := version
  fileNumber := fileNumber
  cardinality := f.numRecords.getD INVALID_INDEX
  selectionVector := none
  partitionMap := .empty

/-- `DeltaSnapshot::VisitCallback` for one file. The file and its first metadata are appended
before `selection_vector_from_dv` is asked; the deletion vector and the partition values are
filled in afterwards. -/
def visitCallback (f : ScanFile) : Step Unit := do
  let s ← get
  let path := resolvedPath E.ii s.path f.path
  set { s with resolvedFiles := s.resolvedFiles ++ [path],
               metadata := s.metadata ++ [initialMetaData s.version s.resolvedFiles.length f] }
  let selectionVector ←
    unpackResult (bytes "selection_vector_from_dv for path " ++ s.path) f.selectionVector
  modify fun s => { s with metadata := s.metadata.modifyLast fun m =>
    { m with selectionVector := selectionVector,
             partitionMap := partitionMapOf s.names f.partitionValues } }

/-- `DeltaSnapshot::VisitData`: the callback for every file of a batch. -/
def visitData : List ScanFile → Step Unit
  | [] => pure ()
  | f :: fs => do visitCallback E f; visitData fs

/-- The path and the complete metadata `VisitCallback` records for a file. -/
def fileMetaData (version fileNumber : Nat) (names : List String) (f : ScanFile)
    (selectionVector : Option KernelBoolSlice) : DeltaFileMetaData :=
  { initialMetaData version fileNumber f with
    selectionVector := selectionVector
    partitionMap := partitionMapOf names f.partitionValues }

/-- What one call of `VisitCallback` does. -/
theorem visitCallback_eq (f : ScanFile) (s : DeltaSnapshot) :
    visitCallback E f s =
      match f.selectionVector with
      | .error e => .error (.kernelIn (bytes "selection_vector_from_dv for path " ++ s.path) e) { s with
          resolvedFiles := s.resolvedFiles ++ [resolvedPath E.ii s.path f.path],
          metadata := s.metadata ++ [initialMetaData s.version s.resolvedFiles.length f] }
      | .ok sv => .ok () { s with
          resolvedFiles := s.resolvedFiles ++ [resolvedPath E.ii s.path f.path],
          metadata := s.metadata ++
            [fileMetaData s.version s.resolvedFiles.length s.names f sv] } := by
  unfold visitCallback
  cases f.selectionVector <;> simp [List.modifyLast_append_one, fileMetaData]

/-- `VisitCallback` decodes the table root along with the relative path: the root is kept as it
is only when it holds neither `%` nor `+`. -/
theorem visitCallback_resolved (f : ScanFile) (s : DeltaSnapshot) :
    (after (visitCallback E f s)).resolvedFiles =
        s.resolvedFiles ++ [toDuckDBPath (urlDecode E.ii (rTrim s.path ++ [47] ++ f.path))] ∧
      (37 ∉ s.path → 43 ∉ s.path → (after (visitCallback E f s)).resolvedFiles =
        s.resolvedFiles ++ [toDuckDBPath (rTrim s.path ++ [47] ++ urlDecode E.ii f.path)]) := by
  have hpath : (after (visitCallback E f s)).resolvedFiles =
      s.resolvedFiles ++ [resolvedPath E.ii s.path f.path] := by
    rw [visitCallback_eq]; cases f.selectionVector <;> rfl
  refine ⟨hpath, fun h37 h43 => ?_⟩
  rw [hpath, resolvedPath_of_no_escape h37,
    map_plusToSpace_of_not_mem fun hm => h43 (mem_rTrim hm)]

theorem visitCallback_resolved_sample :
    37 ∉ (create [] (bytes "t")).path ∧ 43 ∉ (create [] (bytes "t")).path ∧
      (after (visitCallback ⟨fun _ => .ok (), fun _ => .error "", fun _ _ _ => .ok (),
          fun _ _ _ => .ok [], 0⟩ ⟨bytes "f%20g", none, .ok none, []⟩
          (create [] (bytes "t")))).resolvedFiles =
        (create [] (bytes "t")).resolvedFiles ++
          [toDuckDBPath (rTrim (create [] (bytes "t")).path ++ [47] ++ urlDecode 0 (bytes "f%20g"))] :=
  ⟨by decide, by decide, (visitCallback_resolved _ _ _).2 (by decide) (by decide)⟩

/-- A `+` in the table root comes back as a space in the file's path. -/
theorem visitCallback_decodes_root :
    ¬ ∀ (E : Env) (workingDirectory rawPath : Bytes) (s : DeltaSnapshot) (f : ScanFile),
      s.path = toDeltaPath workingDirectory rawPath →
      (after (visitCallback E f s)).resolvedFiles =
        s.resolvedFiles ++ [toDuckDBPath (rTrim s.path ++ [47] ++ urlDecode E.ii f.path)] := by
  intro h
  have := h ⟨fun _ => .ok (), fun _ => .error "", fun _ _ _ => .ok (), fun _ _ _ => .ok [], 0⟩
    [] (bytes "a+b") (create [] (bytes "a+b")) ⟨bytes "f", none, .ok none, []⟩ rfl
  rw [visitCallback_eq] at this
  exact absurd this (by decide)

/-- Visiting files whose deletion vectors the kernel reads appends every one of them. -/
theorem visitData_ok (fs : List ScanFile) (hdv : ∀ f ∈ fs, ∃ sv, f.selectionVector = .ok sv)
    (s : DeltaSnapshot) :
    visitData E fs s = .ok () { s with
      resolvedFiles := s.resolvedFiles ++ fs.map fun f => resolvedPath E.ii s.path f.path,
      metadata := s.metadata ++ fs.mapIdx fun k f =>
        fileMetaData s.version (s.resolvedFiles.length + k) s.names f f.deletionVector } := by
  induction fs generalizing s with
  | nil => simp [visitData]
  | cons f fs ih =>
    obtain ⟨sv, hsv⟩ := hdv f (List.mem_cons_self f fs)
    simp only [visitData, Step.bind_apply, visitCallback_eq, hsv]
    rw [ih fun g hg => hdv g (List.mem_cons_of_mem f hg)]
    simp [ScanFile.deletionVector, hsv, List.mapIdx_cons, Nat.add_comm, Nat.add_left_comm]

/-- A visit changes only the files and their metadata. -/
theorem visitData_frame (fs : List ScanFile) (s : DeltaSnapshot) :
    ∃ files metadata, after (visitData E fs s) =
      { s with resolvedFiles := files, metadata := metadata } := by
  induction fs generalizing s with
  | nil => exact ⟨s.resolvedFiles, s.metadata, rfl⟩
  | cons f fs ih =>
    simp only [visitData, Step.bind_apply, visitCallback_eq]
    cases f.selectionVector with
    | error e => exact ⟨_, _, rfl⟩
    | ok sv =>
      obtain ⟨files, metadata, h⟩ := ih { s with
        resolvedFiles := s.resolvedFiles ++ [resolvedPath E.ii s.path f.path],
        metadata := s.metadata ++ [fileMetaData s.version s.resolvedFiles.length s.names f sv] }
      exact ⟨files, metadata, h⟩

theorem visitData_ok_frame {fs : List ScanFile} {s t : DeltaSnapshot} {u : Unit}
    (h : visitData E fs s = .ok u t) :
    ∃ files metadata, t = { s with resolvedFiles := files, metadata := metadata } := by
  have := visitData_frame E fs s
  rwa [h, after_ok] at this

/-! ## Opening the snapshot and the scan -/

/-- `DeltaSnapshot::InitializeSnapshot`: the engine is built every time, the snapshot only when
the list does not share one already. -/
def initializeSnapshot : Step Unit := do
  modify fun s => { s with calls.buildEngine := s.calls.buildEngine + 1 }
  liftKernel (E.buildEngine (← get).path)
  if (← get).snapshot.isNone then
    modify fun s => { s with calls.snapshot := s.calls.snapshot + 1 }
    let snapshot ← liftKernel (E.snapshot (← get).path)
    modify fun s => { s with snapshot := some snapshot }
  modify fun s => { s with initializedSnapshot := true }

/-- `DeltaSnapshot::InitializeScan`: the scan under the bound names and the table filters, the
version of the snapshot, and the data iterator. -/
def initializeScan : Step Unit := do
  match (← get).snapshot with
  | none => throw (.internal "no snapshot to scan")
  | some snapshot =>
    modify fun s => { s with calls.scan := s.calls.scan + 1 }
    liftKernel (E.scan snapshot (← get).names (← get).tableFilters)
    modify fun s => { s with version := snapshot.version,
                             calls.scanDataInit := s.calls.scanDataInit + 1 }
    let batches ← liftKernel (E.scanData snapshot (← get).names (← get).tableFilters)
    modify fun s => { s with scanDataIterator := batches, initializedScan := true }

/-- What `InitializeSnapshot` does. -/
theorem initializeSnapshot_eq (s : DeltaSnapshot) :
    initializeSnapshot E s =
      let s₁ := { s with calls.buildEngine := s.calls.buildEngine + 1 }
      match E.buildEngine s.path, s.snapshot with
      | .error e, _ => .error (.kernel e) s₁
      | .ok _, some _ => .ok () { s₁ with initializedSnapshot := true }
      | .ok _, none =>
        let s₂ := { s₁ with calls.snapshot := s₁.calls.snapshot + 1 }
        match E.snapshot s.path with
        | .error e => .error (.kernel e) s₂
        | .ok snapshot => .ok () { s₂ with snapshot := some snapshot, initializedSnapshot := true } := by
  unfold initializeSnapshot
  cases hb : E.buildEngine s.path <;> cases hs : s.snapshot <;> cases hn : E.snapshot s.path <;>
    simp [hb, hs, hn]

/-- What `InitializeScan` does. -/
theorem initializeScan_eq (s : DeltaSnapshot) :
    initializeScan E s =
      match s.snapshot with
      | none => .error (.internal "no snapshot to scan") s
      | some snapshot =>
        let s₁ := { s with calls.scan := s.calls.scan + 1 }
        match E.scan snapshot s.names s.tableFilters with
        | .error e => .error (.kernel e) s₁
        | .ok _ =>
          let s₂ := { s₁ with version := snapshot.version,
                              calls.scanDataInit := s₁.calls.scanDataInit + 1 }
          match E.scanData snapshot s.names s.tableFilters with
          | .error e => .error (.kernel e) s₂
          | .ok batches => .ok () { s₂ with scanDataIterator := batches, initializedScan := true } := by
  unfold initializeScan
  cases hs : s.snapshot with
  | none => simp [hs]
  | some snap =>
    cases hc : E.scan snap s.names s.tableFilters <;>
      cases hd : E.scanData snap s.names s.tableFilters <;> simp [hs, hc, hd]

/-- A scan that opens is marked open and leaves the files alone. -/
theorem initializeScan_ok {s s' : DeltaSnapshot} {u : Unit} (h : initializeScan E s = .ok u s') :
    s'.initializedScan = true ∧ s'.resolvedFiles = s.resolvedFiles := by
  rw [initializeScan_eq] at h
  split at h
  · simp at h
  · split at h
    · simp at h
    · split at h
      · simp at h
      · cases h
        exact ⟨rfl, rfl⟩

/-! ## `GetFileInternal` -/

/-- The `while` loop of `GetFileInternal` over the batches the iterator has left: one
`kernel_scan_data_next` per round, until file `i` exists or the iterator is done. -/
def scanDataLoop (i : Nat) : List ScanBatch → Step Bytes
  | [] => do
    modify fun s => { s with calls.scanDataNext := s.calls.scanDataNext + 1,
                             filesExhausted := true }
    return []
  | batch :: rest => do
    modify fun s => { s with calls.scanDataNext := s.calls.scanDataNext + 1,
                             scanDataIterator := rest }
    visitData E (← liftKernel batch)
    let s ← get
    if h : i < s.resolvedFiles.length then return s.resolvedFiles[i] else scanDataLoop i rest

/-- The start of `GetFileInternal`: the snapshot and then the scan are opened on first use. -/
def openScan : Step Unit := do
  unless (← get).initializedSnapshot do initializeSnapshot E
  unless (← get).initializedScan do initializeScan E

/-- `DeltaSnapshot::GetFileInternal`. -/
def getFileInternal (i : Nat) : Step Bytes := do
  openScan E
  let s ← get
  if h : i < s.resolvedFiles.length then return s.resolvedFiles[i]
  if s.filesExhausted then return []
  scanDataLoop E i s.scanDataIterator

/-- A loop that answers with a file has consumed a batch. -/
theorem scanDataLoop_progress (i : Nat) (bs : List ScanBatch) {s s' : DeltaSnapshot} {p : Bytes}
    (h : scanDataLoop E i bs s = .ok p s') (hp : p ≠ []) :
    s'.scanDataIterator.length < bs.length ∧ s'.initializedScan = s.initializedScan := by
  induction bs generalizing s with
  | nil => simp [scanDataLoop] at h; exact absurd h.1 hp
  | cons b rest ih =>
    simp only [scanDataLoop, Step.bind_apply, Step.modify_apply] at h
    cases b with
    | error e => simp at h
    | ok fs =>
      simp only [liftKernel_ok] at h
      split at h
      · rename_i u t hvd
        obtain ⟨files, metadata, rfl⟩ := visitData_ok_frame E hvd
        by_cases hi : i < files.length
        · simp only [hi, Step.get_apply, dif_pos, Step.pure_apply] at h
          cases h
          simp
        · simp only [hi, Step.get_apply, dif_neg, not_false_eq_true] at h
          obtain ⟨hlt, hinit⟩ := ih h
          exact ⟨by simp only [List.length_cons]; omega, hinit⟩
      · simp at h

/-- The rank of a round of the expansion loop at file `i`: whether the scan is still to be
opened, then the batches left, then the files found but not yet passed. -/
def loopRank (i : Nat) (s : DeltaSnapshot) : Nat × Nat × Nat :=
  (if s.initializedScan then 0 else 1, s.scanDataIterator.length, s.resolvedFiles.length - i)

/-- The part of `GetFileInternal` once the scan is open. -/
theorem answer_progress {i : Nat} {s s' : DeltaSnapshot} {p : Bytes}
    (h : (do
      let s ← get
      if h : i < s.resolvedFiles.length then return s.resolvedFiles[i]
      if s.filesExhausted then return []
      scanDataLoop E i s.scanDataIterator : Step Bytes) s = .ok p s') (hp : p ≠ []) :
    s'.initializedScan = s.initializedScan ∧
      (s'.scanDataIterator.length < s.scanDataIterator.length ∨
        s'.scanDataIterator = s.scanDataIterator ∧ s'.resolvedFiles = s.resolvedFiles ∧
          i < s.resolvedFiles.length) := by
  simp only [Step.bind_apply, Step.get_apply] at h
  by_cases hi : i < s.resolvedFiles.length
  · simp only [hi, dif_pos, Step.pure_apply] at h
    cases h
    exact ⟨rfl, .inr ⟨rfl, rfl, hi⟩⟩
  · simp only [hi, dif_neg, not_false_eq_true] at h
    split at h
    · simp at h; exact absurd h.1 hp
    · obtain ⟨hlt, hinit⟩ := scanDataLoop_progress E i _ h hp
      exact ⟨hinit, .inl hlt⟩

/-- Opening the snapshot leaves the scan and the files as they were. -/
theorem initializeSnapshot_frame (s : DeltaSnapshot) :
    (after (initializeSnapshot E s)).scanDataIterator = s.scanDataIterator ∧
      (after (initializeSnapshot E s)).resolvedFiles = s.resolvedFiles ∧
      (after (initializeSnapshot E s)).initializedScan = s.initializedScan := by
  rw [initializeSnapshot_eq]
  cases E.buildEngine s.path <;> cases s.snapshot <;> cases E.snapshot s.path <;> simp

/-- What `openScan` does: `InitializeSnapshot` unless it has been done, then `InitializeScan`
unless it has been done. -/
theorem openScan_eq (s : DeltaSnapshot) :
    openScan E s =
      match (if s.initializedSnapshot then pure () else initializeSnapshot E) s with
      | .ok _ s₁ => (if s₁.initializedScan then pure () else initializeScan E) s₁
      | .error e s₁ => .error e s₁ := by
  unfold openScan
  cases hs : s.initializedSnapshot <;> simp [hs]
  cases initializeSnapshot E s <;> rfl

/-- Opening leaves the files alone, and a scan that opens is marked open. -/
theorem openScan_ok {s s' : DeltaSnapshot} {u : Unit} (h : openScan E s = .ok u s') :
    s'.resolvedFiles = s.resolvedFiles ∧ s'.initializedScan = true ∧
      (s.initializedScan = true → s'.scanDataIterator = s.scanDataIterator) := by
  rw [openScan_eq] at h
  split at h
  · rename_i s₁ h₁
    have f₁ : s₁.scanDataIterator = s.scanDataIterator ∧ s₁.resolvedFiles = s.resolvedFiles ∧
        s₁.initializedScan = s.initializedScan := by
      by_cases hs : s.initializedSnapshot
      · simp only [hs, if_true, Step.pure_apply] at h₁; cases h₁; exact ⟨rfl, rfl, rfl⟩
      · simp only [hs, Bool.false_eq_true, if_false] at h₁
        simpa [h₁] using initializeSnapshot_frame E s
    by_cases hscan : s.initializedScan
    · simp only [f₁.2.2, hscan, if_true, Step.pure_apply] at h
      cases h
      exact ⟨f₁.2.1, f₁.2.2.trans hscan, fun _ => f₁.1⟩
    · simp only [f₁.2.2, hscan, Bool.false_eq_true, if_false] at h
      obtain ⟨hi, hr⟩ := initializeScan_ok E h
      exact ⟨hr.trans f₁.2.1, hi, fun h => absurd h hscan⟩
  · simp at h

/-- Every round of the expansion loop that goes on lowers its rank. -/
theorem getFileInternal_progress {i : Nat} {s s' : DeltaSnapshot} {p : Bytes}
    (h : getFileInternal E i s = .ok p s') (hp : p ≠ []) :
    Prod.Lex (· < ·) (Prod.Lex (· < ·) (· < ·)) (loopRank (i + 1) s') (loopRank i s) := by
  rw [getFileInternal, Step.bind_apply] at h
  split at h
  · rename_i s₁ h₁
    obtain ⟨hres, hopen, hiter⟩ := openScan_ok E h₁
    obtain ⟨hinit, hrank⟩ := answer_progress E h hp
    by_cases hscan : s.initializedScan
    · simp only [loopRank, hinit, hopen, hscan, if_true]
      apply Prod.Lex.right
      rcases hrank with hlt | ⟨hit, hres', hi⟩
      · exact Prod.Lex.left _ _ (by rw [← hiter hscan]; exact hlt)
      · rw [hit, hiter hscan]
        apply Prod.Lex.right
        rw [hres', hres]; rw [hres] at hi; omega
    · simp only [loopRank, hinit, hopen, hscan, if_true]
      exact Prod.Lex.left _ _ (by decide)
  · simp at h

/-! ## The public operations -/

/-- `while (!GetFileInternal(i).empty()) i++;`: the loop of `GetTotalFileCount` and
`GetAllFiles`, from file `i`. -/
def expandFrom (i : Nat) (s : DeltaSnapshot) : EStateM.Result ScanException DeltaSnapshot Unit :=
  match h : getFileInternal E i s with
  | .ok p s' => if hp : p.isEmpty then .ok () s' else expandFrom (i + 1) s'
  | .error e s' => .error e s'
termination_by loopRank i s
decreasing_by exact getFileInternal_progress E h (by simpa using hp)

/-- `DeltaSnapshot::GetFile`. -/
def getFile (i : Nat) : Step Bytes := getFileInternal E i

/-- `DeltaSnapshot::GetTotalFileCount`. -/
def getTotalFileCount : Step Nat := do
  (expandFrom E (← get).resolvedFiles.length : Step Unit)
  return (← get).resolvedFiles.length

/-- `DeltaSnapshot::GetAllFiles`. -/
def getAllFiles : Step (List Bytes) := do
  (expandFrom E (← get).resolvedFiles.length : Step Unit)
  return (← get).resolvedFiles

/-- The loop of `GetCardinality`: the sum, as an `idx_t`, of the cardinalities that are set, and
whether any is. -/
def sumCardinalities (metadata : List DeltaFileMetaData) : Nat × Bool :=
  metadata.foldl (fun (total, any) m =>
    if m.cardinality ≠ INVALID_INDEX then ((total + m.cardinality) % 2 ^ 64, true)
    else (total, any)) (0, false)

/-- The statistics `GetCardinality` builds from the file count and the metadata:
`NodeStatistics(estimated, max)`, or `none` for the null pointer. -/
def cardinalityOf (totalFileCount : Nat) (metadata : List DeltaFileMetaData) :
    Option (Nat × Nat) :=
  if totalFileCount = 0 then some (0, 0) else
    let (total, haveAnyStats) := sumCardinalities metadata
    if haveAnyStats then some (total, total) else none

/-- `DeltaSnapshot::GetCardinality`. -/
def getCardinality : Step (Option (Nat × Nat)) := do
  let totalFileCount ← getTotalFileCount E
  return cardinalityOf totalFileCount (← get).metadata

/-- `DeltaSnapshot::GetMetaData`; `none` where the source would read out of range. -/
def getMetaData (index : Nat) : Step (Option DeltaFileMetaData) := do
  return (← get).metadata[index]?

/-- `DeltaSnapshot::Bind`: the schema of the snapshot, read once and kept. -/
def bind : Step (List LogicalType × List String) := do
  if (← get).haveBound then return ((← get).types, (← get).names)
  unless (← get).initializedSnapshot do initializeSnapshot E
  match (← get).snapshot with
  | none => throw (.internal "no snapshot to bind")
  | some snapshot =>
    let names := snapshot.schema.map Prod.fst
    let types := snapshot.schema.map Prod.snd
    modify fun s => { s with haveBound := true, names := names, types := types }
    return (types, names)

/-- The operations a scan makes on a list, each under the list's lock. -/
inductive Op where
  | getFile (i : Nat)
  | getTotalFileCount
  | getAllFiles
  | getCardinality
  | getMetaData (index : Nat)
  deriving DecidableEq, Repr

/-- What an operation answers. -/
inductive Answer where
  | path (p : Bytes)
  | count (n : Nat)
  | files (ps : List Bytes)
  | cardinality (c : Option (Nat × Nat))
  | metaData (m : Option DeltaFileMetaData)
  deriving DecidableEq, Repr

/-- One operation as a step of the list. -/
def Op.run : Op → Step Answer
  | .getFile i => .path <$> DeltaSnapshot.getFile E i
  | .getTotalFileCount => .count <$> DeltaSnapshot.getTotalFileCount E
  | .getAllFiles => .files <$> DeltaSnapshot.getAllFiles E
  | .getCardinality => .cardinality <$> DeltaSnapshot.getCardinality E
  | .getMetaData index => .metaData <$> DeltaSnapshot.getMetaData index

/-- A run of operations, each on the state the one before left, also after an exception. -/
def runOps : List Op → DeltaSnapshot → List (Except ScanException Answer) × DeltaSnapshot
  | [], s => ([], s)
  | op :: ops, s =>
    match op.run E s with
    | .ok a s' => let r := runOps ops s'; (.ok a :: r.1, r.2)
    | .error e s' => let r := runOps ops s'; (.error e :: r.1, r.2)

end DeltaSnapshot

end DeltaScan

import DeltaScan.Snapshot.Lazy

/-!
# What every run of the file list guarantees

From the simulation of `Lazy`, over every batching of the table by the kernel and every run of
operations on one list, whatever their order and however the threads of a scan interleave them:
each operation answers what the eager list answers, and each state the list reaches holds the
files of a prefix of the batches, as few as the requests so far need, and calls the kernel only
to fetch files it does not hold yet.
-/

namespace DeltaScan

namespace DeltaSnapshot

/-- The index `GetFile` asks for, for a `GetFile`. -/
def Op.fileIndex : Op → Option Nat
  | .getFile i => some i
  | _ => none

/-- `GetTotalFileCount`, `GetAllFiles` and `GetCardinality` expand the whole list. -/
def Op.expandsAll : Op → Bool
  | .getTotalFileCount | .getAllFiles | .getCardinality => true
  | .getFile _ | .getMetaData _ => false

/-- The index an operation asks the list to reach, when no path is empty and `L` has `n` files. -/
def Op.request (n : Nat) : Op → Option Nat
  | .getFile i => some i
  | .getMetaData _ => none
  | .getTotalFileCount | .getAllFiles | .getCardinality => some n

/-! ## The abstract list over whole runs -/

section Abstract

variable {B : List (List ScanFile)} {P : List Bytes} {Ms : List DeltaFileMetaData}

/-- An operation never makes the list hold fewer files. -/
theorem foundCount_le_next (o : Option Nat) (op : Op) :
    foundCount B o ≤ foundCount B (op.next B P o) := by
  have grow : ∀ i, foundCount B o ≤ foundCount B (some (asked o i)) := fun i => by
    cases o with
    | none => exact Nat.zero_le _
    | some M =>
      exact filesIn_mono B (batchesFor_mono B (Nat.le_max_left _ _))
  cases op <;> first | exact le_rfl | exact grow _

theorem runAbstract_state_append (xs ys : List Op) (o : Option Nat) :
    (runAbstract B P Ms (xs ++ ys) o).2 =
      (runAbstract B P Ms ys (runAbstract B P Ms xs o).2).2 := by
  induction xs generalizing o with
  | nil => rfl
  | cons op xs ih => exact ih _

theorem foundCount_le_runAbstract (ops : List Op) (o : Option Nat) :
    foundCount B o ≤ foundCount B (runAbstract B P Ms ops o).2 := by
  induction ops generalizing o with
  | nil => exact le_rfl
  | cons op ops ih => exact Nat.le_trans (foundCount_le_next o op) (ih _)

/-- The `k`-th answer of a run is what the `k`-th operation answers where the first `k` left
the list. -/
theorem runAbstract_getElem? (ops : List Op) (o : Option Nat) {k : Nat} (h : k < ops.length) :
    (runAbstract B P Ms ops o).1[k]? =
      some (ops[k].answer B P Ms (runAbstract B P Ms (ops.take k) o).2) := by
  induction ops generalizing o k with
  | nil => exact absurd h (Nat.not_lt_zero _)
  | cons op ops ih =>
    cases k with
    | zero => simp [runAbstract]
    | succ k =>
      simp only [runAbstract, List.take_succ_cons, List.getElem?_cons_succ, List.getElem_cons_succ]
      exact ih _ _

/-- With no empty path an expansion asks for the whole list. -/
theorem next_eq_request (hne : [] ∉ P) (hP : P.length = B.flatten.length) (o : Option Nat)
    (op : Op) :
    op.next B P o = match op.request B.flatten.length with
      | none => o
      | some i => some (asked o i) := by
  have hexp : expanded B P o = asked o B.flatten.length := by
    rw [expanded, firstEmpty_of_nil_not_mem hne, hP, Nat.max_eq_right (foundCount_le B o)]
  cases op <;> simp [Op.next, Op.request, hexp]

/-- With no empty path the list is asked for the largest index any operation asked for. -/
theorem runAbstract_state (hne : [] ∉ P) (hP : P.length = B.flatten.length) (ops : List Op)
    (o : Option Nat) :
    (runAbstract B P Ms ops o).2 =
      (o.toList ++ ops.filterMap (Op.request B.flatten.length)).max? := by
  induction ops generalizing o with
  | nil => cases o <;> rfl
  | cons op ops ih =>
    simp only [runAbstract]
    rw [ih, next_eq_request hne hP, List.filterMap_cons]
    cases op.request B.flatten.length with
    | none => rfl
    | some i =>
      cases o <;> simp only [asked, Option.getD_none, Option.getD_some, Option.toList_some,
        Option.toList_none, List.singleton_append, List.nil_append, List.cons_append,
        List.max?_cons', List.foldl_cons, Nat.max_self]

end Abstract

/-! ## The lazy list answers what the eager list answers -/

/-- What the metadata `m` of the file `f` at position `k` of `L` holds in a snapshot of version
`version` with the bound names `names`: the position, the version, the record count of the file's
statistics (`INVALID_INDEX` without), the kernel's deletion vector, and for each key the value of
the last bound name equal to it case-insensitively for which the file has a partition value. -/
structure MetaDataOf (version : Nat) (names : List String) (k : Nat) (f : ScanFile)
    (m : DeltaFileMetaData) : Prop where
  fileNumber_eq : m.fileNumber = k
  deltaSnapshotVersion_eq : m.deltaSnapshotVersion = version
  cardinality_eq : m.cardinality = f.numRecords.getD INVALID_INDEX
  selectionVector_eq : f.selectionVector = .ok m.selectionVector
  partitionMap_find? : ∀ key, m.partitionMap.find? key =
    (names.reverse.filterMap fun col =>
      if ciEquals col key then f.partitionValues.lookup col else none).head?

/-- `VisitCallback` gives a file the metadata it describes, once the kernel has read its deletion
vector. -/
theorem metaDataOf_fileMetaData {version k : Nat} {names : List String} {f : ScanFile}
    {sv : Option KernelBoolSlice} (hsv : f.selectionVector = .ok sv) :
    MetaDataOf version names k f (fileMetaData version k names f f.deletionVector) where
  fileNumber_eq := rfl
  deltaSnapshotVersion_eq := rfl
  cardinality_eq := rfl
  selectionVector_eq := by simp [fileMetaData, ScanFile.deletionVector, hsv]
  partitionMap_find? key := by
    have h := foldl_partitionMap_find? f.partitionValues key names .empty
    rw [CaseInsensitiveMap.find?_empty, Option.or_none] at h
    exact h

/-- An answer agrees with the table's file list `L = B.flatten`, for an operation on the list
`s`: `GetFile(i)` answers the resolved path of file `i` of `L` or the empty string past its end,
`GetMetaData(j)` answers the metadata of file `j` once `s` holds it, and with no empty path the
expanding operations answer from the whole of `L`. -/
def Agrees (E : Env) (s₀ : DeltaSnapshot) (snap : SharedKernelSnapshot) (B : List (List ScanFile))
    (s : DeltaSnapshot) : Op → Answer → Prop
  | .getFile i, a => a = .path ((eagerPaths E s₀ B).getD i [])
  | .getTotalFileCount, a => [] ∉ eagerPaths E s₀ B → a = .count B.flatten.length
  | .getAllFiles, a => [] ∉ eagerPaths E s₀ B → a = .files (eagerPaths E s₀ B)
  | .getCardinality, a => [] ∉ eagerPaths E s₀ B →
    a = .cardinality (cardinalityOf B.flatten.length (eagerMetaData s₀ snap B))
  | .getMetaData j, a => j < s.metadata.length → ∃ f m, B.flatten[j]? = some f ∧
    a = .metaData (some m) ∧ MetaDataOf snap.version s₀.names j f m

section Eager

variable {E : Env} {s₀ : DeltaSnapshot} {snap : SharedKernelSnapshot} {B : List (List ScanFile)}

theorem eagerPaths_length : (eagerPaths E s₀ B).length = B.flatten.length := List.length_map _ _

theorem eagerMetaData_length : (eagerMetaData s₀ snap B).length = B.flatten.length :=
  List.length_mapIdx

/-- With no empty path, an expansion leaves the list holding every file. -/
theorem foundCount_expanded (hne : [] ∉ eagerPaths E s₀ B) (o : Option Nat) :
    foundCount B (some (expanded B (eagerPaths E s₀ B) o)) = B.flatten.length := by
  apply foundCount_of_le
  rw [expanded, firstEmpty_of_nil_not_mem hne, eagerPaths_length,
    Nat.max_eq_right (foundCount_le B o)]
  exact Nat.le_max_right _ _

theorem Serves.selectionVector_ok (hk : Serves E s₀ snap B) {f : ScanFile} (hf : f ∈ B.flatten) :
    ∃ sv, f.selectionVector = .ok sv :=
  let ⟨b, hb, hfb⟩ := List.mem_flatten.1 hf
  hk.deletionVectors b hb f hfb

/-- Every answer of the abstract list agrees with the table's file list. -/
theorem answer_agrees (hf : Fresh s₀) (hk : Serves E s₀ snap B) (o : Option Nat) (op : Op) :
    Agrees E s₀ snap B (reached E s₀ snap B o) op
      (op.answer B (eagerPaths E s₀ B) (eagerMetaData s₀ snap B) o) := by
  cases op with
  | getFile i => rfl
  | getTotalFileCount => intro hne; simp only [Op.answer, foundCount_expanded hne]
  | getAllFiles =>
    intro hne
    rw [Op.answer, foundCount_expanded hne, ← eagerPaths_length, List.take_length]
  | getCardinality =>
    intro hne
    simp only [Op.answer, foundCount_expanded hne]
    rw [List.take_of_length_le eagerMetaData_length.le]
  | getMetaData index =>
    intro h
    rw [reached_metadata hf, List.length_take] at h
    obtain ⟨hfound, hlt⟩ := Nat.lt_min.1 h
    rw [eagerMetaData_length] at hlt
    obtain ⟨sv, hsv⟩ := hk.selectionVector_ok (List.getElem_mem hlt)
    refine ⟨_, _, List.getElem?_eq_getElem hlt, ?_, metaDataOf_fileMetaData hsv⟩
    rw [Op.answer, List.getElem?_take_of_lt hfound, eagerMetaData, List.getElem?_mapIdx,
      List.getElem?_eq_getElem hlt]
    rfl

/-- Two files in three batches, the middle one empty. -/
def sampleBatches : List (List ScanFile) :=
  [[⟨bytes "a", some 2, .ok none, []⟩], [], [⟨bytes "b", none, .ok (some ⟨[true, false], by decide⟩), []⟩]]

/-- A kernel that serves `sampleBatches` at version `3`. -/
def sampleKernel : Env :=
  ⟨fun _ => .ok (), fun _ => .ok ⟨3, []⟩, fun _ _ _ => .ok (),
    fun _ _ _ => .ok (sampleBatches.map .ok), 0⟩

theorem sampleKernel_serves :
    Serves sampleKernel (create [] (bytes "t")) ⟨3, []⟩ sampleBatches :=
  ⟨fun _ => rfl, .inr ⟨rfl, rfl⟩, rfl, rfl, by simp [sampleBatches]⟩

/-- The lazy file list refines the eager one: for every batching of `L` by the kernel and every
run of operations on one list, every operation returns, and its answer agrees with `L`, the
metadata of a file included. -/
theorem lazy_list_refines_eager (hf : Fresh s₀) (hk : Serves E s₀ snap B) (ops : List Op)
    (k : Nat) (hlt : k < ops.length) :
    ∃ a, (runOps E ops s₀).1[k]? = some (.ok a) ∧
      Agrees E s₀ snap B (runOps E (ops.take k) s₀).2 ops[k] a := by
  have hrun := runOps_reached hf hk ops none
  have hbefore := runOps_reached hf hk (ops.take k) none
  rw [show reached E s₀ snap B none = s₀ from rfl] at hrun hbefore
  rw [hrun, hbefore, List.getElem?_map, runAbstract_getElem? ops none hlt, Option.map_some']
  exact ⟨_, rfl, answer_agrees hf hk _ _⟩

theorem lazy_list_refines_eager_sample :
    ∃ a, (runOps sampleKernel [.getFile 1, .getMetaData 0] (create [] (bytes "t"))).1[1]? =
        some (.ok a) ∧
      Agrees sampleKernel (create [] (bytes "t")) ⟨3, []⟩ sampleBatches
        (runOps sampleKernel ([.getFile 1, .getMetaData 0].take 1) (create [] (bytes "t"))).2
        (.getMetaData 0) a :=
  lazy_list_refines_eager (create_fresh [] (bytes "t")) sampleKernel_serves _ 1 (by decide)

end Eager

/-! ## Every reachable list holds a prefix of the batches -/

/-- The batches a history of operations needs: all of them once the list has been expanded in
full, else as many as the largest `GetFile` index needs, and none before any. -/
def batchesAsked (B : List (List ScanFile)) (ops : List Op) : Nat :=
  if ops.any Op.expandsAll then B.length
  else ((ops.filterMap Op.fileIndex).max?.map (batchesFor B)).getD 0

/-- A list that holds the files of the first `p` batches and their metadata, in kernel order,
has pulled `p` batches, and once more if it knows there are no more, and has built the engine and
opened the scan once. -/
structure ExpandedTo (E : Env) (s₀ : DeltaSnapshot) (snap : SharedKernelSnapshot)
    (B : List (List ScanFile)) (s : DeltaSnapshot) (p : Nat) : Prop where
  length_eq : s.resolvedFiles.length = s.metadata.length
  resolvedFiles_eq : s.resolvedFiles = (filesIn B p).map fun f => resolvedPath E.ii s₀.path f.path
  metadata_eq : s.metadata =
    (filesIn B p).mapIdx fun k f => fileMetaData snap.version k s₀.names f f.deletionVector
  fileNumber_eq : ∀ k (h : k < s.metadata.length), s.metadata[k].fileNumber = k
  scanDataNext_eq : s.calls.scanDataNext = p + if s.filesExhausted then 1 else 0
  opened_once : s.calls.buildEngine ≤ 1 ∧ s.calls.scan ≤ 1 ∧ s.calls.scanDataInit ≤ 1

theorem filterMap_request_of_not_expandsAll {ops : List Op} (h : ops.any Op.expandsAll = false)
    (n : Nat) : ops.filterMap (Op.request n) = ops.filterMap Op.fileIndex := by
  induction ops with
  | nil => rfl
  | cons op ops ih =>
    simp only [List.any_cons, Bool.or_eq_false_iff] at h
    cases op <;> simp_all [Op.request, Op.fileIndex, Op.expandsAll]

/-- With no empty path, the batches the abstract run needs are those the history asks for. -/
theorem batchesAsked_eq (B : List (List ScanFile)) (ops : List Op) :
    (((ops.filterMap (Op.request B.flatten.length)).max?).map (batchesFor B)).getD 0 =
      batchesAsked B ops := by
  unfold batchesAsked
  split
  · rename_i hall
    obtain ⟨op, hop, hexp⟩ := List.any_eq_true.1 hall
    have hmem : B.flatten.length ∈ ops.filterMap (Op.request B.flatten.length) :=
      List.mem_filterMap.2 ⟨op, hop, by cases op <;> simp_all [Op.expandsAll, Op.request]⟩
    obtain ⟨m, hm⟩ := Option.isSome_iff_exists.1 (List.isSome_max?_of_mem hmem)
    have hle := List.le_max?_getD_of_mem hmem (k := 0)
    rw [hm, Option.getD_some] at hle
    rw [hm, Option.map_some', Option.getD_some, batchesFor_of_le B hle]
  · rename_i hnone
    rw [filterMap_request_of_not_expandsAll (Bool.eq_false_iff.2 hnone)]

section Reachable

variable {E : Env} {s₀ : DeltaSnapshot} {snap : SharedKernelSnapshot} {B : List (List ScanFile)}

theorem expandedTo_reached (hf : Fresh s₀) (o : Option Nat) :
    ExpandedTo E s₀ snap B (reached E s₀ snap B o) ((o.map (batchesFor B)).getD 0) := by
  cases o with
  | none =>
    obtain ⟨h0, h1, h2⟩ := hf.noScan
    refine ⟨by simp [reached, hf.noFiles, hf.noMetaData], by simp [reached, hf.noFiles],
      by simp [reached, hf.noMetaData], by simp [reached, hf.noMetaData],
      by simp [reached, h2, hf.notExhausted], ?_⟩
    simp only [reached, hf.engines, h0, h1]
    split <;> omega
  | some M =>
    exact ⟨by simp [reached, stateAt], rfl, rfl,
      fun k h => by simp [reached, stateAt, fileMetaData, initialMetaData], rfl,
      by simp [reached, stateAt]⟩

/-- A `GetFile` of a file the list holds, and every operation once the kernel has said there are
no more files, leave the list as it is, calls into the kernel included. -/
theorem run_reached_unchanged (hf : Fresh s₀) (hk : Serves E s₀ snap B) (o : Option Nat)
    (op : Op) (h : (∃ i, op = .getFile i ∧ i < (reached E s₀ snap B o).resolvedFiles.length) ∨
      (reached E s₀ snap B o).filesExhausted = true) :
    after (op.run E (reached E s₀ snap B o)) = reached E s₀ snap B o := by
  rw [run_reached hf hk, after_ok]
  cases o with
  | none =>
    rcases h with ⟨i, -, hi⟩ | h
    · rw [reached_resolvedFiles_length hf] at hi
      exact absurd hi (Nat.not_lt_zero _)
    · exact absurd h (by simp [reached, hf.notExhausted])
  | some M =>
    rcases h with ⟨i, rfl, hi⟩ | h
    · rw [reached_resolvedFiles_length hf] at hi
      exact reached_asked_of_found (.inl hi)
    · have hex : B.flatten.length ≤ M := of_decide_eq_true h
      have hfull : reached E s₀ snap B (some (expanded B (eagerPaths E s₀ B) (some M))) =
          reached E s₀ snap B (some M) := by
        rw [expanded, foundCount_of_le B hex,
          firstEmpty_of_getD_eq_nil (eagerPaths_getD_of_le le_rfl)]
        exact reached_asked_of_found (.inr hex)
      cases op with
      | getFile i => exact reached_asked_of_found (.inr hex)
      | getMetaData _ => rfl
      | getTotalFileCount => exact hfull
      | getAllFiles => exact hfull
      | getCardinality => exact hfull

/-- The state a run leaves is the abstract run's. -/
theorem runOps_state (hf : Fresh s₀) (hk : Serves E s₀ snap B) (ops : List Op) :
    (runOps E ops s₀).2 =
      reached E s₀ snap B (runAbstract B (eagerPaths E s₀ B) (eagerMetaData s₀ snap B) ops none).2 :=
  congrArg Prod.snd (runOps_reached hf hk ops none)

/-- A list only grows: what it held after the first `k` operations it still holds, in the same
places. -/
theorem runOps_take_grows (hf : Fresh s₀) (hk : Serves E s₀ snap B) (ops : List Op) (k : Nat) :
    (runOps E (ops.take k) s₀).2.resolvedFiles <+: (runOps E ops s₀).2.resolvedFiles ∧
      (runOps E (ops.take k) s₀).2.metadata <+: (runOps E ops s₀).2.metadata := by
  have hle := @foundCount_le_runAbstract B (eagerPaths E s₀ B) (eagerMetaData s₀ snap B)
    (ops.drop k) (runAbstract B (eagerPaths E s₀ B) (eagerMetaData s₀ snap B) (ops.take k) none).2
  rw [← runAbstract_state_append, List.take_append_drop] at hle
  rw [runOps_state hf hk, runOps_state hf hk, reached_resolvedFiles hf, reached_resolvedFiles hf,
    reached_metadata hf, reached_metadata hf]
  exact ⟨List.take_prefix_take_left _ hle, List.take_prefix_take_left _ hle⟩

end Reachable

end DeltaSnapshot

end DeltaScan

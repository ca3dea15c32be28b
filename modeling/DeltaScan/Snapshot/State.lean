import DeltaScan.Kernel

/-!
# The state of a `DeltaSnapshot`

A `DeltaSnapshot` is the lazily expanded file list of one table. Its fields are those of the
C++ object that the operations read or write: the table root, the names `Bind` stored, the
filters of a pushed-down fork, the two initialization flags, the shared kernel snapshot, the
scan's version and data iterator, and the files found so far with their metadata. The engine,
scan and global-state handles are not kept: no modelled function reads them. The kernel data
iterator is the list of batches it has still to yield.

`calls` is not a field of the C++ object: it counts the calls the list has made into each
kernel entry point, so that statements about how often the kernel is asked can be made.

Operations run in `Step`: a state with exceptions, where an exception leaves behind the state
as it was when it was raised, as a C++ exception leaves the object.
-/

namespace DeltaScan

/-- `DeltaFileMetaData`: what `VisitCallback` records for one file. -/
structure DeltaFileMetaData where
  deltaSnapshotVersion : Nat
  fileNumber : Nat
  /-- `stats->num_records`, or `INVALID_INDEX` when the kernel gave no stats. -/
  cardinality : Nat
  selectionVector : Option KernelBoolSlice
  partitionMap : CaseInsensitiveMap Bytes
  deriving DecidableEq, Repr

/-- How often a list has called each kernel entry point. -/
structure KernelCalls where
  buildEngine : Nat
  snapshot : Nat
  scan : Nat
  scanDataInit : Nat
  scanDataNext : Nat
  deriving DecidableEq, Repr

/-- The exceptions the file list raises. -/
inductive ScanException where
  /-- `TryUnpackKernelResult` on a kernel error. -/
  | kernel (message : String)
  /-- `KernelUtils::UnpackResult` on a kernel error: the context and the kernel's message. -/
  | kernelIn (context : Bytes) (message : String)
  /-- `InternalException`. -/
  | internal (message : String)
  deriving DecidableEq, Repr

structure DeltaSnapshot where
  /-- `paths[0]`, as `ToDeltaPath` made it: `GetPath()`. -/
  path : Bytes
  names : List String
  types : List LogicalType
  haveBound : Bool
  tableFilters : TableFilterSet
  initializedSnapshot : Bool
  snapshot : Option SharedKernelSnapshot
  initializedScan : Bool
  /-- Set by `InitializeScan`; the model starts it at `0`. -/
  version : Nat
  /-- The batches `scan_data_iterator` has still to yield. -/
  scanDataIterator : List ScanBatch
  resolvedFiles : List Bytes
  metadata : List DeltaFileMetaData
  filesExhausted : Bool
  calls : KernelCalls

/-- The file list operations: a state with exceptions. -/
abbrev Step := EStateM ScanException DeltaSnapshot

namespace Step

variable {α β : Type}

@[simp] theorem pure_apply (a : α) (s : DeltaSnapshot) : (pure a : Step α) s = .ok a s := rfl

@[simp] theorem bind_apply (x : Step α) (f : α → Step β) (s : DeltaSnapshot) :
    (x >>= f) s = match x s with | .ok a s => f a s | .error e s => .error e s := by
  show EStateM.bind x f s = _
  unfold EStateM.bind
  cases x s <;> rfl

@[simp] theorem get_apply (s : DeltaSnapshot) : (get : Step DeltaSnapshot) s = .ok s s := rfl

@[simp] theorem set_apply (s t : DeltaSnapshot) : (set t : Step PUnit) s = .ok ⟨⟩ t := rfl

@[simp] theorem modify_apply (f : DeltaSnapshot → DeltaSnapshot) (s : DeltaSnapshot) :
    (modify f : Step PUnit) s = .ok ⟨⟩ (f s) := rfl

@[simp] theorem map_apply (f : α → β) (x : Step α) (s : DeltaSnapshot) :
    (f <$> x) s = match x s with | .ok a s => .ok (f a) s | .error e s => .error e s := by
  show EStateM.map f x s = _
  unfold EStateM.map
  cases x s <;> rfl

@[simp] theorem throw_apply (e : ScanException) (s : DeltaSnapshot) :
    (throw e : Step α) s = .error e s := rfl

end Step

/-- The state an operation leaves, whether it returned or raised. -/
def after {α : Type} : EStateM.Result ScanException DeltaSnapshot α → DeltaSnapshot
  | .ok _ s => s
  | .error _ s => s

@[simp] theorem after_ok {α : Type} (a : α) (s : DeltaSnapshot) : after (.ok a s) = s := rfl

@[simp] theorem after_error {α : Type} (e : ScanException) (s : DeltaSnapshot) :
    after (.error e s : EStateM.Result ScanException DeltaSnapshot α) = s := rfl

/-- `TryUnpackKernelResult`: a kernel result unpacked, its error raised. -/
def liftKernel {α : Type} : Except String α → Step α
  | .ok a => pure a
  | .error e => throw (.kernel e)

@[simp] theorem liftKernel_ok {α : Type} (a : α) (s : DeltaSnapshot) :
    liftKernel (.ok a) s = .ok a s := rfl

@[simp] theorem liftKernel_error {α : Type} (e : String) (s : DeltaSnapshot) :
    (liftKernel (.error e) : Step α) s = .error (.kernel e) s := rfl

/-- `KernelUtils::UnpackResult(result, context)`: the kernel's error is raised with the context. -/
def unpackResult {α : Type} (context : Bytes) : Except String α → Step α
  | .ok a => pure a
  | .error e => throw (.kernelIn context e)

@[simp] theorem unpackResult_ok {α : Type} (context : Bytes) (a : α) (s : DeltaSnapshot) :
    unpackResult context (.ok a) s = .ok a s := rfl

@[simp] theorem unpackResult_error {α : Type} (context : Bytes) (e : String) (s : DeltaSnapshot) :
    (unpackResult context (.error e) : Step α) s = .error (.kernelIn context e) s := rfl

namespace DeltaSnapshot

/-- `DeltaSnapshot(context, path)` in the working directory `workingDirectory`: nothing is
opened and no file is known. -/
def create (workingDirectory path : Bytes) : DeltaSnapshot where
  path := toDeltaPath workingDirectory path
  names := []
  types := []
  haveBound := false
  tableFilters := []
  initializedSnapshot := false
  snapshot := none
  initializedScan := false
  version := 0
  scanDataIterator := []
  resolvedFiles := []
  metadata := []
  filesExhausted := false
  calls := ⟨0, 0, 0, 0, 0⟩

end DeltaSnapshot

end DeltaScan

import DeltaScan.Path

/-!
# The delta kernel, as the scan sees it

The log replay is done by the delta kernel behind an FFI. A `DeltaSnapshot` calls it to build
an engine, to open the snapshot, to open a scan under a predicate and to pull the scan's data
batch by batch; each pull runs `VisitCallback` once for every file of the batch. The kernel is
an external collaborator, so `Env` records only its answers: every function of it is a
parameter of the model, and the results about the file list quantify over all of them.

A `ScanFile` is what `VisitCallback` receives for one file, with the deletion-vector descriptor
already replaced by what `selection_vector_from_dv` answers for it.
-/

namespace DeltaScan

/-- `DConstants::INVALID_INDEX`: the largest `idx_t`. -/
def INVALID_INDEX : Nat := 2 ^ 64 - 1

/-- `ffi::KernelBoolSlice`: a Rust slice of booleans, so never longer than `isize::MAX`. -/
structure KernelBoolSlice where
  ptr : List Bool
  len_lt : ptr.length < 2 ^ 63
  deriving DecidableEq, Repr

/-- `dv.len`. -/
def KernelBoolSlice.len (dv : KernelBoolSlice) : Nat := dv.ptr.length

/-- One file, as the kernel reports it to `VisitCallback`. -/
structure ScanFile where
  /-- The path relative to the table root, percent-encoded. -/
  path : Bytes
  /-- `stats->num_records`, when the kernel passes `Stats` for the file. -/
  numRecords : Option Nat
  /-- `selection_vector_from_dv` on the file's descriptor: the kernel's error, no vector, or
  the vector. -/
  selectionVector : Except String (Option KernelBoolSlice)
  /-- `partition_values`: serialized values by exact column name. -/
  partitionValues : List (String × Bytes)

/-- The deletion vector of a file, where the kernel reads it. -/
def ScanFile.deletionVector (f : ScanFile) : Option KernelBoolSlice :=
  match f.selectionVector with
  | .ok sv => sv
  | .error _ => none

/-- What one `kernel_scan_data_next` yields: the kernel's error or the files of a batch. -/
abbrev ScanBatch := Except String (List ScanFile)

/-- The snapshot `ffi::snapshot` opens: its version and the schema `Bind` reads. -/
structure SharedKernelSnapshot where
  version : Nat
  schema : List (String × LogicalType)
  deriving DecidableEq, Repr

/-- A DuckDB `TableFilter`, by what the scan needs of it: which values of its column pass, and
`ToString(column_name)`. -/
structure TableFilter where
  test : Value → Bool
  render : String → String

/-- `TableFilterSet`: filters by index into the bound names. -/
abbrev TableFilterSet := List (Nat × TableFilter)

/-- A row passes a filter set when it passes each of its filters. -/
def TableFilterSet.Holds (fs : TableFilterSet) (row : Nat → Value) : Prop :=
  ∀ f ∈ fs, f.2.test (row f.1) = true

/-- `p` implies `q` when every row passing `p` passes `q`. -/
def TableFilterSet.Implies (p q : TableFilterSet) : Prop := ∀ row, p.Holds row → q.Holds row

/-- A set of filters implies each of its subsets. -/
theorem TableFilterSet.implies_of_subset {p q : TableFilterSet} (h : q ⊆ p) : p.Implies q :=
  fun _ hp f hf => hp f (h hf)

/-- Everything a `DeltaSnapshot` gets from outside. -/
structure Env where
  /-- `CreateBuilder` and `builder_build` for a table path. -/
  buildEngine : Bytes → Except String Unit
  /-- `ffi::snapshot` at a table path. -/
  snapshot : Bytes → Except String SharedKernelSnapshot
  /-- `ffi::scan` of a snapshot under the predicate built from the names and the filters. -/
  scan : SharedKernelSnapshot → List String → TableFilterSet → Except String Unit
  /-- `kernel_scan_data_init` for that scan: the batches its iterator yields, in order. -/
  scanData : SharedKernelSnapshot → List String → TableFilterSet → Except String (List ScanBatch)
  /-- The value `url_decode` reads from its `ii` where `sscanf` assigns nothing. -/
  ii : UInt32

end DeltaScan

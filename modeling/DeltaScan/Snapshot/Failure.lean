import DeltaScan.Snapshot.Operations

/-!
# What a failed pull leaves behind

`VisitCallback` appends the file's path and a first metadata record before it asks the kernel
for the deletion vector; the deletion vector and the partition values are filled in only when
that call succeeds. When it fails, the exception leaves the path in `resolved_files` and the
first record in `metadata`: the list holds a file whose deletion vector and partition values
are missing, and a later `GetFile` returns it as found.
-/

namespace DeltaScan

namespace DeltaSnapshot

variable (E : Env)

/-- A visit that fails on the deletion vector of a file leaves the files before it complete, and
the file itself appended with the record built before its deletion vector was asked for. -/
theorem visitData_error (good : List ScanFile) (f : ScanFile) (rest : List ScanFile)
    (hgood : ∀ g ∈ good, ∃ sv, g.selectionVector = .ok sv) {e : String}
    (he : f.selectionVector = .error e) (s : DeltaSnapshot) :
    visitData E (good ++ f :: rest) s =
      .error (.kernelIn (bytes "selection_vector_from_dv for path " ++ s.path) e) { s with
      resolvedFiles := s.resolvedFiles ++ good.map (fun g => resolvedPath E.ii s.path g.path) ++
        [resolvedPath E.ii s.path f.path],
      metadata := s.metadata ++ good.mapIdx (fun k g =>
          fileMetaData s.version (s.resolvedFiles.length + k) s.names g g.deletionVector) ++
        [initialMetaData s.version (s.resolvedFiles.length + good.length) f] } := by
  induction good generalizing s with
  | nil => simp [visitData, visitCallback_eq, he]
  | cons g good ih =>
    obtain ⟨sv, hsv⟩ := hgood g (List.mem_cons_self g good)
    simp only [List.cons_append, visitData, Step.bind_apply, visitCallback_eq, hsv, List.append_eq]
    rw [ih fun g' hg => hgood g' (List.mem_cons_of_mem g hg)]
    simp [ScanFile.deletionVector, hsv, List.mapIdx_cons, Nat.add_comm, Nat.add_left_comm]

/-- The bug at one input: the kernel serves one batch with one file of the partition
`region=us` whose deletion vector it fails to read. The first `GetFile(0)` raises; the second
finds the file, and `GetMetaData(0)` has neither a deletion vector nor the partition value. -/
theorem failed_visit_keeps_partial_entry :
    let f : ScanFile := ⟨bytes "part-0.parquet", some 10, .error "dv", [("region", bytes "us")]⟩
    let E : Env := ⟨fun _ => .ok (), fun _ => .ok ⟨1, [("region", .varchar)]⟩, fun _ _ _ => .ok (),
      fun _ _ _ => .ok [.ok [f]], 0⟩
    let s := after (bind E (create [] (bytes "t")))
    (runOps E [.getFile 0, .getFile 0, .getMetaData 0] s).1 =
        [.error (.kernelIn (bytes "selection_vector_from_dv for path t/") "dv"),
          .ok (.path (bytes "t/part-0.parquet")),
          .ok (.metaData (some ⟨1, 0, 10, none, .empty⟩))] ∧
      partitionMapOf s.names f.partitionValues = ⟨[("region", bytes "us")]⟩ := by
  constructor <;> rfl

end DeltaSnapshot

end DeltaScan

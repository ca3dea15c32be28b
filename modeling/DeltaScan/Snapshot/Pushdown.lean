import DeltaScan.Snapshot.Expansion

/-!
# Filter pushdown

`ComplexFilterPushdown` makes a new list of the same table under the table filters it combines
from the pushed-down expressions, and gives it the bound names and the snapshot of the list it
is called on. When the query profiler is on and `delta_scan_explain_files_filtered` is set, it
counts the files of both lists and records the counts in the pushdown info, checking them
against the counts an earlier pushdown recorded there.

The new list's table filters are those of the new expressions only: a pushdown on a list that
came from an earlier pushdown forgets the earlier filters. The file set never grows along a chain
of pushdowns whose filters each imply the ones before, and then the checks never fail.

The new list shares the snapshot of the list it came from: it never asks the kernel for one, and
every file it finds carries the version of the table the first list read.
-/

namespace DeltaScan

/-- `MultiFilePushdownInfo::extra_info`: what the pushdown records for `EXPLAIN ANALYZE`. -/
structure ExtraInfo where
  fileFilters : String
  totalFiles : Option Nat
  filteredFiles : Option Nat
  deriving DecidableEq, Repr

/-- What the pushdown reads of the client context. -/
structure PushdownContext (Expression : Type) where
  workingDirectory : Bytes
  /-- A `FilterCombiner` given each expression in turn, then `GenerateTableScanFilters`. -/
  combine : List Expression → TableFilterSet
  profilerEnabled : Bool
  /-- The setting `delta_scan_explain_files_filtered`, when it is found. -/
  explainFilesFiltered : Option Bool

namespace DeltaSnapshot

variable (E : Env) {Expression : Type}

/-- The filters of a list as the pushdown reports them: one line per filter on a bound column. -/
def filtersInfo (names : List String) (filters : TableFilterSet) : String :=
  "\n".intercalate (filters.filterMap fun f => names[f.1]?.map f.2.render)

/-- The list `ComplexFilterPushdown` makes from `s`. -/
def forkOf (ctx : PushdownContext Expression) (filters : List Expression) (s : DeltaSnapshot) :
    DeltaSnapshot :=
  { create ctx.workingDirectory s.path with
    tableFilters := ctx.combine filters.reverse, names := s.names, snapshot := s.snapshot }

def missingSettingMessage : String :=
  "Failed to find \x27delta_scan_explain_files_filtered\x27 option!"

def totalFilesMessage : String :=
  "Error encountered when analyzing filtered out files for delta scan: total_files inconsistent!"

def filteredFilesMessage : String :=
  "Error encountered when analyzing filtered out files for delta scan: filtered_files inconsistent!"

/-- The counts `ComplexFilterPushdown` records: the filters when the counts differ, the total
unless one is recorded, which must then not be below this one, and the filtered count, which
must not grow. -/
def recordFileCounts (oldTotal newTotal : Nat) (filesInfo : String) (info : ExtraInfo) :
    Except ScanException ExtraInfo := do
  let info := if oldTotal ≠ newTotal then { info with fileFilters := filesInfo } else info
  let info ← match info.totalFiles with
    | none => pure { info with totalFiles := some oldTotal }
    | some total => if total < oldTotal then throw (.internal totalFilesMessage) else pure info
  match info.filteredFiles with
  | some filtered =>
    if newTotal ≤ filtered then pure { info with filteredFiles := some newTotal }
    else throw (.internal filteredFilesMessage)
  | none => pure { info with filteredFiles := some newTotal }

/-- `DeltaSnapshot::ComplexFilterPushdown` on the list `s`: the new list (`none` for `nullptr`) and
the pushdown info. The counts of the diagnostic branch expand `s` and the new list; the new list
is returned expanded. -/
def complexFilterPushdown (ctx : PushdownContext Expression) (filters : List Expression)
    (info : ExtraInfo) : Step (Option DeltaSnapshot × ExtraInfo) := do
  if filters.isEmpty then return (none, info)
  let s ← get
  let filtered := forkOf ctx filters s
  if !ctx.profilerEnabled then return (some filtered, info)
  match ctx.explainFilesFiltered with
  | none => throw (.internal missingSettingMessage)
  | some false => return (some filtered, info)
  | some true =>
    let oldTotal ← getTotalFileCount E
    match getTotalFileCount E filtered with
    | .error e _ => throw e
    | .ok newTotal filtered =>
      match recordFileCounts oldTotal newTotal (filtersInfo s.names filtered.tableFilters) info with
      | .error e => throw e
      | .ok info => return (some filtered, info)

/-- A chain of pushdowns, each on the list the one before returned, all with one pushdown info;
it stops where a pushdown returns no list. -/
def pushdownChain (ctx : PushdownContext Expression) :
    List (List Expression) → DeltaSnapshot → ExtraInfo →
      Except ScanException (DeltaSnapshot × ExtraInfo)
  | [], s, info => .ok (s, info)
  | filters :: rest, s, info =>
    match complexFilterPushdown E ctx filters info s with
    | .ok (some filtered, info) _ => pushdownChain ctx rest filtered info
    | .ok (none, info) _ => .ok (s, info)
    | .error e _ => .error e

/-- The diagnostic branch along a chain on file counts alone, `count F` being the number of files
under the table filters `F`: the pushdown info it records, or the exception it raises. -/
def countChain (count : TableFilterSet → Nat) (names : List String)
    (combine : List Expression → TableFilterSet) :
    List (List Expression) → TableFilterSet → ExtraInfo → Except ScanException ExtraInfo
  | [], _, info => .ok info
  | filters :: rest, F, info =>
    if filters.isEmpty then .ok info else
      match recordFileCounts (count F) (count (combine filters.reverse))
          (filtersInfo names (combine filters.reverse)) info with
      | .error e => .error e
      | .ok info => countChain count names combine rest (combine filters.reverse) info

/-! ## The pushdown on reachable lists -/

/-- A kernel that serves every scan of the snapshot `snap` under the bound names `names`: the
batches `batches F` under the table filters `F`, its file pruning monotone. -/
structure ServesAll (snap : SharedKernelSnapshot) (names : List String)
    (batches : TableFilterSet → List (List ScanFile)) : Prop where
  engine : ∀ path, E.buildEngine path = .ok ()
  scan : ∀ F, E.scan snap names F = .ok ()
  scanData : ∀ F, E.scanData snap names F = .ok ((batches F).map .ok)
  deletionVectors : ∀ F, ∀ b ∈ batches F, ∀ f ∈ b, ∃ sv, f.selectionVector = .ok sv
  monotone : ∀ P Q : TableFilterSet, P.Implies Q → List.Sublist (batches P).flatten (batches Q).flatten

/-- A list of the snapshot `snap` with the bound names `names` at the table root `root`, as runs
of operations leave a list that was fresh. -/
def Reachable (snap : SharedKernelSnapshot) (names : List String) (root : Bytes)
    (batches : TableFilterSet → List (List ScanFile)) (s : DeltaSnapshot) : Prop :=
  ∃ base o, Fresh base ∧ base.snapshot = some snap ∧ base.names = names ∧ base.path = root ∧
    s = reached E base snap (batches base.tableFilters) o

/-- The counts recorded in a pushdown info are at least `n`. -/
def InfoCovers (info : ExtraInfo) (n : Nat) : Prop :=
  (∀ total, info.totalFiles = some total → n ≤ total) ∧
    (∀ filtered, info.filteredFiles = some filtered → n ≤ filtered)

variable {E} {snap : SharedKernelSnapshot} {names : List String} {root : Bytes}
  {batches : TableFilterSet → List (List ScanFile)}

theorem ServesAll.serves (hS : ServesAll E snap names batches) {s : DeltaSnapshot}
    (hsnap : s.snapshot = some snap) (hnames : s.names = names) :
    Serves E s snap (batches s.tableFilters) :=
  ⟨fun _ => hS.engine _, .inl hsnap, hnames ▸ hS.scan _, hnames ▸ hS.scanData _,
    hS.deletionVectors _⟩

theorem forkOf_fresh (ctx : PushdownContext Expression) (filters : List Expression)
    (s : DeltaSnapshot) : Fresh (forkOf ctx filters s) :=
  ⟨rfl, rfl, rfl, rfl, nofun, rfl, rfl, rfl, rfl⟩

/-- The pushdown reads of a list only what every state of it shares. -/
theorem forkOf_reached (ctx : PushdownContext Expression) (filters : List Expression)
    {base : DeltaSnapshot} {B : List (List ScanFile)} (hsnap : base.snapshot = some snap)
    (o : Option Nat) : forkOf ctx filters (reached E base snap B o) = forkOf ctx filters base := by
  cases o <;> simp [forkOf, reached, stateAt, hsnap]

/-- A pushdown makes its new list from the path of the list it is called on, which the constructor
passes through `ToDeltaPath` a second time. For every working directory, raw path and filters,
the new list of a pushdown on any state of a list created from the raw path has that list's path
exactly when the raw path is not `.`: `ToDeltaPath` turns `.` into `./`, and `./` into `file://`
followed by the working directory. -/
theorem forkOf_path_iff (ctx : PushdownContext Expression) (filters : List Expression)
    (rawPath : Bytes) {s : DeltaSnapshot} (hs : s.path = toDeltaPath ctx.workingDirectory rawPath) :
    (forkOf ctx filters s).path = s.path ↔ rawPath ≠ bytes "." := by
  rw [show (forkOf ctx filters s).path = toDeltaPath ctx.workingDirectory s.path from rfl, hs]
  exact toDeltaPath_toDeltaPath_iff _ _

theorem forkOf_path_iff_sample :
    (create (bytes "/w") (bytes ".")).path = toDeltaPath (bytes "/w") (bytes ".") ∧
      ((forkOf (⟨bytes "/w", fun _ => [], false, none⟩ : PushdownContext Nat) [1]
          (create (bytes "/w") (bytes "."))).path = (create (bytes "/w") (bytes ".")).path ↔
        bytes "." ≠ bytes ".") :=
  ⟨rfl, forkOf_path_iff ⟨bytes "/w", fun _ => [], false, none⟩ [1] (bytes ".") rfl⟩

@[simp] theorem reached_path {base : DeltaSnapshot} {B : List (List ScanFile)} (o : Option Nat) :
    (reached E base snap B o).path = base.path := by
  cases o <;> rfl

@[simp] theorem reached_names {base : DeltaSnapshot} {B : List (List ScanFile)} (o : Option Nat) :
    (reached E base snap B o).names = base.names := by
  cases o <;> rfl

@[simp] theorem reached_tableFilters {base : DeltaSnapshot} {B : List (List ScanFile)}
    (o : Option Nat) : (reached E base snap B o).tableFilters = base.tableFilters := by
  cases o <;> rfl

theorem reached_snapshot {base : DeltaSnapshot} {B : List (List ScanFile)}
    (hsnap : base.snapshot = some snap) (o : Option Nat) :
    (reached E base snap B o).snapshot = some snap := by
  cases o
  · exact hsnap
  · rfl

/-- A pushed-down list reads the table version of the list it was made from, and never asks the
kernel for a snapshot of its own. For every list whose snapshot is open, every filters, every
batching the kernel serves the new list by and every run of operations on the new list, the new
list has not called `ffi::snapshot`, still holds the parent's snapshot, and every file it has
found carries that snapshot's version. -/
theorem forkOf_keeps_snapshot (ctx : PushdownContext Expression) (filters : List Expression)
    {s : DeltaSnapshot} (hsnap : s.snapshot = some snap) {B : List (List ScanFile)}
    (hk : Serves E (forkOf ctx filters s) snap B) (ops : List Op) :
    (runOps E ops (forkOf ctx filters s)).2.calls.snapshot = 0 ∧
      (runOps E ops (forkOf ctx filters s)).2.snapshot = some snap ∧
      ∀ m ∈ (runOps E ops (forkOf ctx filters s)).2.metadata,
        m.deltaSnapshotVersion = snap.version := by
  have hf := forkOf_fresh ctx filters s
  have hfork : (forkOf ctx filters s).snapshot = some snap := hsnap
  rw [runOps_state hf hk]
  generalize (runAbstract B _ _ ops none).2 = o
  refine ⟨?_, reached_snapshot hfork o, fun m hm => ?_⟩
  · cases o <;> simp [reached, stateAt, hsnap, forkOf, create]
  · rw [reached_metadata hf o] at hm
    obtain ⟨_, _, rfl⟩ := List.mem_mapIdx.1 (List.mem_of_mem_take hm)
    rfl

theorem forkOf_keeps_snapshot_sample :
    ({ create [] (bytes "t") with snapshot := some ⟨3, []⟩ } : DeltaSnapshot).snapshot =
        some ⟨3, []⟩ ∧
      Serves sampleKernel (forkOf (⟨[], fun _ => [], false, none⟩ : PushdownContext Nat) [1]
        { create [] (bytes "t") with snapshot := some ⟨3, []⟩ }) ⟨3, []⟩ sampleBatches ∧
      (runOps sampleKernel [.getAllFiles] (forkOf (⟨[], fun _ => [], false, none⟩ : PushdownContext Nat)
          [1] { create [] (bytes "t") with snapshot := some ⟨3, []⟩ })).2.calls.snapshot = 0 ∧
      (runOps sampleKernel [.getAllFiles] (forkOf (⟨[], fun _ => [], false, none⟩ : PushdownContext Nat)
          [1] { create [] (bytes "t") with snapshot := some ⟨3, []⟩ })).2.snapshot = some ⟨3, []⟩ ∧
      ∀ m ∈ (runOps sampleKernel [.getAllFiles] (forkOf (⟨[], fun _ => [], false, none⟩ :
          PushdownContext Nat) [1] { create [] (bytes "t") with snapshot := some ⟨3, []⟩ })).2.metadata,
        m.deltaSnapshotVersion = (⟨3, []⟩ : SharedKernelSnapshot).version :=
  have hk : Serves sampleKernel (forkOf (⟨[], fun _ => [], false, none⟩ : PushdownContext Nat) [1]
      { create [] (bytes "t") with snapshot := some ⟨3, []⟩ }) ⟨3, []⟩ sampleBatches :=
    ⟨fun _ => rfl, .inl rfl, rfl, rfl, by simp [sampleBatches]⟩
  ⟨rfl, hk, forkOf_keeps_snapshot _ _ rfl hk _⟩

theorem complexFilterPushdown_nil (ctx : PushdownContext Expression) (info : ExtraInfo)
    (s : DeltaSnapshot) : complexFilterPushdown E ctx [] info s = .ok (none, info) s := rfl

/-- Without the profiler, or with the setting off, the pushdown only makes the new list. -/
theorem complexFilterPushdown_quiet (ctx : PushdownContext Expression) {filters : List Expression}
    (hfilters : filters ≠ [])
    (hquiet : ctx.profilerEnabled = false ∨ ctx.explainFilesFiltered = some false)
    (info : ExtraInfo) (s : DeltaSnapshot) :
    complexFilterPushdown E ctx filters info s = .ok (some (forkOf ctx filters s), info) s := by
  cases filters with
  | nil => exact absurd rfl hfilters
  | cons =>
    rcases hquiet with h | h <;> simp [complexFilterPushdown, h]

/-- With the profiler on and the setting missing, the pushdown raises. -/
theorem complexFilterPushdown_missing (ctx : PushdownContext Expression)
    {filters : List Expression} (hfilters : filters ≠ []) (hprofiler : ctx.profilerEnabled = true)
    (hsetting : ctx.explainFilesFiltered = none) (info : ExtraInfo) (s : DeltaSnapshot) :
    complexFilterPushdown E ctx filters info s = .error (.internal missingSettingMessage) s := by
  cases filters with
  | nil => exact absurd rfl hfilters
  | cons => simp [complexFilterPushdown, hprofiler, hsetting]

/-- The branch of the pushdown that counts files, on a reachable list. -/
theorem complexFilterPushdown_explain (hS : ServesAll E snap names batches) {base : DeltaSnapshot}
    (hf : Fresh base) (hsnap : base.snapshot = some snap) (hnames : base.names = names)
    (o : Option Nat) (ctx : PushdownContext Expression) {filters : List Expression}
    (hfilters : filters ≠ []) (hprofiler : ctx.profilerEnabled = true)
    (hsetting : ctx.explainFilesFiltered = some true) (info : ExtraInfo) :
    complexFilterPushdown E ctx filters info (reached E base snap (batches base.tableFilters) o) =
      let B := batches base.tableFilters
      let fork := forkOf ctx filters base
      let B' := batches fork.tableFilters
      let o₁ := expanded B (eagerPaths E base B) o
      let o₂ := expanded B' (eagerPaths E fork B') none
      match recordFileCounts (foundCount B (some o₁)) (foundCount B' (some o₂))
          (filtersInfo names fork.tableFilters) info with
      | .error e => .error e (reached E base snap B (some o₁))
      | .ok info' => .ok (some (reached E fork snap B' (some o₂)), info')
          (reached E base snap B (some o₁)) := by
  have hk := hS.serves hsnap hnames
  have hk' := hS.serves (s := forkOf ctx filters base) hsnap hnames
  have hempty : filters.isEmpty = false := by
    cases filters with
    | nil => exact absurd rfl hfilters
    | cons => rfl
  simp only [complexFilterPushdown, hempty, Bool.false_eq_true,
    if_false, Step.bind_apply, Step.get_apply, Step.pure_apply, forkOf_reached ctx filters hsnap,
    hprofiler,
    Bool.not_true, hsetting, getTotalFileCount_reached hf hk,
    getTotalFileCount_fresh (forkOf_fresh ctx filters base) hk', reached_names, hnames,
    reached_tableFilters]
  cases recordFileCounts _ _ _ info <;> rfl

/-- Counts that do not grow pass the checks: the total is kept or recorded, and the filtered
count is the new one. -/
theorem recordFileCounts_of_covers {oldTotal newTotal : Nat} {info : ExtraInfo}
    (hinfo : InfoCovers info oldTotal) (hle : newTotal ≤ oldTotal) (filesInfo : String) :
    recordFileCounts oldTotal newTotal filesInfo info =
      .ok { fileFilters := if oldTotal ≠ newTotal then filesInfo else info.fileFilters,
            totalFiles := some (info.totalFiles.getD oldTotal),
            filteredFiles := some newTotal } := by
  obtain ⟨htotal, hfiltered⟩ := hinfo
  have hfilt : ∀ n, info.filteredFiles = some n → newTotal ≤ n := fun n h =>
    Nat.le_trans hle (hfiltered n h)
  cases ht : info.totalFiles with
  | none =>
    cases hf : info.filteredFiles with
    | none => by_cases h : oldTotal = newTotal <;> simp [recordFileCounts, h, ht, hf] <;> rfl
    | some n =>
      have := hfilt n hf
      by_cases h : oldTotal = newTotal <;> simp [recordFileCounts, h, ht, hf, this] <;> rfl
  | some T =>
    have hT : ¬ T < oldTotal := Nat.not_lt.2 (htotal T ht)
    have hT' : ¬ T < newTotal := by omega
    cases hf : info.filteredFiles with
    | none => by_cases h : oldTotal = newTotal <;> simp [recordFileCounts, h, ht, hf, hT, hT'] <;> rfl
    | some n =>
      have := hfilt n hf
      by_cases h : oldTotal = newTotal <;>
        simp [recordFileCounts, h, ht, hf, hT, hT', this] <;> rfl

theorem recordFileCounts_covers {oldTotal newTotal : Nat} {info : ExtraInfo}
    (hinfo : InfoCovers info oldTotal) (hle : newTotal ≤ oldTotal) (filesInfo : String) :
    ∃ info', recordFileCounts oldTotal newTotal filesInfo info = .ok info' ∧
      InfoCovers info' newTotal := by
  refine ⟨_, recordFileCounts_of_covers hinfo hle filesInfo, fun total h => ?_, fun _ h => ?_⟩
  · cases ht : info.totalFiles with
    | none => simp [ht] at h; omega
    | some T => simp [ht] at h; exact h ▸ Nat.le_trans hle (hinfo.1 T ht)
  · simp at h; omega

/-- Under filters that imply the old ones, the new list's files are among the old list's. -/
theorem eagerPaths_sublist (hS : ServesAll E snap names batches) {s t : DeltaSnapshot}
    (hpath : t.path = s.path) (himp : t.tableFilters.Implies s.tableFilters) :
    List.Sublist (eagerPaths E t (batches t.tableFilters)) (eagerPaths E s (batches s.tableFilters)) := by
  rw [eagerPaths, eagerPaths, hpath]
  exact (hS.monotone _ _ himp).map _

/-- With no empty resolved path under a list's root, expanding it finds every file. -/
theorem foundCount_expanded_of_root {t : DeltaSnapshot} {r : Bytes} (ht : t.path = r)
    (hne : ∀ F, [] ∉ (batches F).flatten.map fun f => resolvedPath E.ii r f.path) (o : Option Nat) :
    foundCount (batches t.tableFilters)
      (some (expanded (batches t.tableFilters) (eagerPaths E t (batches t.tableFilters)) o)) =
      (batches t.tableFilters).flatten.length :=
  foundCount_expanded (by rw [eagerPaths, ht]; exact hne _) o

/-- What a pushdown on a reachable list returns is a reachable list of the same snapshot and root,
under the new filters. -/
theorem complexFilterPushdown_reachable (hS : ServesAll E snap names batches)
    (ctx : PushdownContext Expression) (hroot : toDeltaPath ctx.workingDirectory root = root)
    {s : DeltaSnapshot} (hs : Reachable E snap names root batches s) {filters : List Expression}
    {info info' : ExtraInfo} {f s' : DeltaSnapshot}
    (h : complexFilterPushdown E ctx filters info s = .ok (some f, info') s') :
    Reachable E snap names root batches f ∧ f.snapshot = s.snapshot ∧ f.path = s.path ∧
      f.tableFilters = ctx.combine filters.reverse := by
  obtain ⟨base, o, hf, hsnap, hnames, hpath, rfl⟩ := hs
  have hfork : Reachable E snap names root batches (forkOf ctx filters base) :=
    ⟨_, none, forkOf_fresh ctx filters base, hsnap, hnames,
      by simp [forkOf, create, hpath, hroot], rfl⟩
  have hforkPath : (forkOf ctx filters base).path = base.path := by
    simp [forkOf, create, hpath, hroot]
  by_cases hfilters : filters = []
  · subst hfilters; cases h
  by_cases hprofiler : ctx.profilerEnabled = true
  · cases hsetting : ctx.explainFilesFiltered with
    | none => rw [complexFilterPushdown_missing ctx hfilters hprofiler hsetting] at h; cases h
    | some b =>
      cases b with
      | false =>
        rw [complexFilterPushdown_quiet ctx hfilters (.inr hsetting), forkOf_reached _ _ hsnap] at h
        cases h
        exact ⟨hfork, by simp [forkOf, reached_snapshot hsnap, hsnap], by simp [hforkPath], rfl⟩
      | true =>
        rw [complexFilterPushdown_explain hS hf hsnap hnames o ctx hfilters hprofiler hsetting] at h
        dsimp only at h
        split at h
        · cases h
        · cases h
          have hforkSnap : (forkOf ctx filters base).snapshot = some snap := hsnap
          exact ⟨⟨_, _, forkOf_fresh ctx filters base, hsnap, hnames, hforkPath.trans hpath, rfl⟩,
            by rw [reached_snapshot hforkSnap, reached_snapshot hsnap],
            by simp [hforkPath], by simp [forkOf]⟩
  · rw [complexFilterPushdown_quiet ctx hfilters (.inl (Bool.eq_false_iff.2 hprofiler)),
      forkOf_reached _ _ hsnap] at h
    cases h
    exact ⟨hfork, by simp [forkOf, reached_snapshot hsnap, hsnap], by simp [hforkPath], rfl⟩

theorem InfoCovers.mono {info : ExtraInfo} {m n : Nat} (h : InfoCovers info n) (hle : m ≤ n) :
    InfoCovers info m :=
  ⟨fun t ht => Nat.le_trans hle (h.1 t ht), fun f hf => Nat.le_trans hle (h.2 f hf)⟩

/-- One pushdown of a chain: under filters that imply the list's own, it returns a reachable list
at the root the constructor makes of the list's, whose files the recorded counts cover, and it
raises only for the missing setting. -/
theorem complexFilterPushdown_step (hS : ServesAll E snap names batches)
    (ctx : PushdownContext Expression)
    (hne : ∀ F, [] ∉ (batches F).flatten.map fun f => resolvedPath E.ii root f.path)
    (hne' : ∀ F, [] ∉ (batches F).flatten.map fun f =>
      resolvedPath E.ii (toDeltaPath ctx.workingDirectory root) f.path)
    {s : DeltaSnapshot} (hs : Reachable E snap names root batches s) {filters : List Expression}
    (himp : (ctx.combine filters.reverse).Implies s.tableFilters) {info : ExtraInfo}
    (hinfo : InfoCovers info (batches s.tableFilters).flatten.length) :
    match complexFilterPushdown E ctx filters info s with
    | .ok (some f, info') _ => Reachable E snap names (toDeltaPath ctx.workingDirectory root) batches f ∧
        f.tableFilters = ctx.combine filters.reverse ∧
        InfoCovers info' (batches f.tableFilters).flatten.length
    | .ok (none, _) _ => True
    | .error e _ => e = .internal missingSettingMessage := by
  obtain ⟨base, o, hf, hsnap, hnames, hpath, rfl⟩ := hs
  have hforkPath : (forkOf ctx filters base).path = toDeltaPath ctx.workingDirectory root := by
    simp [forkOf, create, hpath]
  have hfork : Reachable E snap names (toDeltaPath ctx.workingDirectory root) batches
      (forkOf ctx filters base) :=
    ⟨_, none, forkOf_fresh ctx filters base, hsnap, hnames, hforkPath, rfl⟩
  have hle : (batches (forkOf ctx filters base).tableFilters).flatten.length ≤
      (batches base.tableFilters).flatten.length :=
    (hS.monotone _ _ (by simpa using himp)).length_le
  rw [reached_tableFilters] at hinfo
  by_cases hfilters : filters = []
  · subst hfilters; trivial
  by_cases hprofiler : ctx.profilerEnabled = true
  · cases hsetting : ctx.explainFilesFiltered with
    | none => rw [complexFilterPushdown_missing ctx hfilters hprofiler hsetting]
    | some b =>
      cases b with
      | false =>
        rw [complexFilterPushdown_quiet ctx hfilters (.inr hsetting), forkOf_reached _ _ hsnap]
        exact ⟨hfork, rfl, hinfo.mono hle⟩
      | true =>
        rw [complexFilterPushdown_explain hS hf hsnap hnames o ctx hfilters hprofiler hsetting]
        dsimp only
        rw [foundCount_expanded_of_root hpath hne, foundCount_expanded_of_root hforkPath hne',
          recordFileCounts_of_covers hinfo hle]
        refine ⟨⟨_, _, forkOf_fresh ctx filters base, hsnap, hnames, hforkPath, rfl⟩, by simp [forkOf],
          ?_⟩
        obtain ⟨info', hrec, hcov⟩ := recordFileCounts_covers hinfo hle
          (filtersInfo names (forkOf ctx filters base).tableFilters)
        rw [recordFileCounts_of_covers hinfo hle] at hrec
        cases hrec
        simpa using hcov
  · rw [complexFilterPushdown_quiet ctx hfilters (.inl (Bool.eq_false_iff.2 hprofiler)),
      forkOf_reached _ _ hsnap]
    exact ⟨hfork, rfl, hinfo.mono hle⟩

/-- Along a chain of pushdowns whose filters each imply the ones before, the counts never grow,
so the only exception is the missing setting. The `k`-th list of the chain has the root the
constructor makes of the first one's `k` times, which `hne` keeps free of empty paths. -/
theorem pushdownChain_error (hS : ServesAll E snap names batches)
    (ctx : PushdownContext Expression)
    (hne : ∀ k F, [] ∉ (batches F).flatten.map fun f =>
      resolvedPath E.ii ((toDeltaPath ctx.workingDirectory)^[k] root) f.path)
    (fss : List (List Expression)) {s : DeltaSnapshot} {info : ExtraInfo}
    (hs : Reachable E snap names root batches s)
    (hchain : List.Chain (fun F G => G.Implies F) s.tableFilters
      (fss.map fun fs => ctx.combine fs.reverse))
    (hinfo : InfoCovers info (batches s.tableFilters).flatten.length) {e : ScanException}
    (h : pushdownChain E ctx fss s info = .error e) : e = .internal missingSettingMessage := by
  induction fss generalizing root s info with
  | nil => cases h
  | cons fs rest ih =>
    rw [List.map_cons, List.chain_cons] at hchain
    have hstep := complexFilterPushdown_step hS ctx (hne 0) (hne 1) hs hchain.1 hinfo
    rw [pushdownChain] at h
    split at h
    · rename_i f info' s' hres
      rw [hres] at hstep
      obtain ⟨hf, hfilters, hcov⟩ := hstep
      exact ih (fun k => hne (k + 1)) hf (hfilters ▸ hchain.2) hcov h
    · cases h
    · rename_i e' s' hres
      rw [hres] at hstep
      cases h
      exact hstep

/-- In the diagnostic branch a chain of pushdowns on reachable lists raises what the count chain
raises. -/
theorem pushdownChain_explain_error (hS : ServesAll E snap names batches)
    (ctx : PushdownContext Expression)
    (hne : ∀ k F, [] ∉ (batches F).flatten.map fun f =>
      resolvedPath E.ii ((toDeltaPath ctx.workingDirectory)^[k] root) f.path)
    (hprofiler : ctx.profilerEnabled = true) (hsetting : ctx.explainFilesFiltered = some true)
    (fss : List (List Expression)) {s : DeltaSnapshot} (info : ExtraInfo)
    (hs : Reachable E snap names root batches s) (e : ScanException) :
    pushdownChain E ctx fss s info = .error e ↔
      countChain (fun F => (batches F).flatten.length) names ctx.combine fss s.tableFilters info =
        .error e := by
  induction fss generalizing root s info with
  | nil => simp [pushdownChain, countChain]
  | cons fs rest ih =>
    obtain ⟨base, o, hf, hsnap, hnames, hpath, rfl⟩ := hs
    by_cases hfilters : fs = []
    · subst hfilters; simp [pushdownChain, countChain, complexFilterPushdown_nil]
    have hforkPath : (forkOf ctx fs base).path = toDeltaPath ctx.workingDirectory root := by
      simp [forkOf, create, hpath]
    rw [pushdownChain, complexFilterPushdown_explain hS hf hsnap hnames o ctx hfilters hprofiler hsetting]
    dsimp only
    rw [foundCount_expanded_of_root hpath (hne 0), foundCount_expanded_of_root hforkPath (hne 1),
      countChain, reached_tableFilters, List.isEmpty_eq_false.2 hfilters, if_neg (by simp),
      show (forkOf ctx fs base).tableFilters = ctx.combine fs.reverse from rfl]
    cases recordFileCounts _ _ _ info with
    | error e' => simp
    | ok info' =>
      exact ih (fun k => hne (k + 1)) info' ⟨_, _, forkOf_fresh ctx fs base, hsnap, hnames, hforkPath, rfl⟩

/-- Three files of a partition column `x`: `a` with `x = 1`, `b` and `c` with `x = 2`. -/
def xFiles : List ScanFile :=
  [⟨bytes "a", none, .ok none, [("x", bytes "1")]⟩, ⟨bytes "b", none, .ok none, [("x", bytes "2")]⟩,
    ⟨bytes "c", none, .ok none, [("x", bytes "2")]⟩]

/-- The value of `x` in a file. -/
def xValue (f : ScanFile) : Value := .varchar ((f.partitionValues.lookup "x").getD [])

/-- The filter `x = v`. -/
def xEquals (v : String) : Nat × TableFilter :=
  (0, ⟨fun w => decide (w = .varchar (bytes v)), fun column => column ++ " = " ++ v⟩)

/-- A kernel that prunes on `x`: one batch of the files whose value passes the filters. -/
def prunedBatches (F : TableFilterSet) : List (List ScanFile) :=
  [xFiles.filter fun f => F.all fun p => p.2.test (xValue f)]

/-- The kernel of `prunedBatches`, at version `1` with the one column `x`. -/
def pruningKernel : Env :=
  ⟨fun _ => .ok (), fun _ => .ok ⟨1, [("x", .varchar)]⟩, fun _ _ _ => .ok (),
    fun _ _ F => .ok ((prunedBatches F).map .ok), 0⟩

/-- A context with the profiler on and the setting set, whose combiner keeps the expressions. -/
def explainContext : PushdownContext (Nat × TableFilter) := ⟨[], List.reverse, true, some true⟩

theorem pruningKernel_servesAll :
    ServesAll pruningKernel ⟨1, [("x", .varchar)]⟩ ["x"] prunedBatches where
  engine _ := rfl
  scan _ := rfl
  scanData _ := rfl
  deletionVectors F b hb f hf := by
    simp only [prunedBatches, List.mem_singleton] at hb
    subst hb
    have := (List.mem_filter.1 hf).1
    simp only [xFiles, List.mem_cons, List.mem_singleton, List.not_mem_nil, or_false] at this
    rcases this with rfl | rfl | rfl <;> exact ⟨none, rfl⟩
  monotone P Q h := by
    simp only [prunedBatches, List.flatten_cons, List.flatten_nil, List.append_nil]
    refine List.monotone_filter_right _ fun f hp => ?_
    have := h (fun _ => xValue f) fun p hp' => List.all_eq_true.1 hp p hp'
    exact List.all_eq_true.2 this

theorem prunedBatches_paths_ne_nil {r : Bytes} (hr : ∀ f ∈ xFiles, resolvedPath 0 r f.path ≠ [])
    (F : TableFilterSet) : [] ∉ (prunedBatches F).flatten.map fun f => resolvedPath 0 r f.path := by
  intro hmem
  obtain ⟨f, hf, hpath⟩ := List.mem_map.1 hmem
  simp only [prunedBatches, List.flatten_cons, List.flatten_nil, List.append_nil] at hf
  exact hr f (List.mem_filter.1 hf).1 hpath

/-- Every list of a chain from the table `t` has the root `t/`. -/
theorem prunedBatches_paths_ne_nil_t (k : Nat) (F : TableFilterSet) :
    [] ∉ (prunedBatches F).flatten.map fun f =>
      resolvedPath 0 ((toDeltaPath [])^[k] (bytes "t/")) f.path := by
  rw [Function.iterate_fixed (by decide) k]
  exact prunedBatches_paths_ne_nil (by decide) F

/-- A chain from the table `.` starts at the root `./`; every later list has the root `file:///`. -/
theorem prunedBatches_paths_ne_nil_dot (k : Nat) (F : TableFilterSet) :
    [] ∉ (prunedBatches F).flatten.map fun f =>
      resolvedPath 0 ((toDeltaPath [])^[k] (bytes "./")) f.path := by
  cases k with
  | zero => exact prunedBatches_paths_ne_nil (by decide) F
  | succ k =>
    rw [Function.iterate_succ_apply, Function.iterate_fixed (by decide) k]
    exact prunedBatches_paths_ne_nil (by decide) F

/-- Filter pushdown never enlarges the file set, as long as the new filters imply the list's own.
At a table root the constructor leaves as it is, the new list shares the snapshot and its files
are among the list's. Along a chain of pushdowns whose filters each imply the ones before, at any
root, with no empty resolved path under the roots of its lists, the counts never fail. -/
theorem pushdown_never_enlarges (hS : ServesAll E snap names batches)
    (ctx : PushdownContext Expression) :
    (toDeltaPath ctx.workingDirectory root = root →
      ∀ (s : DeltaSnapshot) (filters : List Expression) (info info' : ExtraInfo)
        (f s' : DeltaSnapshot), Reachable E snap names root batches s →
        (ctx.combine filters.reverse).Implies s.tableFilters →
        complexFilterPushdown E ctx filters info s = .ok (some f, info') s' →
        f.snapshot = s.snapshot ∧
          List.Sublist (eagerPaths E f (batches f.tableFilters))
            (eagerPaths E s (batches s.tableFilters))) ∧
      ((∀ k F, [] ∉ (batches F).flatten.map fun f =>
          resolvedPath E.ii ((toDeltaPath ctx.workingDirectory)^[k] root) f.path) →
        ∀ (fss : List (List Expression)) (s : DeltaSnapshot) (info : ExtraInfo),
          Reachable E snap names root batches s →
          List.Chain (fun F G => G.Implies F) s.tableFilters
            (fss.map fun fs => ctx.combine fs.reverse) →
          InfoCovers info (batches s.tableFilters).flatten.length →
          ∀ e, pushdownChain E ctx fss s info = .error e → e = .internal missingSettingMessage) := by
  refine ⟨fun hroot s filters info info' f s' hs himp h => ?_,
    fun hne fss s info hs hchain hinfo e => pushdownChain_error hS ctx hne fss hs hchain hinfo⟩
  obtain ⟨-, hsnap, hpath, hfilters⟩ := complexFilterPushdown_reachable hS ctx hroot hs h
  exact ⟨hsnap, eagerPaths_sublist hS hpath (hfilters ▸ himp)⟩

/-- The table `t` for the files, and the table `.` for the chain. -/
theorem pushdown_never_enlarges_sample :
    (∀ (s : DeltaSnapshot) (filters : List (Nat × TableFilter)) (info info' : ExtraInfo)
        (f s' : DeltaSnapshot),
        Reachable pruningKernel ⟨1, [("x", .varchar)]⟩ ["x"] (bytes "t/") prunedBatches s →
        (explainContext.combine filters.reverse).Implies s.tableFilters →
        complexFilterPushdown pruningKernel explainContext filters info s = .ok (some f, info') s' →
        f.snapshot = s.snapshot ∧
          List.Sublist (eagerPaths pruningKernel f (prunedBatches f.tableFilters))
            (eagerPaths pruningKernel s (prunedBatches s.tableFilters))) ∧
      ∀ (fss : List (List (Nat × TableFilter))) (s : DeltaSnapshot) (info : ExtraInfo),
        Reachable pruningKernel ⟨1, [("x", .varchar)]⟩ ["x"] (bytes "./") prunedBatches s →
        List.Chain (fun F G => G.Implies F) s.tableFilters
          (fss.map fun fs => explainContext.combine fs.reverse) →
        InfoCovers info (prunedBatches s.tableFilters).flatten.length →
        ∀ e, pushdownChain pruningKernel explainContext fss s info = .error e →
          e = .internal missingSettingMessage :=
  ⟨(pushdown_never_enlarges pruningKernel_servesAll explainContext).1 (by decide),
    (pushdown_never_enlarges pruningKernel_servesAll explainContext).2 prunedBatches_paths_ne_nil_dot⟩

/-- Without the proviso the checks fail: a pushdown on a list from an earlier pushdown forgets
the earlier filters. Pushing `x = 1` and then `x = 2` counts three files, then one, then two,
and the filtered count grows. -/
theorem pushdown_chain_forgets_filters :
    ¬ ∀ (Expression : Type) (E : Env) (ctx : PushdownContext Expression)
      (snap : SharedKernelSnapshot) (names : List String)
      (batches : TableFilterSet → List (List ScanFile)) (s₀ : DeltaSnapshot)
      (fss : List (List Expression)),
      ServesAll E snap names batches → Fresh s₀ → s₀.snapshot = some snap → s₀.names = names →
      (∀ fs ∈ fss, fs ≠ []) →
      pushdownChain E ctx fss s₀ ⟨"", none, none⟩ ≠ .error (.internal filteredFilesMessage) := by
  intro h
  let s₀ := after (bind pruningKernel (create [] (bytes "t")))
  have hf : Fresh s₀ := ⟨rfl, rfl, rfl, rfl, by decide, rfl, rfl, rfl, rfl⟩
  refine h _ pruningKernel explainContext _ ["x"] prunedBatches s₀ [[xEquals "1"], [xEquals "2"]]
    pruningKernel_servesAll hf rfl rfl (by simp) ?_
  exact (pushdownChain_explain_error pruningKernel_servesAll explainContext
    prunedBatches_paths_ne_nil_t rfl rfl _ _ ⟨s₀, none, hf, rfl, rfl, rfl, rfl⟩ _).2 rfl

end DeltaSnapshot

end DeltaScan

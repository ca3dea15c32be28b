import DeltaScan.Snapshot.Operations

/-!
# The lazy file list refines the eager one

Let the kernel serve a list the batches `B₁ … Bₙ` and let `L = B₁ ++ … ++ Bₙ`. Every state the
list reaches is determined by two things: how many batches it has visited and whether the
kernel has said there are no more. That pair is the abstract state of the lazy list; `reached`
maps it to the concrete `DeltaSnapshot`, and every operation is shown to move along it. From
there each operation answers what the eager list `L` answers, whatever came before it.

`batchesFor B i` is how far `GetFileInternal(i)` reads: the least `q` whose first `q` batches
hold more than `i` files, or all of them.
-/

namespace DeltaScan

/-! ## How many batches a file needs -/

section Batches

variable {α : Type}

/-- The number of batches to visit before file `i` exists, or all of them. -/
def batchesFor : List (List α) → Nat → Nat
  | [], _ => 0
  | b :: bs, i => if i < b.length then 1 else batchesFor bs (i - b.length) + 1

/-- The files of the first `p` batches. -/
def filesIn (B : List (List α)) (p : Nat) : List α := (B.take p).flatten

@[simp] theorem filesIn_zero (B : List (List α)) : filesIn B 0 = [] := rfl

@[simp] theorem filesIn_nil (q : Nat) : filesIn ([] : List (List α)) q = [] := by
  simp [filesIn]

@[simp] theorem filesIn_cons_succ (b : List α) (bs : List (List α)) (q : Nat) :
    filesIn (b :: bs) (q + 1) = b ++ filesIn bs q := by
  simp only [filesIn, List.take_succ_cons, List.flatten_cons]

theorem filesIn_succ (B : List (List α)) {p : Nat} (h : p < B.length) :
    filesIn B (p + 1) = filesIn B p ++ B[p] := by
  rw [filesIn, filesIn, List.take_succ, List.getElem?_eq_getElem h, Option.toList_some,
    List.flatten_append, List.flatten_singleton]

/-- The files found after `p` batches are the first files of `L`. -/
theorem filesIn_isPrefix_flatten (B : List (List α)) (p : Nat) : filesIn B p <+: B.flatten := by
  have := List.prefix_append (filesIn B p) (B.drop p).flatten
  rwa [filesIn, ← List.flatten_append, List.take_append_drop] at this

theorem filesIn_length_le (B : List (List α)) (p : Nat) :
    (filesIn B p).length ≤ B.flatten.length :=
  (filesIn_isPrefix_flatten B p).length_le

theorem filesIn_mono (B : List (List α)) {p q : Nat} (h : p ≤ q) :
    (filesIn B p).length ≤ (filesIn B q).length := by
  induction B generalizing p q with
  | nil => simp
  | cons b bs ih =>
    cases p with
    | zero => simp
    | succ p =>
      obtain ⟨q, rfl⟩ : ∃ q', q = q' + 1 := ⟨q - 1, by omega⟩
      simp only [filesIn_cons_succ, List.length_append]
      have := ih (show p ≤ q by omega)
      omega

theorem filesIn_of_le (B : List (List α)) {p : Nat} (h : B.length ≤ p) :
    filesIn B p = B.flatten := by
  rw [filesIn, List.take_of_length_le h]

theorem batchesFor_le_length (B : List (List α)) (i : Nat) : batchesFor B i ≤ B.length := by
  induction B generalizing i with
  | nil => simp [batchesFor]
  | cons b bs ih => simp only [batchesFor]; split <;> simp [ih]

/-- Past the last file, every batch is needed. -/
theorem batchesFor_of_le (B : List (List α)) {i : Nat} (h : B.flatten.length ≤ i) :
    batchesFor B i = B.length := by
  induction B generalizing i with
  | nil => rfl
  | cons b bs ih =>
    rw [List.flatten_cons, List.length_append] at h
    rw [batchesFor, if_neg (show ¬i < b.length by omega), ih (by omega), List.length_cons]

/-- The batches a file needs hold it. -/
theorem lt_filesIn_batchesFor (B : List (List α)) {i : Nat} (h : i < B.flatten.length) :
    i < (filesIn B (batchesFor B i)).length := by
  induction B generalizing i with
  | nil => simp at h
  | cons b bs ih =>
    rw [List.flatten_cons, List.length_append] at h
    rw [batchesFor]
    split
    · simp only [filesIn_cons_succ, List.length_append]; omega
    · have := ih (i := i - b.length) (by omega)
      simp only [filesIn_cons_succ, List.length_append]; omega

/-- Fewer batches than a file needs do not hold it. -/
theorem filesIn_le_of_lt_batchesFor (B : List (List α)) {i q : Nat} (h : q < batchesFor B i) :
    (filesIn B q).length ≤ i := by
  induction B generalizing i q with
  | nil => simp [batchesFor] at h
  | cons b bs ih =>
    rw [batchesFor] at h
    cases q with
    | zero => simp
    | succ q =>
      split at h
      · omega
      · have := ih (i := i - b.length) (q := q) (by omega)
        simp only [filesIn_cons_succ, List.length_append]; omega

/-- A file found in the first `p` batches needs at most `p` of them. -/
theorem batchesFor_le_of_lt (B : List (List α)) {i p : Nat} (h : i < (filesIn B p).length) :
    batchesFor B i ≤ p := by
  by_contra hlt
  have := filesIn_le_of_lt_batchesFor B (Nat.lt_of_not_le hlt)
  omega

theorem batchesFor_mono (B : List (List α)) {i j : Nat} (h : i ≤ j) :
    batchesFor B i ≤ batchesFor B j := by
  by_cases hj : j < B.flatten.length
  · exact batchesFor_le_of_lt B (Nat.lt_of_le_of_lt h (lt_filesIn_batchesFor B hj))
  · rw [batchesFor_of_le B (i := j) (by omega)]; exact batchesFor_le_length B i

end Batches

/-! ## The abstract state: the largest index asked for -/

/-- The largest index the list has been asked for, once it is also asked for `i`. -/
def asked (o : Option Nat) (i : Nat) : Nat := max (o.getD i) i

theorem asked_asked (o : Option Nat) {i j : Nat} (h : i ≤ j) :
    asked (some (asked o i)) j = asked o j := by
  cases o <;> simp only [asked, Option.getD_some, Option.getD_none] <;> omega

/-- The first index from `i` on where the eager list `P` has no file or an empty path: where
`while (!GetFileInternal(i).empty()) i++` stops. -/
def firstEmpty (P : List Bytes) (i : Nat) : Nat := i + (P.drop i).findIdx List.isEmpty

theorem le_firstEmpty (P : List Bytes) (i : Nat) : i ≤ firstEmpty P i := Nat.le_add_right _ _

theorem firstEmpty_of_getD_eq_nil {P : List Bytes} {i : Nat} (h : P.getD i [] = []) :
    firstEmpty P i = i := by
  rcases Nat.lt_or_ge i P.length with hi | hi
  · rw [List.getD_eq_getElem?_getD, List.getElem?_eq_getElem hi, Option.getD_some] at h
    simp [firstEmpty, List.drop_eq_getElem_cons hi, List.findIdx_cons, h]
  · simp [firstEmpty, List.drop_eq_nil_of_le hi]

theorem firstEmpty_of_getD_ne_nil {P : List Bytes} {i : Nat} (h : P.getD i [] ≠ []) :
    firstEmpty P i = firstEmpty P (i + 1) := by
  have hi : i < P.length := Nat.lt_of_not_le fun hle => h (by simp [List.getElem?_eq_none hle])
  rw [List.getD_eq_getElem?_getD, List.getElem?_eq_getElem hi, Option.getD_some] at h
  have : P[i].isEmpty = false := by simpa using h
  simp only [firstEmpty, List.drop_eq_getElem_cons hi, List.findIdx_cons, this, cond_false]
  omega

/-- How many files the list holds once it has been asked for up to `o`. -/
def foundCount {α : Type} (B : List (List α)) : Option Nat → Nat
  | none => 0
  | some M => (filesIn B (batchesFor B M)).length

theorem foundCount_le {α : Type} (B : List (List α)) (o : Option Nat) :
    foundCount B o ≤ B.flatten.length := by
  cases o with
  | none => exact Nat.zero_le _
  | some M => exact filesIn_length_le B _

/-- Once asked for a file past the last, the list holds every file. -/
theorem foundCount_of_le {α : Type} (B : List (List α)) {M : Nat} (h : B.flatten.length ≤ M) :
    foundCount B (some M) = B.flatten.length := by
  rw [foundCount, batchesFor_of_le B h, filesIn_of_le B le_rfl]

/-- With no empty path, the loop stops only past the last file. -/
theorem firstEmpty_of_nil_not_mem {P : List Bytes} (h : [] ∉ P) (i : Nat) :
    firstEmpty P i = max i P.length := by
  have : (P.drop i).findIdx List.isEmpty = (P.drop i).length :=
    List.findIdx_eq_length.2 fun x hx => by
      cases x with
      | nil => exact absurd (List.mem_of_mem_drop hx) h
      | cons => rfl
  rw [firstEmpty, this, List.length_drop]
  omega

namespace DeltaSnapshot

/-! ## Fresh lists and a kernel that serves them -/

/-- A list before its first scan, as the constructor, `Bind` or a pushdown leave it. -/
structure Fresh (s : DeltaSnapshot) : Prop where
  notScanned : s.initializedScan = false
  noFiles : s.resolvedFiles = []
  noMetaData : s.metadata = []
  notExhausted : s.filesExhausted = false
  opened : s.initializedSnapshot = true → s.snapshot.isSome = true
  engines : s.calls.buildEngine = if s.initializedSnapshot then 1 else 0
  noScan : s.calls.scan = 0 ∧ s.calls.scanDataInit = 0 ∧ s.calls.scanDataNext = 0

/-- A list as the constructor leaves it is fresh. -/
theorem create_fresh (workingDirectory path : Bytes) : Fresh (create workingDirectory path) :=
  ⟨rfl, rfl, rfl, rfl, nofun, rfl, rfl, rfl, rfl⟩

/-- The kernel opens the table of `s` at the snapshot `snap`, its scan yields the batches `B`,
and it reads the deletion vector of every file. -/
structure Serves (E : Env) (s : DeltaSnapshot) (snap : SharedKernelSnapshot)
    (B : List (List ScanFile)) : Prop where
  engine : s.initializedSnapshot = false → E.buildEngine s.path = .ok ()
  snapshot : s.snapshot = some snap ∨ s.snapshot = none ∧ E.snapshot s.path = .ok snap
  scan : E.scan snap s.names s.tableFilters = .ok ()
  scanData : E.scanData snap s.names s.tableFilters = .ok (B.map .ok)
  deletionVectors : ∀ b ∈ B, ∀ f ∈ b, ∃ sv, f.selectionVector = .ok sv

section Lazy

variable (E : Env) (s₀ : DeltaSnapshot) (snap : SharedKernelSnapshot) (B : List (List ScanFile))

/-- The eager list: the resolved path of every file of `L`, in kernel order. -/
def eagerPaths : List Bytes := B.flatten.map fun f => resolvedPath E.ii s₀.path f.path

/-- The metadata of every file of `L`: its position, the snapshot's version, and what the
kernel reports for it. -/
def eagerMetaData : List DeltaFileMetaData :=
  B.flatten.mapIdx fun k f => fileMetaData snap.version k s₀.names f f.deletionVector

/-- The list once it has visited the first `p` batches, `exhausted` once the kernel has also
said there are no more. -/
def stateAt (p : Nat) (exhausted : Bool) : DeltaSnapshot :=
  { s₀ with
    initializedSnapshot := true
    snapshot := some snap
    initializedScan := true
    version := snap.version
    scanDataIterator := (B.drop p).map .ok
    resolvedFiles := (filesIn B p).map fun f => resolvedPath E.ii s₀.path f.path
    metadata := (filesIn B p).mapIdx fun k f =>
      fileMetaData snap.version k s₀.names f f.deletionVector
    filesExhausted := exhausted
    calls := ⟨1, s₀.calls.snapshot + (if s₀.snapshot.isSome then 0 else 1), 1, 1,
      p + if exhausted then 1 else 0⟩ }

/-- The concrete list for the largest file index it has been asked for: `none` before it is
opened. -/
def reached : Option Nat → DeltaSnapshot
  | none => s₀
  | some M => stateAt E s₀ snap B (batchesFor B M) (decide (B.flatten.length ≤ M))

variable {E s₀ snap B}

/-- A file already found is the file of `L` at its position. -/
theorem stateAt_resolved_getElem {p i : Nat} (exhausted : Bool)
    (h : i < (stateAt E s₀ snap B p exhausted).resolvedFiles.length) :
    (stateAt E s₀ snap B p exhausted).resolvedFiles[i] = (eagerPaths E s₀ B).getD i [] := by
  have hpre := (filesIn_isPrefix_flatten B p).map fun f : ScanFile => resolvedPath E.ii s₀.path f.path
  rw [List.getD_eq_getElem?_getD, eagerPaths,
    List.getElem?_eq_getElem (Nat.lt_of_lt_of_le h hpre.length_le), Option.getD_some]
  exact hpre.getElem h

/-- The eager list has no file `i` past its end. -/
theorem eagerPaths_getD_of_le {i : Nat} (h : B.flatten.length ≤ i) :
    (eagerPaths E s₀ B).getD i [] = [] := by
  rw [List.getD_eq_getElem?_getD, List.getElem?_eq_none (by rwa [eagerPaths, List.length_map])]
  rfl

/-- Visiting batch `p` after the first `p` moves the list on by one batch. -/
theorem visitData_stateAt (hk : Serves E s₀ snap B) {p : Nat} (hp : p < B.length) :
    visitData E B[p] { stateAt E s₀ snap B p false with
      calls.scanDataNext := (stateAt E s₀ snap B p false).calls.scanDataNext + 1,
      scanDataIterator := (B.drop (p + 1)).map .ok } =
      .ok () (stateAt E s₀ snap B (p + 1) false) := by
  rw [visitData_ok E _ (hk.deletionVectors _ (List.getElem_mem hp))]
  simp [stateAt, filesIn_succ B hp, List.mapIdx_append, Nat.add_comm]

@[simp] theorem stateAt_resolvedFiles_length (p : Nat) (exhausted : Bool) :
    (stateAt E s₀ snap B p exhausted).resolvedFiles.length = (filesIn B p).length := by
  simp [stateAt]

/-- A file that batch `p` brings in needs exactly `p + 1` batches. -/
theorem batchesFor_eq_succ {p i : Nat} (hi : (filesIn B p).length ≤ i)
    (hi' : i < (filesIn B (p + 1)).length) : batchesFor B i = p + 1 := by
  have hL := Nat.lt_of_lt_of_le hi' (filesIn_length_le B _)
  refine le_antisymm (batchesFor_le_of_lt B hi') (Nat.lt_of_not_le fun hle => ?_)
  have := Nat.lt_of_lt_of_le (lt_filesIn_batchesFor B hL) (filesIn_mono B hle)
  omega

/-- The pull loop, started after the first `p` batches on a file they do not hold, answers with
file `i` of `L` and stops at the batches that file needs; it is exhausted when `L` has no file
`i`. -/
theorem scanDataLoop_stateAt (hk : Serves E s₀ snap B) (i : Nat) {p : Nat} (hp : p ≤ B.length)
    (hi : (filesIn B p).length ≤ i) :
    scanDataLoop E i ((B.drop p).map .ok) (stateAt E s₀ snap B p false) =
      .ok ((eagerPaths E s₀ B).getD i [])
        (stateAt E s₀ snap B (batchesFor B i) (decide (B.flatten.length ≤ i))) := by
  rcases Nat.lt_or_ge p B.length with hlt | hge
  · rw [List.drop_eq_getElem_cons hlt, List.map_cons]
    simp only [scanDataLoop, Step.bind_apply, Step.modify_apply, liftKernel_ok,
      visitData_stateAt hk hlt, Step.get_apply]
    by_cases hfound : i < (filesIn B (p + 1)).length
    · have hL : i < B.flatten.length := Nat.lt_of_lt_of_le hfound (filesIn_length_le B _)
      rw [dif_pos (by simpa using hfound), stateAt_resolved_getElem, batchesFor_eq_succ hi hfound,
        decide_eq_false (Nat.not_le_of_lt hL), Step.pure_apply]
    · rw [dif_neg (by simpa using hfound)]
      exact scanDataLoop_stateAt hk i hlt (Nat.le_of_not_lt hfound)
  · have hp' : p = B.length := le_antisymm hp hge
    subst hp'
    rw [filesIn_of_le B le_rfl] at hi
    simp only [List.drop_length, List.map_nil, scanDataLoop, Step.bind_apply, Step.modify_apply,
      Step.pure_apply, eagerPaths_getD_of_le hi, batchesFor_of_le B hi, decide_eq_true hi]
    simp [stateAt]
termination_by B.length - p

/-- Opening a fresh list opens the snapshot where it is not open yet, then the scan, and finds no
file. -/
theorem openScan_fresh (hf : Fresh s₀) (hk : Serves E s₀ snap B) :
    openScan E s₀ = .ok () (stateAt E s₀ snap B 0 false) := by
  obtain ⟨h0, h1, h2⟩ := hf.noScan
  have hs := hf.engines
  rw [openScan_eq]
  rcases hk.snapshot with hsome | ⟨hnone, hsnap⟩
  · cases hinit : s₀.initializedSnapshot
    · simp [hinit, initializeSnapshot_eq, hk.engine hinit, hsome, initializeScan_eq, hk.scan,
        hk.scanData, hf.notScanned, stateAt, hf.noFiles, hf.noMetaData, hf.notExhausted, h0, h1,
        h2] at hs ⊢
      exact hs
    · simp [hinit, hsome, initializeScan_eq, hk.scan,
        hk.scanData, hf.notScanned, stateAt, hf.noFiles, hf.noMetaData, hf.notExhausted, h0, h1,
        h2] at hs ⊢
      exact hs
  · have hinit : s₀.initializedSnapshot = false := by
      cases h : s₀.initializedSnapshot
      · rfl
      · simpa [hnone] using hf.opened h
    simp [hinit, initializeSnapshot_eq, hk.engine hinit, hnone, hsnap, initializeScan_eq, hk.scan,
        hk.scanData, hf.notScanned, stateAt, hf.noFiles, hf.noMetaData, hf.notExhausted, h0, h1,
        h2] at hs ⊢
    exact hs

@[simp] theorem stateAt_filesExhausted (p : Nat) (exhausted : Bool) :
    (stateAt E s₀ snap B p exhausted).filesExhausted = exhausted := rfl

@[simp] theorem stateAt_scanDataIterator (p : Nat) (exhausted : Bool) :
    (stateAt E s₀ snap B p exhausted).scanDataIterator = (B.drop p).map .ok := rfl

/-- An opened list is not opened again. -/
theorem openScan_stateAt (p : Nat) (exhausted : Bool) :
    openScan E (stateAt E s₀ snap B p exhausted) = .ok () (stateAt E s₀ snap B p exhausted) := by
  rw [openScan_eq]; rfl

/-- `GetFileInternal(i)` for a file already found answers from the list and leaves it alone. -/
theorem getFileInternal_stateAt_found {p i : Nat} (exhausted : Bool)
    (h : i < (filesIn B p).length) :
    getFileInternal E i (stateAt E s₀ snap B p exhausted) =
      .ok ((eagerPaths E s₀ B).getD i []) (stateAt E s₀ snap B p exhausted) := by
  simp only [getFileInternal, Step.bind_apply, openScan_stateAt, Step.get_apply]
  rw [dif_pos (by simpa using h), stateAt_resolved_getElem, Step.pure_apply]

/-- Once the kernel has said there are no more files, a file not found is the empty string. -/
theorem getFileInternal_stateAt_exhausted {p i : Nat} (h : (filesIn B p).length ≤ i) :
    getFileInternal E i (stateAt E s₀ snap B p true) = .ok [] (stateAt E s₀ snap B p true) := by
  simp only [getFileInternal, Step.bind_apply, openScan_stateAt, Step.get_apply,
    stateAt_resolvedFiles_length, Nat.not_lt.2 h, dite_false, Step.pure_apply,
    stateAt_filesExhausted, if_true]

/-- Otherwise `GetFileInternal(i)` pulls batches until file `i` is found or there are none. -/
theorem getFileInternal_stateAt_pull (hk : Serves E s₀ snap B) {p i : Nat} (hp : p ≤ B.length)
    (h : (filesIn B p).length ≤ i) :
    getFileInternal E i (stateAt E s₀ snap B p false) =
      .ok ((eagerPaths E s₀ B).getD i [])
        (stateAt E s₀ snap B (batchesFor B i) (decide (B.flatten.length ≤ i))) := by
  simp only [getFileInternal, Step.bind_apply, openScan_stateAt, Step.get_apply,
    stateAt_resolvedFiles_length, Nat.not_lt.2 h, dite_false, Step.pure_apply,
    stateAt_filesExhausted, Bool.false_eq_true, if_false, stateAt_scanDataIterator]
  exact scanDataLoop_stateAt hk i hp h

/-- Asking for a file the list holds, or asking after the kernel ran dry, leaves the list as it
is. -/
theorem reached_asked_of_found {M i : Nat}
    (h : i < (filesIn B (batchesFor B M)).length ∨ B.flatten.length ≤ M) :
    reached E s₀ snap B (some (asked (some M) i)) = reached E s₀ snap B (some M) := by
  simp only [asked, Option.getD_some, reached]
  rcases Nat.le_total i M with hle | hle
  · simp only [Nat.max_eq_left hle]
  · simp only [Nat.max_eq_right hle]
    rcases h with h | h
    · have hL := Nat.lt_of_lt_of_le h (filesIn_length_le B _)
      congr 1
      · exact le_antisymm (batchesFor_le_of_lt B h) (batchesFor_mono B hle)
      · simp only [decide_eq_decide]; omega
    · congr 1
      · rw [batchesFor_of_le B h, batchesFor_of_le B (by omega)]
      · simp only [decide_eq_decide]; omega

/-- `GetFileInternal(i)` on a reachable list answers with file `i` of `L`, and the list is then
the one asked for `i` as well. -/
theorem getFileInternal_reached (hf : Fresh s₀) (hk : Serves E s₀ snap B) (o : Option Nat)
    (i : Nat) :
    getFileInternal E i (reached E s₀ snap B o) =
      .ok ((eagerPaths E s₀ B).getD i []) (reached E s₀ snap B (some (asked o i))) := by
  cases o with
  | none =>
    have hpull := getFileInternal_stateAt_pull hk (Nat.zero_le _)
      (show (filesIn B 0).length ≤ i by simp)
    rw [getFileInternal, Step.bind_apply, openScan_stateAt] at hpull
    rw [reached, getFileInternal, Step.bind_apply, openScan_fresh hf hk, asked, Option.getD_none,
      Nat.max_self]
    exact hpull
  | some M =>
    by_cases hfound : i < (filesIn B (batchesFor B M)).length
    · rw [reached_asked_of_found (.inl hfound)]
      exact getFileInternal_stateAt_found _ hfound
    · by_cases hex : B.flatten.length ≤ M
      · rw [reached_asked_of_found (.inr hex), reached, decide_eq_true hex]
        rw [batchesFor_of_le B hex] at hfound ⊢
        rw [filesIn_of_le B le_rfl] at hfound
        rw [eagerPaths_getD_of_le (Nat.le_of_not_lt hfound)]
        exact getFileInternal_stateAt_exhausted (by rw [filesIn_of_le B le_rfl]; omega)
      · have hM : M < i := Nat.lt_of_lt_of_le
          (lt_filesIn_batchesFor B (Nat.lt_of_not_le hex)) (Nat.le_of_not_lt hfound)
        simp only [reached, asked, Option.getD_some, Nat.max_eq_right hM.le, decide_eq_false hex]
        exact getFileInternal_stateAt_pull hk (batchesFor_le_length B M) (Nat.le_of_not_lt hfound)

/-- The expansion loop from file `i` stops at the first file of `L` from `i` on whose path is
empty, or past the last file. -/
theorem expandFrom_reached (hf : Fresh s₀) (hk : Serves E s₀ snap B) (o : Option Nat)
    (i : Nat) :
    expandFrom E i (reached E s₀ snap B o) =
      .ok () (reached E s₀ snap B (some (asked o (firstEmpty (eagerPaths E s₀ B) i)))) := by
  rw [expandFrom]
  split
  · rename_i p s' h
    rw [getFileInternal_reached hf hk] at h
    cases h
    split
    · rename_i hp
      rw [firstEmpty_of_getD_eq_nil (List.isEmpty_iff.1 hp)]
    · rename_i hp
      have hne : (eagerPaths E s₀ B).getD i [] ≠ [] := fun h => hp (by rw [h]; rfl)
      have : i < (eagerPaths E s₀ B).length :=
        Nat.lt_of_not_le fun hle => hne (by simp [List.getElem?_eq_none hle])
      rw [expandFrom_reached hf hk (some (asked o i)) (i + 1), firstEmpty_of_getD_ne_nil hne,
        asked_asked o (Nat.le_trans (Nat.le_succ i) (le_firstEmpty _ _))]
  · rename_i h
    rw [getFileInternal_reached hf hk] at h
    cases h
termination_by (eagerPaths E s₀ B).length - i

/-- The files a reachable list holds are the first files of the eager list. -/
theorem reached_resolvedFiles (hf : Fresh s₀) (o : Option Nat) :
    (reached E s₀ snap B o).resolvedFiles = (eagerPaths E s₀ B).take (foundCount B o) := by
  cases o with
  | none => simp [reached, foundCount, hf.noFiles]
  | some M =>
    obtain ⟨t, ht⟩ := filesIn_isPrefix_flatten B (batchesFor B M)
    simp only [reached, stateAt, foundCount, eagerPaths, ← ht, List.map_append]
    exact (List.take_left' (List.length_map _ _)).symm

/-- And so is their metadata. -/
theorem reached_metadata (hf : Fresh s₀) (o : Option Nat) :
    (reached E s₀ snap B o).metadata = (eagerMetaData s₀ snap B).take (foundCount B o) := by
  cases o with
  | none => simp [reached, foundCount, hf.noMetaData]
  | some M =>
    obtain ⟨t, ht⟩ := filesIn_isPrefix_flatten B (batchesFor B M)
    simp only [reached, stateAt, foundCount, eagerMetaData, ← ht, List.mapIdx_append]
    exact (List.take_left' List.length_mapIdx).symm

theorem reached_resolvedFiles_length (hf : Fresh s₀) (o : Option Nat) :
    (reached E s₀ snap B o).resolvedFiles.length = foundCount B o := by
  rw [reached_resolvedFiles hf, List.length_take, eagerPaths, List.length_map]
  exact Nat.min_eq_left (foundCount_le B o)

end Lazy

/-! ## The abstract file list

Its state is the largest index it has been asked for; it answers from the eager lists. -/

section Abstract

variable (B : List (List ScanFile)) (P : List Bytes) (Ms : List DeltaFileMetaData)

/-- Where `GetTotalFileCount`, `GetAllFiles` and `GetCardinality` leave the list: asked for up to
where the expansion loop stops. -/
def expanded (o : Option Nat) : Nat := asked o (firstEmpty P (foundCount B o))

/-- The largest index asked for after an operation. -/
def Op.next (o : Option Nat) : Op → Option Nat
  | .getFile i => some (asked o i)
  | .getMetaData _ => o
  | .getTotalFileCount | .getAllFiles | .getCardinality => some (expanded B P o)

/-- What an operation answers, read off the first files of the eager lists. -/
def Op.answer (o : Option Nat) : Op → Answer
  | .getFile i => .path (P.getD i [])
  | .getTotalFileCount => .count (foundCount B (some (expanded B P o)))
  | .getAllFiles => .files (P.take (foundCount B (some (expanded B P o))))
  | .getCardinality =>
    let n := foundCount B (some (expanded B P o))
    .cardinality (cardinalityOf n (Ms.take n))
  | .getMetaData index => .metaData (Ms.take (foundCount B o))[index]?

/-- A run of the abstract list: the answers and the last state. -/
def runAbstract : List Op → Option Nat → List Answer × Option Nat
  | [], o => ([], o)
  | op :: ops, o =>
    let r := runAbstract ops (op.next B P o)
    (op.answer B P Ms o :: r.1, r.2)

end Abstract

section Simulation

variable {E : Env} {s₀ : DeltaSnapshot} {snap : SharedKernelSnapshot} {B : List (List ScanFile)}

/-- `GetTotalFileCount` expands the list as far as the expansion loop goes and counts what it
holds. -/
theorem getTotalFileCount_reached (hf : Fresh s₀) (hk : Serves E s₀ snap B) (o : Option Nat) :
    getTotalFileCount E (reached E s₀ snap B o) =
      .ok (foundCount B (some (expanded B (eagerPaths E s₀ B) o)))
        (reached E s₀ snap B (some (expanded B (eagerPaths E s₀ B) o))) := by
  simp only [getTotalFileCount, Step.bind_apply, Step.get_apply, reached_resolvedFiles_length hf,
    expandFrom_reached hf hk, Step.pure_apply, expanded]

theorem getTotalFileCount_fresh (hf : Fresh s₀) (hk : Serves E s₀ snap B) :
    getTotalFileCount E s₀ =
      .ok (foundCount B (some (expanded B (eagerPaths E s₀ B) none)))
        (reached E s₀ snap B (some (expanded B (eagerPaths E s₀ B) none))) :=
  getTotalFileCount_reached hf hk none

/-- Every operation on a reachable list returns, with what the abstract list answers, and leaves
the list the abstract list moves to. -/
theorem run_reached (hf : Fresh s₀) (hk : Serves E s₀ snap B) (o : Option Nat) (op : Op) :
    op.run E (reached E s₀ snap B o) =
      .ok (op.answer B (eagerPaths E s₀ B) (eagerMetaData s₀ snap B) o)
        (reached E s₀ snap B (op.next B (eagerPaths E s₀ B) o)) := by
  cases op with
  | getFile i =>
    simp only [Op.run, getFile, Step.map_apply, getFileInternal_reached hf hk, Op.answer, Op.next]
  | getMetaData index =>
    simp [Op.run, getMetaData, reached_metadata hf, Op.answer, Op.next]
  | getTotalFileCount =>
    simp only [Op.run, Step.map_apply, getTotalFileCount_reached hf hk, Op.answer, Op.next]
  | getAllFiles =>
    simp only [Op.run, getAllFiles, Step.map_apply, Step.bind_apply, Step.get_apply,
      reached_resolvedFiles_length hf, expandFrom_reached hf hk, Step.pure_apply, Op.answer,
      Op.next, expanded]
    rw [reached_resolvedFiles hf]
  | getCardinality =>
    simp only [Op.run, getCardinality, Step.map_apply, Step.bind_apply, Step.get_apply,
      getTotalFileCount_reached hf hk, Step.pure_apply, Op.answer, Op.next, reached_metadata hf]

/-- The lazy list simulates the abstract one: a run of operations from any reachable list
answers what the abstract list answers, raises nothing, and ends where the abstract list ends. -/
theorem runOps_reached (hf : Fresh s₀) (hk : Serves E s₀ snap B) (ops : List Op)
    (o : Option Nat) :
    runOps E ops (reached E s₀ snap B o) =
      ((runAbstract B (eagerPaths E s₀ B) (eagerMetaData s₀ snap B) ops o).1.map .ok,
        reached E s₀ snap B (runAbstract B (eagerPaths E s₀ B) (eagerMetaData s₀ snap B) ops o).2) := by
  induction ops generalizing o with
  | nil => rfl
  | cons op ops ih => simp only [runOps, run_reached hf hk, ih, runAbstract, List.map_cons]

end Simulation

end DeltaSnapshot

end DeltaScan

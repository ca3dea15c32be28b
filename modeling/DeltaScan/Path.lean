import DeltaScan.Basic

/-!
# Percent-decoding and path resolution

`url_decode` first turns every `+` into a space and then walks the string left to right: a `%`
hands the next two bytes to `sscanf("%x")`, appends the byte of the value read and skips the
two bytes; every other byte is copied. `VisitCallback` applies it to the table root joined
with the relative path the kernel reports, and `ToDuckDBPath` drops a `file://` prefix.

`sscanf` is modelled as glibc reads a `%x` conversion: leading white space, an optional sign,
an optional `0x` after a leading `0`, then hexadecimal digits. When it assigns nothing, `ii`
keeps the value it had when it was declared, which C++ leaves indeterminate: `urlDecode`
takes that value as its first argument.

`ToDeltaPath` is applied again wherever a list is made from a list's own path: it leaves every
path it returned as it is, except `./`, which it made from `.`. A table given as `./t` has its
files read under the working directory, once `ToDuckDBPath` has dropped the `file://` again.
-/

namespace DeltaScan

/-! ## `sscanf(str, "%x", &ii)` -/

/-- `isspace` in the C locale. -/
def isSpace (c : UInt8) : Bool := c.toNat = 32 || (9 ≤ c.toNat && c.toNat ≤ 13)

/-- The value of a hexadecimal digit, either case. -/
def hexDigitValue (c : UInt8) : Option Nat :=
  if 48 ≤ c.toNat ∧ c.toNat ≤ 57 then some (c.toNat - 48)
  else if 97 ≤ c.toNat ∧ c.toNat ≤ 102 then some (c.toNat - 87)
  else if 65 ≤ c.toNat ∧ c.toNat ≤ 70 then some (c.toNat - 55)
  else none

/-- The digits of the longest hexadecimal prefix. -/
def hexPrefix : Bytes → List Nat
  | [] => []
  | c :: rest =>
    match hexDigitValue c with
    | some d => d :: hexPrefix rest
    | none => []

/-- The number a list of hexadecimal digits spells. -/
def hexNumber (ds : List Nat) : Nat := ds.foldl (fun acc d => 16 * acc + d) 0

/-- The sign in front of the digits: `true` for `-`. -/
def scanSign : Bytes → Bool × Bytes
  | 43 :: rest => (false, rest)
  | 45 :: rest => (true, rest)
  | s => (false, s)

/-- The digits a `%x` conversion reads after the sign; a leading `0x` or `0X` is skipped and
its `0` counts as a digit. -/
def scanDigits : Bytes → List Nat
  | 48 :: x :: rest => if x = 120 ∨ x = 88 then 0 :: hexPrefix rest else hexPrefix (48 :: x :: rest)
  | s => hexPrefix s

/-- `sscanf(str, "%x", &ii)`: the value stored into `ii`, or `none` when the conversion fails
and `ii` is not assigned. The number is negated for a `-` sign, modulo `2^32`. -/
def sscanfHex (s : Bytes) : Option UInt32 :=
  let (neg, body) := scanSign (s.dropWhile isSpace)
  match scanDigits body with
  | [] => none
  | ds => some (if neg then 0 - UInt32.ofNat (hexNumber ds) else UInt32.ofNat (hexNumber ds))

theorem UInt8.ne_of_toNat_ne {c d : UInt8} (h : c.toNat ≠ d.toNat) : c ≠ d := fun e => h (e ▸ rfl)

/-- A hexadecimal digit is neither white space nor a sign, an `x` or a `%`. -/
theorem hexDigitValue_ne {c : UInt8} {d : Nat} (h : hexDigitValue c = some d) :
    isSpace c = false ∧ c ≠ 43 ∧ c ≠ 45 ∧ c ≠ 120 ∧ c ≠ 88 ∧ c ≠ 37 := by
  have hc : 48 ≤ c.toNat ∧ c.toNat ≤ 57 ∨ 97 ≤ c.toNat ∧ c.toNat ≤ 102 ∨
      65 ≤ c.toNat ∧ c.toNat ≤ 70 := by
    unfold hexDigitValue at h; split_ifs at h <;> simp_all
  refine ⟨?_, ?_, ?_, ?_, ?_, ?_⟩
  · simp only [isSpace, Bool.or_eq_false_iff, decide_eq_false_iff_not, Bool.and_eq_false_imp,
      decide_eq_true_eq]
    omega
  all_goals exact UInt8.ne_of_toNat_ne (by simp [UInt8.size]; omega)

/-- Two hexadecimal digits are read as the number they spell. -/
theorem sscanfHex_pair {hi lo : UInt8} {x y : Nat} (hx : hexDigitValue hi = some x)
    (hy : hexDigitValue lo = some y) : sscanfHex [hi, lo] = some (UInt32.ofNat (16 * x + y)) := by
  obtain ⟨hs, h43, h45, -, -, -⟩ := hexDigitValue_ne hx
  obtain ⟨-, -, -, h120, h88, -⟩ := hexDigitValue_ne hy
  have hsign : scanSign [hi, lo] = (false, [hi, lo]) := by
    unfold scanSign; split <;> simp_all
  have hdigits : scanDigits [hi, lo] = [x, y] := by
    unfold scanDigits; split
    · simp_all [hexPrefix]
    · simp [hexPrefix, hx, hy]
  simp [sscanfHex, hs, hsign, hdigits, hexNumber]

/-! ## `url_decode` -/

/-- `replace(input.begin(), input.end(), '+', ' ')`. -/
def plusToSpace (c : UInt8) : UInt8 := if c = 43 then 32 else c

/-- The loop of `url_decode` after the replacement: `input.substr(i + 1, 2)` is what follows
a `%`, and `i += 2` skips it. -/
def decodeLoop (ii : UInt32) : Bytes → Bytes
  | [] => []
  | 37 :: a :: b :: rest => ((sscanfHex [a, b]).getD ii).toUInt8 :: decodeLoop ii rest
  | [37, a] => [((sscanfHex [a]).getD ii).toUInt8]
  | [37] => [((sscanfHex []).getD ii).toUInt8]
  | c :: rest => c :: decodeLoop ii rest

/-- `url_decode(input)`. -/
def urlDecode (ii : UInt32) (input : Bytes) : Bytes := decodeLoop ii (input.map plusToSpace)

theorem decodeLoop_cons {c : UInt8} (h : c ≠ 37) (ii : UInt32) (rest : Bytes) :
    decodeLoop ii (c :: rest) = c :: decodeLoop ii rest := by
  match rest with
  | [] => simp [decodeLoop, h]
  | [_] => simp [decodeLoop, h]
  | _ :: _ :: _ => simp [decodeLoop, h]

/-- A byte other than `%` passes through, after the `+` replacement. -/
theorem urlDecode_cons {c : UInt8} (h : c ≠ 37) (ii : UInt32) (rest : Bytes) :
    urlDecode ii (c :: rest) = plusToSpace c :: urlDecode ii rest := by
  have hc : plusToSpace c ≠ 37 := by
    unfold plusToSpace; split
    · decide
    · exact h
  simp [urlDecode, decodeLoop_cons hc]

/-- A prefix without `%` is only affected by the `+` replacement. -/
theorem urlDecode_append {a : Bytes} (h : 37 ∉ a) (ii : UInt32) (b : Bytes) :
    urlDecode ii (a ++ b) = a.map plusToSpace ++ urlDecode ii b := by
  induction a with
  | nil => rfl
  | cons c a ih =>
    simp only [List.mem_cons, not_or] at h
    rw [List.cons_append, urlDecode_cons (Ne.symm h.1), ih h.2, List.map_cons, List.cons_append]

/-! ## Where `ii` is read unassigned -/

/-- Whether `sscanf` assigns `ii` at every `%` the loop of `url_decode` meets. -/
def escapesAssigned : Bytes → Bool
  | [] => true
  | 37 :: a :: b :: rest => (sscanfHex [a, b]).isSome && escapesAssigned rest
  | [37, a] => (sscanfHex [a]).isSome
  | [37] => (sscanfHex []).isSome
  | _ :: rest => escapesAssigned rest

theorem escapesAssigned_cons {c : UInt8} (h : c ≠ 37) (rest : Bytes) :
    escapesAssigned (c :: rest) = escapesAssigned rest := by
  match rest with
  | [] | [_] | _ :: _ :: _ => simp [escapesAssigned, h]

/-- The byte an escape appends depends on what `ii` held exactly when `sscanf` assigns nothing. -/
theorem escapeByte_indep_iff (o : Option UInt32) :
    (∀ ii ii' : UInt32, (o.getD ii).toUInt8 = (o.getD ii').toUInt8) ↔ o.isSome = true := by
  cases o with
  | none => exact iff_of_false (fun h => absurd (h 0 1) (by decide)) (by decide)
  | some x => simp

/-- The loop of `url_decode` gives the same bytes whatever `ii` held before each escape exactly
when `sscanf` assigns `ii` at every escape it meets. -/
theorem decodeLoop_indep_iff (s : Bytes) :
    (∀ ii ii', decodeLoop ii s = decodeLoop ii' s) ↔ escapesAssigned s = true := by
  induction s using decodeLoop.induct 0 with
  | case1 => simp [decodeLoop, escapesAssigned]
  | case2 a b rest ih =>
    simp only [decodeLoop, escapesAssigned, List.cons.injEq, forall_and, ih,
      escapeByte_indep_iff, Bool.and_eq_true]
  | case3 | case4 =>
    simp only [decodeLoop, escapesAssigned, List.cons.injEq, and_true, escapeByte_indep_iff]
  | case5 c rest h₁ h₂ h₃ ih =>
    have hc : c ≠ 37 := fun hc => match rest, h₁, h₂, h₃ with
      | [], _, _, h₃ => h₃ hc rfl
      | [a], _, h₂, _ => h₂ a hc rfl
      | a :: b :: r, h₁, _, _ => h₁ a b r hc rfl
    simp only [decodeLoop_cons hc, escapesAssigned_cons hc, List.cons.injEq, true_and, ih]

/-- How one byte of a string may be written in a percent-encoding: as itself, unless it is
`%`, or as `%` and two hexadecimal digits of its value. -/
inductive EncodesByte : UInt8 → Bytes → Prop
  | literal {b : UInt8} (h : b ≠ 37) : EncodesByte b [b]
  | escape {b hi lo : UInt8} (hhi : hexDigitValue hi = some (b.toNat / 16))
      (hlo : hexDigitValue lo = some (b.toNat % 16)) : EncodesByte b [37, hi, lo]

/-- What `url_decode` gives back for one encoded byte: the byte, but a space for a literal `+`. -/
def decodedByte (b : UInt8) (part : Bytes) : UInt8 := if part = [43] then 32 else b

/-- An escape is decoded to its byte, also after the `+` replacement. -/
theorem urlDecode_escape {b hi lo : UInt8} (hhi : hexDigitValue hi = some (b.toNat / 16))
    (hlo : hexDigitValue lo = some (b.toNat % 16)) (ii : UInt32) (rest : Bytes) :
    urlDecode ii (37 :: hi :: lo :: rest) = b :: urlDecode ii rest := by
  obtain ⟨-, hhi43, -⟩ := hexDigitValue_ne hhi
  obtain ⟨-, hlo43, -⟩ := hexDigitValue_ne hlo
  have hb : b.toNat < 256 := b.toNat_lt_size
  have hval : (UInt32.ofNat (16 * (b.toNat / 16) + b.toNat % 16)).toUInt8 = b := by
    rw [Nat.div_add_mod]
    apply UInt8.toNat.inj
    rw [UInt32.toUInt8, UInt32.toNat_ofNat_of_lt (by show b.toNat < 4294967296; omega)]
    exact UInt8.toNat_ofNat_of_lt hb
  simp [urlDecode, plusToSpace, hhi43, hlo43, decodeLoop, sscanfHex_pair hhi hlo, hval]

/-- `url_decode` inverts a percent-encoding, except that a `+` written as itself comes back as a
space: only an escaped `+` (`%2B`) survives. -/
theorem urlDecode_percent_encoding (ii : UInt32) {s : Bytes} {parts : List Bytes}
    (h : List.Forall₂ EncodesByte s parts) :
    urlDecode ii parts.flatten = List.zipWith decodedByte s parts := by
  induction h with
  | nil => rfl
  | cons hb _ ih =>
    cases hb with
    | literal hne =>
      rw [List.flatten_cons, List.singleton_append, urlDecode_cons hne, ih, List.zipWith_cons_cons]
      simp [decodedByte, plusToSpace]
    | escape hhi hlo =>
      rw [List.flatten_cons, List.cons_append, List.cons_append, List.cons_append,
        List.nil_append, urlDecode_escape hhi hlo, ih, List.zipWith_cons_cons]
      simp [decodedByte]

/-- A `+` is a valid literal byte of an encoding, and `url_decode` reads it as a space. -/
theorem urlDecode_percent_encoding_sample :
    List.Forall₂ EncodesByte (bytes "a+") [bytes "a", bytes "%2B"] ∧
      urlDecode 0 [bytes "a", bytes "%2B"].flatten =
        List.zipWith decodedByte (bytes "a+") [bytes "a", bytes "%2B"] :=
  have h : List.Forall₂ EncodesByte (bytes "a+") [bytes "a", bytes "%2B"] :=
    .cons (.literal (by decide)) (.cons (.escape (by decide) (by decide)) .nil)
  ⟨h, urlDecode_percent_encoding 0 h⟩

theorem urlDecode_plus_not_literal :
    ¬ ∀ (ii : UInt32) (s : Bytes) (parts : List Bytes),
      List.Forall₂ EncodesByte s parts → urlDecode ii parts.flatten = s := fun h =>
  absurd (h 0 [43] [[43]] (.cons (.literal (by decide)) .nil)) (by decide)

/-! ## Paths -/

/-- `DeltaSnapshot::ToDuckDBPath`: a `file://` prefix is dropped. -/
def toDuckDBPath (rawPath : Bytes) : Bytes :=
  if (bytes "file://").isPrefixOf rawPath then rawPath.drop 7 else rawPath

/-- `StringUtil::RTrim(str, "/")`: the trailing slashes removed. -/
def rTrim (s : Bytes) : Bytes := (s.reverse.dropWhile (· = 47)).reverse

/-- `FileSystem::JoinPath` with the POSIX separator. -/
def joinPath (a b : Bytes) : Bytes := a ++ [47] ++ b

/-- `DeltaSnapshot::ToDeltaPath` under the working directory `workingDirectory`: a `./` path is
made absolute and given the `file://` scheme, and every path ends in a slash. An empty path,
where the source reads before the string, gets the slash as well. -/
def toDeltaPath (workingDirectory rawPath : Bytes) : Bytes :=
  let path :=
    if (bytes "./").isPrefixOf rawPath then
      bytes "file://" ++ joinPath workingDirectory (rawPath.drop 2)
    else rawPath
  if path.getLast? = some 47 then path else path ++ [47]

/-- The path `VisitCallback` appends for a file the kernel reports at `path`: the table root
without its trailing slashes, a slash and the relative path, all of it percent-decoded, then
`ToDuckDBPath`. -/
def resolvedPath (ii : UInt32) (root path : Bytes) : Bytes :=
  toDuckDBPath (urlDecode ii (rTrim root ++ [47] ++ path))

theorem mem_rTrim {c : UInt8} {s : Bytes} (h : c ∈ rTrim s) : c ∈ s :=
  List.mem_reverse.mp ((List.dropWhile_suffix _).subset (List.mem_reverse.mp h))

/-- A root without `%` is decoded only by the `+` replacement; the relative path is decoded
after it. -/
theorem resolvedPath_of_no_escape {root : Bytes} (h : 37 ∉ root) (ii : UInt32) (path : Bytes) :
    resolvedPath ii root path =
      toDuckDBPath ((rTrim root).map plusToSpace ++ [47] ++ urlDecode ii path) := by
  rw [resolvedPath, List.append_assoc, urlDecode_append (fun hm => h (mem_rTrim hm)),
    List.singleton_append, urlDecode_cons (by decide), List.append_assoc]
  rfl

theorem map_plusToSpace_of_not_mem {s : Bytes} (h : 43 ∉ s) : s.map plusToSpace = s := by
  conv_rhs => rw [← List.map_id s]
  exact List.map_congr_left fun c hc => if_neg fun (e : c = 43) => h (e ▸ hc)

/-! ## `ToDeltaPath` twice -/

/-- Every path `ToDeltaPath` returns ends in a slash. -/
theorem toDeltaPath_getLast? (workingDirectory rawPath : Bytes) :
    (toDeltaPath workingDirectory rawPath).getLast? = some 47 := by
  unfold toDeltaPath
  dsimp only
  split_ifs <;> simp_all

/-- A path ending in a slash and not starting with `./` is left as it is. -/
theorem toDeltaPath_of_getLast? {path : Bytes} (workingDirectory : Bytes)
    (hdot : (bytes "./").isPrefixOf path = false) (hlast : path.getLast? = some 47) :
    toDeltaPath workingDirectory path = path := by
  simp [toDeltaPath, hdot, hlast]

theorem isPrefixOf_dotSlash_append_slash :
    ∀ {path : Bytes}, (bytes "./").isPrefixOf path = false →
      ((bytes "./").isPrefixOf (path ++ [47]) = true ↔ path = bytes ".")
  | [], _ => by decide
  | [a], _ => by
    show ([46, 47] : Bytes).isPrefixOf [a, 47] = true ↔ [a] = [46]
    simp [List.isPrefixOf]
    exact eq_comm
  | a :: b :: rest, h => by
    show ([46, 47] : Bytes).isPrefixOf (a :: b :: (rest ++ [47])) = true ↔ a :: b :: rest = [46]
    replace h : ([46, 47] : Bytes).isPrefixOf (a :: b :: rest) = false := h
    simp only [List.isPrefixOf, Bool.and_true] at h ⊢
    simp [h]

/-- `ToDeltaPath` returns a path starting with `./` for the raw path `.` only. -/
theorem isPrefixOf_toDeltaPath (workingDirectory rawPath : Bytes) :
    (bytes "./").isPrefixOf (toDeltaPath workingDirectory rawPath) = true ↔
      rawPath = bytes "." := by
  unfold toDeltaPath
  dsimp only
  by_cases hdot : (bytes "./").isPrefixOf rawPath = true
  · have hne : rawPath ≠ bytes "." := by rintro rfl; exact absurd hdot (by decide)
    rw [if_pos hdot, iff_false_intro hne, iff_false, Bool.not_eq_true]
    split_ifs <;> rfl
  · rw [Bool.not_eq_true] at hdot
    rw [if_neg (show ¬(bytes "./").isPrefixOf rawPath = true by simp [hdot])]
    split_ifs with hlast
    · have hne : rawPath ≠ bytes "." := by rintro rfl; exact absurd hlast (by decide)
      simp [hdot, hne]
    · exact isPrefixOf_dotSlash_append_slash hdot

/-- A second `ToDeltaPath` changes a path exactly when the raw path was `.`, which the first
turns into `./`. -/
theorem toDeltaPath_toDeltaPath_iff (workingDirectory rawPath : Bytes) :
    toDeltaPath workingDirectory (toDeltaPath workingDirectory rawPath) =
        toDeltaPath workingDirectory rawPath ↔ rawPath ≠ bytes "." := by
  constructor
  · rintro h rfl
    rw [show toDeltaPath workingDirectory (bytes ".") = bytes "./" from rfl] at h
    have hhead : (toDeltaPath workingDirectory (bytes "./")).head? = some 102 := by
      unfold toDeltaPath
      rw [if_pos (show (bytes "./").isPrefixOf (bytes "./") = true from rfl)]
      dsimp only
      split_ifs <;> rfl
    exact absurd (hhead.symm.trans (congrArg List.head? h)) (by decide)
  · intro hne
    exact toDeltaPath_of_getLast? _ (Bool.eq_false_iff.2 fun h =>
      hne ((isPrefixOf_toDeltaPath _ _).1 h)) (toDeltaPath_getLast? _ _)

/-! ## The files of a table under the working directory -/

theorem rTrim_append_slash (s : Bytes) : rTrim (s ++ [47]) = rTrim s := by
  simp [rTrim]

theorem rTrim_append {b : Bytes} (a : Bytes) (hb : rTrim b ≠ []) : rTrim (a ++ b) = a ++ rTrim b := by
  have hne : (b.reverse.dropWhile (· = 47)).isEmpty = false := by
    simpa [rTrim, List.isEmpty_iff] using hb
  simp only [rTrim, List.reverse_append, List.dropWhile_append, hne, Bool.false_eq_true,
    if_false, List.reverse_reverse]

/-- A table given relative to the working directory, as `./t`, has its files read under the
working directory. For every working directory and `t` without `%` or `+`, where something of
`t` is left once its trailing slashes go, the file the kernel reports at `f` is read at the
working directory, a slash, `t` without its trailing slashes, a slash, and `f` percent-decoded. -/
theorem resolvedPath_toDeltaPath_relative (ii : UInt32) {workingDirectory t : Bytes}
    (h37 : 37 ∉ workingDirectory ++ t) (h43 : 43 ∉ workingDirectory ++ t) (ht : rTrim t ≠ [])
    (f : Bytes) :
    resolvedPath ii (toDeltaPath workingDirectory (bytes "./" ++ t)) f =
      workingDirectory ++ [47] ++ rTrim t ++ [47] ++ urlDecode ii f := by
  have hroot : rTrim (toDeltaPath workingDirectory (bytes "./" ++ t)) =
      bytes "file://" ++ (workingDirectory ++ [47] ++ rTrim t) := by
    rw [toDeltaPath, if_pos (List.isPrefixOf_iff_prefix.2 (List.prefix_append _ _)),
      show (bytes "./" ++ t).drop 2 = t from List.drop_left (bytes "./") t, joinPath]
    split_ifs
    · simp only [← List.append_assoc, rTrim_append _ ht]
    · simp only [rTrim_append_slash, ← List.append_assoc, rTrim_append _ ht]
  have hno : ∀ {c : UInt8}, c ∉ bytes "file://" → c ≠ 47 → c ∉ workingDirectory ++ t →
      c ∉ bytes "file://" ++ (workingDirectory ++ [47] ++ rTrim t) := by
    intro c hF h47 hwt
    simp only [List.mem_append, List.mem_singleton, not_or] at hwt ⊢
    exact ⟨hF, ⟨hwt.1, h47⟩, fun hT => hwt.2 (mem_rTrim hT)⟩
  rw [resolvedPath, hroot, List.append_assoc _ [47] f,
    urlDecode_append (hno (by decide) (by decide) h37),
    map_plusToSpace_of_not_mem (hno (by decide) (by decide) h43), List.singleton_append,
    urlDecode_cons (by decide), toDuckDBPath, List.append_assoc,
    if_pos (List.isPrefixOf_iff_prefix.2 (List.prefix_append _ _)),
    show 7 = (bytes "file://").length from rfl, List.drop_left]
  simp only [List.append_assoc, List.singleton_append]
  rfl

theorem resolvedPath_toDeltaPath_relative_sample :
    37 ∉ bytes "/home/u" ++ bytes "t" ∧ 43 ∉ bytes "/home/u" ++ bytes "t" ∧ rTrim (bytes "t") ≠ [] ∧
      resolvedPath 0 (toDeltaPath (bytes "/home/u") (bytes "./" ++ bytes "t")) (bytes "f%20g") =
        bytes "/home/u" ++ [47] ++ rTrim (bytes "t") ++ [47] ++ urlDecode 0 (bytes "f%20g") :=
  ⟨by decide, by decide, by decide,
    resolvedPath_toDeltaPath_relative 0 (by decide) (by decide) (by decide) _⟩

/-! ## Where `ii` is read unassigned, in a path -/

/-- `url_decode` reads `ii` before `sscanf` assigns it at a `%` in the last place, and at a `%`
followed by bytes that spell no hexadecimal number: the byte it appends is whatever `ii` held.
A table root ending in `%` does so in every path `VisitCallback` resolves under it, and the
escape takes the `/` and the first byte of the relative path with it. -/
theorem url_decode_reads_unassigned_ii :
    sscanfHex [] = none ∧ sscanfHex (bytes "zz") = none ∧
      (∀ ii, urlDecode ii (bytes "a%") = [97, ii.toUInt8]) ∧
      (∀ ii, urlDecode ii (bytes "%zz") = [ii.toUInt8]) ∧
      (∀ ii, resolvedPath ii (bytes "t%") (bytes "p") = [116, ii.toUInt8]) ∧
      ¬ ∀ ii ii', urlDecode ii (bytes "%zz") = urlDecode ii' (bytes "%zz") :=
  ⟨rfl, rfl, fun _ => rfl, fun _ => rfl, fun _ => rfl,
    mt (decodeLoop_indep_iff _).1 (by decide)⟩

end DeltaScan

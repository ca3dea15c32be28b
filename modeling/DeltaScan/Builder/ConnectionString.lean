import DeltaScan.Basic

/-!
# `std::string` searches, and the two parsers of an Azure connection string

`CreateBuilder` cuts object-store URLs with `std::string::find` and `substr`, and reads the
fields of an Azure connection string with `parseFromConnectionString`, a `std::regex_search`
for `key=([^;]+)(?=;|$)`, and `ParseAccountNameFromEndpoint`.

The regex is modelled by what it matches: at the leftmost position where `key=` is followed by a
byte other than `;`, the longest run of bytes other than `;`. The greedy class stops only at a
`;` or at the end, so the lookahead always holds. The key is read literally, as the regex reads
the alphanumeric keys `CreateBuilder` passes. Nothing anchors the match at the start of a pair.
What the parser returns is then exactly the value of the leftmost `key=` that has one.
-/

namespace DeltaScan

/-! ## `std::string` operations -/

/-- `s.find(c, pos)`: the first index at or after `pos` that holds `c`. -/
def findFrom (s : Bytes) (c : UInt8) (pos : Nat) : Option Nat :=
  ((s.drop pos).findIdx? (· == c)).map (· + pos)

/-- `a - b` on `size_t`. -/
def idxSub (a b : Nat) : Nat := (a + 2 ^ 64 - b) % 2 ^ 64

/-- `s.substr(pos, n)`, for a `pos` at most `s.size()`, the only case `CreateBuilder` reaches. -/
def substr (s : Bytes) (pos n : Nat) : Bytes := (s.drop pos).take n

/-- `s.find(sub) != npos`. -/
def containsBytes (s sub : Bytes) : Bool := s.tails.any sub.isPrefixOf

/-- Past a prefix, `find` searches what follows it. -/
theorem findFrom_append (P rest : Bytes) (c : UInt8) :
    findFrom (P ++ rest) c P.length = (rest.findIdx? (· == c)).map (· + P.length) := by
  rw [findFrom, List.drop_left]

theorem findIdx?_beq_eq_none_iff {s : Bytes} {c : UInt8} :
    s.findIdx? (· == c) = none ↔ c ∉ s := by
  simp only [List.findIdx?_eq_none_iff, beq_eq_false_iff_ne]
  exact ⟨fun h hc => h c hc rfl, fun h x hx e => h (e ▸ hx)⟩

/-- The search for `c` skips a run without `c` and stops at the `c` after it. -/
theorem findIdx?_beq_append_cons {s : Bytes} {c : UInt8} (hs : c ∉ s) (rest : Bytes) :
    (s ++ c :: rest).findIdx? (· == c) = some s.length := by
  rw [List.findIdx?_append, findIdx?_beq_eq_none_iff.2 hs]
  simp

/-- A search for `c` that stops at `j` splits the string at its first `c`. -/
theorem findIdx?_beq_eq_some {c : UInt8} : ∀ {s : Bytes} {j : Nat},
    s.findIdx? (· == c) = some j → ∃ a rest, s = a ++ c :: rest ∧ c ∉ a ∧ a.length = j
  | [], _, h => by simp at h
  | x :: s, j, h => by
    rw [List.findIdx?_cons, List.findIdx?_succ] at h
    by_cases hx : x = c
    · subst hx
      simp only [beq_self_eq_true, if_true, Option.some.injEq] at h
      exact ⟨[], s, rfl, nofun, h⟩
    · rw [if_neg (by simpa using hx)] at h
      obtain ⟨j', hj', rfl⟩ := Option.map_eq_some'.1 h
      obtain ⟨a, rest, rfl, ha, rfl⟩ := findIdx?_beq_eq_some hj'
      exact ⟨x :: a, rest, rfl, by simp [ha, Ne.symm hx], rfl⟩

theorem idxSub_of_le {a b : Nat} (h : b ≤ a) (ha : a < 2 ^ 64) : idxSub a b = a - b := by
  rw [idxSub, show a + 2 ^ 64 - b = a - b + 2 ^ 64 by omega, Nat.add_mod_right,
    Nat.mod_eq_of_lt (by omega)]

/-- One short of the start, the length wraps to the largest `size_t`. -/
theorem idxSub_pred {b : Nat} (h : 0 < b) (hb : b ≤ 2 ^ 64) : idxSub (b - 1) b = 2 ^ 64 - 1 := by
  rw [idxSub, Nat.mod_eq_of_lt (by omega)]
  omega

theorem isPrefixOf_self_append (P rest : Bytes) : P.isPrefixOf (P ++ rest) = true :=
  List.isPrefixOf_iff_prefix.2 (List.prefix_append P rest)

/-- A string whose first bytes differ from `P` is no prefix of anything that starts with `P`. -/
theorem isPrefixOf_append_eq_false :
    ∀ {t P : Bytes} (rest : Bytes), (t.take P.length).isPrefixOf P = false →
      t.isPrefixOf (P ++ rest) = false
  | [], _, _, h => by simp [List.isPrefixOf] at h
  | _ :: _, [], _, h => by simp [List.isPrefixOf] at h
  | a :: t, b :: P, rest, h => by
    simp only [List.length_cons, List.take_succ_cons, List.isPrefixOf, List.cons_append] at h ⊢
    cases hab : a == b
    · rfl
    · rw [hab, Bool.true_and] at h
      rw [Bool.true_and]
      exact isPrefixOf_append_eq_false rest h

/-! ## `parseFromConnectionString` -/

/-- `key=([^;]+)(?=;|$)` matched at the start of `s`: the bytes of group 1. -/
def matchKey (key s : Bytes) : Option Bytes :=
  if (key ++ [61]).isPrefixOf s then
    let value := (s.drop (key.length + 1)).takeWhile (· != 59)
    if value.isEmpty then none else some value
  else none

/-- `std::regex_search`: the match at the leftmost position that has one. -/
def regexSearch (key : Bytes) : Bytes → Option Bytes
  | [] => matchKey key []
  | c :: rest => (matchKey key (c :: rest)).or (regexSearch key rest)

/-- `parseFromConnectionString`: group 1 of the search, or the empty string. -/
def parseFromConnectionString (connectionString key : Bytes) : Bytes :=
  (regexSearch key connectionString).getD []

/-- A pair `key=v` whose value is followed by a `;` or by the end matches, with the value. -/
theorem matchKey_pair {key v rest : Bytes} (hv : v ≠ []) (hsemi : 59 ∉ v)
    (hrest : rest = [] ∨ rest.head? = some 59) :
    matchKey key (key ++ 61 :: (v ++ rest)) = some v := by
  have hsplit : key ++ 61 :: (v ++ rest) = (key ++ [61]) ++ (v ++ rest) := by simp
  have htake : rest.takeWhile (· != 59) = [] := by
    rcases hrest with rfl | hrest
    · rfl
    · obtain ⟨r, rfl⟩ := List.head?_eq_some_iff.1 hrest
      rfl
  have hvalue : (v ++ rest).takeWhile (· != 59) = v := by
    rw [List.takeWhile_append_of_pos fun a ha => bne_iff_ne.2 (by rintro rfl; exact hsemi ha),
      htake, List.append_nil]
  rw [matchKey, hsplit, if_pos (isPrefixOf_self_append _ _),
    show key.length + 1 = (key ++ [61]).length by simp, List.drop_left]
  simp only [hvalue, List.isEmpty_iff, if_neg hv]

theorem regexSearch_of_matchKey {key s v : Bytes} (h : matchKey key s = some v) :
    regexSearch key s = some v := by
  cases s with
  | nil => exact h
  | cons c rest => rw [regexSearch, h, Option.or_some]

/-- The search skips a stretch in which the pattern matches nowhere. -/
theorem regexSearch_append {key : Bytes} :
    ∀ {pre : Bytes} (s : Bytes), (∀ i < pre.length, matchKey key ((pre ++ s).drop i) = none) →
      regexSearch key (pre ++ s) = regexSearch key s
  | [], _, _ => rfl
  | c :: pre, s, h => by
    have h0 : matchKey key (c :: (pre ++ s)) = none := h 0 (Nat.succ_pos _)
    rw [List.cons_append, regexSearch, h0, Option.none_or,
      regexSearch_append s fun i hi => h (i + 1) (Nat.succ_lt_succ hi)]

/-- Where no earlier position matches, `parseFromConnectionString` reads the value of the first
`key=`; in particular, the value of the first pair of a connection string whose key is `key`. -/
theorem parseFromConnectionString_first_match {key pre v rest : Bytes}
    (hpre : ∀ i < pre.length, matchKey key ((pre ++ (key ++ 61 :: (v ++ rest))).drop i) = none)
    (hv : v ≠ []) (hsemi : 59 ∉ v) (hrest : rest = [] ∨ rest.head? = some 59) :
    parseFromConnectionString (pre ++ (key ++ 61 :: (v ++ rest))) key = v := by
  rw [parseFromConnectionString, regexSearch_append _ hpre,
    regexSearch_of_matchKey (matchKey_pair hv hsemi hrest), Option.getD_some]

/-- A match is a pair `key=v`: `v` is not empty, holds no `;`, and is followed by a `;` or the
end. -/
theorem matchKey_sound {key s v : Bytes} (h : matchKey key s = some v) :
    ∃ rest, s = key ++ 61 :: (v ++ rest) ∧ v ≠ [] ∧ 59 ∉ v ∧ (rest = [] ∨ rest.head? = some 59) := by
  unfold matchKey at h
  dsimp only at h
  split_ifs at h with hp hv
  obtain ⟨t, rfl⟩ := List.isPrefixOf_iff_prefix.1 hp
  rw [show key.length + 1 = (key ++ [61]).length by simp, List.drop_left] at h hv
  cases h
  refine ⟨t.dropWhile (· != 59), by simp, by simpa using hv,
    fun hmem => by simpa using List.mem_takeWhile_imp hmem, ?_⟩
  have hhead := List.head?_dropWhile_not (· != 59) t
  revert hhead
  cases t.dropWhile (· != 59) with
  | nil => exact fun _ => .inl rfl
  | cons x r => simp

/-- The search finds a pair `key=v` and nothing before it. -/
theorem regexSearch_sound {key : Bytes} : ∀ {s v : Bytes}, regexSearch key s = some v →
    ∃ pre rest, s = pre ++ (key ++ 61 :: (v ++ rest)) ∧
      (∀ i < pre.length, matchKey key (s.drop i) = none) ∧
      v ≠ [] ∧ 59 ∉ v ∧ (rest = [] ∨ rest.head? = some 59)
  | [], _, h => by
    obtain ⟨rest, hs, hv⟩ := matchKey_sound h
    exact ⟨[], rest, hs, nofun, hv⟩
  | c :: s, v, h => by
    cases hm : matchKey key (c :: s) with
    | some w =>
      rw [regexSearch, hm, Option.or_some] at h
      obtain ⟨rest, hs, hv⟩ := matchKey_sound (hm.trans h)
      exact ⟨[], rest, hs, nofun, hv⟩
    | none =>
      rw [regexSearch, hm, Option.none_or] at h
      obtain ⟨pre, rest, hs, hpre, hv⟩ := regexSearch_sound h
      refine ⟨c :: pre, rest, by rw [hs]; rfl, fun i hi => ?_, hv⟩
      cases i with
      | zero => exact hm
      | succ i => exact hpre i (Nat.lt_of_succ_lt_succ hi)

/-- `parseFromConnectionString` reads exactly the leftmost field. For every connection string,
key and non-empty `v`, the parser returns `v` exactly when the string is some `pre`, then
`key=`, then `v`, then a `;` or the end, where `v` holds no `;` and the pattern matches at no
position of `pre`. -/
theorem parseFromConnectionString_eq_iff {cs key v : Bytes} (hv : v ≠ []) :
    parseFromConnectionString cs key = v ↔
      ∃ pre rest, cs = pre ++ (key ++ 61 :: (v ++ rest)) ∧ 59 ∉ v ∧
        (rest = [] ∨ rest.head? = some 59) ∧ ∀ i < pre.length, matchKey key (cs.drop i) = none := by
  constructor
  · intro h
    have hsome : regexSearch key cs = some v := by
      rw [parseFromConnectionString] at h
      cases hs : regexSearch key cs with
      | none => rw [hs] at h; exact absurd h.symm hv
      | some w => rw [hs] at h; rw [← h]; rfl
    obtain ⟨pre, rest, hs, hpre, -, hsemi, hrest⟩ := regexSearch_sound hsome
    exact ⟨pre, rest, hs, hsemi, hrest, hpre⟩
  · rintro ⟨pre, rest, rfl, hsemi, hrest, hpre⟩
    exact parseFromConnectionString_first_match hpre hv hsemi hrest

theorem parseFromConnectionString_eq_iff_sample :
    bytes "v" ≠ [] ∧
      (parseFromConnectionString (bytes "AccountName=a;AccountKey=v") (bytes "AccountKey") =
          bytes "v" ↔
        ∃ pre rest, bytes "AccountName=a;AccountKey=v" =
            pre ++ (bytes "AccountKey" ++ 61 :: (bytes "v" ++ rest)) ∧ 59 ∉ bytes "v" ∧
          (rest = [] ∨ rest.head? = some 59) ∧
          ∀ i < pre.length, matchKey (bytes "AccountKey") ((bytes "AccountName=a;AccountKey=v").drop i) = none) :=
  ⟨by decide, parseFromConnectionString_eq_iff (by decide)⟩

/-! ## `ParseAccountNameFromEndpoint` -/

/-- `ParseAccountNameFromEndpoint`: what lies between `https://` and the first `.` after it. -/
def parseAccountNameFromEndpoint (endpoint : Bytes) : Bytes :=
  if !(bytes "https://").isPrefixOf endpoint then []
  else
    match findFrom endpoint 46 8 with
    | none => []
    | some result => substr endpoint 8 (result - 8)

/-- The account of an endpoint `https://a.rest`, with no `.` in `a`, is `a`. -/
theorem parseAccountNameFromEndpoint_https {a : Bytes} (ha : 46 ∉ a) (rest : Bytes) :
    parseAccountNameFromEndpoint (bytes "https://" ++ (a ++ 46 :: rest)) = a := by
  have hfind : findFrom (bytes "https://" ++ (a ++ 46 :: rest)) 46 8 = some (a.length + 8) := by
    rw [show 8 = (bytes "https://").length from rfl, findFrom_append,
      findIdx?_beq_append_cons ha]
    rfl
  rw [parseAccountNameFromEndpoint, if_neg (by rw [isPrefixOf_self_append]; decide), hfind]
  simp only [substr, Nat.add_sub_cancel, show 8 = (bytes "https://").length from rfl,
    List.drop_left, List.take_left]

/-- `ParseAccountNameFromEndpoint` reads the account back from every endpoint made from it: for
a non-empty `a`, it returns `a` exactly when the endpoint is `https://`, then `a`, then a `.`,
with no `.` in `a`. -/
theorem parseAccountNameFromEndpoint_eq_iff {endpoint a : Bytes} (ha : a ≠ []) :
    parseAccountNameFromEndpoint endpoint = a ↔
      46 ∉ a ∧ ∃ rest, endpoint = bytes "https://" ++ (a ++ 46 :: rest) := by
  constructor
  · intro h
    by_cases hp : (bytes "https://").isPrefixOf endpoint = true
    · obtain ⟨t, rfl⟩ := List.isPrefixOf_iff_prefix.1 hp
      cases hf : t.findIdx? (· == 46) with
      | none =>
        rw [parseAccountNameFromEndpoint, if_neg (by simp [hp]),
          show 8 = (bytes "https://").length from rfl, findFrom_append, hf] at h
        exact absurd h.symm ha
      | some j =>
        obtain ⟨b, rest, rfl, hb, -⟩ := findIdx?_beq_eq_some hf
        rw [parseAccountNameFromEndpoint_https hb] at h
        exact ⟨h ▸ hb, rest, by rw [h]⟩
    · rw [Bool.not_eq_true] at hp
      rw [parseAccountNameFromEndpoint, if_pos (by simp [hp])] at h
      exact absurd h.symm ha
  · rintro ⟨hdot, rest, rfl⟩
    exact parseAccountNameFromEndpoint_https hdot rest

theorem parseAccountNameFromEndpoint_eq_iff_sample :
    bytes "acct" ≠ [] ∧
      (parseAccountNameFromEndpoint (bytes "https://acct.blob.core.windows.net") = bytes "acct" ↔
        46 ∉ bytes "acct" ∧
          ∃ rest, bytes "https://acct.blob.core.windows.net" = bytes "https://" ++ (bytes "acct" ++ 46 :: rest)) :=
  ⟨by decide, parseAccountNameFromEndpoint_eq_iff (by decide)⟩

end DeltaScan

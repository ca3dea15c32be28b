import Mathlib.Data.List.Basic
import Mathlib.Algebra.Group.Nat.Basic

/-!
# Byte strings, case-insensitive maps, logical types and values

The delta scan works on C++ `std::string`s, which are byte sequences: paths are `Bytes`.
Column names are only ever compared through DuckDB's `CIEquals`, which lowers ASCII letters
and nothing else, so they stay Lean strings and are compared through `lower`.

`CaseInsensitiveMap` is DuckDB's `case_insensitive_map_t`: at most one entry per name up to
case. Its `find?`, `insert` and `set` are `find`, `insert` and `operator[]` of the hash map;
the entries are kept in insertion order, which no modelled function depends on except where
it iterates the map, and there the order is taken as a parameter.
-/

namespace DeltaScan

/-- A C++ `std::string`, byte by byte. -/
abbrev Bytes := List UInt8

/-- The bytes of an ASCII literal. -/
def bytes (s : String) : Bytes := s.toList.map fun c => c.toNat.toUInt8

/-! ## Case-insensitive names -/

/-- The name as `CIEquals` and `CIHash` see it. -/
def lower (s : String) : List Char := s.toList.map Char.toLower

/-- `StringUtil::CIEquals`. -/
def ciEquals (a b : String) : Bool := lower a == lower b

@[simp] theorem ciEquals_iff {a b : String} : ciEquals a b = true ↔ lower a = lower b := by
  simp [ciEquals]

theorem ciEquals_refl (a : String) : ciEquals a a = true := by simp

theorem ciEquals_comm (a b : String) : ciEquals a b = ciEquals b a := by
  simp only [ciEquals, Bool.beq_comm]

/-- DuckDB's `case_insensitive_map_t`, entries in insertion order. -/
structure CaseInsensitiveMap (α : Type) where
  entries : List (String × α)
  deriving DecidableEq, Repr

namespace CaseInsensitiveMap

variable {α : Type}

def empty : CaseInsensitiveMap α := ⟨[]⟩

/-- `map.find(key)`. -/
def find? (m : CaseInsensitiveMap α) (key : String) : Option α :=
  (m.entries.find? fun e => ciEquals e.1 key).map Prod.snd

/-- `map.insert({key, value})`: a name already present keeps its value. -/
def insert (m : CaseInsensitiveMap α) (key : String) (value : α) : CaseInsensitiveMap α :=
  match m.find? key with
  | some _ => m
  | none => ⟨m.entries ++ [(key, value)]⟩

/-- `map[key] = value`: a name already present gets the new value. -/
def set (m : CaseInsensitiveMap α) (key : String) (value : α) : CaseInsensitiveMap α :=
  match m.find? key with
  | some _ => ⟨m.entries.map fun e => if ciEquals e.1 key then (e.1, value) else e⟩
  | none => ⟨m.entries ++ [(key, value)]⟩

def isEmpty (m : CaseInsensitiveMap α) : Bool := m.entries.isEmpty

@[simp] theorem find?_empty (key : String) : (empty : CaseInsensitiveMap α).find? key = none :=
  rfl

theorem find?_append (l₁ l₂ : List (String × α)) (key : String) :
    find? ⟨l₁ ++ l₂⟩ key = (find? ⟨l₁⟩ key).or (find? ⟨l₂⟩ key) := by
  simp only [find?, List.find?_append]
  cases List.find? (fun e => ciEquals e.1 key) l₁ <;> rfl

theorem find?_single (k key : String) (v : α) :
    find? ⟨[(k, v)]⟩ key = if ciEquals k key then some v else none := by
  simp only [find?, List.find?]
  split <;> simp_all

/-- Lookup only sees names up to case. -/
theorem find?_congr (m : CaseInsensitiveMap α) {k key : String} (h : ciEquals k key = true) :
    m.find? k = m.find? key := by
  simp only [ciEquals_iff] at h
  simp only [find?, ciEquals, h]

@[simp] theorem find?_insert (m : CaseInsensitiveMap α) (k key : String) (v : α) :
    (m.insert k v).find? key = (m.find? key).or (if ciEquals k key then some v else none) := by
  unfold insert
  split
  · rename_i w hw
    by_cases hk : ciEquals k key
    · rw [← find?_congr m hk, hw]; rfl
    · simp [hk]
  · exact (find?_append _ _ key).trans (by rw [find?_single])

@[simp] theorem find?_set (m : CaseInsensitiveMap α) (k key : String) (v : α) :
    (m.set k v).find? key = if ciEquals k key then some v else m.find? key := by
  unfold set
  split
  · rename_i w hw
    simp only [find?, List.find?_map]
    have hp : ((fun e : String × α => ciEquals e.1 key) ∘
        fun e => if ciEquals e.1 k then (e.1, v) else e) = fun e => ciEquals e.1 key := by
      funext e; simp only [Function.comp]; split <;> rfl
    rw [hp]
    by_cases hk : ciEquals k key
    · have hfound : m.find? key = some w := (find?_congr m hk).symm.trans hw
      simp only [find?, Option.map_eq_some'] at hfound
      obtain ⟨e, he, rfl⟩ := hfound
      have hek : ciEquals e.1 k = true := by
        simp only [ciEquals_iff] at hk ⊢; rw [hk]; simpa using List.find?_some he
      simp [-ciEquals_iff, he, hek, hk]
    · cases he : List.find? (fun e => ciEquals e.1 key) m.entries with
      | none => simp [hk]
      | some e =>
        have hek : ciEquals e.1 k = false := by
          have hkey := List.find?_some he
          rw [Bool.eq_false_iff]; intro h
          simp only [ciEquals_iff] at hkey h hk
          exact hk (h.symm.trans hkey)
        simp [-ciEquals_iff, hek, hk]
  · rename_i hnone
    rw [find?_append, find?_single]
    by_cases hk : ciEquals k key
    · simp [hk, ← find?_congr m hk, hnone]
    · simp [hk]

end CaseInsensitiveMap

/-! ## Fallible code -/

@[simp] theorem except_ok_bind {ε α β : Type} (a : α) (f : α → Except ε β) :
    (Except.ok a >>= f) = f a := rfl

@[simp] theorem except_error_bind {ε α β : Type} (e : ε) (f : α → Except ε β) :
    (Except.error e >>= f) = Except.error e := rfl

/-! ## Types and values -/

/-- The `LogicalType`s the scan distinguishes, with room for every other type. -/
inductive LogicalType where
  | boolean | integer | bigint | ubigint | double | varchar | blob | date | timestamp
  | decimal (width scale : Nat)
  | list (child : LogicalType)
  deriving DecidableEq, Repr

/-- A DuckDB `Value`, as far as the scan builds one: constants for a whole file. -/
inductive Value where
  /-- `Value(type)`: the NULL of a type. -/
  | null (type : LogicalType)
  /-- `Value(str)`: a VARCHAR. -/
  | varchar (s : Bytes)
  /-- `Value::BLOB_RAW(str)`: the bytes as they are. -/
  | blobRaw (s : Bytes)
  | bigint (v : Int)
  | ubigint (v : Nat)
  /-- The result of a successful `DefaultCastAs`, left symbolic. -/
  | cast (v : Value) (type : LogicalType)
  deriving DecidableEq, Repr

end DeltaScan

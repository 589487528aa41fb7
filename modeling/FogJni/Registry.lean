import FogJni.Native.Heap
import Mathlib.Algebra.Group.Nat.Basic
import Mathlib.Data.List.Nodup

/-! The handle registry each proxy keeps: a counter of the instances created so far (total, not
current) and a `std::map` from handle to the instance's native objects. `initXInstance` hands
out the counter as the handle and increments it; every other entry point reaches the map through
`operator[]`, which inserts a value-initialised entry for a handle it does not hold. The counter
is a 32-bit `int` incremented without a check, so after `2^31` handles it turns negative and
after `2^32` it is back at zero. That signed overflow is undefined in C++; the model follows the
two's-complement wrap the compiled increment performs, and does not end the run there. -/

namespace FogJni

/-- `std::map<int, T>`. -/
abbrev Table (α : Type) := CInt → Option α

namespace Table

variable {α : Type}

/-- `map[h] = e`, for an entry whose fields are all assigned. -/
def set (t : Table α) (h : CInt) (e : α) : Table α := Function.update t h (some e)

/-- `map[h]`: the entry at `h`, after inserting `T()` when there is none. -/
def index [Inhabited α] (t : Table α) (h : CInt) : α × Table α :=
  match t h with
  | some e => (e, t)
  | none => (default, t.set h default)

@[simp] theorem set_same (t : Table α) (h : CInt) (e : α) : t.set h e h = some e :=
  Function.update_same _ _ _

theorem set_ne {t : Table α} {h k : CInt} (e : α) (hk : k ≠ h) : t.set h e k = t k :=
  Function.update_noteq hk _ _

theorem index_some [Inhabited α] {t : Table α} {h : CInt} {e : α} (he : t h = some e) :
    t.index h = (e, t) := by
  simp [index, he]

theorem index_of_isSome [Inhabited α] {t : Table α} {k : CInt} (h : CInt)
    (hk : (t k).isSome) : (t.index h).2 k = t k := by
  unfold index
  split
  · rfl
  · next hn => exact set_ne _ fun hkh => by simp [hkh, hn] at hk

theorem index_cases [Inhabited α] (t : Table α) (h k : CInt) :
    (t.index h).2 k = t k ∨ (t.index h).2 k = some default := by
  unfold index
  split
  · exact .inl rfl
  · by_cases hk : k = h
    · subst hk; exact .inr (set_same _ _ _)
    · exact .inl (set_ne _ hk)

theorem index_fst [Inhabited α] (t : Table α) (h : CInt) :
    (t.index h).2 h = some (t.index h).1 := by
  unfold index
  split
  · assumption
  · exact set_same _ _ _

theorem index_none [Inhabited α] {t : Table α} {h : CInt} (hn : t h = none) :
    (t.index h).1 = default := by
  simp [index, hn]

/-- What holds of `T()` and of the entry the map holds under a handle holds of what
`operator[]` finds there. -/
theorem index_fst_of [Inhabited α] (P : α → Prop) (t : Table α) (h : CInt) (hdef : P default)
    (ht : ∀ e, t h = some e → P e) : P (t.index h).1 := by
  cases hh : t h with
  | none => rw [index_none hh]; exact hdef
  | some e => rw [index_some hh]; exact ht e hh

theorem set_cases {t : Table α} {h k : CInt} {e e' : α} (he : t.set k e h = some e') :
    (h = k ∧ e' = e) ∨ (h ≠ k ∧ t h = some e') := by
  by_cases hk : h = k
  · subst hk; rw [set_same] at he; exact .inl ⟨rfl, (Option.some.inj he).symm⟩
  · rw [set_ne _ hk] at he; exact .inr ⟨hk, he⟩

end Table

structure Registry (α : Type) where
  count : CInt
  table : Table α

namespace Registry

variable {α : Type}

def empty : Registry α := ⟨0, fun _ => none⟩

/-- The bookkeeping of `initXInstance`: the handle is the counter, the counter is incremented,
and the new entry is stored under the handle. -/
def issue (e : α) (r : Registry α) : CInt × Registry α :=
  (r.count, ⟨r.count + 1, r.table.set r.count e⟩)

/-- What one entry point may do to a registry, with the handle it returns: `getInstance` issues
an entry that is none of those in the table; any other entry point looks one handle up through
`operator[]`, or does not touch the registry. -/
inductive Step [Inhabited α] : Registry α → Option CInt → Registry α → Prop
  | issue (r : Registry α) (e : α) (fresh : ∀ h, r.table h ≠ some e) :
      Step r (some r.count) (r.issue e).2
  | index (r : Registry α) (h : CInt) : Step r none ⟨r.count, (r.table.index h).2⟩
  | skip (r : Registry α) : Step r none r

/-! ### The counter as a handle -/

theorem ofNat_ne_ofNat {i j : Nat} (hi : i < 2 ^ 32) (hj : j < 2 ^ 32) (hij : i ≠ j) :
    BitVec.ofNat 32 i ≠ BitVec.ofNat 32 j := by
  intro h
  have := congrArg BitVec.toNat h
  simp only [BitVec.toNat_ofNat, Nat.mod_eq_of_lt hi, Nat.mod_eq_of_lt hj] at this
  exact hij this

theorem toInt_ofNat_of_lt {i : Nat} (hi : i < 2 ^ 31) : (BitVec.ofNat 32 i).toInt = i := by
  rw [BitVec.toInt_eq_toNat_cond, BitVec.toNat_ofNat, Nat.mod_eq_of_lt (by omega),
    if_pos (by omega)]

theorem ofNat_succ (n : Nat) : BitVec.ofNat 32 n + 1 = BitVec.ofNat 32 (n + 1) :=
  (BitVec.ofNat_add n 1).symm

/-! ### The run invariant -/

/-- What holds of a registry `r` reached from `empty`, where `iss` lists the handles issued on
the way, in order, each with the registry its issue left. -/
structure Law (r : Registry α) (iss : List (CInt × Registry α)) : Prop where
  count_eq : r.count = BitVec.ofNat 32 iss.length
  handle_eq : ∀ i (hi : i < iss.length), iss[i].1 = BitVec.ofNat 32 i
  stored : ∀ p ∈ iss, (p.2.table p.1).isSome
  kept : iss.length ≤ 2 ^ 32 → ∀ p ∈ iss, r.table p.1 = p.2.table p.1
  overwritten : ∀ h : 2 ^ 32 < iss.length,
    iss[2 ^ 32].2.table iss[0].1 ≠ iss[0].2.table iss[0].1

theorem Law.empty : Law (empty : Registry α) [] where
  count_eq := rfl
  handle_eq i hi := absurd hi (Nat.not_lt_zero i)
  stored := by simp
  kept := by simp
  overwritten h := absurd h (Nat.not_lt_zero _)

variable {r : Registry α} {iss : List (CInt × Registry α)}

theorem Law.ne_count (hl : Law r iss) (hn : iss.length < 2 ^ 32) {p} (hp : p ∈ iss) :
    p.1 ≠ r.count := by
  obtain ⟨i, hi, rfl⟩ := List.mem_iff_getElem.mp hp
  rw [hl.handle_eq i hi, hl.count_eq]
  exact ofNat_ne_ofNat (by omega) hn (by omega)

theorem Law.issue (hl : Law r iss) {e : α} (fresh : ∀ h, r.table h ≠ some e) :
    Law (r.issue e).2 (iss ++ [(r.count, (r.issue e).2)]) where
  count_eq := by
    simp only [Registry.issue, hl.count_eq, List.length_append, List.length_singleton]
    exact ofNat_succ _
  handle_eq i hi := by
    rw [List.length_append, List.length_singleton] at hi
    rcases Nat.lt_or_ge i iss.length with h | h
    · rw [List.getElem_append_left h]; exact hl.handle_eq i h
    · obtain rfl : i = iss.length := by omega
      rw [List.getElem_concat_length iss _ _ rfl, hl.count_eq]
  stored p hp := by
    rcases List.mem_append.mp hp with hp | hp
    · exact hl.stored p hp
    · rw [List.mem_singleton.mp hp]; simp [Registry.issue]
  kept hn p hp := by
    rw [List.length_append, List.length_singleton] at hn
    rcases List.mem_append.mp hp with hp | hp
    · rw [← hl.kept (by omega) p hp]
      exact Table.set_ne _ (hl.ne_count (by omega) hp)
    · rw [List.mem_singleton.mp hp]
  overwritten h := by
    rw [List.length_append, List.length_singleton] at h
    have h0 : 0 < iss.length := by omega
    rw [List.getElem_append_left h0]
    rcases Nat.lt_or_ge (2 ^ 32) iss.length with hlt | hge
    · rw [List.getElem_append_left hlt]; exact hl.overwritten hlt
    · have hlen : iss.length = 2 ^ 32 := by omega
      have hc : iss[0].1 = r.count := by rw [hl.handle_eq 0 h0, hl.count_eq, hlen]; rfl
      rw [List.getElem_concat_length iss _ _ hlen.symm,
        ← hl.kept (by omega) _ (List.getElem_mem h0), hc]
      simpa [Registry.issue] using (fresh r.count).symm

theorem Law.index [Inhabited α] (hl : Law r iss) (h : CInt) :
    Law ⟨r.count, (r.table.index h).2⟩ iss where
  count_eq := hl.count_eq
  handle_eq := hl.handle_eq
  stored := hl.stored
  kept hn p hp := by
    show (r.table.index h).2 p.1 = _
    rw [Table.index_of_isSome h (by rw [hl.kept hn p hp]; exact hl.stored p hp)]
    exact hl.kept hn p hp
  overwritten := hl.overwritten

/-- One step of any entry point keeps the invariant. -/
theorem Law.step [Inhabited α] (hl : Law r iss) {o : Option CInt} {r' : Registry α}
    (hs : Step r o r') : Law r' (iss ++ (o.map fun h => (h, r')).toList) := by
  cases hs with
  | issue e fresh => exact hl.issue fresh
  | index h => simpa using hl.index h
  | skip => simpa using hl

/-! ### Entries under handles never issued -/

/-- Every entry of `r` is a `T()` that `operator[]` inserted, or sits under a handle in `iss`. -/
def Known [Inhabited α] (r : Registry α) (iss : List (CInt × Registry α)) : Prop :=
  ∀ h e, r.table h = some e → e = default ∨ ∃ p ∈ iss, p.1 = h

theorem Known.empty [Inhabited α] : Known (empty : Registry α) [] := fun _ _ h => by cases h

theorem Known.step [Inhabited α] (hk : Known r iss) {o : Option CInt} {r' : Registry α}
    (hs : Step r o r') : Known r' (iss ++ (o.map fun h => (h, r')).toList) := by
  cases hs with
  | issue e fresh =>
    intro h e' he
    by_cases hh : h = r.count
    · exact .inr ⟨_, List.mem_append_right _ (List.mem_singleton_self _), hh.symm⟩
    · dsimp only [Registry.issue] at he
      rw [Table.set_ne _ hh] at he
      rcases hk h e' he with hd | ⟨p, hp, hph⟩
      · exact .inl hd
      · exact .inr ⟨p, List.mem_append_left _ hp, hph⟩
  | index h' =>
    simp only [Option.map_none', Option.toList_none, List.append_nil]
    intro h e he
    dsimp only at he
    rcases Table.index_cases r.table h' h with hi | hi <;> rw [hi] at he
    · exact hk h e he
    · cases he; exact .inl rfl
  | skip => simpa using hk

/-- `operator[]` on a handle no issue recorded finds `T()`. -/
theorem Known.index_fst [Inhabited α] (hk : Known r iss) {h : CInt} (hn : ∀ p ∈ iss, p.1 ≠ h) :
    (r.table.index h).1 = default := by
  unfold Table.index
  split
  · next e he => exact (hk h e he).resolve_right fun ⟨p, hp, hph⟩ => hn p hp hph
  · rfl

/-! ### The handle law -/

/-- What the handles a run issues (in order, each with the registry its issue left) and the
registry the run ends in satisfy. Handles count up from zero: the first `2^31` are non-negative
and increasing, the first `2^32` distinct, and each keeps the entry its issue stored while no
more than `2^32` were issued. The handle at index `2^31` is negative, and the one at index
`2^32` is the first handle again, whose entry it overwrites. -/
structure HandleLaw (iss : List (CInt × Registry α)) (last : Registry α) : Prop where
  handle_eq : ∀ i (hi : i < iss.length), iss[i].1 = BitVec.ofNat 32 i
  nonneg : iss.length ≤ 2 ^ 31 → ∀ p ∈ iss, 0 ≤ p.1.toInt
  increasing : iss.length ≤ 2 ^ 31 → iss.Pairwise fun p q => p.1.toInt < q.1.toInt
  distinct : iss.length ≤ 2 ^ 32 → (iss.map Prod.fst).Nodup
  kept : iss.length ≤ 2 ^ 32 → ∀ p ∈ iss,
    (p.2.table p.1).isSome ∧ last.table p.1 = p.2.table p.1
  negative : ∀ h : 2 ^ 31 < iss.length, iss[2 ^ 31].1.toInt < 0
  overwritten : ∀ h : 2 ^ 32 < iss.length,
    iss[2 ^ 32].1 = iss[0].1 ∧ iss[2 ^ 32].2.table iss[0].1 ≠ iss[0].2.table iss[0].1

theorem Law.handleLaw (hl : Law r iss) : HandleLaw iss r where
  handle_eq := hl.handle_eq
  nonneg hn p hp := by
    obtain ⟨i, hi, rfl⟩ := List.mem_iff_getElem.mp hp
    rw [hl.handle_eq i hi, toInt_ofNat_of_lt (by omega)]
    exact Int.ofNat_nonneg i
  increasing hn := List.pairwise_iff_getElem.mpr fun i j hi hj hij => by
    rw [hl.handle_eq i hi, hl.handle_eq j hj, toInt_ofNat_of_lt (by omega),
      toInt_ofNat_of_lt (by omega)]
    exact Int.ofNat_lt.mpr hij
  distinct hn := List.pairwise_map.mpr <| List.pairwise_iff_getElem.mpr fun i j hi hj hij => by
    rw [hl.handle_eq i hi, hl.handle_eq j hj]
    exact ofNat_ne_ofNat (by omega) (by omega) (by omega)
  kept hn p hp := ⟨hl.stored p hp, hl.kept hn p hp⟩
  negative h := by rw [hl.handle_eq _ h]; decide
  overwritten h := ⟨by rw [hl.handle_eq _ h, hl.handle_eq 0 (by omega)]; rfl, hl.overwritten h⟩

end Registry

end FogJni

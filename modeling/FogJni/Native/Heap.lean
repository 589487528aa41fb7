import Mathlib.Logic.Function.Basic

/-! The native memory of the proxies. A pointer is `NULL` or the start of a heap block; blocks
are numbered in the order `new` and `malloc` create them and a number is never handed out twice.
A block number is the identity of an allocation rather than an address: the allocator may well
hand a freed address out again, but C++ makes a pointer to a freed object invalid for good, so a
pointer into a freed block stays dangling whatever is allocated later. `new` is taken to succeed;
`malloc` draws on a finite number of free bytes and returns `NULL` when they run out. The
objects `new` creates do not count against those bytes, and neither does the proxies' `std::map`.

An access the C++ standard leaves undefined ends the run with a `Fault`. The one exception is
the overflow of a proxy's signed instance counter, which is modelled as the 32-bit wrap the
compiled code performs (see `Statics.issue`). -/

namespace FogJni

/-- A C `int`, and a JNI `jint`: 32 bits, two's complement. -/
abbrev CInt := BitVec 32

/-- A pointer: `NULL`, or the first byte of a heap block. -/
inductive Ptr where
  | null
  | block (b : Nat)
  deriving DecidableEq, Repr, Inhabited

/-- What a heap block holds: an object of a library class made by `new`, or `n` bytes from
`malloc(n)`. -/
inductive Obj where
  | packetFoG
  | mediaSourceMem
  | mediaSourceMuxer
  | mediaSinkMem
  | bytes (n : Nat)
  deriving DecidableEq, Repr

/-- The bytes a block can take from `memcpy` and the like. -/
def Obj.size : Obj → Nat
  | .bytes n => n
  | _ => 0

inductive Cell where
  | unallocated
  | live (o : Obj)
  | freed
  deriving DecidableEq, Repr

/-- Undefined behaviour: a run that reaches one has no defined continuation. -/
inductive Fault where
  /-- A member call, load or store through `NULL`. -/
  | nullDeref
  | useAfterFree
  | doubleFree
  /-- An access to a block that was never allocated. -/
  | wildPointer
  /-- A copy past the end of a fixed-size buffer. -/
  | bufferOverflow
  /-- A read of memory that was never written. -/
  | indeterminateValue
  deriving DecidableEq, Repr

/-- How a cell may change: a block is allocated once and freed once. -/
inductive Cell.Le : Cell → Cell → Prop
  | refl (c : Cell) : Cell.Le c c
  | alloc (c : Cell) : Cell.Le .unallocated c
  | free (o : Obj) : Cell.Le (.live o) .freed

theorem Cell.Le.trans {a b c : Cell} (hab : a.Le b) (hbc : b.Le c) : a.Le c := by
  cases hab <;> cases hbc <;> constructor

structure Heap where
  next : Nat
  cells : Nat → Cell
  /-- Bytes `malloc` can still hand out. -/
  avail : Nat
  beyond : ∀ b, next ≤ b → cells b = .unallocated

namespace Heap

def init (avail : Nat) : Heap := ⟨0, fun _ => .unallocated, avail, fun _ _ => rfl⟩

/-- A fresh block holding `o`, and `avail'` bytes left for `malloc`. -/
def alloc (o : Obj) (avail' : Nat) (m : Heap) : Heap where
  next := m.next + 1
  cells := Function.update m.cells m.next (.live o)
  avail := avail'
  beyond b hb := by rw [Function.update_noteq (by omega)]; exact m.beyond b (by omega)

/-- `new T(...)`: a fresh block for an object of class `o`. -/
def new (o : Obj) (m : Heap) : Ptr × Heap := (.block m.next, m.alloc o m.avail)

/-- `malloc(n)`: a fresh block of `n` bytes, or `NULL` when fewer than `n` bytes are free. -/
def malloc (n : Nat) (m : Heap) : Ptr × Heap :=
  if n ≤ m.avail then (.block m.next, m.alloc (.bytes n) (m.avail - n)) else (.null, m)

/-- The object behind a pointer, as a member call through it needs it. -/
def deref (m : Heap) : Ptr → Except Fault Obj
  | .null => .error .nullDeref
  | .block b =>
    match m.cells b with
    | .live o => .ok o
    | .freed => .error .useAfterFree
    | .unallocated => .error .wildPointer

theorem lt_next_of_live {m : Heap} {b : Nat} {o : Obj} (h : m.cells b = .live o) : b < m.next :=
  Nat.lt_of_not_le fun hb => by rw [m.beyond b hb] at h; cases h

/-- `free(p)`, and `delete p` once the destructor has run: both do nothing on `NULL`. -/
def free (p : Ptr) (m : Heap) : Except Fault Heap :=
  match p with
  | .null => .ok m
  | .block b =>
    match h : m.cells b with
    | .live o => .ok
      { next := m.next
        cells := Function.update m.cells b .freed
        avail := m.avail + o.size
        beyond := fun b' hb' => by
          rw [Function.update_noteq (by have := lt_next_of_live h; omega)]
          exact m.beyond b' hb' }
    | .freed => .error .doubleFree
    | .unallocated => .error .wildPointer

/-- A write of `n` bytes into the buffer at `p`; writing nothing touches no memory. -/
def write (p : Ptr) (n : Nat) (m : Heap) : Except Fault Unit :=
  if n = 0 then .ok () else do
    let o ← m.deref p
    if n ≤ o.size then .ok () else .error .bufferOverflow

/-- `m'` is `m` after allocations and frees: no block number is taken back, and each cell has
only been allocated or freed. -/
def Le (m m' : Heap) : Prop := m.next ≤ m'.next ∧ ∀ b, (m.cells b).Le (m'.cells b)

theorem Le.refl (m : Heap) : m.Le m := ⟨Nat.le_refl _, fun _ => .refl _⟩

theorem Le.trans {m₁ m₂ m₃ : Heap} (h₁ : m₁.Le m₂) (h₂ : m₂.Le m₃) : m₁.Le m₃ :=
  ⟨Nat.le_trans h₁.1 h₂.1, fun b => (h₁.2 b).trans (h₂.2 b)⟩

theorem le_alloc (o : Obj) (avail' : Nat) (m : Heap) : m.Le (m.alloc o avail') := by
  refine ⟨Nat.le_succ _, fun b => ?_⟩
  by_cases hb : b = m.next
  · subst hb; rw [m.beyond _ (Nat.le_refl _)]; exact .alloc _
  · simp only [alloc, Function.update_noteq hb]; exact .refl _

theorem le_new (o : Obj) (m : Heap) : m.Le (m.new o).2 := le_alloc _ _ _

theorem le_malloc (n : Nat) (m : Heap) : m.Le (m.malloc n).2 := by
  unfold malloc; split
  · exact le_alloc _ _ _
  · exact Le.refl _

theorem le_free {p : Ptr} {m m' : Heap} (h : m.free p = .ok m') : m.Le m' := by
  unfold free at h
  split at h
  · cases h; exact Le.refl _
  · split at h
    · next b o hb =>
      cases h
      refine ⟨Nat.le_refl _, fun b' => ?_⟩
      show (m.cells b').Le (Function.update m.cells b .freed b')
      by_cases hb' : b' = b
      · subst hb'; rw [hb, Function.update_same]; exact .free _
      · rw [Function.update_noteq hb']; exact .refl _
    all_goals cases h

theorem freed_of_free {b : Nat} {m m' : Heap} (h : m.free (.block b) = .ok m') :
    m'.cells b = .freed := by
  dsimp only [free] at h
  split at h
  · cases h; exact Function.update_same b Cell.freed m.cells
  all_goals cases h

@[simp] theorem new_avail (o : Obj) (m : Heap) : (m.new o).2.avail = m.avail := rfl

theorem malloc_of_lt {n : Nat} {m : Heap} (h : m.avail < n) : m.malloc n = (.null, m) := by
  simp [malloc, Nat.not_le.mpr h]

theorem malloc_of_le {n : Nat} {m : Heap} (h : n ≤ m.avail) :
    m.malloc n = (.block m.next, m.alloc (.bytes n) (m.avail - n)) := by
  simp [malloc, h]

theorem malloc_of_ne_null {n : Nat} {m : Heap} (h : (m.malloc n).1 ≠ .null) :
    n ≤ m.avail ∧ (m.malloc n).2 = m.alloc (.bytes n) (m.avail - n) := by
  by_cases hn : n ≤ m.avail
  · simp [malloc, hn]
  · simp [malloc, hn] at h

theorem write_null {n : Nat} {m : Heap} (hn : n ≠ 0) : m.write .null n = .error .nullDeref := by
  unfold write
  rw [if_neg hn]
  rfl

theorem write_ne_null {p : Ptr} {n : Nat} {m : Heap} (h : m.write p n = .ok ()) (hn : n ≠ 0) :
    p ≠ .null := by
  rintro rfl
  unfold write at h
  rw [if_neg hn] at h
  cases h

theorem new_next (o : Obj) (m : Heap) : (m.new o).2.next = m.next + 1 := rfl

end Heap

/-- `p` is `NULL` or a block numbered below `n`: it cannot be a block allocated from `n` on. -/
def Ptr.Below (n : Nat) : Ptr → Prop
  | .null => True
  | .block b => b < n

theorem Ptr.Below.mono {p : Ptr} {n n' : Nat} (h : p.Below n) (hn : n ≤ n') : p.Below n' := by
  cases p with
  | null => trivial
  | block b => exact Nat.lt_of_lt_of_le h hn

/-- A member call through `p` raises `f`, and keeps raising it whatever is allocated or freed
later: `p` is `NULL` and `f` is `nullDeref`, or `p` points into a freed block and `f` is
`useAfterFree`. -/
def Ptr.Dead (m : Heap) (f : Fault) : Ptr → Prop
  | .null => f = .nullDeref
  | .block b => m.cells b = .freed ∧ f = .useAfterFree

theorem Ptr.Dead.mono {p : Ptr} {m m' : Heap} {f : Fault} (h : p.Dead m f) (hm : m.Le m') :
    p.Dead m' f := by
  cases p with
  | null => exact h
  | block b =>
    have := hm.2 b
    rw [h.1] at this
    refine ⟨?_, h.2⟩
    generalize m'.cells b = c at this
    cases this; rfl

theorem Ptr.Dead.deref {p : Ptr} {m : Heap} {f : Fault} (h : p.Dead m f) :
    m.deref p = .error f := by
  cases p with
  | null => rw [show f = _ from h]; rfl
  | block b => simp [Heap.deref, h.1, h.2]

theorem Ptr.Below.ne_block {p : Ptr} {n : Nat} (h : p.Below n) : p ≠ .block n := by
  rintro rfl; exact Nat.lt_irrefl n h

/-- `p` is `NULL` or a block numbered from `n` on: allocated after every block below `n`. -/
def Ptr.From (n : Nat) : Ptr → Prop
  | .null => True
  | .block b => n ≤ b

theorem Ptr.From.mono {p : Ptr} {n n' : Nat} (h : p.From n) (hn : n' ≤ n) : p.From n' := by
  cases p with
  | null => trivial
  | block b => exact Nat.le_trans hn h

theorem Ptr.Below.eq_null {p : Ptr} {n : Nat} (hb : p.Below n) (hf : p.From n) : p = .null := by
  cases p with
  | null => rfl
  | block b => exact absurd hb (Nat.not_lt.mpr hf)

/-! ### Objects that survive -/

namespace Heap

theorem deref_block_eq_ok {m : Heap} {b : Nat} {o : Obj} :
    m.deref (.block b) = .ok o ↔ m.cells b = .live o := by
  cases h : m.cells b <;> simp [deref, h]

/-- Between `m` and `m'` no object outside `S` was freed: every other live object keeps its
block and its class. -/
def Spares (S : List Ptr) (m m' : Heap) : Prop :=
  ∀ q, q ∉ S → ∀ o, m.deref q = .ok o → m'.deref q = .ok o

/-- `m'` keeps every object of `T` that is live in `m`, with its class. -/
def Keeps (T : List Ptr) (m m' : Heap) : Prop :=
  ∀ p ∈ T, ∀ o, m.deref p = .ok o → m'.deref p = .ok o

theorem Spares.refl (S : List Ptr) (m : Heap) : m.Spares S m := fun _ _ _ h => h

theorem Spares.trans {S : List Ptr} {m₁ m₂ m₃ : Heap} (h₁ : m₁.Spares S m₂)
    (h₂ : m₂.Spares S m₃) : m₁.Spares S m₃ :=
  fun q hq o h => h₂ q hq o (h₁ q hq o h)

theorem Keeps.trans {T : List Ptr} {m₁ m₂ m₃ : Heap} (h₁ : m₁.Keeps T m₂) (h₂ : m₂.Keeps T m₃) :
    m₁.Keeps T m₃ :=
  fun p hp o h => h₂ p hp o (h₁ p hp o h)

theorem Spares.keeps {S T : List Ptr} {m m' : Heap} (h : m.Spares S m')
    (hT : ∀ p ∈ T, p ∈ S → p = .null) : m.Keeps T m' :=
  fun p hp o ho => h p (fun hS => by rw [hT p hp hS] at ho; cases ho) o ho

theorem spares_alloc (o : Obj) (avail' : Nat) (S : List Ptr) (m : Heap) :
    m.Spares S (m.alloc o avail') := by
  rintro (_ | b) - o' h
  · cases h
  · rw [deref_block_eq_ok] at h ⊢
    exact (Function.update_noteq (Nat.ne_of_lt (lt_next_of_live h)) _ _).trans h

theorem spares_new (o : Obj) (S : List Ptr) (m : Heap) : m.Spares S (m.new o).2 :=
  spares_alloc _ _ _ _

theorem spares_malloc (n : Nat) (S : List Ptr) (m : Heap) : m.Spares S (m.malloc n).2 := by
  unfold malloc; split
  · exact spares_alloc _ _ _ _
  · exact Spares.refl _ _

theorem deref_free_ne {p q : Ptr} {m m' : Heap} (h : m.free p = .ok m') (hq : q ≠ p) :
    m'.deref q = m.deref q := by
  unfold free at h
  split at h
  · cases h; rfl
  · next b =>
    split at h
    · cases h
      cases q with
      | null => rfl
      | block b' =>
        simp only [deref, Function.update_noteq (show b' ≠ b from fun e => hq (by rw [e]))]
    all_goals cases h

theorem spares_free {p : Ptr} {S : List Ptr} {m m' : Heap} (hp : p ∈ S) (h : m.free p = .ok m') :
    m.Spares S m' :=
  fun q hq o ho => by rw [deref_free_ne h fun e => hq (by rw [e]; exact hp)]; exact ho

theorem deref_free_other {p q : Ptr} {m m' : Heap} {o o' : Obj} (hf : m.free p = .ok m')
    (hp : p = .null ∨ m.deref p = .ok o) (hq : m.deref q = .ok o') (ho : o ≠ o') :
    m'.deref q = .ok o' := by
  rw [deref_free_ne hf]
  · exact hq
  · rintro rfl
    rcases hp with hp | hp
    · rw [hp] at hq; cases hq
    · exact ho (Except.ok.inj (hp.symm.trans hq))

/-- `free` of `NULL` or of a live block completes. -/
theorem free_ok {p : Ptr} {m : Heap} (hp : p = .null ∨ ∃ o, m.deref p = .ok o) :
    ∃ m', m.free p = .ok m' := by
  rcases hp with rfl | ⟨o, ho⟩
  · exact ⟨m, rfl⟩
  cases p with
  | null => cases ho
  | block b =>
    rw [deref_block_eq_ok] at ho
    dsimp only [free]
    split
    · exact ⟨_, rfl⟩
    all_goals next hc => rw [ho] at hc; cases hc

/-- A `free` that completed was of `NULL` or of a live block. -/
theorem live_of_free {p : Ptr} {m m' : Heap} (h : m.free p = .ok m') :
    p = .null ∨ ∃ o, m.deref p = .ok o := by
  cases p with
  | null => exact .inl rfl
  | block b =>
    dsimp only [free] at h
    split at h
    · next o ho => exact .inr ⟨o, deref_block_eq_ok.mpr ho⟩
    all_goals cases h

/-- Each pointer is `NULL` or holds the object beside it. -/
def Holds (m : Heap) (L : List (Ptr × Obj)) : Prop := ∀ q ∈ L, q.1 = .null ∨ m.deref q.1 = .ok q.2

theorem Holds.nil (m : Heap) : m.Holds [] := fun _ h => nomatch h

theorem Holds.cons {p : Ptr} {o : Obj} {L : List (Ptr × Obj)} {m : Heap}
    (hp : p = .null ∨ m.deref p = .ok o) (hL : m.Holds L) : m.Holds ((p, o) :: L) := by
  rintro q (_ | ⟨_, hq⟩)
  · exact hp
  · exact hL q hq

/-- The frame lemma of a sequence of frees: when the objects are of distinct classes, freeing the
first pointer completes and leaves the others as they were. -/
theorem Holds.free_cons {p : Ptr} {o : Obj} {L : List (Ptr × Obj)} {m : Heap}
    (h : m.Holds ((p, o) :: L)) (hn : (((p, o) :: L).map Prod.snd).Nodup) :
    ∃ m', m.free p = .ok m' ∧ m'.Holds L ∧ (L.map Prod.snd).Nodup := by
  have hp := h _ (List.mem_cons_self _ _)
  obtain ⟨m', hm'⟩ := free_ok (hp.imp_right fun h => ⟨o, h⟩)
  rw [List.map_cons, List.nodup_cons] at hn
  refine ⟨m', hm', fun q hq => (h q (List.mem_cons_of_mem _ hq)).imp_right fun hq' => ?_, hn.2⟩
  exact deref_free_other hm' hp hq' fun e => hn.1 (e ▸ List.mem_map_of_mem _ hq)

theorem deref_alloc_next (o : Obj) (avail' : Nat) (m : Heap) :
    (m.alloc o avail').deref (.block m.next) = .ok o :=
  deref_block_eq_ok.mpr (Function.update_same _ _ _)

theorem deref_new (o : Obj) (m : Heap) : (m.new o).2.deref (m.new o).1 = .ok o :=
  deref_alloc_next _ _ _

/-- `malloc` hands out `NULL`, or a fresh block of `n` live bytes. -/
theorem malloc_live (n : Nat) (m : Heap) :
    (m.malloc n).1 = .null ∨ (m.malloc n).2.deref (m.malloc n).1 = .ok (.bytes n) := by
  unfold malloc; split
  · exact .inr (deref_alloc_next _ _ _)
  · exact .inl rfl

theorem malloc_from (n : Nat) (m : Heap) : (m.malloc n).1.From m.next := by
  unfold malloc; split
  · exact Nat.le_refl _
  · trivial

theorem malloc_below (n : Nat) (m : Heap) : (m.malloc n).1.Below (m.malloc n).2.next := by
  unfold malloc; split
  · exact Nat.lt_succ_self _
  · trivial

theorem write_eq_ok {p : Ptr} {k : Nat} {m : Heap} :
    m.write p k = .ok () ↔ k = 0 ∨ ∃ o, m.deref p = .ok o ∧ k ≤ o.size := by
  unfold write
  split
  · simp [*]
  · cases m.deref p <;> simp [*, bind, Except.bind]

/-- A store into a buffer that is `NULL` or `n` live bytes completes exactly when it stores
nothing, or the buffer is there and the bytes fit. -/
theorem write_buffer_eq_ok {p : Ptr} {m : Heap} {n k : Nat}
    (hp : p = .null ∨ m.deref p = .ok (.bytes n)) :
    m.write p k = .ok () ↔ k = 0 ∨ p ≠ .null ∧ k ≤ n := by
  rw [write_eq_ok]
  rcases hp with rfl | hp
  · simp [deref]
  · have hn : p ≠ .null := by rintro rfl; cases hp
    simp [hp, hn, Obj.size]

end Heap

end FogJni

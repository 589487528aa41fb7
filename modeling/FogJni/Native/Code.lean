import FogJni.Native.Heap

/-! The native code an entry point runs: a state monad over the process (its heap, the external
library's state and what `printf` wrote) that stops at the first undefined behaviour. Every
value of the monad carries the proof that it only moves the heap forward (it allocates and frees,
and takes no block number back), so that no proxy has to show it again for each entry point. -/

namespace FogJni

/-- A member function call on the object at a pointer. The library's state, with all its
objects, threads, devices and the network, is the opaque `Λ`. -/
abbrev Method (Λ β : Type) := Ptr → Λ → β × Λ

/-- The native side of the process. -/
structure Process (Λ : Type) where
  heap : Heap
  world : Λ
  stdout : List String

def Process.init {Λ : Type} (world : Λ) (avail : Nat) : Process Λ := ⟨Heap.init avail, world, []⟩

/-- Native code returning a `β`. -/
structure Native (Λ β : Type) where
  run : Process Λ → Except Fault (β × Process Λ)
  grows : ∀ {ps b ps'}, run ps = .ok (b, ps') → ps.heap.Le ps'.heap

namespace Native

variable {Λ β γ : Type}

instance : Monad (Native Λ) where
  pure b := ⟨fun ps => .ok (b, ps), fun h => by cases h; exact .refl _⟩
  bind x f := ⟨fun ps => match x.run ps with
      | .ok (b, ps') => (f b).run ps'
      | .error err => .error err,
    fun h => by
      dsimp only at h
      split at h
      · next b ps' hx => exact (x.grows hx).trans ((f _).grows h)
      · cases h⟩

@[simp] theorem run_pure (b : β) (ps : Process Λ) : (pure b : Native Λ β).run ps = .ok (b, ps) :=
  rfl

theorem run_bind_ok {x : Native Λ β} {f : β → Native Λ γ} {ps ps' : Process Λ} {b : β}
    (hx : x.run ps = .ok (b, ps')) : (x >>= f).run ps = (f b).run ps' := by
  show (match x.run ps with | .ok (b, ps') => (f b).run ps' | .error err => .error err) = _
  rw [hx]

theorem run_bind_error {x : Native Λ β} {f : β → Native Λ γ} {ps : Process Λ} {err : Fault}
    (hx : x.run ps = .error err) : (x >>= f).run ps = .error err := by
  show (match x.run ps with | .ok (b, ps') => (f b).run ps' | .error err => .error err) = _
  rw [hx]

/-- The bind lemma: a completed sequence completed its first part. -/
theorem run_bind_eq_ok {x : Native Λ β} {f : β → Native Λ γ} {ps ps'' : Process Λ} {c : γ}
    (h : (x >>= f).run ps = .ok (c, ps'')) :
    ∃ b ps', x.run ps = .ok (b, ps') ∧ (f b).run ps' = .ok (c, ps'') := by
  cases hx : x.run ps with
  | error err => rw [run_bind_error hx] at h; cases h
  | ok bp => exact ⟨bp.1, bp.2, rfl, by rwa [run_bind_ok hx] at h⟩

def fault (f : Fault) : Native Λ β := ⟨fun _ => .error f, fun h => by cases h⟩

/-- A JNI computation that may fail. -/
def lift : Except Fault β → Native Λ β
  | .ok b => pure b
  | .error f => fault f

/-- `p->m(...)`: a member call needs a live object behind `p`. -/
def invoke (p : Ptr) (m : Method Λ β) : Native Λ β where
  run ps := match ps.heap.deref p with
    | .ok _ => .ok ((m p ps.world).1, { ps with world := (m p ps.world).2 })
    | .error f => .error f
  grows h := by dsimp only at h; split at h <;> cases h; exact .refl _

/-- A process-wide library call, such as `Socket::DisableIPv6Support()` or the `LOGGER`'s. -/
def library (f : Λ → Λ) : Native Λ Unit :=
  ⟨fun ps => .ok ((), { ps with world := f ps.world }), fun h => by cases h; exact .refl _⟩

/-- `new T(...)`: a fresh block for a `T`, then the constructor on it. -/
def new (o : Obj) (ctor : Method Λ Unit) : Native Λ Ptr where
  run ps := .ok ((ps.heap.new o).1,
    { ps with heap := (ps.heap.new o).2, world := (ctor (ps.heap.new o).1 ps.world).2 })
  grows h := by cases h; exact Heap.le_new o _

def malloc (n : Nat) : Native Λ Ptr where
  run ps := .ok ((ps.heap.malloc n).1, { ps with heap := (ps.heap.malloc n).2 })
  grows h := by cases h; exact Heap.le_malloc n _

def free (p : Ptr) : Native Λ Unit where
  run ps := match ps.heap.free p with
    | .ok heap => .ok ((), { ps with heap })
    | .error f => .error f
  grows h := by
    dsimp only at h
    split at h <;> cases h
    next heq => exact Heap.le_free heq

/-- `delete p`: nothing on `NULL`; otherwise the destructor, then the block is freed. -/
def delete (p : Ptr) (dtor : Method Λ Unit) : Native Λ Unit :=
  match p with
  | .null => pure ()
  | p => do invoke p dtor; free p

/-- A write of `n` bytes into the buffer at `p`. -/
def write (p : Ptr) (n : Nat) : Native Λ Unit where
  run ps := match ps.heap.write p n with
    | .ok () => .ok ((), ps)
    | .error f => .error f
  grows h := by dsimp only at h; split at h <;> cases h; exact .refl _

def printf (msg : String) : Native Λ Unit :=
  ⟨fun ps => .ok ((), { ps with stdout := ps.stdout ++ [msg] }),
    fun h => by cases h; exact .refl _⟩

theorem run_invoke_error {p : Ptr} {m : Method Λ β} {ps : Process Λ} {f : Fault}
    (hp : ps.heap.deref p = .error f) : (invoke p m).run ps = .error f := by
  simp [invoke, hp]

theorem run_invoke_ok {p : Ptr} {m : Method Λ β} {ps : Process Λ} {o : Obj}
    (hp : ps.heap.deref p = .ok o) :
    (invoke p m).run ps = .ok ((m p ps.world).1, { ps with world := (m p ps.world).2 }) := by
  simp [invoke, hp]

theorem run_new (o : Obj) (ctor : Method Λ Unit) (ps : Process Λ) :
    (new o ctor).run ps = .ok (.block ps.heap.next,
      { ps with heap := (ps.heap.new o).2, world := (ctor (.block ps.heap.next) ps.world).2 }) :=
  rfl

theorem run_library (f : Λ → Λ) (ps : Process Λ) :
    (library f).run ps = .ok ((), { ps with world := f ps.world }) := rfl

theorem run_malloc (n : Nat) (ps : Process Λ) :
    (malloc n).run ps = .ok ((ps.heap.malloc n).1, { ps with heap := (ps.heap.malloc n).2 }) := rfl

@[simp] theorem run_lift_ok (b : β) (ps : Process Λ) : (lift (.ok b)).run ps = .ok (b, ps) := rfl

theorem run_write_error {p : Ptr} {n : Nat} {ps : Process Λ} {f : Fault}
    (h : ps.heap.write p n = .error f) : (write p n).run ps = .error f := by
  simp [write, h]

theorem run_lift_eq_ok {e : Except Fault β} {ps ps' : Process Λ} {b : β}
    (h : (lift e).run ps = .ok (b, ps')) : e = .ok b ∧ ps' = ps := by
  cases e with
  | error f => cases h
  | ok b' => cases h; exact ⟨rfl, rfl⟩

theorem run_invoke_eq_ok {p : Ptr} {m : Method Λ β} {ps ps' : Process Λ} {b : β}
    (h : (invoke p m).run ps = .ok (b, ps')) : ps'.heap = ps.heap := by
  simp only [invoke] at h
  split at h <;> cases h
  rfl

theorem run_write_eq_ok {p : Ptr} {n : Nat} {ps ps' : Process Λ}
    (h : (write p n).run ps = .ok ((), ps')) : ps' = ps ∧ ps.heap.write p n = .ok () := by
  simp only [write] at h
  split at h <;> cases h
  exact ⟨rfl, ‹_›⟩

/-- Every completed run of `x` returns a value with `P`. -/
def Returns (x : Native Λ β) (P : β → Prop) : Prop :=
  ∀ ps b ps', x.run ps = .ok (b, ps') → P b

theorem Returns.pure {P : β → Prop} {b : β} (h : P b) : Returns (Pure.pure b : Native Λ β) P :=
  fun _ _ _ hr => by cases hr; exact h

theorem Returns.bind {x : Native Λ β} {f : β → Native Λ γ} {P : γ → Prop}
    (h : ∀ b, Returns (f b) P) : Returns (x >>= f) P := fun _ _ _ hr => by
  obtain ⟨b, ps', -, hf⟩ := run_bind_eq_ok hr
  exact h b _ _ _ hf

theorem Returns.ite {c : Prop} [Decidable c] {x y : Native Λ β} {P : β → Prop}
    (hx : Returns x P) (hy : Returns y P) : Returns (if c then x else y) P := by
  split <;> assumption

/-- `x` completes from every process. -/
def Total (x : Native Λ β) : Prop := ∀ ps, ∃ b ps', x.run ps = .ok (b, ps')

theorem Total.pure (b : β) : Total (Pure.pure b : Native Λ β) := fun ps => ⟨b, ps, rfl⟩

theorem Total.bind {x : Native Λ β} {f : β → Native Λ γ} (hx : Total x) (hf : ∀ b, Total (f b)) :
    Total (x >>= f) := fun ps => by
  obtain ⟨b, ps', h⟩ := hx ps
  rw [run_bind_ok h]
  exact hf b ps'

theorem Total.ite {c : Prop} [Decidable c] {x y : Native Λ β} (hx : Total x) (hy : Total y) :
    Total (if c then x else y) := by
  split <;> assumption

theorem run_invoke_bind_total {p : Ptr} {m : Method Λ β} {f : β → Native Λ γ} {ps : Process Λ}
    (o : Obj) (hp : ps.heap.deref p = .ok o) (hf : ∀ b, Total (f b)) :
    ∃ c ps', (invoke p m >>= f).run ps = .ok (c, ps') := by
  rw [run_bind_ok (run_invoke_ok hp)]
  exact hf _ _

theorem total_library (f : Λ → Λ) : Total (library f) := fun _ => ⟨_, _, rfl⟩

theorem total_new (o : Obj) (ctor : Method Λ Unit) : Total (new o ctor) := fun _ => ⟨_, _, rfl⟩

theorem total_malloc (n : Nat) : Total (malloc n : Native Λ Ptr) := fun _ => ⟨_, _, rfl⟩

theorem total_printf (msg : String) : Total (printf msg : Native Λ Unit) := fun _ => ⟨_, _, rfl⟩

/-! ### Code on dead pointers -/

/-- `x` raises `err` from every process in which a member call through `p` raises `err` for
good. -/
def Guarded (x : Native Λ β) (p : Ptr) : Prop :=
  ∀ ps err, p.Dead ps.heap err → x.run ps = .error err

theorem Guarded.invoke (p : Ptr) (m : Method Λ β) : Guarded (invoke p m) p := fun _ _ hp =>
  run_invoke_error hp.deref

theorem Guarded.bind_left {x : Native Λ β} {f : β → Native Λ γ} {p : Ptr} (hx : Guarded x p) :
    Guarded (x >>= f) p := fun ps err hp =>
  run_bind_error (hx ps err hp)

theorem Guarded.map {x : Native Λ β} {g : β → γ} {p : Ptr} (hx : Guarded x p) :
    Guarded (g <$> x) p :=
  hx.bind_left

/-- Code that always completes before code that faults on a dead `p` cannot bring `p` back. -/
theorem Guarded.bind {x : Native Λ β} {f : β → Native Λ γ} {p : Ptr} (hx : Total x)
    (hf : ∀ b, Guarded (f b) p) : Guarded (x >>= f) p := fun ps err hp => by
  obtain ⟨b, ps', h⟩ := hx ps
  rw [run_bind_ok h]
  exact hf b ps' err (hp.mono (x.grows h))

/-- Every completed run of `x` leaves `p` pointing into a freed block. -/
def Kills (x : Native Λ β) (p : Ptr) : Prop :=
  ∀ ps b ps', x.run ps = .ok (b, ps') → p.Dead ps'.heap .useAfterFree

theorem Kills.bind_left {x : Native Λ β} {f : β → Native Λ γ} {p : Ptr} (hx : Kills x p) :
    Kills (x >>= f) p := fun _ _ _ h => by
  obtain ⟨b, ps', hx', hf⟩ := run_bind_eq_ok h
  exact (hx _ _ _ hx').mono ((f b).grows hf)

theorem Kills.bind {x : Native Λ β} {f : β → Native Λ γ} {p : Ptr} (hf : ∀ b, Kills (f b) p) :
    Kills (x >>= f) p := fun _ _ _ h => by
  obtain ⟨b, ps', -, hf'⟩ := run_bind_eq_ok h
  exact hf b _ _ _ hf'

theorem Kills.invoke_bind {p : Ptr} {m : Method Λ β} {f : β → Native Λ γ}
    (hf : ∀ b, p ≠ .null → Kills (f b) p) : Kills (invoke p m >>= f) p := fun _ _ _ h => by
  obtain ⟨b, ps', hi, hf'⟩ := run_bind_eq_ok h
  refine hf b ?_ _ _ _ hf'
  rintro rfl
  exact nomatch hi

theorem kills_free {p : Ptr} (hp : p ≠ .null) : Kills (free p : Native Λ Unit) p :=
  fun ps _ _ h => by
    cases p with
    | null => exact absurd rfl hp
    | block b =>
      simp only [free] at h
      split at h
      · next heap hf => cases h; exact ⟨Heap.freed_of_free hf, rfl⟩
      · cases h

theorem kills_delete {p : Ptr} (dtor : Method Λ Unit) (hp : p ≠ .null) :
    Kills (delete p dtor) p := by
  cases p with
  | null => exact absurd rfl hp
  | block b => exact Kills.bind fun _ => kills_free hp

/-! ### What code frees -/

/-- Every completed run of `x` frees no object outside `S`. -/
def Frees (x : Native Λ β) (S : List Ptr) : Prop :=
  ∀ ps b ps', x.run ps = .ok (b, ps') → ps.heap.Spares S ps'.heap

theorem Frees.pure (b : β) (S : List Ptr) : Frees (Pure.pure b : Native Λ β) S :=
  fun _ _ _ h => by cases h; exact Heap.Spares.refl _ _

theorem Frees.bind {x : Native Λ β} {f : β → Native Λ γ} {S : List Ptr} (hx : Frees x S)
    (hf : ∀ b, Frees (f b) S) : Frees (x >>= f) S := fun _ _ _ h => by
  obtain ⟨b, ps', hx', hf'⟩ := run_bind_eq_ok h
  exact (hx _ _ _ hx').trans (hf b _ _ _ hf')

theorem Frees.ite {c : Prop} [Decidable c] {x y : Native Λ β} {S : List Ptr} (hx : Frees x S)
    (hy : Frees y S) : Frees (if c then x else y) S := by
  split <;> assumption

theorem frees_invoke (p : Ptr) (m : Method Λ β) (S : List Ptr) : Frees (invoke p m) S :=
  fun _ _ _ h => by rw [run_invoke_eq_ok h]; exact Heap.Spares.refl _ _

theorem frees_library (f : Λ → Λ) (S : List Ptr) : Frees (library f) S :=
  fun _ _ _ h => by cases h; exact Heap.Spares.refl _ _

theorem frees_malloc (n : Nat) (S : List Ptr) : Frees (malloc n : Native Λ Ptr) S :=
  fun _ _ _ h => by cases h; exact Heap.spares_malloc _ _ _

theorem frees_write (p : Ptr) (n : Nat) (S : List Ptr) : Frees (write p n : Native Λ Unit) S :=
  fun _ _ _ h => by rw [(run_write_eq_ok h).1]; exact Heap.Spares.refl _ _

theorem frees_printf (msg : String) (S : List Ptr) : Frees (printf msg : Native Λ Unit) S :=
  fun _ _ _ h => by cases h; exact Heap.Spares.refl _ _

theorem frees_lift (e : Except Fault β) (S : List Ptr) : Frees (lift e : Native Λ β) S :=
  fun _ _ _ h => by rw [(run_lift_eq_ok h).2]; exact Heap.Spares.refl _ _

theorem frees_fault (f : Fault) (S : List Ptr) : Frees (fault f : Native Λ β) S :=
  fun _ _ _ h => nomatch h

theorem frees_free {p : Ptr} {S : List Ptr} (hp : p ∈ S) : Frees (free p : Native Λ Unit) S :=
  fun _ _ _ h => by
    simp only [free] at h
    split at h
    · next heap hf => cases h; exact Heap.spares_free hp hf
    · cases h

theorem frees_delete {p : Ptr} (dtor : Method Λ Unit) {S : List Ptr} (hp : p ∈ S) :
    Frees (delete p dtor) S := by
  cases p with
  | null => exact Frees.pure _ _
  | block b => exact (frees_invoke _ _ _).bind fun _ => frees_free hp

/-! ### Code on live objects -/

theorem run_free_ok {p : Ptr} {ps : Process Λ} {m : Heap} (h : ps.heap.free p = .ok m) :
    (free p).run ps = .ok ((), { ps with heap := m }) := by
  simp [free, h]

theorem run_delete_ok {p : Ptr} {dtor : Method Λ Unit} {ps : Process Λ} {o : Obj} {m : Heap}
    (hp : ps.heap.deref p = .ok o) (h : ps.heap.free p = .ok m) :
    (delete p dtor).run ps = .ok ((), { ps with heap := m, world := (dtor p ps.world).2 }) := by
  cases p with
  | null => cases hp
  | block b =>
    rw [delete, run_bind_ok (run_invoke_ok hp)]
    · exact run_free_ok h
    · exact fun e => nomatch e

/-- `x` completes from every process whose heap is `m`, whatever the library's state. -/
def CompletesOn (x : Native Λ β) (m : Heap) : Prop :=
  ∀ ps : Process Λ, ps.heap = m → ∃ b ps', x.run ps = .ok (b, ps')

theorem CompletesOn.pure (b : β) (m : Heap) : CompletesOn (Pure.pure b : Native Λ β) m :=
  fun ps _ => ⟨b, ps, rfl⟩

/-- The sequencing rule: `x` completes on `m`, and `f` completes on every heap `x` can leave. -/
theorem CompletesOn.bind {x : Native Λ β} {f : β → Native Λ γ} {m : Heap} (hx : CompletesOn x m)
    (hf : ∀ ps b ps', ps.heap = m → x.run ps = .ok (b, ps') → CompletesOn (f b) ps'.heap) :
    CompletesOn (x >>= f) m := fun ps hm => by
  obtain ⟨b, ps', h⟩ := hx ps hm
  rw [run_bind_ok h]
  exact hf ps b ps' hm h ps' rfl

theorem CompletesOn.ite {c : Prop} [Decidable c] {x y : Native Λ β} {m : Heap}
    (hx : c → CompletesOn x m) (hy : ¬c → CompletesOn y m) :
    CompletesOn (if c then x else y) m := by
  split
  · exact hx ‹_›
  · exact hy ‹_›

theorem CompletesOn.bind_same {x : Native Λ β} {f : β → Native Λ γ} {m : Heap}
    (hx : CompletesOn x m) (hheap : ∀ {ps b ps'}, x.run ps = .ok (b, ps') → ps'.heap = ps.heap)
    (hf : ∀ b, CompletesOn (f b) m) : CompletesOn (x >>= f) m :=
  hx.bind fun _ b _ hm h => by rw [hheap h, hm]; exact hf b

theorem CompletesOn.invoke {p : Ptr} {m : Heap} {o : Obj} (meth : Method Λ β)
    (hp : m.deref p = .ok o) : CompletesOn (Native.invoke p meth) m :=
  fun _ hm => ⟨_, _, run_invoke_ok (hm ▸ hp)⟩

theorem CompletesOn.invoke_bind {p : Ptr} {m : Heap} {o : Obj} {meth : Method Λ β}
    {f : β → Native Λ γ} (hp : m.deref p = .ok o) (hf : ∀ b, CompletesOn (f b) m) :
    CompletesOn (Native.invoke p meth >>= f) m :=
  (CompletesOn.invoke meth hp).bind_same run_invoke_eq_ok hf

theorem CompletesOn.write_bind {p : Ptr} {n : Nat} {m : Heap} {f : Unit → Native Λ γ}
    (hw : m.write p n = .ok ()) (hf : CompletesOn (f ()) m) : CompletesOn (write p n >>= f) m :=
  CompletesOn.bind_same (fun ps hm => ⟨(), ps, by simp [write, hm, hw]⟩)
    (fun h => congrArg Process.heap (run_write_eq_ok h).1) fun _ => hf

theorem CompletesOn.printf_bind {msg : String} {m : Heap} {f : Unit → Native Λ γ}
    (hf : CompletesOn (f ()) m) : CompletesOn (printf msg >>= f) m :=
  CompletesOn.bind_same (fun ps _ => total_printf msg ps) (fun h => by cases h; rfl) fun _ => hf

theorem CompletesOn.lift_bind {e : Except Fault β} {b : β} {m : Heap} {f : β → Native Λ γ}
    (he : e = .ok b) (hf : CompletesOn (f b) m) : CompletesOn (lift e >>= f) m := by
  subst he
  exact CompletesOn.bind (fun ps _ => ⟨b, ps, rfl⟩) fun _ _ _ hm h => by cases h; rw [hm]; exact hf

theorem CompletesOn.malloc_bind {n : Nat} {m : Heap} {f : Ptr → Native Λ γ}
    (hf : CompletesOn (f (m.malloc n).1) (m.malloc n).2) : CompletesOn (malloc n >>= f) m :=
  CompletesOn.bind (fun ps _ => total_malloc n ps) fun _ _ _ hm h => by cases h; cases hm; exact hf

theorem CompletesOn.free_bind {p : Ptr} {m m' : Heap} {f : Unit → Native Λ γ}
    (hp : m.free p = .ok m') (hf : CompletesOn (f ()) m') : CompletesOn (free p >>= f) m :=
  CompletesOn.bind (fun ps hm => ⟨(), _, run_free_ok (hm ▸ hp)⟩) fun _ _ _ hm h => by
    subst hm; rw [run_free_ok hp] at h; cases h; exact hf

/-- A `delete` that frees completes: the block was live, and its destructor runs. -/
theorem CompletesOn.delete_bind {p : Ptr} {dtor : Method Λ Unit} {m m' : Heap}
    {f : Unit → Native Λ γ} (hfree : m.free p = .ok m') (hf : CompletesOn (f ()) m') :
    CompletesOn (delete p dtor >>= f) m := by
  rcases Heap.live_of_free hfree with rfl | ⟨o, hp⟩
  · cases hfree
    exact fun ps hm => by rw [delete, run_bind_ok (run_pure _ _)]; exact hf ps hm
  · exact CompletesOn.bind (fun ps hm => ⟨(), _, run_delete_ok (hm ▸ hp) (hm ▸ hfree)⟩)
      fun _ _ _ hm h => by subst hm; rw [run_delete_ok hp hfree] at h; cases h; exact hf

end Native

end FogJni

import FogJni.Facade
import FogJni.Native.Code

/-! The statics every proxy keeps (its instance counter, its map from handle to instance, and
the process they live in) and the shapes its entry points have: `getInstance` issues a handle,
and every other entry point looks its handle up with `operator[]` and runs native code on the
entry it finds, or runs native code without a handle. A step of any of these shapes is a
registry `Step`, so a proxy whose entry points all have one of them is a `Facade`. -/

namespace FogJni

/-- `static int sInstanceCount` (the `count`), `static map<int, T> sT` (the `table`) and the
process. -/
structure Statics (E Λ : Type) where
  count : CInt
  table : Table E
  proc : Process Λ

namespace Statics

variable {E Λ : Type}

def registry (s : Statics E Λ) : Registry E := ⟨s.count, s.table⟩

/-- The statics of a fresh process: the counter is `0` and the map empty. -/
def init (world : Λ) (avail : Nat) : Statics E Λ := ⟨0, fun _ => none, Process.init world avail⟩

/-- `initXInstance`: the handle is the counter, which is incremented; `build` creates the
instance's objects, and the entry is stored under the handle. `build` does not read the counter,
so running it before the increment changes nothing. The increment wraps at `2^31`, as the
compiled code does, where C++ leaves the signed overflow undefined. -/
def issue (build : Native Λ E) (s : Statics E Λ) : Except Fault (CInt × Statics E Λ) :=
  match build.run s.proc with
  | .ok (e, proc) => .ok (s.count, ⟨s.count + 1, s.table.set s.count e, proc⟩)
  | .error f => .error f

/-- `getInstance`: `return initXInstance();`, the handle going back to Java as a `jint`. -/
def getInstance (init : Statics E Λ → Except Fault (CInt × Statics E Λ)) (s : Statics E Λ) :
    Except Fault (Ret × Statics E Λ) :=
  (init s).map fun (tHandle, s) => (.jint tHandle, s)

/-- `sT[pHandle]`, and the native code run on the entry found. -/
def onEntry [Inhabited E] (pHandle : CInt) (k : E → Native Λ Ret) (s : Statics E Λ) :
    Except Fault (Ret × Statics E Λ) :=
  match (k (s.table.index pHandle).1).run s.proc with
  | .ok (r, proc) => .ok (r, ⟨s.count, (s.table.index pHandle).2, proc⟩)
  | .error f => .error f

/-- Native code that does not touch the registry. -/
def onProcess (k : Native Λ Ret) (s : Statics E Λ) : Except Fault (Ret × Statics E Λ) :=
  match k.run s.proc with
  | .ok (r, proc) => .ok (r, { s with proc })
  | .error f => .error f

theorem onEntry_error [Inhabited E] {s : Statics E Λ} {pHandle : CInt} {k : E → Native Λ Ret}
    {f : Fault} (hk : (k (s.table.index pHandle).1).run s.proc = .error f) :
    s.onEntry pHandle k = .error f := by
  rw [onEntry, hk]

theorem onEntry_fault [Inhabited E] {s : Statics E Λ} {pHandle : CInt} {k : E → Native Λ Ret}
    {p : Ptr} {f : Fault} (hk : Native.Guarded (k (s.table.index pHandle).1) p)
    (hp : p.Dead s.proc.heap f) : s.onEntry pHandle k = .error f :=
  onEntry_error (hk _ _ hp)

theorem onEntry_run [Inhabited E] {s s' : Statics E Λ} {r : Ret} {pHandle : CInt}
    {k : E → Native Λ Ret} (h : s.onEntry pHandle k = .ok (r, s')) :
    (k (s.table.index pHandle).1).run s.proc = .ok (r, s'.proc) := by
  unfold onEntry at h
  split at h
  · next r' proc hrun => cases h; exact hrun
  · cases h

/-- What the code of an entry point leaves true of the entry it ran on holds of the entry the
map keeps under the handle. -/
theorem onEntry_ensures [Inhabited E] {s s' : Statics E Λ} {r : Ret} {pHandle : CInt}
    {k : E → Native Λ Ret} (D : E → Heap → Prop) (h : s.onEntry pHandle k = .ok (r, s'))
    (hk : ∀ e ps b ps', (k e).run ps = .ok (b, ps') → D e ps'.heap) :
    s'.table pHandle = some (s.table.index pHandle).1 ∧
      D (s.table.index pHandle).1 s'.proc.heap := by
  unfold onEntry at h
  split at h
  · next r' proc hrun => cases h; exact ⟨Table.index_fst _ _, hk _ _ _ _ hrun⟩
  · cases h

theorem issue_eq_ok {s s' : Statics E Λ} {build : Native Λ E} {h : CInt}
    (hi : s.issue build = .ok (h, s')) :
    h = s.count ∧ ∃ e, build.run s.proc = .ok (e, s'.proc) ∧ s'.table s.count = some e := by
  unfold issue at hi
  split at hi
  · next e proc hrun => cases hi; exact ⟨rfl, e, hrun, Table.set_same _ _ _⟩
  · cases hi

theorem issue_total {build : Native Λ E} (hb : Native.Total build) (s : Statics E Λ) :
    ∃ s', s.issue build = .ok (s.count, s') := by
  obtain ⟨e, proc, h⟩ := hb s.proc
  exact ⟨_, by rw [issue, h]⟩

theorem getInstance_inv {init : Statics E Λ → Except Fault (CInt × Statics E Λ)}
    {s s' : Statics E Λ} {r : Ret} (h : getInstance init s = .ok (r, s')) :
    ∃ hd, init s = .ok (hd, s') ∧ r = .jint hd := by
  unfold getInstance at h
  cases hi : init s with
  | error f => rw [hi] at h; cases h
  | ok hs => obtain ⟨hd, s₁⟩ := hs; rw [hi] at h; cases h; exact ⟨hd, rfl, rfl⟩

/-- `getInstance` hands out the counter, and stores under it what creating the objects
returned. -/
theorem getInstance_eq_ok {s s' : Statics E Λ} {build : Native Λ E} {r : Ret}
    (h : getInstance (issue build) s = .ok (r, s')) :
    r = .jint s.count ∧ ∃ e, build.run s.proc = .ok (e, s'.proc) ∧ s'.table s.count = some e := by
  obtain ⟨hd, hi, rfl⟩ := getInstance_inv h
  obtain ⟨rfl, he⟩ := issue_eq_ok hi
  exact ⟨rfl, he⟩

theorem getInstance_total {build : Native Λ E} (hb : Native.Total build) (s : Statics E Λ) :
    ∃ s', getInstance (issue build) s = .ok (.jint s.count, s') := by
  obtain ⟨s', hs⟩ := issue_total hb s
  exact ⟨s', by rw [getInstance, hs]; rfl⟩

/-! ### What a step may do -/

/-- Every object `first` in the map is `NULL` or allocated already: none is the block `new`
hands out next. -/
def Inv (first : E → Ptr) (s : Statics E Λ) : Prop :=
  ∀ k e, s.table k = some e → (first e).Below s.proc.heap.next

theorem Inv.init (first : E → Ptr) (world : Λ) (avail : Nat) :
    Inv first (init world avail : Statics E Λ) :=
  fun _ _ h => by cases h

section Step

variable [Inhabited E] (first : E → Ptr)

/-- What one entry point may do to the statics, with the handle it returns: issue an entry
whose object `first` is the block allocated next, look one handle up, or leave the registry
alone. Native code moves the heap forward only. -/
inductive Step : Statics E Λ → Option CInt → Statics E Λ → Prop
  | issue (s : Statics E Λ) (e : E) (proc : Process Λ)
      (hfirst : first e = .block s.proc.heap.next) (hgrows : s.proc.heap.Le proc.heap)
      (hnext : s.proc.heap.next < proc.heap.next) :
      Step s (some s.count) ⟨s.count + 1, s.table.set s.count e, proc⟩
  | index (s : Statics E Λ) (pHandle : CInt) (proc : Process Λ)
      (hgrows : s.proc.heap.Le proc.heap) :
      Step s none ⟨s.count, (s.table.index pHandle).2, proc⟩
  | skip (s : Statics E Λ) (proc : Process Λ) (hgrows : s.proc.heap.Le proc.heap) :
      Step s none { s with proc }

variable {first} {s s' : Statics E Λ} {r : Ret}

theorem issue_step {build : Native Λ E} {h : CInt} (hi : s.issue build = .ok (h, s'))
    (hb : ∀ {ps e ps'}, build.run ps = .ok (e, ps') →
      first e = .block ps.heap.next ∧ ps.heap.next < ps'.heap.next) :
    h = s.count ∧ Step first s (some s.count) s' := by
  unfold issue at hi
  split at hi
  · next e proc hrun =>
    cases hi
    exact ⟨rfl, .issue s e proc (hb hrun).1 (build.grows hrun) (hb hrun).2⟩
  · cases hi

theorem onEntry_step {pHandle : CInt} {k : E → Native Λ Ret}
    (h : s.onEntry pHandle k = .ok (r, s')) : Step first s none s' := by
  unfold onEntry at h
  split at h
  · next r' proc hrun => cases h; exact .index s pHandle proc (Native.grows _ hrun)
  · cases h

theorem onProcess_step {k : Native Λ Ret} (h : s.onProcess k = .ok (r, s')) :
    Step first s none s' := by
  unfold onProcess at h
  split at h
  · next r' proc hrun => cases h; exact .skip s proc (Native.grows _ hrun)
  · cases h

theorem getInstance_step {build : Native Λ E} (h : getInstance (issue build) s = .ok (r, s'))
    (hb : ∀ {ps e ps'}, build.run ps = .ok (e, ps') →
      first e = .block ps.heap.next ∧ ps.heap.next < ps'.heap.next) :
    r = .jint s.count ∧ Step first s (some s.count) s' := by
  obtain ⟨hd, hi, rfl⟩ := getInstance_inv h
  obtain ⟨rfl, hst⟩ := issue_step hi hb
  exact ⟨rfl, hst⟩

theorem Inv.step (hdef : first default = .null) (hs : Inv first s) {o : Option CInt}
    (hst : Step first s o s') : Inv first s' := by
  cases hst with
  | issue e proc hfirst hgrows hnext =>
    intro k e' hk
    dsimp only at hk ⊢
    by_cases hkc : k = s.count
    · subst hkc
      rw [Table.set_same, Option.some.injEq] at hk
      subst hk
      rw [hfirst]
      exact hnext
    · rw [Table.set_ne _ hkc] at hk
      exact (hs k e' hk).mono hnext.le
  | index pHandle proc hgrows =>
    intro k e hk
    dsimp only at hk ⊢
    rcases Table.index_cases s.table pHandle k with h | h <;> rw [h] at hk
    · exact (hs k e hk).mono hgrows.1
    · cases hk; rw [hdef]; trivial
  | skip proc hgrows => exact fun k e hk => (hs k e hk).mono hgrows.1

theorem Step.le (hst : Step first s o s') : s.proc.heap.Le s'.proc.heap := by
  cases hst with
  | issue _ _ _ hgrows => exact hgrows
  | index _ _ hgrows => exact hgrows
  | skip _ hgrows => exact hgrows

theorem Step.table_stays {h : CInt} {e : E} (hst : Step first s o s') (he : s.table h = some e)
    (ho : o ≠ some h) : s'.table h = some e := by
  cases hst with
  | issue e' => exact (Table.set_ne e' fun hc => ho (by rw [hc])).trans he
  | index pHandle => exact (Table.index_of_isSome pHandle (by rw [he]; rfl)).trans he
  | skip => exact he

/-- Where an entry of the map after a step comes from: it was there before, it is the `T()`
that `operator[]` inserted, or the step issued it. -/
theorem Step.table_cases (hst : Step first s o s') {h : CInt} {e : E} (he : s'.table h = some e) :
    s.table h = some e ∨ e = default ∨ o = some s.count ∧ s'.table s.count = some e := by
  cases hst with
  | issue e' =>
    rcases Table.set_cases he with ⟨rfl, rfl⟩ | ⟨-, he⟩
    · exact .inr (.inr ⟨rfl, Table.set_same _ _ _⟩)
    · exact .inl he
  | index pHandle =>
    dsimp only at he
    rcases Table.index_cases s.table pHandle h with hc | hc <;> rw [hc] at he
    · exact .inl he
    · exact .inr (.inl (Option.some.inj he).symm)
  | skip => exact .inl he

theorem Step.dead_stays {D : E → Heap → Prop} (hD : ∀ {e m m'}, D e m → m.Le m' → D e m')
    (hst : Step first s o s') {h : CInt} {e : E} (he : s.table h = some e ∧ D e s.proc.heap)
    (ho : o ≠ some h) : s'.table h = some e ∧ D e s'.proc.heap :=
  ⟨hst.table_stays he.1 ho, hD he.2 hst.le⟩

/-- The simulation lemma: under the invariant, a step of the statics is a step of the
registry. -/
theorem Step.registry (hs : Inv first s) {o : Option CInt} (hst : Step first s o s') :
    Registry.Step s.registry o s'.registry := by
  cases hst with
  | issue e proc hfirst =>
    exact .issue s.registry e fun k hk => (hs k e hk).ne_block hfirst
  | index pHandle proc => exact .index s.registry pHandle
  | skip proc => exact .skip s.registry

end Step

/-- A proxy whose every step has one of the shapes, started from a fresh process. -/
def facade [Inhabited E] (first : E → Ptr) (hdef : first default = .null) {Call : Type}
    (step : Call → Statics E Λ → Except Fault (Ret × Statics E Λ))
    (handle : Call → Ret → Option CInt) (world : Λ) (avail : Nat)
    (step_moves : ∀ {c s r s'}, step c s = .ok (r, s') → Step first s (handle c r) s') :
    Facade where
  State := Statics E Λ
  Call := Call
  Entry := E
  step := step
  handle := handle
  registry := registry
  init := init world avail
  Inv := Inv first
  registry_init := rfl
  inv_init := Inv.init first world avail
  inv_step hs h := hs.step hdef (step_moves h)
  step_registry hs h := (step_moves h).registry hs

section Runs

variable [Inhabited E] {first : E → Ptr} {hdef : first default = .null} {Call : Type}
  {step : Call → Statics E Λ → Except Fault (Ret × Statics E Λ)}
  {handle : Call → Ret → Option CInt} {world : Λ} {avail : Nat}
  {step_moves : ∀ {c s r s'}, step c s = .ok (r, s') → Step first s (handle c r) s'}

/-- Along a run that does not issue `h` again, the entry at `h` stays in the map with its objects
as dead as they were, and `operator[]` finds it. -/
theorem facade_dead_stays (D : E → Heap → Prop) (hD : ∀ {e m m'}, D e m → m.Le m' → D e m')
    (cs : List Call) {s : Statics E Λ} {h : CInt} (hs : ∃ e, s.table h = some e ∧ D e s.proc.heap) :
    let F := facade first hdef step handle world avail step_moves
    (∀ p ∈ F.issued (F.run cs s), p.1 ≠ h) →
    D ((table (F.last s (F.run cs s))).index h).1 (proc (F.last s (F.run cs s))).heap := by
  dsimp only
  intro hn
  obtain ⟨e, he, hd⟩ := (facade first hdef step handle world avail step_moves).run_stable
    (fun s : Statics E Λ => ∃ e, s.table h = some e ∧ D e s.proc.heap)
    (fun ⟨e, he⟩ hstep ho => ⟨e, (step_moves hstep).dead_stays hD he ho⟩) cs hs hn
  rw [Table.index_some he]
  exact hd

/-- Every entry in the map of a reachable state has `P`, when `T()` has it and so has every
entry `getInstance` stores: nothing else writes the map. -/
theorem facade_entries (P : E → Prop) (hP : P default)
    (hissue : ∀ {c s r s' h}, step c s = .ok (r, s') → handle c r = some h →
      ∀ e, s'.table s.count = some e → P e) (cs : List Call) :
    let F := facade first hdef step handle world avail step_moves
    ∀ h e, (F.last F.init (F.run cs F.init)).table h = some e → P e :=
  (facade first hdef step handle world avail step_moves).run_induction
    (fun s _ => ∀ h e, table s h = some e → P e)
    (fun hs hstep h e he => by
      rcases (step_moves hstep).table_cases he with he | rfl | ⟨ho, he⟩
      · exact hs h e he
      · exact hP
      · exact hissue hstep ho e he) cs [] (fun _ _ he => nomatch he)

end Runs

end Statics

end FogJni

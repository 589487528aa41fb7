import FogJni.Proxy

/-! Instances are isolated from one another. `getInstance` allocates the objects of the entry it
stores during the call, after every object already in the map, and `operator[]` inserts only
`T()`, whose objects are all `NULL`: so entries under distinct handles share no object. Only
`close` frees, and only the objects of the entry it looks up. Over every run that neither closes
a handle nor hands it out again, the entry under the handle therefore stays, with every object of
it that was live, whatever is called on the other handles. -/

namespace FogJni

namespace Statics

variable {E Λ : Type} (objs : E → List Ptr)

/-- The separation invariant: every object of an entry is `NULL` or allocated already, and
entries under distinct handles share no object but `NULL`. -/
structure Separate (s : Statics E Λ) : Prop where
  below : ∀ h e, s.table h = some e → ∀ p ∈ objs e, p.Below s.proc.heap.next
  apart : ∀ h₁ h₂ e₁ e₂, s.table h₁ = some e₁ → s.table h₂ = some e₂ → h₁ ≠ h₂ →
    ∀ p ∈ objs e₁, p ∈ objs e₂ → p = .null

variable {objs} {s s' : Statics E Λ} {r : Ret}

theorem Separate.init (world : Λ) (avail : Nat) : Separate objs (init world avail : Statics E Λ) :=
  ⟨fun _ _ h => (nomatch h), fun _ _ _ _ h => (nomatch h)⟩

/-- Storing an entry whose objects were allocated from `next` on keeps the invariant, also over
an entry the wrapped counter finds there. -/
theorem Separate.issue (hs : Separate objs s) {e : E} {proc : Process Λ}
    (hle : s.proc.heap.next ≤ proc.heap.next)
    (hfresh : ∀ p ∈ objs e, p.From s.proc.heap.next ∧ p.Below proc.heap.next) :
    Separate objs ⟨s.count + 1, s.table.set s.count e, proc⟩ where
  below h e' he' p hp := by
    rcases Table.set_cases he' with ⟨-, rfl⟩ | ⟨-, he'⟩
    · exact (hfresh p hp).2
    · exact (hs.below h e' he' p hp).mono hle
  apart h₁ h₂ e₁ e₂ he₁ he₂ hne p hp₁ hp₂ := by
    rcases Table.set_cases he₁ with ⟨rfl, rfl⟩ | ⟨-, ho₁⟩ <;>
      rcases Table.set_cases he₂ with ⟨rfl, rfl⟩ | ⟨-, ho₂⟩
    · exact absurd rfl hne
    · exact (hs.below _ _ ho₂ p hp₂).eq_null (hfresh p hp₁).1
    · exact (hs.below _ _ ho₁ p hp₁).eq_null (hfresh p hp₂).1
    · exact hs.apart _ _ _ _ ho₁ ho₂ hne p hp₁ hp₂

theorem Separate.index [Inhabited E] (hnull : ∀ p ∈ objs default, p = .null)
    (hs : Separate objs s) (pHandle : CInt) {proc : Process Λ}
    (hle : s.proc.heap.next ≤ proc.heap.next) :
    Separate objs ⟨s.count, (s.table.index pHandle).2, proc⟩ := by
  have hold : ∀ {h e}, (s.table.index pHandle).2 h = some e → s.table h = some e ∨ e = default :=
    fun {h} _ he => by
      rcases Table.index_cases s.table pHandle h with hc | hc <;> rw [hc] at he
      · exact .inl he
      · exact .inr (Option.some.inj he).symm
  refine ⟨fun h e he p hp => ?_, fun h₁ h₂ e₁ e₂ he₁ he₂ hne p hp₁ hp₂ => ?_⟩
  · rcases hold he with he | rfl
    · exact (hs.below h e he p hp).mono hle
    · rw [hnull p hp]; trivial
  · rcases hold he₁ with he₁ | rfl
    · rcases hold he₂ with he₂ | rfl
      · exact hs.apart _ _ _ _ he₁ he₂ hne p hp₁ hp₂
      · exact hnull p hp₂
    · exact hnull p hp₁

theorem Separate.skip (hs : Separate objs s) {proc : Process Λ}
    (hle : s.proc.heap.next ≤ proc.heap.next) : Separate objs { s with proc } :=
  ⟨fun h e he p hp => (hs.below h e he p hp).mono hle, hs.apart⟩

/-- One step of any entry point keeps the invariant, given that an issued entry's objects were
allocated during the step. -/
theorem Separate.step [Inhabited E] {first : E → Ptr} (hnull : ∀ p ∈ objs default, p = .null)
    (hs : Separate objs s) {o : Option CInt} (hst : Step first s o s')
    (hfresh : ∀ h, o = some h → ∀ e, s'.table s.count = some e →
      ∀ p ∈ objs e, p.From s.proc.heap.next ∧ p.Below s'.proc.heap.next) :
    Separate objs s' := by
  cases hst with
  | issue e proc _ hgrows => exact hs.issue hgrows.1 (hfresh _ rfl e (Table.set_same _ _ _))
  | index pHandle proc hgrows => exact hs.index hnull pHandle hgrows.1
  | skip proc hgrows => exact hs.skip hgrows.1

theorem Separate.not_closed [Inhabited E] (hnull : ∀ p ∈ objs default, p = .null)
    (hs : Separate objs s) {h : CInt} {e : E} (he : s.table h = some e) {o : Option CInt}
    (ho : o ≠ some h) :
    ∀ p ∈ objs e, p ∈ o.elim [] (fun h' => objs (s.table.index h').1) → p = .null := by
  cases o with
  | none => exact fun _ _ hp => nomatch hp
  | some h' =>
    intro p hp hp'
    cases hh : s.table h' with
    | none => simp only [Option.elim, Table.index_none hh] at hp'; exact hnull p hp'
    | some e' =>
      simp only [Option.elim, Table.index_some hh] at hp'
      exact hs.apart h h' e e' he hh (fun hc => ho (by rw [hc])) p hp hp'

/-! ### What the entry points free -/

/-- A completed entry point on a handle frees at most what its code may free of the entry
`operator[]` found. -/
theorem onEntry_spares [Inhabited E] {S : E → List Ptr} {pHandle : CInt} {k : E → Native Λ Ret}
    (hk : ∀ e, Native.Frees (k e) (S e)) (h : s.onEntry pHandle k = .ok (r, s')) :
    s.proc.heap.Spares (S (s.table.index pHandle).1) s'.proc.heap :=
  hk _ _ _ _ (onEntry_run h)

theorem onProcess_spares {k : Native Λ Ret} (hk : Native.Frees k [])
    (h : s.onProcess k = .ok (r, s')) : s.proc.heap.Spares [] s'.proc.heap := by
  unfold onProcess at h
  split at h
  · next r' proc hrun => cases h; exact hk _ _ _ hrun
  · cases h

theorem onEntry_ok_iff [Inhabited E] {pHandle : CInt} {e : E} {k : E → Native Λ Ret}
    (he : s.table pHandle = some e) :
    (∃ r s', s.onEntry pHandle k = .ok (r, s')) ↔ ∃ r ps', (k e).run s.proc = .ok (r, ps') := by
  simp only [onEntry, Table.index_some he]
  cases (k e).run s.proc with
  | error f => simp
  | ok rp => obtain ⟨r, proc⟩ := rp; simp

theorem onEntry_eq_error [Inhabited E] {pHandle : CInt} {e : E} {k : E → Native Λ Ret} {f : Fault}
    (he : s.table pHandle = some e) :
    s.onEntry pHandle k = .error f ↔ (k e).run s.proc = .error f := by
  simp only [onEntry, Table.index_some he]
  cases (k e).run s.proc with
  | error f' => simp
  | ok rp => obtain ⟨r, proc⟩ := rp; simp

/-! ### Runs -/

section Runs

variable [Inhabited E] {first : E → Ptr} {hdef : first default = .null} {Call : Type}
  {step : Call → Statics E Λ → Except Fault (Ret × Statics E Λ)}
  {handle : Call → Ret → Option CInt} {world : Λ} {avail : Nat}
  {step_moves : ∀ {c s r s'}, step c s = .ok (r, s') → Step first s (handle c r) s'}

/-- Every state a run of the façade reaches is separate, when `getInstance` allocates the
objects of the entry it stores during the call. -/
theorem facade_separate (hnull : ∀ p ∈ objs default, p = .null)
    (hfresh : ∀ {c s r s' h}, step c s = .ok (r, s') → handle c r = some h →
      ∀ e, s'.table s.count = some e →
        ∀ p ∈ objs e, p.From s.proc.heap.next ∧ p.Below s'.proc.heap.next)
    (cs : List Call) :
    let F := facade first hdef step handle world avail step_moves
    Separate objs (F.last F.init (F.run cs F.init)) :=
  (facade first hdef step handle world avail step_moves).run_induction
    (fun s _ => Separate objs s)
    (fun hs hstep => hs.step hnull (step_moves hstep) fun _ ho => hfresh hstep ho) cs []
    (Separate.init world avail)

/-- The run lemma of isolation: from a separate state, over a run that closes no handle `h` and
does not hand `h` out again, the entry at `h` stays, and keeps its live objects. `closes` names
the handle a call closes, and a step frees at most the objects of the entry its `close`
finds. -/
theorem facade_keeps (hnull : ∀ p ∈ objs default, p = .null)
    (hfresh : ∀ {c s r s' h}, step c s = .ok (r, s') → handle c r = some h →
      ∀ e, s'.table s.count = some e →
        ∀ p ∈ objs e, p.From s.proc.heap.next ∧ p.Below s'.proc.heap.next)
    (closes : Call → Option CInt)
    (hfree : ∀ {c s r s'}, step c s = .ok (r, s') →
      s.proc.heap.Spares ((closes c).elim [] fun h => objs (s.table.index h).1) s'.proc.heap)
    (cs : List Call) {h : CInt} {e : E} (hs : Separate objs s) (he : s.table h = some e) :
    let F := facade first hdef step handle world avail step_moves
    (∀ c ∈ cs, closes c ≠ some h) → (∀ p ∈ F.issued (F.run cs s), p.1 ≠ h) →
    (F.last s (F.run cs s)).table h = some e ∧
      s.proc.heap.Keeps (objs e) (F.last s (F.run cs s)).proc.heap := by
  dsimp only
  intro hc hn
  exact ((facade first hdef step handle world avail step_moves).run_stable_along
    (fun s' : Statics E Λ => Separate objs s' ∧ s'.table h = some e ∧
      s.proc.heap.Keeps (objs e) s'.proc.heap) cs
    (fun hmem ⟨hs₁, he₁, hk₁⟩ hstep ho =>
      ⟨hs₁.step hnull (step_moves hstep) fun _ ho' => hfresh hstep ho',
        (step_moves hstep).table_stays he₁ ho,
        hk₁.trans ((hfree hstep).keeps (hs₁.not_closed hnull he₁ (hc _ hmem)))⟩)
    ⟨hs, he, fun _ _ _ h => h⟩ hn).2

/-! ### Isolated proxies -/

/-- What a proxy shows of its entry points for its instances to be isolated. `objs` lists the
objects of an entry, `Usable` says they can be used, and `closes` names the handle a call
closes. `getInstance` runs `initXInstance` over `build`, which allocates the objects during the
call and leaves them usable; only `getInstance` hands out a handle; `T()` holds only `NULL`s; and
a step frees at most the objects of the entry its `close` finds. -/
structure Isolated {Call : Type} (step : Call → Statics E Λ → Except Fault (Ret × Statics E Λ))
    (handle : Call → Ret → Option CInt) where
  objs : E → List Ptr
  Usable : E → Heap → Prop
  closes : Call → Option CInt
  getInstance : Call
  build : Native Λ E
  step_getInstance : step getInstance = Statics.getInstance (issue build)
  handle_some : ∀ {c r h}, handle c r = some h → c = getInstance
  objs_default : ∀ p ∈ objs default, p = .null
  build_fresh : ∀ {ps e ps'}, build.run ps = .ok (e, ps') →
    (∀ p ∈ objs e, p.From ps.heap.next ∧ p.Below ps'.heap.next) ∧ Usable e ps'.heap
  keep : ∀ {e m m'}, Usable e m → m.Keeps (objs e) m' → Usable e m'
  spares : ∀ {c s r s'}, step c s = .ok (r, s') →
    s.proc.heap.Spares ((closes c).elim [] fun h => objs (s.table.index h).1) s'.proc.heap

namespace Isolated

variable (I : Isolated step handle)

theorem issued (h : step I.getInstance s = .ok (r, s')) :
    r = .jint s.count ∧ ∃ e, s'.table s.count = some e ∧
      (∀ p ∈ I.objs e, p.From s.proc.heap.next ∧ p.Below s'.proc.heap.next) ∧
      I.Usable e s'.proc.heap := by
  rw [I.step_getInstance] at h
  obtain ⟨hr, e, hrun, he⟩ := getInstance_eq_ok h
  exact ⟨hr, e, he, I.build_fresh hrun⟩

theorem issued_by : ∀ {c s r s' h}, step c s = .ok (r, s') → handle c r = some h →
    ∀ e, s'.table s.count = some e →
      (∀ p ∈ I.objs e, p.From s.proc.heap.next ∧ p.Below s'.proc.heap.next) ∧
        I.Usable e s'.proc.heap := by
  intro c s r s' h hs hh
  obtain rfl := I.handle_some hh
  obtain ⟨-, e, he, hf⟩ := I.issued hs
  exact fun e' he' => Option.some.inj (he.symm.trans he') ▸ hf

theorem fresh : ∀ {c s r s' h}, step c s = .ok (r, s') → handle c r = some h →
    ∀ e, s'.table s.count = some e →
      ∀ p ∈ I.objs e, p.From s.proc.heap.next ∧ p.Below s'.proc.heap.next :=
  fun hs hh e he => (I.issued_by hs hh e he).1

theorem separate (cs : List Call) :
    let F := facade first hdef step handle world avail step_moves
    Separate I.objs (F.last F.init (F.run cs F.init)) :=
  facade_separate I.objs_default (by exact I.fresh) cs

/-- The run lemma of isolation: an instance handed out in a reachable state stays, usable, over
every later run that neither closes nor reissues its handle, whatever that run does with the
other handles. -/
theorem usable_until_closed (pre post : List Call) {h : CInt} {s₁ : Statics E Λ} :
    let F := facade first hdef step handle world avail step_moves
    F.step I.getInstance (F.last F.init (F.run pre F.init)) = .ok (.jint h, s₁) →
    (∀ c ∈ post, I.closes c ≠ some h) → (∀ p ∈ F.issued (F.run post s₁), p.1 ≠ h) →
    ∃ e, s₁.table h = some e ∧ (F.last s₁ (F.run post s₁)).table h = some e ∧
      I.Usable e (F.last s₁ (F.run post s₁)).proc.heap := by
  dsimp only
  intro hi hc hn
  obtain ⟨hr, e, he, -, hu⟩ := I.issued hi
  cases hr
  obtain ⟨he₂, hk⟩ :=
    facade_keeps I.objs_default (by exact I.fresh) I.closes (by exact I.spares) post
    ((I.separate pre).step I.objs_default (step_moves hi) fun _ ho => I.fresh hi ho) he hc hn
  exact ⟨e, he, he₂, I.keep hu hk⟩

end Isolated

end Runs

end Statics

end FogJni

import FogJni.Isolation
import FogJni.Native.Jni

/-! The multimedia library both video proxies link against (`MediaSourceMem`, `MediaSourceMuxer`,
`MediaSinkMem`, the process-wide switches and the `LOGGER`), and the code the two proxies have
in common: feeding compressed data in, grabbing a frame into a `malloc`ed buffer, and copying
the statistics out. -/

namespace FogJni.Media

/-- `1920 * 1080 * 4`: an HDTV frame in RGBA. -/
def MAX_FRAME_SIZE : Nat := 1920 * 1080 * 4

/-- The members of the multimedia library the video proxies call. A grab or read is told the
size of the buffer it fills and gives back what it wrote; `deleteX` is the destructor of `X`. -/
structure Lib (Λ : Type) where
  mediaSourceMem : Bool → Method Λ Unit
  deleteMediaSourceMem : Method Λ Unit
  setInputStreamPreferences : String → Bool → Bool → Method Λ Unit
  writeFragment : List UInt8 → CInt → Method Λ Unit
  getMaxPacketSize : Method Λ CInt
  getAvgDataRate : Method Λ CInt
  getPacketCount : Method Λ CInt
  getMinPacketSize : Method Λ CInt
  getLostPacketCount : Method Λ CInt
  getAvgPacketSize : Method Λ CInt
  openVideoGrabDevice : CInt → CInt → Float → Method Λ Unit
  grabChunk : Nat → Method Λ (CInt × List UInt8)
  stopGrabbing : Method Λ Unit
  mediaSourceMuxer : Ptr → Method Λ Unit
  deleteMediaSourceMuxer : Method Λ Unit
  setOutputStreamPreferences : String → CInt → CInt → Bool → CInt → CInt → Bool → Method Λ Unit
  registerMediaSink : Ptr → Method Λ Unit
  /-- Unregisters the sink and deletes it. -/
  unregisterMediaSink : Ptr → Method Λ Unit
  /-- The constructor as called with `MEDIA_SINK_VIDEO`. -/
  mediaSinkMem : String → Bool → Method Λ Unit
  deleteMediaSinkMem : Method Λ Unit
  readFragment : Nat → Method Λ (List UInt8)
  stopProcessing : Method Λ Unit
  disableIPv6Support : Λ → Λ
  disableProcessStatisticSupport : Λ → Λ
  setColoring : Bool → Λ → Λ
  init : CInt → Λ → Λ

/-- The library that does nothing: every call returns zeros and nothing else. -/
instance {Λ : Type} : Inhabited (Lib Λ) where
  default :=
    { mediaSourceMem := fun _ _ l => ((), l)
      deleteMediaSourceMem := fun _ l => ((), l)
      setInputStreamPreferences := fun _ _ _ _ l => ((), l)
      writeFragment := fun _ _ _ l => ((), l)
      getMaxPacketSize := fun _ l => (0, l)
      getAvgDataRate := fun _ l => (0, l)
      getPacketCount := fun _ l => (0, l)
      getMinPacketSize := fun _ l => (0, l)
      getLostPacketCount := fun _ l => (0, l)
      getAvgPacketSize := fun _ l => (0, l)
      openVideoGrabDevice := fun _ _ _ _ l => ((), l)
      grabChunk := fun _ _ l => ((0, []), l)
      stopGrabbing := fun _ l => ((), l)
      mediaSourceMuxer := fun _ _ l => ((), l)
      deleteMediaSourceMuxer := fun _ l => ((), l)
      setOutputStreamPreferences := fun _ _ _ _ _ _ _ _ l => ((), l)
      registerMediaSink := fun _ _ l => ((), l)
      unregisterMediaSink := fun _ _ l => ((), l)
      mediaSinkMem := fun _ _ _ l => ((), l)
      deleteMediaSinkMem := fun _ l => ((), l)
      readFragment := fun _ _ l => ([], l)
      stopProcessing := fun _ l => ((), l)
      disableIPv6Support := id
      disableProcessStatisticSupport := id
      setColoring := fun _ => id
      init := fun _ => id }

variable {Λ : Type} (lib : Lib Λ)

/-- The body of both `addDataInput`s: `source->WriteFragment((char*)tBuffer, size)` on the
elements of the Java array, of which the library reads `size`. -/
def addDataInput (source : Ptr) (ba : List UInt8) (size : CInt) : Native Λ Ret := do
  Native.invoke source (lib.writeFragment ba size)
  if (ba.length : Int) < size.toInt then Native.fault .bufferOverflow else pure .void

/-- The body of both `getFrame`s: `grabber->GrabChunk(tBuffer, tBufferSize)` into the
`MAX_FRAME_SIZE` buffer; a result of at most zero gives `NULL`, anything else a new array of
the bytes grabbed. -/
def getFrame (grabber tBuffer : Ptr) : Native Λ Ret := do
  let (res, chunk) ← Native.invoke grabber (lib.grabChunk MAX_FRAME_SIZE)
  Native.write tBuffer chunk.length
  if res.toInt ≤ 0 then
    Native.printf "Failed to grab new chunk\n"
    pure (.jbyteArray none)
  else
    if chunk.length = 0 then Native.printf "Read zero packet\n"
    pure (.jbyteArray (some chunk))

/-- `for (int i = 0; i < min(len, 7); i++) stats[i] = aStats[i]`, where `none` is a slot of
`aStats` never written: reading it is undefined. -/
def copyStats : List (Option CInt) → List CInt → Except Fault (List CInt)
  | some v :: as, _ :: st => (v :: ·) <$> copyStats as st
  | none :: _, _ :: _ => .error .indeterminateValue
  | _, st => .ok st

/-- `aStats[i] = source->get()`: the call, then the store into the `malloc`ed array. -/
def statInto (source aStats : Ptr) (get : Method Λ CInt) : Native Λ CInt := do
  let v ← Native.invoke source get
  Native.write aStats 4
  pure v

/-- The body of both `getStats`: the counters go into a `malloc`ed `int[7]`, which is never
freed, and from it into the caller's array. -/
def getStats (source : Ptr) (ia : List CInt) : Native Λ Ret := do
  let aStats ← Native.malloc (4 * 7)
  let v0 ← statInto source aStats lib.getMaxPacketSize
  let v1 ← statInto source aStats lib.getAvgDataRate
  let v2 ← statInto source aStats lib.getPacketCount
  let v3 ← statInto source aStats lib.getMinPacketSize
  let v4 ← statInto source aStats lib.getLostPacketCount
  let v6 ← statInto source aStats lib.getAvgPacketSize
  let stats ← Native.lift
    (copyStats [some v0, some v1, some v2, some v3, some v4, none, some v6] ia)
  pure (.jintArray stats)

/-! ### What `getStats` hands back -/

/-- A copy that completed stopped before the first slot never written. -/
theorem copyStats_short : ∀ {vs : List CInt} {rest : List (Option CInt)} {st r : List CInt},
    copyStats (vs.map some ++ none :: rest) st = .ok r → st.length ≤ vs.length
  | _, _, [], _, _ => Nat.zero_le _
  | [], _, _ :: _, _, h => nomatch h
  | v :: vs, rest, x :: st, r, h => by
    cases hc : copyStats (vs.map some ++ none :: rest) st with
    | error f => rw [List.map_cons, List.cons_append, copyStats, hc] at h; cases h
    | ok r' => exact Nat.succ_le_succ (copyStats_short hc)

theorem statInto_run {source aStats : Ptr} {get : Method Λ CInt} {ps ps' : Process Λ} {v : CInt}
    (h : (statInto source aStats get).run ps = .ok (v, ps')) :
    ps'.heap = ps.heap ∧ aStats ≠ .null := by
  obtain ⟨v', ps₁, hi, h⟩ := Native.run_bind_eq_ok h
  obtain ⟨_, ps₂, hw, h⟩ := Native.run_bind_eq_ok h
  cases h
  obtain ⟨rfl, hw⟩ := Native.run_write_eq_ok hw
  exact ⟨Native.run_invoke_eq_ok hi, Heap.write_ne_null hw (by decide)⟩

/-- A `getStats` that completed took the 28 bytes of `aStats` from `malloc` for good, and the
caller's array had at most five elements: the copy of a sixth reads `aStats[5]`, which is never
written. -/
theorem getStats_ok {source : Ptr} {ia : List CInt} {ps ps' : Process Λ} {r : Ret}
    (h : (getStats lib source ia).run ps = .ok (r, ps')) :
    ps'.heap.avail + 4 * 7 = ps.heap.avail ∧ ia.length ≤ 5 := by
  obtain ⟨aStats, ps₁, hm, h⟩ := Native.run_bind_eq_ok h
  obtain ⟨v0, ps₂, h0, h⟩ := Native.run_bind_eq_ok h
  obtain ⟨v1, ps₃, h1, h⟩ := Native.run_bind_eq_ok h
  obtain ⟨v2, ps₄, h2, h⟩ := Native.run_bind_eq_ok h
  obtain ⟨v3, ps₅, h3, h⟩ := Native.run_bind_eq_ok h
  obtain ⟨v4, ps₆, h4, h⟩ := Native.run_bind_eq_ok h
  obtain ⟨v6, ps₇, h6, h⟩ := Native.run_bind_eq_ok h
  obtain ⟨st, ps₈, hc, h⟩ := Native.run_bind_eq_ok h
  cases h
  obtain ⟨hcopy, hps⟩ := Native.run_lift_eq_ok hc
  rw [Native.run_malloc] at hm
  cases hm
  obtain ⟨hle, hm⟩ := Heap.malloc_of_ne_null (statInto_run h0).2
  have hheap : ps'.heap = (ps.heap.malloc (4 * 7)).2 := by
    rw [hps, (statInto_run h6).1, (statInto_run h4).1, (statInto_run h3).1, (statInto_run h2).1,
      (statInto_run h1).1, (statInto_run h0).1]
  refine ⟨?_, @copyStats_short [v0, v1, v2, v3, v4] _ _ _ hcopy⟩
  rw [hheap, hm]
  exact Nat.sub_add_cancel hle

theorem onEntry_getStats {E : Type} [Inhabited E] {source : E → Ptr} {s s' : Statics E Λ}
    {pHandle : CInt} {ia : List CInt} {r : Ret}
    (h : s.onEntry pHandle (fun e => getStats lib (source e) ia) = .ok (r, s')) :
    s'.proc.heap.avail + 4 * 7 = s.proc.heap.avail := by
  have hrun : (getStats lib (source (s.table.index pHandle).1) ia).run s.proc = .ok (r, s'.proc) :=
    Statics.onEntry_run h
  exact (getStats_ok lib hrun).1

theorem getFrame_null {grabber : Ptr} {ps : Process Λ} {o : Obj}
    (hg : ps.heap.deref grabber = .ok o)
    (hc : (lib.grabChunk MAX_FRAME_SIZE grabber ps.world).1.2 ≠ []) :
    (getFrame lib grabber .null).run ps = .error .nullDeref := by
  rw [getFrame, Native.run_bind_ok (Native.run_invoke_ok hg)]
  exact Native.run_bind_error (Native.run_write_error (Heap.write_null (by simpa using hc)))

theorem addDataInput_guarded (source : Ptr) (ba : List UInt8) (size : CInt) :
    Native.Guarded (addDataInput lib source ba size) source :=
  Native.Guarded.bind_left (Native.Guarded.invoke _ _)

theorem getFrame_guarded (grabber tBuffer : Ptr) :
    Native.Guarded (getFrame lib grabber tBuffer) grabber :=
  Native.Guarded.bind_left (Native.Guarded.invoke _ _)

/-- The first counter is read after the `malloc`, which cannot bring the source back. -/
theorem getStats_guarded (source : Ptr) (ia : List CInt) :
    Native.Guarded (getStats lib source ia) source :=
  Native.Guarded.bind (Native.total_malloc _) fun _ => Native.Guarded.bind_left
    (Native.Guarded.bind_left (Native.Guarded.invoke _ _))

/-! ### What the shared code frees, and when it completes -/

theorem addDataInput_frees (source : Ptr) (ba : List UInt8) (size : CInt) (S : List Ptr) :
    Native.Frees (addDataInput lib source ba size) S :=
  (Native.frees_invoke _ _ _).bind fun _ => .ite (Native.frees_fault _ _) (.pure _ _)

theorem getFrame_frees (grabber tBuffer : Ptr) (S : List Ptr) :
    Native.Frees (getFrame lib grabber tBuffer) S :=
  (Native.frees_invoke _ _ _).bind fun _ => (Native.frees_write _ _ _).bind fun _ =>
    .ite ((Native.frees_printf _ _).bind fun _ => .pure _ _)
      (.ite ((Native.frees_printf _ _).bind fun _ => .pure _ _) ((Native.Frees.pure _ _).bind
        fun _ => .pure _ _))

theorem statInto_frees (source aStats : Ptr) (get : Method Λ CInt) (S : List Ptr) :
    Native.Frees (statInto source aStats get) S :=
  (Native.frees_invoke _ _ _).bind fun _ => (Native.frees_write _ _ _).bind fun _ => .pure _ _

theorem getStats_frees (source : Ptr) (ia : List CInt) (S : List Ptr) :
    Native.Frees (getStats lib source ia) S := by
  refine (Native.frees_malloc _ _).bind fun _ => ?_
  repeat' refine (statInto_frees _ _ _ _).bind fun _ => ?_
  exact (Native.frees_lift _ _).bind fun _ => .pure _ _

/-- On a live source, `addDataInput` completes exactly when `size` stays within the Java
array. -/
theorem addDataInput_completes_iff {source : Ptr} {ba : List UInt8} {size : CInt}
    {ps : Process Λ} {o : Obj} (hs : ps.heap.deref source = .ok o) :
    (∃ r ps', (addDataInput lib source ba size).run ps = .ok (r, ps')) ↔
      size.toInt ≤ ba.length := by
  rw [addDataInput, Native.run_bind_ok (Native.run_invoke_ok hs)]
  by_cases hl : (ba.length : Int) < size.toInt
  · rw [if_pos hl]; exact iff_of_false (fun ⟨_, _, h⟩ => by cases h) (by omega)
  · rw [if_neg hl]; exact iff_of_true ⟨_, _, rfl⟩ (by omega)

theorem copyStats_nil (as : List (Option CInt)) : copyStats as [] = .ok [] := by
  rcases as with _ | ⟨_ | _, _⟩ <;> rfl

theorem copyStats_of_le : ∀ {vs : List CInt} {rest : List (Option CInt)} {st : List CInt},
    st.length ≤ vs.length → copyStats (vs.map some ++ rest) st = .ok (vs.take st.length)
  | _, _, [], _ => copyStats_nil _
  | [], _, _ :: _, h => absurd h (by simp)
  | v :: vs, rest, _ :: st, h => by
    rw [List.map_cons, List.cons_append, copyStats,
      @copyStats_of_le vs rest st (Nat.le_of_succ_le_succ h)]
    rfl

theorem getFrame_completes_iff {grabber tBuffer : Ptr} {ps : Process Λ} {o : Obj}
    (hg : ps.heap.deref grabber = .ok o) :
    (∃ r ps', (getFrame lib grabber tBuffer).run ps = .ok (r, ps')) ↔
      ps.heap.write tBuffer
        (lib.grabChunk MAX_FRAME_SIZE grabber ps.world).1.2.length = .ok () := by
  rw [getFrame, Native.run_bind_ok (Native.run_invoke_ok hg)]
  generalize lib.grabChunk MAX_FRAME_SIZE grabber ps.world = g
  obtain ⟨⟨res, chunk⟩, w⟩ := g
  constructor
  · rintro ⟨r, ps', h⟩
    obtain ⟨_, _, hw, -⟩ := Native.run_bind_eq_ok h
    exact (Native.run_write_eq_ok hw).2
  · intro hw
    refine Native.CompletesOn.write_bind hw ?_ _ rfl
    exact .ite (fun _ => .printf_bind (.pure _ _)) fun _ =>
      .ite (fun _ => .printf_bind (.pure _ _)) fun _ =>
        .bind_same (.pure _ _) (fun h => by cases h; rfl) fun _ => .pure _ _

theorem onEntry_getFrame_ok {E : Type} [Inhabited E] {grabber tBuffer : E → Ptr}
    {s : Statics E Λ} {pHandle : CInt} {e : E} {o : Obj} (he : s.table pHandle = some e)
    (hg : s.proc.heap.deref (grabber e) = .ok o)
    (hb : tBuffer e = .null ∨ s.proc.heap.deref (tBuffer e) = .ok (.bytes MAX_FRAME_SIZE)) :
    (∃ r s', s.onEntry pHandle (fun e => getFrame lib (grabber e) (tBuffer e)) = .ok (r, s')) ↔
      (lib.grabChunk MAX_FRAME_SIZE (grabber e) s.proc.world).1.2 = [] ∨ tBuffer e ≠ .null ∧
        (lib.grabChunk MAX_FRAME_SIZE (grabber e) s.proc.world).1.2.length ≤ MAX_FRAME_SIZE := by
  rw [Statics.onEntry_ok_iff he, getFrame_completes_iff lib hg, Heap.write_buffer_eq_ok hb,
    List.length_eq_zero]

/-- On a live grabber and a `NULL` frame buffer, `getFrame` writes through `NULL` exactly when the
grabber hands back any bytes, and completes otherwise. -/
theorem onEntry_getFrame_null {E : Type} [Inhabited E] {grabber tBuffer : E → Ptr}
    {s : Statics E Λ} {pHandle : CInt} {e : E} {o : Obj} (he : s.table pHandle = some e)
    (hg : s.proc.heap.deref (grabber e) = .ok o) (hb : tBuffer e = .null) :
    (s.onEntry pHandle (fun e => getFrame lib (grabber e) (tBuffer e)) = .error .nullDeref ↔
      (lib.grabChunk MAX_FRAME_SIZE (grabber e) s.proc.world).1.2 ≠ []) ∧
    ((lib.grabChunk MAX_FRAME_SIZE (grabber e) s.proc.world).1.2 = [] →
      ∃ r s', s.onEntry pHandle (fun e => getFrame lib (grabber e) (tBuffer e)) = .ok (r, s')) := by
  have hok := onEntry_getFrame_ok lib he hg (.inl hb)
  refine ⟨⟨fun hf hc => ?_, fun hc => ?_⟩, fun hc => hok.mpr (.inl hc)⟩
  · obtain ⟨r, s', h⟩ := hok.mpr (.inl hc)
    rw [h] at hf
    cases hf
  · rw [Statics.onEntry_eq_error he, hb]
    exact getFrame_null lib hg hc

theorem statInto_bind {γ : Type} {source aStats : Ptr} {get : Method Λ CInt} {m : Heap} {o : Obj}
    {f : CInt → Native Λ γ} (hs : m.deref source = .ok o)
    (ha : m.deref aStats = .ok (.bytes (4 * 7))) (hf : ∀ v, Native.CompletesOn (f v) m) :
    Native.CompletesOn (statInto source aStats get >>= f) m :=
  Native.CompletesOn.bind_same
    (.invoke_bind hs fun _ =>
      .write_bind (Heap.write_eq_ok.mpr (.inr ⟨_, ha, by decide⟩)) (.pure _ _))
    (fun h => (statInto_run h).1) hf

/-- On a live source, `getStats` completes exactly when `malloc` has the 28 bytes of `aStats` and
the caller's array has at most five elements. -/
theorem getStats_completes_iff {source : Ptr} {ia : List CInt} {ps : Process Λ} {o : Obj}
    (hs : ps.heap.deref source = .ok o) :
    (∃ r ps', (getStats lib source ia).run ps = .ok (r, ps')) ↔
      4 * 7 ≤ ps.heap.avail ∧ ia.length ≤ 5 := by
  constructor
  · rintro ⟨r, ps', h⟩
    obtain ⟨ha, hl⟩ := getStats_ok lib h
    exact ⟨by omega, hl⟩
  · rintro ⟨ha, hl⟩
    refine Native.CompletesOn.malloc_bind ?_ ps rfl
    rw [Heap.malloc_of_le ha]
    have hs' := Heap.spares_alloc (.bytes (4 * 7)) (ps.heap.avail - 4 * 7) [] _ source
      (List.not_mem_nil _) o hs
    have ha' := Heap.deref_alloc_next (.bytes (4 * 7)) (ps.heap.avail - 4 * 7) ps.heap
    exact statInto_bind hs' ha' fun v0 => statInto_bind hs' ha' fun v1 =>
      statInto_bind hs' ha' fun v2 => statInto_bind hs' ha' fun v3 =>
      statInto_bind hs' ha' fun v4 => statInto_bind hs' ha' fun v6 =>
      .lift_bind (@copyStats_of_le [v0, v1, v2, v3, v4] [none, some v6] ia hl) (.pure _ _)

/-- `LOGGER.SetColoring(false); LOGGER.Init(pLogLevel)`. -/
def initLogger (pLogLevel : CInt) : Native Λ Ret := do
  Native.library (lib.setColoring false)
  Native.library (lib.init pLogLevel)
  pure .void

theorem initLogger_frees (pLogLevel : CInt) (S : List Ptr) :
    Native.Frees (initLogger lib pLogLevel) S :=
  (Native.frees_library _ _).bind fun _ => (Native.frees_library _ _).bind fun _ => .pure _ _

end FogJni.Media

import FogJni.Video.Media

/-! `VideoTranscoderProxy.C`: per handle a `MediaSourceMem` fed compressed data, a
`MediaSourceMuxer` over it that decodes and re-encodes, a `MediaSinkMem` registered with the
muxer that collects the re-encoded packets, and two `malloc`ed buffers. `close` stops the
pipeline, unregisters the sink (which deletes it), deletes muxer and source, frees the buffers,
and leaves the entry, dangling, in `sTranscoder`. -/

namespace FogJni.VideoTranscoder

open Media

def MAX_PACKET_SIZE : Nat := 64 * 1024

structure Transcoder where
  muxer : Ptr
  source : Ptr
  storage : Ptr
  frameBuffer : Ptr
  packetBuffer : Ptr
  deriving DecidableEq, Repr, Inhabited

/-- `sInstanceCount` and `sTranscoder`, with the process. -/
abbrev State (Λ : Type) := Statics Transcoder Λ

/-- The JNI entry points, named by their Java methods. -/
inductive Call where
  | «open» (pHandle : CInt) (pInputCodec : String) (pRtp : Bool) (pOutputCodec : String)
      (xRes yRes : CInt) (fps : Float)
  | getInstance
  | stop (pHandle : CInt)
  | close (pHandle : CInt)
  | addDataInput (pHandle : CInt) (ba : List UInt8) (size : CInt)
  | getOutputPacket (pHandle : CInt)
  | getFrame (pHandle : CInt)
  | getStats (pHandle : CInt) (ia : List CInt)
  | initLogger (pLogLevel : CInt)

variable {Λ : Type} (lib : Lib Λ)

/-- `p = (char*)malloc(n); if (p == NULL) printf(msg);` -/
def mallocOrReport (n : Nat) (msg : String) : Native Λ Ptr := do
  let p ← Native.malloc n
  if p = .null then Native.printf msg
  pure p

/-- The objects `initTranscoderInstance` creates. -/
def newTranscoder : Native Λ Transcoder := do
  Native.library lib.disableIPv6Support
  Native.library lib.disableProcessStatisticSupport
  let source ← Native.new .mediaSourceMem (lib.mediaSourceMem true)
  let muxer ← Native.new .mediaSourceMuxer (lib.mediaSourceMuxer source)
  let storage ← Native.new .mediaSinkMem (lib.mediaSinkMem "MemorySink" true)
  Native.invoke muxer (lib.registerMediaSink storage)
  let frameBuffer ← mallocOrReport MAX_FRAME_SIZE
    "Unable to allocate memory for transcoder frame buffer\n"
  let packetBuffer ← mallocOrReport MAX_PACKET_SIZE
    "Unable to allocate memory for transcoder packet buffer\n"
  pure ⟨muxer, source, storage, frameBuffer, packetBuffer⟩

def initTranscoderInstance : State Λ → Except Fault (CInt × State Λ) :=
  Statics.issue (newTranscoder lib)

def «open» (pHandle : CInt) (pInputCodec : String) (pRtp : Bool) (pOutputCodec : String)
    (xRes yRes : CInt) (fps : Float) : State Λ → Except Fault (Ret × State Λ) :=
  Statics.onEntry pHandle fun e => do
    Native.invoke e.source (lib.setInputStreamPreferences pInputCodec false pRtp)
    Native.invoke e.muxer (lib.setOutputStreamPreferences pOutputCodec 10 1200 false xRes yRes pRtp)
    Native.invoke e.muxer (lib.openVideoGrabDevice xRes yRes fps)
    pure .void

def getInstance : State Λ → Except Fault (Ret × State Λ) :=
  Statics.getInstance (initTranscoderInstance lib)

def stop (pHandle : CInt) : State Λ → Except Fault (Ret × State Λ) :=
  Statics.onEntry pHandle fun e => do
    Native.invoke e.muxer lib.stopGrabbing
    Native.invoke e.storage lib.stopProcessing
    pure .void

def close (pHandle : CInt) : State Λ → Except Fault (Ret × State Λ) :=
  Statics.onEntry pHandle fun e => do
    Native.invoke e.muxer lib.stopGrabbing
    Native.invoke e.storage lib.stopProcessing
    Native.invoke e.muxer (lib.unregisterMediaSink e.storage)
    Native.free e.storage
    Native.delete e.muxer lib.deleteMediaSourceMuxer
    Native.delete e.source lib.deleteMediaSourceMem
    Native.free e.frameBuffer
    Native.free e.packetBuffer
    pure .void

def addDataInput (pHandle : CInt) (ba : List UInt8) (size : CInt) :
    State Λ → Except Fault (Ret × State Λ) :=
  Statics.onEntry pHandle fun e => Media.addDataInput lib e.source ba size

def getOutputPacket (pHandle : CInt) : State Λ → Except Fault (Ret × State Λ) :=
  Statics.onEntry pHandle fun e => do
    let packet ← Native.invoke e.storage (lib.readFragment MAX_PACKET_SIZE)
    Native.write e.packetBuffer packet.length
    if packet.length = 0 then Native.printf "Read zero packet\n"
    pure (.jbyteArray (some packet))

def getFrame (pHandle : CInt) : State Λ → Except Fault (Ret × State Λ) :=
  Statics.onEntry pHandle fun e => Media.getFrame lib e.muxer e.frameBuffer

def getStats (pHandle : CInt) (ia : List CInt) : State Λ → Except Fault (Ret × State Λ) :=
  Statics.onEntry pHandle fun e => Media.getStats lib e.source ia

def initLogger (pLogLevel : CInt) : State Λ → Except Fault (Ret × State Λ) :=
  Statics.onProcess (Media.initLogger lib pLogLevel)

def step : Call → State Λ → Except Fault (Ret × State Λ)
  | .«open» h i r o x y f => «open» lib h i r o x y f
  | .getInstance => getInstance lib
  | .stop h => stop lib h
  | .close h => close lib h
  | .addDataInput h ba n => addDataInput lib h ba n
  | .getOutputPacket h => getOutputPacket lib h
  | .getFrame h => getFrame lib h
  | .getStats h ia => getStats lib h ia
  | .initLogger l => initLogger lib l

/-- The handle `getInstance` hands back. -/
def issuedHandle : Call → Ret → Option CInt
  | .getInstance, .jint h => some h
  | _, _ => none

/-- The handle a call looks up. -/
def Call.pHandle : Call → Option CInt
  | .«open» h _ _ _ _ _ _ | .stop h | .close h | .addDataInput h _ _ | .getOutputPacket h
  | .getFrame h | .getStats h _ => some h
  | .getInstance | .initLogger _ => none

/-- The handle a call closes. -/
def Call.closes : Call → Option CInt
  | .close h => some h
  | _ => none

/-! ### The proxy as a façade -/

variable {lib} {s s' : State Λ} {r : Ret}

theorem mallocOrReport_eq_ok {n : Nat} {msg : String} {ps ps' : Process Λ} {p : Ptr}
    (h : (mallocOrReport n msg).run ps = .ok (p, ps')) :
    p = (ps.heap.malloc n).1 ∧ ps'.heap = (ps.heap.malloc n).2 := by
  rw [mallocOrReport, Native.run_bind_ok (Native.run_malloc _ _)] at h
  split at h <;> cases h <;> exact ⟨rfl, rfl⟩

theorem mallocOrReport_total (n : Nat) (msg : String) :
    Native.Total (mallocOrReport n msg : Native Λ Ptr) := fun ps => by
  rw [mallocOrReport, Native.run_bind_ok (Native.run_malloc _ _)]
  split <;> exact ⟨_, _, rfl⟩

theorem newTranscoder_run_eq {ps ps' : Process Λ} {e : Transcoder}
    (h : (newTranscoder lib).run ps = .ok (e, ps')) :
    let m₃ := (((ps.heap.new .mediaSourceMem).2.new .mediaSourceMuxer).2.new .mediaSinkMem).2
    let m₄ := (m₃.malloc MAX_FRAME_SIZE).2
    e = ⟨.block (ps.heap.next + 1), .block ps.heap.next, .block (ps.heap.next + 2),
      (m₃.malloc MAX_FRAME_SIZE).1, (m₄.malloc MAX_PACKET_SIZE).1⟩ ∧
      ps'.heap = (m₄.malloc MAX_PACKET_SIZE).2 := by
  rw [newTranscoder, Native.run_bind_ok (Native.run_library _ _),
    Native.run_bind_ok (Native.run_library _ _), Native.run_bind_ok (Native.run_new _ _ _),
    Native.run_bind_ok (Native.run_new _ _ _), Native.run_bind_ok (Native.run_new _ _ _)] at h
  obtain ⟨_, ps₁, hi, h⟩ := Native.run_bind_eq_ok h
  obtain ⟨fb, ps₂, hf, h⟩ := Native.run_bind_eq_ok h
  obtain ⟨pb, ps₃, hp, h⟩ := Native.run_bind_eq_ok h
  cases h
  have h₁ := Native.run_invoke_eq_ok hi
  obtain ⟨rfl, h₂⟩ := mallocOrReport_eq_ok hf
  obtain ⟨rfl, h₃⟩ := mallocOrReport_eq_ok hp
  rw [h₂, h₁] at h₃
  rw [h₂, h₁]
  exact ⟨rfl, h₃⟩

theorem newTranscoder_run {ps ps' : Process Λ} {e : Transcoder}
    (h : (newTranscoder lib).run ps = .ok (e, ps')) :
    e.source = .block ps.heap.next ∧ ps.heap.next < ps'.heap.next ∧
      (ps.heap.avail < MAX_FRAME_SIZE → e.frameBuffer = .null) := by
  obtain ⟨rfl, hps⟩ := newTranscoder_run_eq h
  have := (Heap.le_malloc MAX_PACKET_SIZE _).1.trans' (Heap.le_malloc MAX_FRAME_SIZE
    (((ps.heap.new .mediaSourceMem).2.new .mediaSourceMuxer).2.new .mediaSinkMem).2).1
  refine ⟨rfl, by rw [hps]; simp only [Heap.new_next] at this; omega, fun ha => ?_⟩
  exact congrArg Prod.fst (Heap.malloc_of_lt (show
    ((((ps.heap.new .mediaSourceMem).2.new .mediaSourceMuxer).2.new .mediaSinkMem).2).avail <
      MAX_FRAME_SIZE from ha))

theorem step_moves {c : Call} (h : step lib c s = .ok (r, s')) :
    Statics.Step (·.source) s (issuedHandle c r) s' := by
  cases c with
  | getInstance =>
    rw [step, getInstance, initTranscoderInstance] at h
    obtain ⟨rfl, hst⟩ := Statics.getInstance_step h fun h =>
      ⟨(newTranscoder_run h).1, (newTranscoder_run h).2.1⟩
    exact hst
  | initLogger => rw [step] at h; exact Statics.onProcess_step h
  | _ => rw [step] at h; exact Statics.onEntry_step h

/-- Creating a transcoder's objects always completes: the muxer a sink is registered with is
the one just created. -/
theorem newTranscoder_total : Native.Total (newTranscoder lib) := fun ps => by
  rw [newTranscoder, Native.run_bind_ok (Native.run_library _ _),
    Native.run_bind_ok (Native.run_library _ _), Native.run_bind_ok (Native.run_new _ _ _),
    Native.run_bind_ok (Native.run_new _ _ _), Native.run_bind_ok (Native.run_new _ _ _)]
  exact Native.run_invoke_bind_total .mediaSourceMuxer
    (by simp [Heap.deref, Heap.new, Heap.alloc]) fun _ =>
    (mallocOrReport_total _ _).bind fun _ => (mallocOrReport_total _ _).bind fun _ => .pure _

theorem step_getInstance (s : State Λ) :
    ∃ r s' h, step lib .getInstance s = .ok (r, s') ∧ issuedHandle .getInstance r = some h :=
  let ⟨s', hs⟩ := Statics.getInstance_total newTranscoder_total s
  ⟨_, s', s.count, hs, rfl⟩

/-- The proxy in a fresh process whose library starts in state `world`, with `avail` bytes
for `malloc`. -/
def facade (lib : Lib Λ) (world : Λ) (avail : Nat) : Facade :=
  Statics.facade (·.source) rfl (step lib) issuedHandle world avail step_moves

/-! ### Calls on dead entries -/

/-- A call through the muxer, the source or the sink of the entry raises `f`. Every entry point
on a handle calls one of them first. -/
def Transcoder.Dead (e : Transcoder) (m : Heap) (f : Fault) : Prop :=
  e.muxer.Dead m f ∧ e.source.Dead m f ∧ e.storage.Dead m f

theorem Transcoder.Dead.mono {e : Transcoder} {m m' : Heap} {f : Fault} (hd : e.Dead m f)
    (hm : m.Le m') : e.Dead m' f :=
  ⟨hd.1.mono hm, hd.2.1.mono hm, hd.2.2.mono hm⟩

/-- Every call on a handle whose entry is dead raises the fault of the call through its
objects. -/
theorem step_dead {c : Call} {h : CInt} {f : Fault} (hc : c.pHandle = some h)
    (hd : (s.table.index h).1.Dead s.proc.heap f) : step lib c s = .error f := by
  cases c <;> cases hc <;> rw [step]
  case «open» =>
    exact Statics.onEntry_fault (Native.Guarded.bind_left (Native.Guarded.invoke _ _)) hd.2.1
  case stop | close =>
    exact Statics.onEntry_fault (Native.Guarded.bind_left (Native.Guarded.invoke _ _)) hd.1
  case addDataInput => exact Statics.onEntry_fault (addDataInput_guarded _ _ _ _) hd.2.1
  case getOutputPacket =>
    exact Statics.onEntry_fault (Native.Guarded.bind_left (Native.Guarded.invoke _ _)) hd.2.2
  case getFrame => exact Statics.onEntry_fault (getFrame_guarded _ _ _) hd.1
  case getStats => exact Statics.onEntry_fault (getStats_guarded _ _ _) hd.2.1

/-- `close` leaves the entry in the map with its muxer and source deleted and its sink freed,
when the entry has a source if it has a muxer. -/
theorem close_kills {h : CInt} (hc : step lib (.close h) s = .ok (r, s'))
    (hsrc : (s.table.index h).1.muxer ≠ .null → (s.table.index h).1.source ≠ .null) :
    ∃ e, s'.table h = some e ∧ e.Dead s'.proc.heap .useAfterFree := by
  rw [step, close] at hc
  obtain ⟨he, hd⟩ := Statics.onEntry_ensures (fun (e : Transcoder) m =>
    (e.muxer ≠ .null → e.source ≠ .null) → e.Dead m .useAfterFree) hc fun e _ _ _ hrun hne => by
      have hmux : e.muxer.Dead _ .useAfterFree := (Native.Kills.invoke_bind fun _ hp =>
        .bind fun _ => .bind fun _ => .bind fun _ => .bind_left (Native.kills_delete _ hp))
        _ _ _ hrun
      have hsrc := hne fun hn => by rw [hn] at hmux; cases hmux
      exact ⟨hmux, (Native.Kills.bind fun _ => .bind fun _ => .bind fun _ => .bind fun _ =>
          .bind fun _ => .bind_left (Native.kills_delete _ hsrc)) _ _ _ hrun,
        (Native.Kills.bind fun _ => Native.Kills.invoke_bind fun _ hp => .bind fun _ =>
          .bind_left (Native.kills_free hp)) _ _ _ hrun⟩
  exact ⟨_, he, hd hsrc⟩

/-! ### Isolation and progress -/

/-- The objects of an entry. -/
def Transcoder.objs (e : Transcoder) : List Ptr :=
  [e.muxer, e.source, e.storage, e.frameBuffer, e.packetBuffer]

/-- An entry whose muxer, source and sink are live, and whose buffers are `NULL` or live bytes of
their sizes: what `getInstance` stores. -/
def Transcoder.Usable (e : Transcoder) (m : Heap) : Prop :=
  m.deref e.muxer = .ok .mediaSourceMuxer ∧ m.deref e.source = .ok .mediaSourceMem ∧
    m.deref e.storage = .ok .mediaSinkMem ∧
    (e.frameBuffer = .null ∨ m.deref e.frameBuffer = .ok (.bytes MAX_FRAME_SIZE)) ∧
    (e.packetBuffer = .null ∨ m.deref e.packetBuffer = .ok (.bytes MAX_PACKET_SIZE))

theorem Transcoder.Usable.keep {e : Transcoder} {m m' : Heap} (hu : e.Usable m)
    (hk : m.Keeps e.objs m') : e.Usable m' :=
  ⟨hk _ (by simp [objs]) _ hu.1, hk _ (by simp [objs]) _ hu.2.1, hk _ (by simp [objs]) _ hu.2.2.1,
    hu.2.2.2.1.imp_right (hk _ (by simp [objs]) _), hu.2.2.2.2.imp_right (hk _ (by simp [objs]) _)⟩

theorem newTranscoder_fresh {ps ps' : Process Λ} {e : Transcoder}
    (h : (newTranscoder lib).run ps = .ok (e, ps')) :
    (∀ p ∈ e.objs, p.From ps.heap.next ∧ p.Below ps'.heap.next) ∧ e.Usable ps'.heap := by
  obtain ⟨rfl, hps⟩ := newTranscoder_run_eq h
  rw [hps]
  set m₁ := (ps.heap.new .mediaSourceMem).2
  set m₂ := (m₁.new .mediaSourceMuxer).2
  set m₃ := (m₂.new .mediaSinkMem).2
  set m₄ := (m₃.malloc MAX_FRAME_SIZE).2
  have h₄ : m₄.Spares [] (m₄.malloc MAX_PACKET_SIZE).2 := Heap.spares_malloc _ _ _
  have h₃ : m₃.Spares [] (m₄.malloc MAX_PACKET_SIZE).2 := (Heap.spares_malloc _ _ _).trans h₄
  have h₂ : m₂.Spares [] (m₄.malloc MAX_PACKET_SIZE).2 := (Heap.spares_new _ _ _).trans h₃
  have h₁ : m₁.Spares [] (m₄.malloc MAX_PACKET_SIZE).2 := (Heap.spares_new _ _ _).trans h₂
  refine ⟨?_, h₂ _ (List.not_mem_nil _) _ (Heap.deref_new _ _),
    h₁ _ (List.not_mem_nil _) _ (Heap.deref_new _ _),
    h₃ _ (List.not_mem_nil _) _ (Heap.deref_new _ _),
    (Heap.malloc_live _ _).imp_right fun hb => h₄ _ (List.not_mem_nil _) _ hb, Heap.malloc_live _ _⟩
  have hn₃ : m₃.next = ps.heap.next + 3 := rfl
  have hn₄ : m₃.next ≤ m₄.next := (Heap.le_malloc _ _).1
  have hn₅ : m₄.next ≤ (m₄.malloc MAX_PACKET_SIZE).2.next := (Heap.le_malloc _ _).1
  simp only [Transcoder.objs, List.mem_cons, List.mem_singleton, List.not_mem_nil, or_false]
  rintro p (rfl | rfl | rfl | rfl | rfl)
  · exact ⟨Nat.le_succ _, show _ < _ by omega⟩
  · exact ⟨Nat.le_refl _, show _ < _ by omega⟩
  · exact ⟨Nat.le_add_right _ _, show _ < _ by omega⟩
  · exact ⟨(Heap.malloc_from _ _).mono (by omega), (Heap.malloc_below MAX_FRAME_SIZE m₃).mono hn₅⟩
  · exact ⟨(Heap.malloc_from _ _).mono (by omega), Heap.malloc_below _ _⟩

/-- What a step frees: at most the objects of the entry its `close` finds. -/
theorem step_spares {c : Call} (h : step lib c s = .ok (r, s')) :
    s.proc.heap.Spares (c.closes.elim [] fun h => (s.table.index h).1.objs) s'.proc.heap := by
  cases c <;> rw [step] at h <;> simp only [Call.closes, Option.elim]
  case getInstance =>
    rw [getInstance, initTranscoderInstance] at h
    obtain ⟨-, e, hrun, -⟩ := Statics.getInstance_eq_ok h
    rw [(newTranscoder_run_eq hrun).2]
    exact (Heap.spares_alloc _ _ _ _).trans <| (Heap.spares_alloc _ _ _ _).trans <|
      (Heap.spares_alloc _ _ _ _).trans <|
        (Heap.spares_malloc _ _ _).trans (Heap.spares_malloc _ _ _)
  case close =>
    exact Statics.onEntry_spares (fun e => (Native.frees_invoke _ _ e.objs).bind fun _ =>
      (Native.frees_invoke _ _ _).bind fun _ => (Native.frees_invoke _ _ _).bind fun _ =>
      (Native.frees_free (by simp [Transcoder.objs])).bind fun _ =>
      (Native.frees_delete _ (by simp [Transcoder.objs])).bind fun _ =>
      (Native.frees_delete _ (by simp [Transcoder.objs])).bind fun _ =>
      (Native.frees_free (by simp [Transcoder.objs])).bind fun _ =>
      (Native.frees_free (by simp [Transcoder.objs])).bind fun _ => .pure _ _) h
  case «open» =>
    exact Statics.onEntry_spares (fun _ => (Native.frees_invoke _ _ []).bind fun _ =>
      (Native.frees_invoke _ _ _).bind fun _ => (Native.frees_invoke _ _ _).bind fun _ =>
      .pure _ _) h
  case stop =>
    exact Statics.onEntry_spares (fun _ => (Native.frees_invoke _ _ []).bind fun _ =>
      (Native.frees_invoke _ _ _).bind fun _ => .pure _ _) h
  case addDataInput => exact Statics.onEntry_spares (fun _ => addDataInput_frees lib _ _ _ []) h
  case getOutputPacket =>
    exact Statics.onEntry_spares (fun _ => (Native.frees_invoke _ _ []).bind fun _ =>
      (Native.frees_write _ _ _).bind fun _ =>
      .ite ((Native.frees_printf _ _).bind fun _ => .pure _ _)
        ((Native.Frees.pure _ _).bind fun _ => .pure _ _)) h
  case getFrame => exact Statics.onEntry_spares (fun _ => getFrame_frees lib _ _ []) h
  case getStats => exact Statics.onEntry_spares (fun _ => getStats_frees lib _ _ []) h
  case initLogger => exact Statics.onProcess_spares (initLogger_frees lib _ []) h

/-- The instances of the proxy are isolated: only `close` frees, and only what it looks up. -/
def isolated (lib : Lib Λ) : Statics.Isolated (step lib) issuedHandle where
  objs := Transcoder.objs
  Usable := Transcoder.Usable
  closes := Call.closes
  getInstance := .getInstance
  build := newTranscoder lib
  step_getInstance := rfl
  handle_some {c r h} hh := by cases c <;> first | rfl | exact nomatch hh
  objs_default := by
    simp only [Transcoder.objs, List.mem_cons, List.mem_singleton, List.not_mem_nil, or_false]
    rintro p (rfl | rfl | rfl | rfl | rfl) <;> rfl
  build_fresh := newTranscoder_fresh
  keep := Transcoder.Usable.keep
  spares := step_spares

theorem Call.closes_eq_some {c : Call} {h : CInt} (hc : c.closes = some h) : c = .close h := by
  cases c <;> cases hc; rfl

/-- In every reachable state an entry in the map has a source if it has a muxer: `getInstance`
creates both. -/
theorem source_of_muxer (lib : Lib Λ) (world : Λ) (avail : Nat) (cs : List Call) :
    let F := facade lib world avail
    ∀ h e, (F.last F.init (F.run cs F.init)).table h = some e →
      e.muxer ≠ .null → e.source ≠ .null :=
  Statics.facade_entries (fun e : Transcoder => e.muxer ≠ .null → e.source ≠ .null)
    (fun h => absurd rfl h) (fun hs hh e he _ hn => by
      have hu := ((isolated lib).issued_by hs hh e he).2.2.1
      rw [hn] at hu
      cases hu) cs

/-- On a handle whose entry is usable, `open` and `stop` complete, and so does `close`: it frees
the sink, muxer and source, which are live, and the two buffers, each `NULL` or live. -/
theorem lifecycle_completes {h : CInt} {e : Transcoder} (he : s.table h = some e)
    (hu : e.Usable s.proc.heap) :
    (∀ pInputCodec pRtp pOutputCodec xRes yRes fps, ∃ r s',
      step lib (.«open» h pInputCodec pRtp pOutputCodec xRes yRes fps) s = .ok (r, s')) ∧
    (∃ r s', step lib (.stop h) s = .ok (r, s')) ∧
      (∃ r s', step lib (.close h) s = .ok (r, s')) := by
  obtain ⟨hmux, hsrc, hsto, hfb, hpb⟩ := hu
  refine ⟨fun _ _ _ _ _ _ => ?_, ?_, ?_⟩ <;>
    simp only [step, «open», stop, close] <;> rw [Statics.onEntry_ok_iff he]
  · refine Native.CompletesOn.invoke_bind hsrc (fun _ => ?_) _ rfl
    exact .invoke_bind hmux fun _ => .invoke_bind hmux fun _ => .pure _ _
  · refine Native.CompletesOn.invoke_bind hmux (fun _ => ?_) _ rfl
    exact .invoke_bind hsto fun _ => .pure _ _
  · obtain ⟨m₁, hm₁, hL, hn⟩ := (Heap.Holds.cons (.inr hsto) (.cons (.inr hmux) (.cons (.inr hsrc)
      (.cons hfb (.cons hpb (.nil _)))))).free_cons (by
        show List.Nodup [Obj.mediaSinkMem, .mediaSourceMuxer, .mediaSourceMem,
          .bytes MAX_FRAME_SIZE, .bytes MAX_PACKET_SIZE]
        decide)
    obtain ⟨m₂, hm₂, hL, hn⟩ := hL.free_cons hn
    obtain ⟨m₃, hm₃, hL, hn⟩ := hL.free_cons hn
    obtain ⟨m₄, hm₄, hL, hn⟩ := hL.free_cons hn
    obtain ⟨m₅, hm₅, -⟩ := hL.free_cons hn
    refine Native.CompletesOn.invoke_bind hmux (fun _ => ?_) _ rfl
    refine .invoke_bind hsto fun _ => .invoke_bind hmux fun _ => .free_bind hm₁ ?_
    exact .delete_bind hm₂ (.delete_bind hm₃ (.free_bind hm₄ (.free_bind hm₅ (.pure _ _))))

theorem array_calls_complete {h : CInt} {e : Transcoder} (he : s.table h = some e)
    (hu : e.Usable s.proc.heap) :
    (∀ ba size, (∃ r s', step lib (.addDataInput h ba size) s = .ok (r, s')) ↔
      size.toInt ≤ ba.length) ∧
    (∀ ia, (∃ r s', step lib (.getStats h ia) s = .ok (r, s')) ↔
      4 * 7 ≤ s.proc.heap.avail ∧ ia.length ≤ 5) := by
  simp only [step]
  exact ⟨fun _ _ => (Statics.onEntry_ok_iff he).trans (addDataInput_completes_iff lib hu.2.1),
    fun _ => (Statics.onEntry_ok_iff he).trans (getStats_completes_iff lib hu.2.1)⟩

theorem buffer_calls_complete {h : CInt} {e : Transcoder} (he : s.table h = some e)
    (hu : e.Usable s.proc.heap) :
    ((∃ r s', step lib (.getFrame h) s = .ok (r, s')) ↔
      (lib.grabChunk MAX_FRAME_SIZE e.muxer s.proc.world).1.2 = [] ∨
        e.frameBuffer ≠ .null ∧
          (lib.grabChunk MAX_FRAME_SIZE e.muxer s.proc.world).1.2.length ≤ MAX_FRAME_SIZE) ∧
    ((∃ r s', step lib (.getOutputPacket h) s = .ok (r, s')) ↔
      (lib.readFragment MAX_PACKET_SIZE e.storage s.proc.world).1 = [] ∨
        e.packetBuffer ≠ .null ∧
          (lib.readFragment MAX_PACKET_SIZE e.storage s.proc.world).1.length ≤
            MAX_PACKET_SIZE) := by
  simp only [step, VideoTranscoder.getFrame, getOutputPacket]
  refine ⟨onEntry_getFrame_ok lib he hu.1 hu.2.2.2.1, ?_⟩
  rw [Statics.onEntry_ok_iff he, Native.run_bind_ok (Native.run_invoke_ok hu.2.2.1),
    ← List.length_eq_zero, ← Heap.write_buffer_eq_ok hu.2.2.2.2]
  constructor
  · rintro ⟨r, ps', h⟩
    obtain ⟨_, _, hw, -⟩ := Native.run_bind_eq_ok h
    exact (Native.run_write_eq_ok hw).2
  · intro hw
    refine Native.CompletesOn.write_bind hw ?_ _ rfl
    exact .ite (fun _ => .printf_bind (.pure _ _)) fun _ =>
      .bind_same (.pure _ _) (fun h => by cases h; rfl) fun _ => .pure _ _

end FogJni.VideoTranscoder

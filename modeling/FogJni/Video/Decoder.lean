import FogJni.Video.Media

/-! `VideoDecoderProxy.C`: one `MediaSourceMem` per handle, fed compressed data through
`addDataInput` and grabbed for decoded frames into a `malloc`ed frame buffer. `close` deletes
the source and frees the buffer but leaves the entry, dangling, in `sDecoder`. -/

namespace FogJni.VideoDecoder

open Media

structure Decoder where
  source : Ptr
  frameBuffer : Ptr
  deriving DecidableEq, Repr, Inhabited

/-- `sDecoderInstanceCount` and `sDecoder`, with the process. -/
abbrev State (Λ : Type) := Statics Decoder Λ

/-- The JNI entry points, named by their Java methods. The unused `picBuffer` and `stats`
arguments of `open` are left out. -/
inductive Call where
  | «open» (pHandle : CInt) (codec : String) (rtp : Bool) (xRes yRes : CInt) (fps : Float)
  | getInstance
  | stop (pHandle : CInt)
  | close (pHandle : CInt)
  | addDataInput (pHandle : CInt) (ba : List UInt8) (size : CInt)
  | getFrame (pHandle : CInt)
  | getStats (pHandle : CInt) (ia : List CInt)
  | initLogger (pLogLevel : CInt)

variable {Λ : Type} (lib : Lib Λ)

/-- The objects `initDecoderInstance` creates. -/
def newDecoder : Native Λ Decoder := do
  Native.library lib.disableIPv6Support
  Native.library lib.disableProcessStatisticSupport
  let source ← Native.new .mediaSourceMem (lib.mediaSourceMem true)
  let frameBuffer ← Native.malloc MAX_FRAME_SIZE
  pure ⟨source, frameBuffer⟩

def initDecoderInstance : State Λ → Except Fault (CInt × State Λ) :=
  Statics.issue (newDecoder lib)

def «open» (pHandle : CInt) (codec : String) (rtp : Bool) (xRes yRes : CInt) (fps : Float) :
    State Λ → Except Fault (Ret × State Λ) :=
  Statics.onEntry pHandle fun e => do
    Native.invoke e.source (lib.setInputStreamPreferences codec false rtp)
    Native.invoke e.source (lib.openVideoGrabDevice xRes yRes fps)
    pure .void

def getInstance : State Λ → Except Fault (Ret × State Λ) :=
  Statics.getInstance (initDecoderInstance lib)

def stop (pHandle : CInt) : State Λ → Except Fault (Ret × State Λ) :=
  Statics.onEntry pHandle fun e => do
    Native.invoke e.source lib.stopGrabbing
    pure .void

def close (pHandle : CInt) : State Λ → Except Fault (Ret × State Λ) :=
  Statics.onEntry pHandle fun e => do
    Native.invoke e.source lib.stopGrabbing
    Native.delete e.source lib.deleteMediaSourceMem
    Native.free e.frameBuffer
    pure .void

def addDataInput (pHandle : CInt) (ba : List UInt8) (size : CInt) :
    State Λ → Except Fault (Ret × State Λ) :=
  Statics.onEntry pHandle fun e => Media.addDataInput lib e.source ba size

def getFrame (pHandle : CInt) : State Λ → Except Fault (Ret × State Λ) :=
  Statics.onEntry pHandle fun e => Media.getFrame lib e.source e.frameBuffer

def getStats (pHandle : CInt) (ia : List CInt) : State Λ → Except Fault (Ret × State Λ) :=
  Statics.onEntry pHandle fun e => Media.getStats lib e.source ia

def initLogger (pLogLevel : CInt) : State Λ → Except Fault (Ret × State Λ) :=
  Statics.onProcess (Media.initLogger lib pLogLevel)

def step : Call → State Λ → Except Fault (Ret × State Λ)
  | .«open» h c r x y f => «open» lib h c r x y f
  | .getInstance => getInstance lib
  | .stop h => stop lib h
  | .close h => close lib h
  | .addDataInput h ba n => addDataInput lib h ba n
  | .getFrame h => getFrame lib h
  | .getStats h ia => getStats lib h ia
  | .initLogger l => initLogger lib l

/-- The handle `getInstance` hands back. -/
def issuedHandle : Call → Ret → Option CInt
  | .getInstance, .jint h => some h
  | _, _ => none

/-- The handle a call looks up. -/
def Call.pHandle : Call → Option CInt
  | .«open» h _ _ _ _ _ | .stop h | .close h | .addDataInput h _ _ | .getFrame h
  | .getStats h _ => some h
  | .getInstance | .initLogger _ => none

/-- The handle a call closes. -/
def Call.closes : Call → Option CInt
  | .close h => some h
  | _ => none

/-! ### The proxy as a façade -/

variable {lib} {s s' : State Λ} {r : Ret}

theorem newDecoder_run_eq {ps ps' : Process Λ} {e : Decoder}
    (h : (newDecoder lib).run ps = .ok (e, ps')) :
    e = ⟨.block ps.heap.next, ((ps.heap.new .mediaSourceMem).2.malloc MAX_FRAME_SIZE).1⟩ ∧
      ps'.heap = ((ps.heap.new .mediaSourceMem).2.malloc MAX_FRAME_SIZE).2 := by
  rw [newDecoder, Native.run_bind_ok (Native.run_library _ _),
    Native.run_bind_ok (Native.run_library _ _), Native.run_bind_ok (Native.run_new _ _ _),
    Native.run_bind_ok (Native.run_malloc _ _), Native.run_pure] at h
  cases h
  exact ⟨rfl, rfl⟩

/-- The source `initDecoderInstance` creates is the block allocated next, and with fewer than
`MAX_FRAME_SIZE` bytes left for `malloc` its frame buffer is `NULL`. -/
theorem newDecoder_run {ps ps' : Process Λ} {e : Decoder}
    (h : (newDecoder lib).run ps = .ok (e, ps')) :
    e.source = .block ps.heap.next ∧ ps.heap.next < ps'.heap.next ∧
      (ps.heap.avail < MAX_FRAME_SIZE → e.frameBuffer = .null) := by
  obtain ⟨rfl, hps⟩ := newDecoder_run_eq h
  refine ⟨rfl, hps ▸ Nat.lt_of_lt_of_le (Nat.lt_succ_self _)
    (Heap.le_malloc MAX_FRAME_SIZE (ps.heap.new .mediaSourceMem).2).1, fun ha => ?_⟩
  exact congrArg Prod.fst
    (Heap.malloc_of_lt (show (ps.heap.new .mediaSourceMem).2.avail < MAX_FRAME_SIZE from ha))

theorem step_moves {c : Call} (h : step lib c s = .ok (r, s')) :
    Statics.Step (·.source) s (issuedHandle c r) s' := by
  cases c with
  | getInstance =>
    rw [step, getInstance, initDecoderInstance] at h
    obtain ⟨rfl, hst⟩ :=
      Statics.getInstance_step h fun h => ⟨(newDecoder_run h).1, (newDecoder_run h).2.1⟩
    exact hst
  | initLogger => rw [step] at h; exact Statics.onProcess_step h
  | _ => rw [step] at h; exact Statics.onEntry_step h

theorem newDecoder_total : Native.Total (newDecoder lib) :=
  Native.Total.bind (Native.total_library _) fun _ =>
    Native.Total.bind (Native.total_library _) fun _ => Native.Total.bind (Native.total_new _ _)
      fun _ => Native.Total.bind (Native.total_malloc _) fun _ => Native.Total.pure _

theorem step_getInstance (s : State Λ) :
    ∃ r s' h, step lib .getInstance s = .ok (r, s') ∧ issuedHandle .getInstance r = some h :=
  let ⟨s', hs⟩ := Statics.getInstance_total newDecoder_total s
  ⟨_, s', s.count, hs, rfl⟩

/-- The proxy in a fresh process whose library starts in state `world`, with `avail` bytes
for `malloc`. -/
def facade (lib : Lib Λ) (world : Λ) (avail : Nat) : Facade :=
  Statics.facade (·.source) rfl (step lib) issuedHandle world avail step_moves

/-! ### Calls on dead entries -/

/-- A call through the source of the entry raises `f`. Every entry point on a handle calls it
first. -/
def Decoder.Dead (e : Decoder) (m : Heap) (f : Fault) : Prop := e.source.Dead m f

theorem Decoder.Dead.mono {e : Decoder} {m m' : Heap} {f : Fault} (hd : e.Dead m f)
    (hm : m.Le m') : e.Dead m' f :=
  Ptr.Dead.mono hd hm

/-- Every call on a handle whose entry is dead raises the fault of the call through its source. -/
theorem step_dead {c : Call} {h : CInt} {f : Fault} (hc : c.pHandle = some h)
    (hd : (s.table.index h).1.Dead s.proc.heap f) : step lib c s = .error f := by
  cases c <;> cases hc <;> rw [step]
  case «open» | stop | close =>
    exact Statics.onEntry_fault (Native.Guarded.bind_left (Native.Guarded.invoke _ _)) hd
  case addDataInput => exact Statics.onEntry_fault (addDataInput_guarded _ _ _ _) hd
  case getFrame => exact Statics.onEntry_fault (getFrame_guarded _ _ _) hd
  case getStats => exact Statics.onEntry_fault (getStats_guarded _ _ _) hd

/-- `close` leaves the entry in the map, its source deleted. -/
theorem close_kills {h : CInt} (hc : step lib (.close h) s = .ok (r, s')) :
    ∃ e, s'.table h = some e ∧ e.Dead s'.proc.heap .useAfterFree := by
  rw [step, close] at hc
  exact ⟨_, Statics.onEntry_ensures (fun (e : Decoder) m => e.Dead m .useAfterFree) hc
    fun _ => Native.Kills.invoke_bind fun _ hp => .bind_left (Native.kills_delete _ hp)⟩

/-! ### Isolation and progress -/

/-- The objects of an entry. -/
def Decoder.objs (e : Decoder) : List Ptr := [e.source, e.frameBuffer]

/-- An entry whose source is live and whose frame buffer is `NULL` or `MAX_FRAME_SIZE` live
bytes: what `getInstance` stores. -/
def Decoder.Usable (e : Decoder) (m : Heap) : Prop :=
  m.deref e.source = .ok .mediaSourceMem ∧
    (e.frameBuffer = .null ∨ m.deref e.frameBuffer = .ok (.bytes MAX_FRAME_SIZE))

theorem Decoder.Usable.keep {e : Decoder} {m m' : Heap} (hu : e.Usable m)
    (hk : m.Keeps e.objs m') : e.Usable m' :=
  ⟨hk _ (List.mem_cons_self _ _) _ hu.1,
    hu.2.imp_right (hk _ (List.mem_cons_of_mem _ (List.mem_singleton_self _)) _)⟩

theorem newDecoder_fresh {ps ps' : Process Λ} {e : Decoder}
    (h : (newDecoder lib).run ps = .ok (e, ps')) :
    (∀ p ∈ e.objs, p.From ps.heap.next ∧ p.Below ps'.heap.next) ∧ e.Usable ps'.heap := by
  obtain ⟨rfl, hps⟩ := newDecoder_run_eq h
  rw [hps]
  refine ⟨?_, Heap.spares_malloc _ [] _ _ (List.not_mem_nil _) _ (Heap.deref_new _ _),
    Heap.malloc_live _ _⟩
  simp only [Decoder.objs, List.mem_cons, List.mem_singleton, List.not_mem_nil, or_false]
  rintro p (rfl | rfl)
  · exact ⟨Nat.le_refl _, Nat.lt_of_lt_of_le (Nat.lt_succ_self _)
      (Heap.le_malloc MAX_FRAME_SIZE (ps.heap.new .mediaSourceMem).2).1⟩
  · exact ⟨(Heap.malloc_from _ _).mono (Nat.le_succ _), Heap.malloc_below _ _⟩

/-- What a step frees: at most the objects of the entry its `close` finds. -/
theorem step_spares {c : Call} (h : step lib c s = .ok (r, s')) :
    s.proc.heap.Spares (c.closes.elim [] fun h => (s.table.index h).1.objs) s'.proc.heap := by
  cases c <;> rw [step] at h <;> simp only [Call.closes, Option.elim]
  case getInstance =>
    rw [getInstance, initDecoderInstance] at h
    obtain ⟨-, e, hrun, -⟩ := Statics.getInstance_eq_ok h
    rw [(newDecoder_run_eq hrun).2]
    exact (Heap.spares_alloc _ _ _ _).trans (Heap.spares_malloc _ _ _)
  case close =>
    exact Statics.onEntry_spares (fun e => (Native.frees_invoke _ _ e.objs).bind fun _ =>
      (Native.frees_delete _ (List.mem_cons_self _ _)).bind fun _ =>
      (Native.frees_free (List.mem_cons_of_mem _ (List.mem_singleton_self _))).bind fun _ =>
      .pure _ _) h
  case «open» =>
    exact Statics.onEntry_spares (fun _ => (Native.frees_invoke _ _ []).bind fun _ =>
      (Native.frees_invoke _ _ _).bind fun _ => .pure _ _) h
  case stop =>
    exact Statics.onEntry_spares (fun _ => (Native.frees_invoke _ _ []).bind fun _ => .pure _ _) h
  case addDataInput => exact Statics.onEntry_spares (fun _ => addDataInput_frees lib _ _ _ []) h
  case getFrame => exact Statics.onEntry_spares (fun _ => getFrame_frees lib _ _ []) h
  case getStats => exact Statics.onEntry_spares (fun _ => getStats_frees lib _ _ []) h
  case initLogger => exact Statics.onProcess_spares (initLogger_frees lib _ []) h

/-- The instances of the proxy are isolated: only `close` frees, and only what it looks up. -/
def isolated (lib : Lib Λ) : Statics.Isolated (step lib) issuedHandle where
  objs := Decoder.objs
  Usable := Decoder.Usable
  closes := Call.closes
  getInstance := .getInstance
  build := newDecoder lib
  step_getInstance := rfl
  handle_some {c r h} hh := by cases c <;> first | rfl | exact nomatch hh
  objs_default := by
    simp only [Decoder.objs, List.mem_cons, List.mem_singleton, List.not_mem_nil, or_false]
    rintro p (rfl | rfl) <;> rfl
  build_fresh := newDecoder_fresh
  keep := Decoder.Usable.keep
  spares := step_spares

theorem Call.closes_eq_some {c : Call} {h : CInt} (hc : c.closes = some h) : c = .close h := by
  cases c <;> cases hc; rfl

/-- On a handle whose entry is usable, `open` and `stop` complete, and so does `close`: it frees a
live source and a frame buffer that is `NULL` or live. -/
theorem lifecycle_completes {h : CInt} {e : Decoder} (he : s.table h = some e)
    (hu : e.Usable s.proc.heap) :
    (∀ codec rtp xRes yRes fps,
      ∃ r s', step lib (.«open» h codec rtp xRes yRes fps) s = .ok (r, s')) ∧
    (∃ r s', step lib (.stop h) s = .ok (r, s')) ∧
      (∃ r s', step lib (.close h) s = .ok (r, s')) := by
  refine ⟨fun codec rtp xRes yRes fps => ?_, ?_, ?_⟩ <;> simp only [step, «open», stop, close] <;>
    rw [Statics.onEntry_ok_iff he]
  · exact Native.CompletesOn.invoke_bind hu.1 (fun _ => .invoke_bind hu.1 fun _ => .pure _ _) _ rfl
  · exact Native.CompletesOn.invoke_bind hu.1 (fun _ => .pure _ _) _ rfl
  · obtain ⟨m₁, hm₁, hL, hn⟩ := (Heap.Holds.cons (.inr hu.1) (.cons hu.2 (.nil _))).free_cons
      (by show List.Nodup [Obj.mediaSourceMem, .bytes MAX_FRAME_SIZE]; decide)
    obtain ⟨m₂, hm₂, -⟩ := hL.free_cons hn
    refine Native.CompletesOn.invoke_bind hu.1 (fun _ => ?_) _ rfl
    exact .delete_bind hm₁ (.free_bind hm₂ (.pure _ _))

theorem array_calls_complete {h : CInt} {e : Decoder} (he : s.table h = some e)
    (hu : e.Usable s.proc.heap) :
    (∀ ba size, (∃ r s', step lib (.addDataInput h ba size) s = .ok (r, s')) ↔
      size.toInt ≤ ba.length) ∧
    (∀ ia, (∃ r s', step lib (.getStats h ia) s = .ok (r, s')) ↔
      4 * 7 ≤ s.proc.heap.avail ∧ ia.length ≤ 5) := by
  simp only [step]
  exact ⟨fun _ _ => (Statics.onEntry_ok_iff he).trans (addDataInput_completes_iff lib hu.1),
    fun _ => (Statics.onEntry_ok_iff he).trans (getStats_completes_iff lib hu.1)⟩

theorem getFrame_completes {h : CInt} {e : Decoder} (he : s.table h = some e)
    (hu : e.Usable s.proc.heap) :
    (∃ r s', step lib (.getFrame h) s = .ok (r, s')) ↔
      (lib.grabChunk MAX_FRAME_SIZE e.source s.proc.world).1.2 = [] ∨
        e.frameBuffer ≠ .null ∧
          (lib.grabChunk MAX_FRAME_SIZE e.source s.proc.world).1.2.length ≤ MAX_FRAME_SIZE := by
  rw [step]
  exact onEntry_getFrame_ok lib he hu.1 hu.2

end FogJni.VideoDecoder

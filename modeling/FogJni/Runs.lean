import FogJni.Emulator.PacketFoG
import FogJni.Video.Decoder
import FogJni.Video.Transcoder

/-! Runs of the three proxies. Whatever the library does, whatever state it starts in
and however much memory `malloc` has, every run of a proxy (any calls, on any handles, the
issued, the closed and the never issued alike) keeps the handle law. `getInstance` always
completes, so runs that issue `2^31` and `2^32` handles exist, and there the unchecked 32-bit
counter makes a handle negative and then hands the first handle out again.

No entry point checks its handle. A call on a handle never issued calls a member through `NULL`,
and a call on a handle whose instance was closed calls one through a deleted object: both are
undefined, and neither is reported to Java.

Instances are isolated: only `close` frees, and only the objects of the entry it looks up, so
an instance handed out stays usable until its own `close`, whatever is called on the other
handles. On such an instance the lifecycle calls always complete, and the data calls complete
exactly when the bytes they copy fit: the region in the Java array, the stack buffer of the
emulator, or the frame and packet buffers of the video proxies. A byte setter of the emulator
whose region does not lie in the Java array returns with the exception pending, after calling
the sender on the uninitialised buffer. `getInstance` does not check the `malloc` of a frame
buffer, and when memory runs short it hands out an instance whose every `getFrame` writes through
`NULL` as soon as the library grabs any bytes. `getStats` keeps the 28 bytes it takes from
`malloc`, so polling it drains the memory the process has left. -/

namespace FogJni

/-- Every run of each proxy keeps the handle law, and `getInstance` issues a handle each time it is
called. -/
theorem proxies_keep_handle_law :
    (∀ (Λ : Type) (lib : PacketFoG.Lib Λ) (world : Λ) (avail : Nat),
      let F := PacketFoG.facade lib world avail
      (∀ calls, F.HandleLaw calls) ∧ F.Issues PacketFoG.Call.getInstance) ∧
    (∀ (Λ : Type) (lib : Media.Lib Λ) (world : Λ) (avail : Nat),
      let F := VideoDecoder.facade lib world avail
      (∀ calls, F.HandleLaw calls) ∧ F.Issues VideoDecoder.Call.getInstance) ∧
    (∀ (Λ : Type) (lib : Media.Lib Λ) (world : Λ) (avail : Nat),
      let F := VideoTranscoder.facade lib world avail
      (∀ calls, F.HandleLaw calls) ∧ F.Issues VideoTranscoder.Call.getInstance) :=
  ⟨fun _ lib world avail =>
    ⟨(PacketFoG.facade lib world avail).handleLaw, Facade.issues _ _ PacketFoG.step_getInstance⟩,
   fun _ lib world avail =>
    ⟨(VideoDecoder.facade lib world avail).handleLaw,
      Facade.issues _ _ VideoDecoder.step_getInstance⟩,
   fun _ lib world avail =>
    ⟨(VideoTranscoder.facade lib world avail).handleLaw,
      Facade.issues _ _ VideoTranscoder.step_getInstance⟩⟩

/-- A call on a handle that no `getInstance` of the run has handed out calls a member through
`NULL`: `operator[]` inserts `T()`, whose objects are `NULL`. Only a byte copy of the emulator
may overrun its buffer first. -/
theorem unissued_handles_fault :
    (∀ (Λ : Type) (lib : PacketFoG.Lib Λ) (world : Λ) (avail : Nat)
      (calls : List PacketFoG.Call) (c : PacketFoG.Call) (h : CInt),
      let F := PacketFoG.facade lib world avail
      c.pHandle = some h → (∀ p ∈ F.issued (F.run calls F.init), p.1 ≠ h) →
      F.step c (F.last F.init (F.run calls F.init)) = .error .nullDeref ∨
        c.copiesBytes = true ∧
          F.step c (F.last F.init (F.run calls F.init)) = .error .bufferOverflow) ∧
    (∀ (Λ : Type) (lib : Media.Lib Λ) (world : Λ) (avail : Nat)
      (calls : List VideoDecoder.Call) (c : VideoDecoder.Call) (h : CInt),
      let F := VideoDecoder.facade lib world avail
      c.pHandle = some h → (∀ p ∈ F.issued (F.run calls F.init), p.1 ≠ h) →
      F.step c (F.last F.init (F.run calls F.init)) = .error .nullDeref) ∧
    (∀ (Λ : Type) (lib : Media.Lib Λ) (world : Λ) (avail : Nat)
      (calls : List VideoTranscoder.Call) (c : VideoTranscoder.Call) (h : CInt),
      let F := VideoTranscoder.facade lib world avail
      c.pHandle = some h → (∀ p ∈ F.issued (F.run calls F.init), p.1 ≠ h) →
      F.step c (F.last F.init (F.run calls F.init)) = .error .nullDeref) :=
  ⟨fun _ lib world avail calls _ _ hc hn => PacketFoG.step_dead hc
    ((congrArg (PacketFoG.PacketFogInstance.Dead · _ .nullDeref)
      ((PacketFoG.facade lib world avail).index_unissued calls hn)).mpr
      (PacketFoG.dead_default _)),
   fun _ lib world avail calls _ _ hc hn => VideoDecoder.step_dead hc
    ((congrArg (VideoDecoder.Decoder.Dead · _ .nullDeref)
      ((VideoDecoder.facade lib world avail).index_unissued calls hn)).mpr rfl),
   fun _ lib world avail calls _ _ hc hn => VideoTranscoder.step_dead hc
    ((congrArg (VideoTranscoder.Transcoder.Dead · _ .nullDeref)
      ((VideoTranscoder.facade lib world avail).index_unissued calls hn)).mpr ⟨rfl, rfl, rfl⟩)⟩

theorem call_on_handle_one_faults :
    (let F := PacketFoG.facade (default : PacketFoG.Lib Unit) () 0
     (∀ p ∈ F.issued (F.run [PacketFoG.Call.getInstance] F.init), p.1 ≠ 1) ∧
     (F.step (PacketFoG.Call.doSend 1)
       (F.last F.init (F.run [PacketFoG.Call.getInstance] F.init)) = .error .nullDeref ∨
      (PacketFoG.Call.doSend 1).copiesBytes = true ∧ F.step (PacketFoG.Call.doSend 1)
       (F.last F.init (F.run [PacketFoG.Call.getInstance] F.init)) = .error .bufferOverflow)) ∧
    (let F := VideoDecoder.facade (default : Media.Lib Unit) () 0
     (∀ p ∈ F.issued (F.run [VideoDecoder.Call.getInstance] F.init), p.1 ≠ 1) ∧
     F.step (VideoDecoder.Call.stop 1)
       (F.last F.init (F.run [VideoDecoder.Call.getInstance] F.init)) = .error .nullDeref) ∧
    (let F := VideoTranscoder.facade (default : Media.Lib Unit) () 0
     (∀ p ∈ F.issued (F.run [VideoTranscoder.Call.getInstance] F.init), p.1 ≠ 1) ∧
     F.step (VideoTranscoder.Call.stop 1)
       (F.last F.init (F.run [VideoTranscoder.Call.getInstance] F.init)) = .error .nullDeref) := by
  refine ⟨?_, ?_, ?_⟩ <;> intro F
  · have hn : ∀ p ∈ F.issued (F.run [PacketFoG.Call.getInstance] F.init), p.1 ≠ 1 := by decide
    exact ⟨hn, unissued_handles_fault.1 Unit default () 0 _ (PacketFoG.Call.doSend 1) 1 rfl hn⟩
  · have hn : ∀ p ∈ F.issued (F.run [VideoDecoder.Call.getInstance] F.init), p.1 ≠ 1 := by decide
    exact ⟨hn, unissued_handles_fault.2.1 Unit default () 0 _ (VideoDecoder.Call.stop 1) 1 rfl hn⟩
  · have hn : ∀ p ∈ F.issued (F.run [VideoTranscoder.Call.getInstance] F.init), p.1 ≠ 1 := by
      decide
    exact ⟨hn,
      unissued_handles_fault.2.2 Unit default () 0 _ (VideoTranscoder.Call.stop 1) 1 rfl hn⟩

/-- Once `close` on a handle has completed, every later call on the handle calls a member of a
deleted object, until `getInstance` hands the handle out again: `close` deletes the objects and
leaves the entry in the map. -/
theorem closed_handles_fault :
    (∀ (Λ : Type) (lib : Media.Lib Λ) (world : Λ) (avail : Nat)
      (pre post : List VideoDecoder.Call) (h : CInt) (r : Ret) (s : VideoDecoder.State Λ)
      (c : VideoDecoder.Call),
      let F := VideoDecoder.facade lib world avail
      F.step (VideoDecoder.Call.close h) (F.last F.init (F.run pre F.init)) = .ok (r, s) →
      (∀ p ∈ F.issued (F.run post s), p.1 ≠ h) → c.pHandle = some h →
      F.step c (F.last s (F.run post s)) = .error .useAfterFree) ∧
    (∀ (Λ : Type) (lib : Media.Lib Λ) (world : Λ) (avail : Nat)
      (pre post : List VideoTranscoder.Call) (h : CInt) (r : Ret) (s : VideoTranscoder.State Λ)
      (c : VideoTranscoder.Call),
      let F := VideoTranscoder.facade lib world avail
      F.step (VideoTranscoder.Call.close h) (F.last F.init (F.run pre F.init)) = .ok (r, s) →
      (∀ p ∈ F.issued (F.run post s), p.1 ≠ h) → c.pHandle = some h →
      F.step c (F.last s (F.run post s)) = .error .useAfterFree) := by
  refine ⟨fun Λ lib world avail _ post h _ _ _ hclose hn hc => ?_,
    fun Λ lib world avail pre post h _ _ _ hclose hn hc => ?_⟩
  · exact VideoDecoder.step_dead hc (Statics.facade_dead_stays (fun e m => e.Dead m .useAfterFree)
      (fun hd hm => hd.mono hm) post (VideoDecoder.close_kills hclose) hn)
  · have hsrc := Table.index_fst_of (fun e : VideoTranscoder.Transcoder =>
      e.muxer ≠ .null → e.source ≠ .null) _ h (fun hm => absurd rfl hm)
      (VideoTranscoder.source_of_muxer lib world avail pre h)
    exact VideoTranscoder.step_dead hc (Statics.facade_dead_stays
      (fun e m => e.Dead m .useAfterFree) (fun hd hm => hd.mono hm) post
      (VideoTranscoder.close_kills hclose hsrc) hn)

theorem stop_after_close_faults :
    (let F := VideoDecoder.facade (default : Media.Lib Unit) () 0
     ∃ r s, F.step (VideoDecoder.Call.close 0)
       (F.last F.init (F.run [VideoDecoder.Call.getInstance] F.init)) = .ok (r, s) ∧
       F.step (VideoDecoder.Call.stop 0) (F.last s (F.run [] s)) = .error .useAfterFree) ∧
    (let F := VideoTranscoder.facade (default : Media.Lib Unit) () 0
     ∃ r s, F.step (VideoTranscoder.Call.close 0)
       (F.last F.init (F.run [VideoTranscoder.Call.getInstance] F.init)) = .ok (r, s) ∧
       F.step (VideoTranscoder.Call.stop 0) (F.last s (F.run [] s)) = .error .useAfterFree) := by
  refine ⟨?_, ?_⟩ <;> intro F
  · obtain ⟨r, s, h⟩ : ∃ r s, F.step (VideoDecoder.Call.close 0)
        (F.last F.init (F.run [VideoDecoder.Call.getInstance] F.init)) = .ok (r, s) :=
      ⟨_, _, rfl⟩
    exact ⟨r, s, h, closed_handles_fault.1 Unit default () 0 _ [] 0 r s
      (VideoDecoder.Call.stop 0) h (fun _ hp => nomatch hp) rfl⟩
  · obtain ⟨r, s, h⟩ : ∃ r s, F.step (VideoTranscoder.Call.close 0)
        (F.last F.init (F.run [VideoTranscoder.Call.getInstance] F.init)) = .ok (r, s) :=
      ⟨_, _, rfl⟩
    exact ⟨r, s, h, closed_handles_fault.2 Unit default () 0 _ [] 0 r s
      (VideoTranscoder.Call.stop 0) h (fun _ hp => nomatch hp) rfl⟩

/-- `getInstance` does not check the `malloc` of the frame buffer: from a reachable state with
fewer than `MAX_FRAME_SIZE` bytes left it still completes, and hands out an instance whose frame
buffer is `NULL`. Over every later run that neither closes nor reissues the handle, a `getFrame`
on it then writes through `NULL` exactly when the library grabs any bytes, and completes
otherwise. -/
theorem getInstance_keeps_null_frameBuffer :
    (∀ (Λ : Type) (lib : Media.Lib Λ) (world : Λ) (avail : Nat) (pre : List VideoDecoder.Call),
      let F := VideoDecoder.facade lib world avail
      let s₀ : VideoDecoder.State Λ := F.last F.init (F.run pre F.init)
      s₀.proc.heap.avail < Media.MAX_FRAME_SIZE →
      ∃ s₁ e, F.step .getInstance s₀ = .ok (.jint s₀.count, s₁) ∧ s₁.table s₀.count = some e ∧
        e.frameBuffer = .null ∧
        ∀ post : List VideoDecoder.Call, (∀ c ∈ post, c ≠ .close s₀.count) →
          (∀ p ∈ F.issued (F.run post s₁), p.1 ≠ s₀.count) →
          (F.step (.getFrame s₀.count) (F.last s₁ (F.run post s₁)) = .error .nullDeref ↔
            (lib.grabChunk Media.MAX_FRAME_SIZE e.source
              (F.last s₁ (F.run post s₁)).proc.world).1.2 ≠ []) ∧
          ((lib.grabChunk Media.MAX_FRAME_SIZE e.source
              (F.last s₁ (F.run post s₁)).proc.world).1.2 = [] →
            ∃ r s₃, F.step (.getFrame s₀.count) (F.last s₁ (F.run post s₁)) = .ok (r, s₃))) ∧
    (∀ (Λ : Type) (lib : Media.Lib Λ) (world : Λ) (avail : Nat)
      (pre : List VideoTranscoder.Call),
      let F := VideoTranscoder.facade lib world avail
      let s₀ : VideoTranscoder.State Λ := F.last F.init (F.run pre F.init)
      s₀.proc.heap.avail < Media.MAX_FRAME_SIZE →
      ∃ s₁ e, F.step .getInstance s₀ = .ok (.jint s₀.count, s₁) ∧ s₁.table s₀.count = some e ∧
        e.frameBuffer = .null ∧
        ∀ post : List VideoTranscoder.Call, (∀ c ∈ post, c ≠ .close s₀.count) →
          (∀ p ∈ F.issued (F.run post s₁), p.1 ≠ s₀.count) →
          (F.step (.getFrame s₀.count) (F.last s₁ (F.run post s₁)) = .error .nullDeref ↔
            (lib.grabChunk Media.MAX_FRAME_SIZE e.muxer
              (F.last s₁ (F.run post s₁)).proc.world).1.2 ≠ []) ∧
          ((lib.grabChunk Media.MAX_FRAME_SIZE e.muxer
              (F.last s₁ (F.run post s₁)).proc.world).1.2 = [] →
            ∃ r s₃, F.step (.getFrame s₀.count) (F.last s₁ (F.run post s₁)) = .ok (r, s₃))) := by
  refine ⟨fun Λ lib world avail pre => ?_, fun Λ lib world avail pre => ?_⟩ <;> dsimp only <;>
    intro ha
  · obtain ⟨s₁, hs₁⟩ := Statics.getInstance_total VideoDecoder.newDecoder_total
      ((VideoDecoder.facade lib world avail).last _ (Facade.run _ pre _))
    obtain ⟨-, e, hrun, he⟩ := Statics.getInstance_eq_ok hs₁
    refine ⟨s₁, e, hs₁, he, (VideoDecoder.newDecoder_run hrun).2.2 ha, fun post hc hn => ?_⟩
    obtain ⟨e', he', he₂, hu⟩ := (VideoDecoder.isolated lib).usable_until_closed pre post hs₁
      (fun c hm hcl => hc c hm (VideoDecoder.Call.closes_eq_some hcl)) hn
    cases Option.some.inj (he.symm.trans he')
    exact Media.onEntry_getFrame_null lib he₂ hu.1 ((VideoDecoder.newDecoder_run hrun).2.2 ha)
  · obtain ⟨s₁, hs₁⟩ := Statics.getInstance_total VideoTranscoder.newTranscoder_total
      ((VideoTranscoder.facade lib world avail).last _ (Facade.run _ pre _))
    obtain ⟨-, e, hrun, he⟩ := Statics.getInstance_eq_ok hs₁
    refine ⟨s₁, e, hs₁, he, (VideoTranscoder.newTranscoder_run hrun).2.2 ha, fun post hc hn => ?_⟩
    obtain ⟨e', he', he₂, hu⟩ := (VideoTranscoder.isolated lib).usable_until_closed pre post hs₁
      (fun c hm hcl => hc c hm (VideoTranscoder.Call.closes_eq_some hcl)) hn
    cases Option.some.inj (he.symm.trans he')
    exact Media.onEntry_getFrame_null lib he₂ hu.1
      ((VideoTranscoder.newTranscoder_run hrun).2.2 ha)

theorem getFrame_without_frameBuffer_faults :
    let lib : Media.Lib Unit := { (default : Media.Lib Unit) with
      grabChunk := fun _ _ l => ((1, [0]), l) }
    (let F := VideoDecoder.facade lib () 0
     let s₀ : VideoDecoder.State Unit := F.last F.init (F.run [] F.init)
     s₀.proc.heap.avail < Media.MAX_FRAME_SIZE ∧
     ∃ s₁ e, F.step .getInstance s₀ = .ok (.jint s₀.count, s₁) ∧ s₁.table s₀.count = some e ∧
       e.frameBuffer = .null ∧
       ∀ post : List VideoDecoder.Call, (∀ c ∈ post, c ≠ .close s₀.count) →
         (∀ p ∈ F.issued (F.run post s₁), p.1 ≠ s₀.count) →
         (F.step (.getFrame s₀.count) (F.last s₁ (F.run post s₁)) = .error .nullDeref ↔
           (lib.grabChunk Media.MAX_FRAME_SIZE e.source
             (F.last s₁ (F.run post s₁)).proc.world).1.2 ≠ []) ∧
         ((lib.grabChunk Media.MAX_FRAME_SIZE e.source
             (F.last s₁ (F.run post s₁)).proc.world).1.2 = [] →
           ∃ r s₃, F.step (.getFrame s₀.count) (F.last s₁ (F.run post s₁)) = .ok (r, s₃))) ∧
    (let F := VideoTranscoder.facade lib () 0
     let s₀ : VideoTranscoder.State Unit := F.last F.init (F.run [] F.init)
     s₀.proc.heap.avail < Media.MAX_FRAME_SIZE ∧
     ∃ s₁ e, F.step .getInstance s₀ = .ok (.jint s₀.count, s₁) ∧ s₁.table s₀.count = some e ∧
       e.frameBuffer = .null ∧
       ∀ post : List VideoTranscoder.Call, (∀ c ∈ post, c ≠ .close s₀.count) →
         (∀ p ∈ F.issued (F.run post s₁), p.1 ≠ s₀.count) →
         (F.step (.getFrame s₀.count) (F.last s₁ (F.run post s₁)) = .error .nullDeref ↔
           (lib.grabChunk Media.MAX_FRAME_SIZE e.muxer
             (F.last s₁ (F.run post s₁)).proc.world).1.2 ≠ []) ∧
         ((lib.grabChunk Media.MAX_FRAME_SIZE e.muxer
             (F.last s₁ (F.run post s₁)).proc.world).1.2 = [] →
           ∃ r s₃, F.step (.getFrame s₀.count) (F.last s₁ (F.run post s₁)) = .ok (r, s₃))) := by
  intro lib
  refine ⟨⟨?ha, getInstance_keeps_null_frameBuffer.1 Unit lib () 0 [] ?ha⟩,
    ⟨?ta, getInstance_keeps_null_frameBuffer.2 Unit lib () 0 [] ?ta⟩⟩
  · decide
  · decide

/-- A handle polled with `getStats` answers at most `avail / 28` times in a row, `avail` being
what `malloc` has left when the polling starts: every completed call keeps the 28 bytes of its
`aStats`. -/
theorem polled_getStats_drains_malloc :
    (∀ (Λ : Type) (lib : Media.Lib Λ) (world : Λ) (avail : Nat)
      (pre : List VideoDecoder.Call) (h : CInt) (ia : List CInt) (n : Nat),
      let F := VideoDecoder.facade lib world avail
      let s : VideoDecoder.State Λ := F.last F.init (F.run pre F.init)
      (F.run (List.replicate n (VideoDecoder.Call.getStats h ia)) s).length * (4 * 7) ≤
        s.proc.heap.avail) ∧
    (∀ (Λ : Type) (lib : Media.Lib Λ) (world : Λ) (avail : Nat)
      (pre : List VideoTranscoder.Call) (h : CInt) (ia : List CInt) (n : Nat),
      let F := VideoTranscoder.facade lib world avail
      let s : VideoTranscoder.State Λ := F.last F.init (F.run pre F.init)
      (F.run (List.replicate n (VideoTranscoder.Call.getStats h ia)) s).length * (4 * 7) ≤
        s.proc.heap.avail) :=
  ⟨fun Λ lib world avail _ h ia n =>
    (VideoDecoder.facade lib world avail).run_replicate_length (VideoDecoder.Call.getStats h ia)
      (fun s : VideoDecoder.State Λ => s.proc.heap.avail) _
      (fun hc => by
        simp only [VideoDecoder.facade, Statics.facade, VideoDecoder.step] at hc
        exact Media.onEntry_getStats lib hc) n _,
   fun Λ lib world avail _ h ia n =>
    (VideoTranscoder.facade lib world avail).run_replicate_length
      (VideoTranscoder.Call.getStats h ia)
      (fun s : VideoTranscoder.State Λ => s.proc.heap.avail) _
      (fun hc => by
        simp only [VideoTranscoder.facade, Statics.facade, VideoTranscoder.step] at hc
        exact Media.onEntry_getStats lib hc) n _⟩

/-- An instance handed out in a reachable state stays until its own `close`, over any later run
that does not hand its handle out again: its entry stays in the map, and `open`, `stop` and
`close` on it complete, whatever the run closed on other handles. -/
theorem instances_usable_until_closed :
    (∀ (Λ : Type) (lib : Media.Lib Λ) (world : Λ) (avail : Nat)
      (pre post : List VideoDecoder.Call) (h : CInt) (s : VideoDecoder.State Λ),
      let F := VideoDecoder.facade lib world avail
      F.step .getInstance (F.last F.init (F.run pre F.init)) = .ok (.jint h, s) →
      (∀ c ∈ post, c ≠ .close h) → (∀ p ∈ F.issued (F.run post s), p.1 ≠ h) →
      (F.last s (F.run post s)).table h = s.table h ∧
      (∀ codec rtp xRes yRes fps, ∃ r s',
        F.step (.«open» h codec rtp xRes yRes fps) (F.last s (F.run post s)) = .ok (r, s')) ∧
      (∃ r s', F.step (.stop h) (F.last s (F.run post s)) = .ok (r, s')) ∧
      (∃ r s', F.step (.close h) (F.last s (F.run post s)) = .ok (r, s'))) ∧
    (∀ (Λ : Type) (lib : Media.Lib Λ) (world : Λ) (avail : Nat)
      (pre post : List VideoTranscoder.Call) (h : CInt) (s : VideoTranscoder.State Λ),
      let F := VideoTranscoder.facade lib world avail
      F.step .getInstance (F.last F.init (F.run pre F.init)) = .ok (.jint h, s) →
      (∀ c ∈ post, c ≠ .close h) → (∀ p ∈ F.issued (F.run post s), p.1 ≠ h) →
      (F.last s (F.run post s)).table h = s.table h ∧
      (∀ pInputCodec pRtp pOutputCodec xRes yRes fps, ∃ r s',
        F.step (.«open» h pInputCodec pRtp pOutputCodec xRes yRes fps)
          (F.last s (F.run post s)) = .ok (r, s')) ∧
      (∃ r s', F.step (.stop h) (F.last s (F.run post s)) = .ok (r, s')) ∧
      (∃ r s', F.step (.close h) (F.last s (F.run post s)) = .ok (r, s'))) := by
  refine ⟨fun Λ lib world avail pre post h s hi hc hn => ?_,
    fun Λ lib world avail pre post h s hi hc hn => ?_⟩
  · obtain ⟨e, he, he₂, hu⟩ := (VideoDecoder.isolated lib).usable_until_closed pre post hi
      (fun c hm hcl => hc c hm (VideoDecoder.Call.closes_eq_some hcl)) hn
    exact ⟨he₂.trans he.symm, VideoDecoder.lifecycle_completes he₂ hu⟩
  · obtain ⟨e, he, he₂, hu⟩ := (VideoTranscoder.isolated lib).usable_until_closed pre post hi
      (fun c hm hcl => hc c hm (VideoTranscoder.Call.closes_eq_some hcl)) hn
    exact ⟨he₂.trans he.symm, VideoTranscoder.lifecycle_completes he₂ hu⟩

theorem closing_handle_one_spares_zero :
    (let F := VideoDecoder.facade (default : Media.Lib Unit) () 0
     let s : VideoDecoder.State Unit := F.last F.init (F.run [.getInstance] F.init)
     let post := [VideoDecoder.Call.getInstance, .close 1]
     F.step .getInstance (F.last F.init (F.run [] F.init)) = .ok (.jint 0, s) ∧
     (∀ c ∈ post, c ≠ .close 0) ∧ (∀ p ∈ F.issued (F.run post s), p.1 ≠ 0) ∧
     (F.last s (F.run post s)).table 0 = s.table 0 ∧
     (∀ codec rtp xRes yRes fps, ∃ r s',
       F.step (.«open» 0 codec rtp xRes yRes fps) (F.last s (F.run post s)) = .ok (r, s')) ∧
     (∃ r s', F.step (.stop 0) (F.last s (F.run post s)) = .ok (r, s')) ∧
     (∃ r s', F.step (.close 0) (F.last s (F.run post s)) = .ok (r, s'))) ∧
    (let F := VideoTranscoder.facade (default : Media.Lib Unit) () 0
     let s : VideoTranscoder.State Unit := F.last F.init (F.run [.getInstance] F.init)
     let post := [VideoTranscoder.Call.getInstance, .close 1]
     F.step .getInstance (F.last F.init (F.run [] F.init)) = .ok (.jint 0, s) ∧
     (∀ c ∈ post, c ≠ .close 0) ∧ (∀ p ∈ F.issued (F.run post s), p.1 ≠ 0) ∧
     (F.last s (F.run post s)).table 0 = s.table 0 ∧
     (∀ pInputCodec pRtp pOutputCodec xRes yRes fps, ∃ r s',
       F.step (.«open» 0 pInputCodec pRtp pOutputCodec xRes yRes fps)
         (F.last s (F.run post s)) = .ok (r, s')) ∧
     (∃ r s', F.step (.stop 0) (F.last s (F.run post s)) = .ok (r, s')) ∧
     (∃ r s', F.step (.close 0) (F.last s (F.run post s)) = .ok (r, s'))) := by
  refine ⟨?_, ?_⟩ <;> dsimp only
  · refine ⟨?hi, ?hc, ?hn, instances_usable_until_closed.1 Unit default () 0 [] _ 0 _ ?hi ?hc ?hn⟩
    · rfl
    · simp
    · decide
  · refine ⟨?ti, ?tc, ?tn, instances_usable_until_closed.2 Unit default () 0 [] _ 0 _ ?ti ?tc ?tn⟩
    · rfl
    · simp
    · decide

/-- On a handle the emulator proxy handed out in a reachable state, and has not handed out again,
a byte setter called with an array and a size ends as the sizes say. Within the array and within
the `MAX_ETH_PAYLOAD_SIZE` stack buffer it hands the sender the region and returns. Past the end
of the array, within the buffer, it hands the sender what the uninitialised buffer holds and
returns with the exception pending. Past the buffer it overruns it. -/
theorem byte_setters_bounds :
    ∀ (Λ : Type) (lib : PacketFoG.Lib Λ) (world : Λ) (avail : Nat)
      (pre post : List PacketFoG.Call) (h : CInt) (s : PacketFoG.State Λ),
      let F := PacketFoG.facade lib world avail
      let s₂ : PacketFoG.State Λ := F.last s (F.run post s)
      F.step .getInstance (F.last F.init (F.run pre F.init)) = .ok (.jint h, s) →
      (∀ p ∈ F.issued (F.run post s), p.1 ≠ h) →
      ∃ e, s.table h = some e ∧
      ∀ set m, (set, m) ∈ PacketFoG.byteSetters lib → ∀ a len,
        (0 ≤ len.toInt → len.toInt ≤ a.length → len.toNat ≤ PacketFoG.MAX_ETH_PAYLOAD_SIZE →
          F.step (set h a len) s₂ = .ok (.void, { s₂ with proc := { s₂.proc with
            world := (m (a.take len.toNat) e.sender s₂.proc.world).2 } })) ∧
        (a.length < len.toInt → len.toNat ≤ PacketFoG.MAX_ETH_PAYLOAD_SIZE →
          F.step (set h a len) s₂ = .ok (.pendingException, { s₂ with proc := { s₂.proc with
            world :=
              (m (lib.uninitialised len.toNat s₂.proc.world) e.sender s₂.proc.world).2 } })) ∧
        (PacketFoG.MAX_ETH_PAYLOAD_SIZE < len.toNat →
          F.step (set h a len) s₂ = .error .bufferOverflow) := by
  intro Λ lib world avail pre post h s
  dsimp only
  intro hi hn
  obtain ⟨e, he, he₂, hu⟩ := (PacketFoG.isolated lib).usable_until_closed pre post hi
    (fun _ _ hcl => nomatch hcl) hn
  refine ⟨e, he, fun set m hm a len => ?_⟩
  have hstep : (PacketFoG.facade lib world avail).step (set h a len) =
      PacketFoG.setRegion lib m h a len := PacketFoG.step_byteSetter hm h a len
  rw [hstep]
  unfold PacketFoG.facade
  rw [PacketFoG.setRegion_live he₂ hu.1]
  refine ⟨fun h₀ h₁ h₂ => ?_, fun h₁ h₂ => ?_, fun h₂ => if_pos h₂⟩
  · rw [if_neg (Nat.not_lt.mpr h₂), getByteArrayRegion_eq_some.mpr ⟨⟨h₀, h₁⟩, rfl⟩]
    rfl
  · rw [if_neg (Nat.not_lt.mpr h₂), getByteArrayRegion_eq_none.mpr fun h => by omega]
    rfl

theorem byte_setters_on_first_handle :
    let F := PacketFoG.facade (default : PacketFoG.Lib Unit) () 0
    let s : PacketFoG.State Unit := F.last F.init (F.run [.getInstance] F.init)
    let s₂ : PacketFoG.State Unit := F.last s (F.run [] s)
    F.step .getInstance (F.last F.init (F.run [] F.init)) = .ok (.jint 0, s) ∧
    (∀ p ∈ F.issued (F.run [] s), p.1 ≠ 0) ∧
    ∃ e, s.table 0 = some e ∧
    ∀ set m, (set, m) ∈ PacketFoG.byteSetters (default : PacketFoG.Lib Unit) → ∀ a len,
      (0 ≤ len.toInt → len.toInt ≤ a.length → len.toNat ≤ PacketFoG.MAX_ETH_PAYLOAD_SIZE →
        F.step (set 0 a len) s₂ = .ok (.void, { s₂ with proc := { s₂.proc with
          world := (m (a.take len.toNat) e.sender s₂.proc.world).2 } })) ∧
      (a.length < len.toInt → len.toNat ≤ PacketFoG.MAX_ETH_PAYLOAD_SIZE →
        F.step (set 0 a len) s₂ = .ok (.pendingException, { s₂ with proc := { s₂.proc with
          world := (m ((default : PacketFoG.Lib Unit).uninitialised len.toNat s₂.proc.world)
            e.sender s₂.proc.world).2 } })) ∧
      (PacketFoG.MAX_ETH_PAYLOAD_SIZE < len.toNat →
        F.step (set 0 a len) s₂ = .error .bufferOverflow) := by
  intro F s s₂
  have hi : F.step .getInstance (F.last F.init (F.run [] F.init)) = .ok (.jint 0, s) := rfl
  exact ⟨hi, nofun, byte_setters_bounds Unit default () 0 [] [] 0 s hi nofun⟩

/-- On an instance that is not closed, `addDataInput` completes exactly when the region it copies
lies in the Java array, and `getStats` exactly when `malloc` has the 28 bytes of `aStats` left
and the caller's array has at most five elements. -/
theorem array_calls_complete_iff :
    (∀ (Λ : Type) (lib : Media.Lib Λ) (world : Λ) (avail : Nat)
      (pre post : List VideoDecoder.Call) (h : CInt) (s : VideoDecoder.State Λ),
      let F := VideoDecoder.facade lib world avail
      F.step .getInstance (F.last F.init (F.run pre F.init)) = .ok (.jint h, s) →
      (∀ c ∈ post, c ≠ .close h) → (∀ p ∈ F.issued (F.run post s), p.1 ≠ h) →
      (∀ ba size, (∃ r s', F.step (.addDataInput h ba size) (F.last s (F.run post s)) =
        .ok (r, s')) ↔ size.toInt ≤ ba.length) ∧
      (∀ ia, (∃ r s', F.step (.getStats h ia) (F.last s (F.run post s)) = .ok (r, s')) ↔
        4 * 7 ≤ (F.last s (F.run post s)).proc.heap.avail ∧ ia.length ≤ 5)) ∧
    (∀ (Λ : Type) (lib : Media.Lib Λ) (world : Λ) (avail : Nat)
      (pre post : List VideoTranscoder.Call) (h : CInt) (s : VideoTranscoder.State Λ),
      let F := VideoTranscoder.facade lib world avail
      F.step .getInstance (F.last F.init (F.run pre F.init)) = .ok (.jint h, s) →
      (∀ c ∈ post, c ≠ .close h) → (∀ p ∈ F.issued (F.run post s), p.1 ≠ h) →
      (∀ ba size, (∃ r s', F.step (.addDataInput h ba size) (F.last s (F.run post s)) =
        .ok (r, s')) ↔ size.toInt ≤ ba.length) ∧
      (∀ ia, (∃ r s', F.step (.getStats h ia) (F.last s (F.run post s)) = .ok (r, s')) ↔
        4 * 7 ≤ (F.last s (F.run post s)).proc.heap.avail ∧ ia.length ≤ 5)) := by
  refine ⟨fun Λ lib world avail pre post h s hi hc hn => ?_,
    fun Λ lib world avail pre post h s hi hc hn => ?_⟩
  · obtain ⟨e, -, he₂, hu⟩ := (VideoDecoder.isolated lib).usable_until_closed pre post hi
      (fun c hm hcl => hc c hm (VideoDecoder.Call.closes_eq_some hcl)) hn
    exact VideoDecoder.array_calls_complete he₂ hu
  · obtain ⟨e, -, he₂, hu⟩ := (VideoTranscoder.isolated lib).usable_until_closed pre post hi
      (fun c hm hcl => hc c hm (VideoTranscoder.Call.closes_eq_some hcl)) hn
    exact VideoTranscoder.array_calls_complete he₂ hu

theorem array_calls_on_first_handle :
    (let F := VideoDecoder.facade (default : Media.Lib Unit) () 0
     let s : VideoDecoder.State Unit := F.last F.init (F.run [.getInstance] F.init)
     F.step .getInstance (F.last F.init (F.run [] F.init)) = .ok (.jint 0, s) ∧
     (∀ ba size, (∃ r s', F.step (.addDataInput 0 ba size) (F.last s (F.run [] s)) =
       .ok (r, s')) ↔ size.toInt ≤ ba.length) ∧
     (∀ ia, (∃ r s', F.step (.getStats 0 ia) (F.last s (F.run [] s)) = .ok (r, s')) ↔
       4 * 7 ≤ (F.last s (F.run [] s)).proc.heap.avail ∧ ia.length ≤ 5)) ∧
    (let F := VideoTranscoder.facade (default : Media.Lib Unit) () 0
     let s : VideoTranscoder.State Unit := F.last F.init (F.run [.getInstance] F.init)
     F.step .getInstance (F.last F.init (F.run [] F.init)) = .ok (.jint 0, s) ∧
     (∀ ba size, (∃ r s', F.step (.addDataInput 0 ba size) (F.last s (F.run [] s)) =
       .ok (r, s')) ↔ size.toInt ≤ ba.length) ∧
     (∀ ia, (∃ r s', F.step (.getStats 0 ia) (F.last s (F.run [] s)) = .ok (r, s')) ↔
       4 * 7 ≤ (F.last s (F.run [] s)).proc.heap.avail ∧ ia.length ≤ 5)) := by
  refine ⟨?_, ?_⟩ <;> intro F s
  · have hi : F.step .getInstance (F.last F.init (F.run [] F.init)) = .ok (.jint 0, s) := rfl
    exact ⟨hi, array_calls_complete_iff.1 Unit default () 0 [] [] 0 s hi nofun nofun⟩
  · have hi : F.step .getInstance (F.last F.init (F.run [] F.init)) = .ok (.jint 0, s) := rfl
    exact ⟨hi, array_calls_complete_iff.2 Unit default () 0 [] [] 0 s hi nofun nofun⟩

/-- On an instance that is not closed, a call that hands a buffer to the library completes
exactly when what the library puts there is empty, or the buffer is there and it fits: the
proxies check neither the `malloc` of the buffer nor the length the library returns. -/
theorem buffer_calls_complete_iff :
    (∀ (Λ : Type) (lib : Media.Lib Λ) (world : Λ) (avail : Nat)
      (pre post : List VideoDecoder.Call) (h : CInt) (s : VideoDecoder.State Λ),
      let F := VideoDecoder.facade lib world avail
      let s₂ : VideoDecoder.State Λ := F.last s (F.run post s)
      F.step .getInstance (F.last F.init (F.run pre F.init)) = .ok (.jint h, s) →
      (∀ c ∈ post, c ≠ .close h) → (∀ p ∈ F.issued (F.run post s), p.1 ≠ h) →
      ∃ e, s.table h = some e ∧
        ((∃ r s', F.step (.getFrame h) s₂ = .ok (r, s')) ↔
          (lib.grabChunk Media.MAX_FRAME_SIZE e.source s₂.proc.world).1.2 = [] ∨
            e.frameBuffer ≠ .null ∧ (lib.grabChunk Media.MAX_FRAME_SIZE e.source
              s₂.proc.world).1.2.length ≤ Media.MAX_FRAME_SIZE)) ∧
    (∀ (Λ : Type) (lib : Media.Lib Λ) (world : Λ) (avail : Nat)
      (pre post : List VideoTranscoder.Call) (h : CInt) (s : VideoTranscoder.State Λ),
      let F := VideoTranscoder.facade lib world avail
      let s₂ : VideoTranscoder.State Λ := F.last s (F.run post s)
      F.step .getInstance (F.last F.init (F.run pre F.init)) = .ok (.jint h, s) →
      (∀ c ∈ post, c ≠ .close h) → (∀ p ∈ F.issued (F.run post s), p.1 ≠ h) →
      ∃ e, s.table h = some e ∧
        ((∃ r s', F.step (.getFrame h) s₂ = .ok (r, s')) ↔
          (lib.grabChunk Media.MAX_FRAME_SIZE e.muxer s₂.proc.world).1.2 = [] ∨
            e.frameBuffer ≠ .null ∧ (lib.grabChunk Media.MAX_FRAME_SIZE e.muxer
              s₂.proc.world).1.2.length ≤ Media.MAX_FRAME_SIZE) ∧
        ((∃ r s', F.step (.getOutputPacket h) s₂ = .ok (r, s')) ↔
          (lib.readFragment VideoTranscoder.MAX_PACKET_SIZE e.storage s₂.proc.world).1 = [] ∨
            e.packetBuffer ≠ .null ∧ (lib.readFragment VideoTranscoder.MAX_PACKET_SIZE e.storage
              s₂.proc.world).1.length ≤ VideoTranscoder.MAX_PACKET_SIZE)) := by
  refine ⟨fun Λ lib world avail pre post h s hi hc hn => ?_,
    fun Λ lib world avail pre post h s hi hc hn => ?_⟩
  · obtain ⟨e, he, he₂, hu⟩ := (VideoDecoder.isolated lib).usable_until_closed pre post hi
      (fun c hm hcl => hc c hm (VideoDecoder.Call.closes_eq_some hcl)) hn
    exact ⟨e, he, VideoDecoder.getFrame_completes he₂ hu⟩
  · obtain ⟨e, he, he₂, hu⟩ := (VideoTranscoder.isolated lib).usable_until_closed pre post hi
      (fun c hm hcl => hc c hm (VideoTranscoder.Call.closes_eq_some hcl)) hn
    exact ⟨e, he, VideoTranscoder.buffer_calls_complete he₂ hu⟩

theorem buffer_calls_on_first_handle :
    (let F := VideoDecoder.facade (default : Media.Lib Unit) () 0
     let s : VideoDecoder.State Unit := F.last F.init (F.run [.getInstance] F.init)
     let s₂ : VideoDecoder.State Unit := F.last s (F.run [] s)
     F.step .getInstance (F.last F.init (F.run [] F.init)) = .ok (.jint 0, s) ∧
     ∃ e, s.table 0 = some e ∧
       ((∃ r s', F.step (.getFrame 0) s₂ = .ok (r, s')) ↔
         ((default : Media.Lib Unit).grabChunk Media.MAX_FRAME_SIZE e.source
           s₂.proc.world).1.2 = [] ∨
         e.frameBuffer ≠ .null ∧ ((default : Media.Lib Unit).grabChunk Media.MAX_FRAME_SIZE
           e.source s₂.proc.world).1.2.length ≤ Media.MAX_FRAME_SIZE)) ∧
    (let F := VideoTranscoder.facade (default : Media.Lib Unit) () 0
     let s : VideoTranscoder.State Unit := F.last F.init (F.run [.getInstance] F.init)
     let s₂ : VideoTranscoder.State Unit := F.last s (F.run [] s)
     F.step .getInstance (F.last F.init (F.run [] F.init)) = .ok (.jint 0, s) ∧
     ∃ e, s.table 0 = some e ∧
       ((∃ r s', F.step (.getFrame 0) s₂ = .ok (r, s')) ↔
         ((default : Media.Lib Unit).grabChunk Media.MAX_FRAME_SIZE e.muxer
           s₂.proc.world).1.2 = [] ∨
         e.frameBuffer ≠ .null ∧ ((default : Media.Lib Unit).grabChunk Media.MAX_FRAME_SIZE
           e.muxer s₂.proc.world).1.2.length ≤ Media.MAX_FRAME_SIZE) ∧
       ((∃ r s', F.step (.getOutputPacket 0) s₂ = .ok (r, s')) ↔
         ((default : Media.Lib Unit).readFragment VideoTranscoder.MAX_PACKET_SIZE e.storage
           s₂.proc.world).1 = [] ∨
         e.packetBuffer ≠ .null ∧ ((default : Media.Lib Unit).readFragment
           VideoTranscoder.MAX_PACKET_SIZE e.storage s₂.proc.world).1.length ≤ VideoTranscoder.MAX_PACKET_SIZE)) := by
  refine ⟨?_, ?_⟩ <;> intro F s s₂
  · have hi : F.step .getInstance (F.last F.init (F.run [] F.init)) = .ok (.jint 0, s) := rfl
    exact ⟨hi, buffer_calls_complete_iff.1 Unit default () 0 [] [] 0 s hi nofun nofun⟩
  · have hi : F.step .getInstance (F.last F.init (F.run [] F.init)) = .ok (.jint 0, s) := rfl
    exact ⟨hi, buffer_calls_complete_iff.2 Unit default () 0 [] [] 0 s hi nofun nofun⟩

end FogJni

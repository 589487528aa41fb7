import FogJni.Isolation

/-! `ProxyPacketFoG.C`, the JNI proxy of the emulator's `FoG::Net::PacketFoG`. An instance is a
sender and a receiver object; every entry point but `getInstance` looks its handle up with
`operator[]` and forwards to one of the two. Byte arrays pass through stack buffers of
`MAX_ETH_PAYLOAD_SIZE` bytes (`ETH_ADR_SIZE` for addresses), and no length is checked: a setter
whose region does not lie in the Java array calls the sender all the same, on the uninitialised
buffer, and returns to Java with the exception pending. The proxy never calls `malloc`. -/

namespace FogJni.PacketFoG

def MAX_ETH_PAYLOAD_SIZE : Nat := 1500

def ETH_ADR_SIZE : Nat := 6

structure PacketFogInstance where
  sender : Ptr
  receiver : Ptr
  deriving DecidableEq, Repr, Inhabited

/-- The members of `FoG::Net::PacketFoG` the proxy calls. A setter of bytes reads the size it is
told from the buffer it is handed, a negative size as the unsigned count of its bits; a getter of
bytes is told the size of the buffer it fills and gives back what it wrote. `uninitialised n l`
is what the library reads from `n` bytes of a stack buffer nothing has written, which the model
leaves open. -/
structure Lib (Λ : Type) where
  packetFoG : Method Λ Unit
  setEthernetSourceAdr : String → Method Λ Unit
  setEthernetDestinationAdr : String → Method Λ Unit
  setFoGPayload : List UInt8 → Method Λ Unit
  setFoGRoute : List UInt8 → Method Λ Unit
  setFoGReverseRoute : List UInt8 → Method Λ Unit
  setFoGAuthentications : List UInt8 → Method Λ Unit
  reset : Bool → Method Λ Unit
  setFoGMarkingSignaling : Method Λ Unit
  setFoGMarkingFragment : Method Λ Unit
  send : Method Λ CInt
  getDefaultDevice : Method Λ String
  setSendDevice : String → Method Λ Unit
  getSendDevice : Method Λ String
  setReceiveDevice : String → Method Λ Unit
  getReceiveDevice : Method Λ String
  prepareReceive : String → CInt → Bool → Method Λ Bool
  getFoGPayload : Nat → Method Λ (List UInt8)
  getEthernetSourceAdr : Nat → Method Λ (List UInt8)
  getEthernetDestinationAdr : Nat → Method Λ (List UInt8)
  isLastFragment : Method Λ Bool
  receive : Method Λ Bool
  uninitialised : Nat → Λ → List UInt8
  deriving Inhabited

/-- `sInstanceCount` and `sPacketFogInstance`, with the process. -/
abbrev State (Λ : Type) := Statics PacketFogInstance Λ

/-- The JNI entry points, named by their Java methods. -/
inductive Call where
  | getInstance
  | doSetEthernetSourceAdr (pHandle : CInt) (pAddress : String)
  | doSetEthernetDestinationAdr (pHandle : CInt) (pAddress : String)
  | doSetFoGPayload (pHandle : CInt) (pPayload : List UInt8) (pPayloadSize : CInt)
  | doSetFoGRoute (pHandle : CInt) (pRoute : List UInt8) (pRouteSize : CInt)
  | doSetFoGReverseRoute (pHandle : CInt) (pRoute : List UInt8) (pRouteSize : CInt)
  | doSetFoGAuthentications (pHandle : CInt) (pAuths : List UInt8) (pAuthsSize : CInt)
  | doReset (pHandle : CInt)
  | doSetFoGMarkingSignaling (pHandle : CInt)
  | doSetFoGMarkingFragment (pHandle : CInt)
  | doSend (pHandle : CInt)
  | doGetDefaultDevice (pHandle : CInt)
  | doSetSendDevice (pHandle : CInt) (pDeviceName : String)
  | doGetSendDevice (pHandle : CInt)
  | doSetReceiveDevice (pHandle : CInt) (pDeviceName : String)
  | doGetReceiveDevice (pHandle : CInt)
  | doPrepareReceive (pHandle : CInt) (pFilter : String) (pTimeout : CInt) (pAllowForeign : Bool)
  | doGetFoGPayload (pHandle : CInt)
  | doGetEthernetSourceAdr (pHandle : CInt)
  | doGetEthernetDestinationAdr (pHandle : CInt)
  | doIsLastFragment (pHandle : CInt)
  | doReceive (pHandle : CInt)
  deriving Repr

variable {Λ β : Type} (lib : Lib Λ)

/-- The objects `initPacketFogInstance` creates. -/
def newPacketFogInstance : Native Λ PacketFogInstance := do
  let sender ← Native.new .packetFoG lib.packetFoG
  let receiver ← Native.new .packetFoG lib.packetFoG
  pure ⟨sender, receiver⟩

def initPacketFogInstance : State Λ → Except Fault (CInt × State Λ) :=
  Statics.issue (newPacketFogInstance lib)

def getInstance : State Λ → Except Fault (Ret × State Λ) :=
  Statics.getInstance (initPacketFogInstance lib)

/-- `sPacketFogInstance[pHandle].<obj>-><m>(...)`, handing `out` of its result back to Java. -/
def onInstance (pHandle : CInt) (obj : PacketFogInstance → Ptr) (m : Method Λ β)
    (out : β → Ret) : State Λ → Except Fault (Ret × State Λ) :=
  Statics.onEntry pHandle fun e => out <$> Native.invoke (obj e) m

/-- An access to `len` bytes of `char buf[MAX_ETH_PAYLOAD_SIZE]`: undefined past its end. -/
def accessBuffer (len : CInt) : Native Λ Unit :=
  if MAX_ETH_PAYLOAD_SIZE < len.toNat then Native.fault .bufferOverflow else pure ()

/-- The body of a byte setter: `GetByteArrayRegion` of `len` bytes into
`char buf[MAX_ETH_PAYLOAD_SIZE]`, then the sender's setter, which reads `len` bytes of the buffer.
A region outside the array leaves the buffer as it was and the exception pending. -/
def setBytes (m : List UInt8 → Method Λ Unit) (a : List UInt8) (len : CInt)
    (e : PacketFogInstance) : Native Λ Ret :=
  match getByteArrayRegion a len with
  | some region => do
    accessBuffer len
    Native.invoke e.sender (m region)
    pure .void
  | none => do
    Native.invoke e.sender fun p l => m (lib.uninitialised len.toNat l) p l
    accessBuffer len
    pure .pendingException

def setRegion (m : List UInt8 → Method Λ Unit) (pHandle : CInt) (a : List UInt8) (len : CInt) :
    State Λ → Except Fault (Ret × State Λ) :=
  Statics.onEntry pHandle (setBytes lib m a len)

/-- A getter of bytes: the receiver fills `char buf[cap]` and reports how much it wrote. -/
def getRegion (cap : Nat) (m : Nat → Method Λ (List UInt8)) (pHandle : CInt) :
    State Λ → Except Fault (Ret × State Λ) :=
  Statics.onEntry pHandle fun e => do
    let bs ← Native.invoke e.receiver (m cap)
    if bs.length ≤ cap then pure (.jbyteArray (some bs)) else Native.fault .bufferOverflow

def doSetEthernetSourceAdr (pHandle : CInt) (pAddress : String) :=
  onInstance pHandle (·.sender) (lib.setEthernetSourceAdr pAddress) fun _ => .void

def doSetEthernetDestinationAdr (pHandle : CInt) (pAddress : String) :=
  onInstance pHandle (·.sender) (lib.setEthernetDestinationAdr pAddress) fun _ => .void

def doSetFoGPayload := setRegion lib lib.setFoGPayload

def doSetFoGRoute := setRegion lib lib.setFoGRoute

def doSetFoGReverseRoute := setRegion lib lib.setFoGReverseRoute

def doSetFoGAuthentications := setRegion lib lib.setFoGAuthentications

def doReset (pHandle : CInt) :=
  onInstance pHandle (·.sender) (lib.reset true) fun _ => .void

def doSetFoGMarkingSignaling (pHandle : CInt) :=
  onInstance pHandle (·.sender) lib.setFoGMarkingSignaling fun _ => .void

def doSetFoGMarkingFragment (pHandle : CInt) :=
  onInstance pHandle (·.sender) lib.setFoGMarkingFragment fun _ => .void

def doSend (pHandle : CInt) :=
  onInstance pHandle (·.sender) lib.send .jint

def doGetDefaultDevice (pHandle : CInt) :=
  onInstance pHandle (·.receiver) lib.getDefaultDevice .jstring

def doSetSendDevice (pHandle : CInt) (pDeviceName : String) :=
  onInstance pHandle (·.sender) (lib.setSendDevice pDeviceName) fun _ => .void

def doGetSendDevice (pHandle : CInt) :=
  onInstance pHandle (·.sender) lib.getSendDevice .jstring

def doSetReceiveDevice (pHandle : CInt) (pDeviceName : String) :=
  onInstance pHandle (·.receiver) (lib.setReceiveDevice pDeviceName) fun _ => .void

def doGetReceiveDevice (pHandle : CInt) :=
  onInstance pHandle (·.receiver) lib.getReceiveDevice .jstring

def doPrepareReceive (pHandle : CInt) (pFilter : String) (pTimeout : CInt) (pAllowForeign : Bool) :=
  onInstance pHandle (·.receiver) (lib.prepareReceive pFilter pTimeout pAllowForeign) .jboolean

def doGetFoGPayload := getRegion MAX_ETH_PAYLOAD_SIZE lib.getFoGPayload

def doGetEthernetSourceAdr := getRegion ETH_ADR_SIZE lib.getEthernetSourceAdr

def doGetEthernetDestinationAdr := getRegion ETH_ADR_SIZE lib.getEthernetDestinationAdr

def doIsLastFragment (pHandle : CInt) :=
  onInstance pHandle (·.receiver) lib.isLastFragment .jboolean

def doReceive (pHandle : CInt) :=
  onInstance pHandle (·.receiver) lib.receive .jboolean

def step : Call → State Λ → Except Fault (Ret × State Λ)
  | .getInstance => getInstance lib
  | .doSetEthernetSourceAdr h a => doSetEthernetSourceAdr lib h a
  | .doSetEthernetDestinationAdr h a => doSetEthernetDestinationAdr lib h a
  | .doSetFoGPayload h a n => doSetFoGPayload lib h a n
  | .doSetFoGRoute h a n => doSetFoGRoute lib h a n
  | .doSetFoGReverseRoute h a n => doSetFoGReverseRoute lib h a n
  | .doSetFoGAuthentications h a n => doSetFoGAuthentications lib h a n
  | .doReset h => doReset lib h
  | .doSetFoGMarkingSignaling h => doSetFoGMarkingSignaling lib h
  | .doSetFoGMarkingFragment h => doSetFoGMarkingFragment lib h
  | .doSend h => doSend lib h
  | .doGetDefaultDevice h => doGetDefaultDevice lib h
  | .doSetSendDevice h d => doSetSendDevice lib h d
  | .doGetSendDevice h => doGetSendDevice lib h
  | .doSetReceiveDevice h d => doSetReceiveDevice lib h d
  | .doGetReceiveDevice h => doGetReceiveDevice lib h
  | .doPrepareReceive h f t a => doPrepareReceive lib h f t a
  | .doGetFoGPayload h => doGetFoGPayload lib h
  | .doGetEthernetSourceAdr h => doGetEthernetSourceAdr lib h
  | .doGetEthernetDestinationAdr h => doGetEthernetDestinationAdr lib h
  | .doIsLastFragment h => doIsLastFragment lib h
  | .doReceive h => doReceive lib h

/-- The handle `getInstance` hands back. -/
def issuedHandle : Call → Ret → Option CInt
  | .getInstance, .jint h => some h
  | _, _ => none

/-- The handle a call looks up. -/
def Call.pHandle : Call → Option CInt
  | .getInstance => none
  | .doSetEthernetSourceAdr h _ | .doSetEthernetDestinationAdr h _ | .doSetFoGPayload h _ _
  | .doSetFoGRoute h _ _ | .doSetFoGReverseRoute h _ _ | .doSetFoGAuthentications h _ _
  | .doReset h | .doSetFoGMarkingSignaling h | .doSetFoGMarkingFragment h | .doSend h
  | .doGetDefaultDevice h | .doSetSendDevice h _ | .doGetSendDevice h | .doSetReceiveDevice h _
  | .doGetReceiveDevice h | .doPrepareReceive h _ _ _ | .doGetFoGPayload h
  | .doGetEthernetSourceAdr h | .doGetEthernetDestinationAdr h | .doIsLastFragment h
  | .doReceive h => some h

/-- The calls that copy a byte array through a stack buffer. -/
def Call.copiesBytes : Call → Bool
  | .doSetFoGPayload .. | .doSetFoGRoute .. | .doSetFoGReverseRoute ..
  | .doSetFoGAuthentications .. | .doGetFoGPayload _ | .doGetEthernetSourceAdr _
  | .doGetEthernetDestinationAdr _ => true
  | _ => false

/-- The byte setters, each with the member of the sender it calls. -/
def byteSetters : List ((CInt → List UInt8 → CInt → Call) × (List UInt8 → Method Λ Unit)) :=
  [(.doSetFoGPayload, lib.setFoGPayload), (.doSetFoGRoute, lib.setFoGRoute),
    (.doSetFoGReverseRoute, lib.setFoGReverseRoute),
    (.doSetFoGAuthentications, lib.setFoGAuthentications)]

/-! ### The proxy as a façade -/

variable {lib} {s s' : State Λ} {r : Ret}

/-- The three shapes of the entry points that take a handle, which is all a proof about them
needs to know: a member call on the sender or the receiver, a byte setter, or a byte getter;
the last two copy bytes. -/
theorem step_shape {c : Call} {h : CInt} (hc : c.pHandle = some h) :
    (∃ (β : Type) (obj : PacketFogInstance → Ptr) (m : Method Λ β) (out : β → Ret),
      (obj = (·.sender) ∨ obj = (·.receiver)) ∧ c.copiesBytes = false ∧
        step lib c = onInstance h obj m out) ∨
    (∃ m a len, c.copiesBytes = true ∧ step lib c = setRegion lib m h a len) ∨
    (∃ cap m, c.copiesBytes = true ∧ step lib c = getRegion cap m h) := by
  cases c <;> cases hc <;>
    first
    | exact .inl ⟨_, _, _, _, .inl rfl, rfl, rfl⟩
    | exact .inl ⟨_, _, _, _, .inr rfl, rfl, rfl⟩
    | exact .inr (.inl ⟨_, _, _, rfl, rfl⟩)
    | exact .inr (.inr ⟨_, _, rfl, rfl⟩)

theorem step_byteSetter {set : CInt → List UInt8 → CInt → Call}
    {m : List UInt8 → Method Λ Unit} (hm : (set, m) ∈ byteSetters lib) (h : CInt)
    (a : List UInt8) (len : CInt) : step lib (set h a len) = setRegion lib m h a len := by
  simp only [byteSetters, List.mem_cons, Prod.mk.injEq, List.mem_singleton, List.not_mem_nil,
    or_false] at hm
  rcases hm with ⟨rfl, rfl⟩ | ⟨rfl, rfl⟩ | ⟨rfl, rfl⟩ | ⟨rfl, rfl⟩ <;> rfl

theorem newPacketFogInstance_run_eq {ps ps' : Process Λ} {e : PacketFogInstance}
    (h : (newPacketFogInstance lib).run ps = .ok (e, ps')) :
    e = ⟨.block ps.heap.next, .block (ps.heap.next + 1)⟩ ∧
      ps'.heap = ((ps.heap.new .packetFoG).2.new .packetFoG).2 := by
  rw [newPacketFogInstance, Native.run_bind_ok (Native.run_new _ _ _),
    Native.run_bind_ok (Native.run_new _ _ _), Native.run_pure] at h
  cases h
  exact ⟨rfl, rfl⟩

theorem newPacketFogInstance_sender {ps ps' : Process Λ} {e : PacketFogInstance}
    (h : (newPacketFogInstance lib).run ps = .ok (e, ps')) :
    e.sender = .block ps.heap.next ∧ ps.heap.next < ps'.heap.next := by
  obtain ⟨rfl, hps⟩ := newPacketFogInstance_run_eq h
  exact ⟨rfl, by rw [hps]; simp only [Heap.new_next]; omega⟩

theorem newPacketFogInstance_total : Native.Total (newPacketFogInstance lib) :=
  Native.Total.bind (Native.total_new _ _) fun _ =>
    Native.Total.bind (Native.total_new _ _) fun _ => Native.Total.pure _

/-- The step lemma: `getInstance` issues an entry whose sender is new, and every other entry
point looks its handle up. -/
theorem step_moves {c : Call} (h : step lib c s = .ok (r, s')) :
    Statics.Step (·.sender) s (issuedHandle c r) s' := by
  cases hc : c.pHandle with
  | none =>
    cases c <;> cases hc
    rw [step, getInstance, initPacketFogInstance] at h
    obtain ⟨rfl, hst⟩ := Statics.getInstance_step h newPacketFogInstance_sender
    exact hst
  | some p =>
    rw [show issuedHandle c r = none by cases c <;> cases hc <;> rfl]
    rcases step_shape hc with ⟨_, _, _, _, -, -, hst⟩ | ⟨_, _, _, -, hst⟩ | ⟨_, _, -, hst⟩ <;>
      rw [hst] at h <;> exact Statics.onEntry_step h

theorem step_getInstance (s : State Λ) :
    ∃ r s' h, step lib .getInstance s = .ok (r, s') ∧ issuedHandle .getInstance r = some h :=
  let ⟨s', hs⟩ := Statics.getInstance_total newPacketFogInstance_total s
  ⟨_, s', s.count, hs, rfl⟩

/-- The proxy in a fresh process whose library starts in state `world`. -/
def facade (lib : Lib Λ) (world : Λ) (avail : Nat) : Facade :=
  Statics.facade (·.sender) rfl (step lib) issuedHandle world avail step_moves

/-! ### Byte setters -/

theorem accessBuffer_bind {γ : Type} (len : CInt) (f : Unit → Native Λ γ) (ps : Process Λ) :
    (accessBuffer len >>= f).run ps =
      if MAX_ETH_PAYLOAD_SIZE < len.toNat then .error .bufferOverflow else (f ()).run ps := by
  unfold accessBuffer
  split <;> rfl

/-- On a live sender a byte setter ends as its sizes say: it overruns the buffer when `len` is
longer, and otherwise calls the sender on the region, or on the uninitialised buffer with the
exception pending. -/
theorem setBytes_run {m : List UInt8 → Method Λ Unit} {a : List UInt8} {len : CInt}
    {e : PacketFogInstance} {ps : Process Λ} {o : Obj} (hs : ps.heap.deref e.sender = .ok o) :
    (setBytes lib m a len e).run ps =
      if MAX_ETH_PAYLOAD_SIZE < len.toNat then .error .bufferOverflow
      else .ok ((getByteArrayRegion a len).elim .pendingException fun _ => .void,
        { ps with world := (m ((getByteArrayRegion a len).getD
            (lib.uninitialised len.toNat ps.world)) e.sender ps.world).2 }) := by
  unfold setBytes
  cases getByteArrayRegion a len with
  | some region =>
    rw [accessBuffer_bind]
    by_cases ho : MAX_ETH_PAYLOAD_SIZE < len.toNat
    · simp only [if_pos ho]
    · simp only [if_neg ho]
      rw [Native.run_bind_ok (Native.run_invoke_ok hs)]
      rfl
  | none =>
    rw [Native.run_bind_ok (Native.run_invoke_ok hs), accessBuffer_bind]
    by_cases ho : MAX_ETH_PAYLOAD_SIZE < len.toNat
    · simp only [if_pos ho]
    · simp only [if_neg ho]
      rfl

theorem setBytes_dead {m : List UInt8 → Method Λ Unit} {a : List UInt8} {len : CInt}
    {e : PacketFogInstance} {ps : Process Λ} {f : Fault} (hd : e.sender.Dead ps.heap f) :
    (setBytes lib m a len e).run ps = .error f ∨
      (setBytes lib m a len e).run ps = .error .bufferOverflow := by
  unfold setBytes
  cases getByteArrayRegion a len with
  | some region =>
    rw [accessBuffer_bind]
    by_cases ho : MAX_ETH_PAYLOAD_SIZE < len.toNat
    · simp only [if_pos ho, or_true]
    · simp only [if_neg ho]
      exact .inl ((Native.Guarded.invoke _ _).bind_left _ _ hd)
  | none => exact .inl ((Native.Guarded.invoke _ _).bind_left _ _ hd)

theorem setBytes_frees (m : List UInt8 → Method Λ Unit) (a : List UInt8) (len : CInt)
    (e : PacketFogInstance) (S : List Ptr) : Native.Frees (setBytes lib m a len e) S := by
  have hb : Native.Frees (accessBuffer len : Native Λ Unit) S :=
    .ite (Native.frees_fault _ _) (.pure _ _)
  unfold setBytes
  split
  · exact hb.bind fun _ => (Native.frees_invoke _ _ _).bind fun _ => .pure _ _
  · exact (Native.frees_invoke _ _ _).bind fun _ => hb.bind fun _ => .pure _ _

theorem setRegion_live {m : List UInt8 → Method Λ Unit} {pHandle : CInt} {a : List UInt8}
    {len : CInt} {e : PacketFogInstance} {o : Obj} (he : s.table pHandle = some e)
    (hs : s.proc.heap.deref e.sender = .ok o) :
    setRegion lib m pHandle a len s =
      if MAX_ETH_PAYLOAD_SIZE < len.toNat then .error .bufferOverflow
      else .ok ((getByteArrayRegion a len).elim .pendingException fun _ => .void,
        { s with proc := { s.proc with world := (m ((getByteArrayRegion a len).getD
            (lib.uninitialised len.toNat s.proc.world)) e.sender s.proc.world).2 } }) := by
  rw [setRegion, Statics.onEntry, Table.index_some he, setBytes_run hs]
  by_cases ho : MAX_ETH_PAYLOAD_SIZE < len.toNat <;> simp only [ho, if_true, if_false]

/-! ### Calls on dead entries -/

/-- A call through either object of the entry raises `f`, as through those of the
`PacketFogInstance()` that `operator[]` inserts. -/
def PacketFogInstance.Dead (e : PacketFogInstance) (m : Heap) (f : Fault) : Prop :=
  e.sender.Dead m f ∧ e.receiver.Dead m f

theorem dead_default (m : Heap) : (default : PacketFogInstance).Dead m .nullDeref := ⟨rfl, rfl⟩

/-- Every call on a handle whose entry is dead raises the fault of a call through its objects,
unless it copies bytes and overruns its buffer first. -/
theorem step_dead {c : Call} {h : CInt} {f : Fault} (hc : c.pHandle = some h)
    (hd : (s.table.index h).1.Dead s.proc.heap f) :
    step lib c s = .error f ∨ c.copiesBytes = true ∧ step lib c s = .error .bufferOverflow := by
  rcases step_shape hc with ⟨_, obj, m, out, rfl | rfl, -, hst⟩ | ⟨m, a, len, hb, hst⟩ |
    ⟨cap, m, hb, hst⟩ <;> rw [hst]
  · exact .inl (Statics.onEntry_fault (Native.Guarded.invoke _ _).map hd.1)
  · exact .inl (Statics.onEntry_fault (Native.Guarded.invoke _ _).map hd.2)
  · exact (setBytes_dead hd.1).imp Statics.onEntry_error fun h => ⟨hb, Statics.onEntry_error h⟩
  · exact .inl (Statics.onEntry_fault (Native.Guarded.invoke _ _).bind_left hd.2)

/-! ### Isolation and progress -/

/-- The objects of an entry. -/
def PacketFogInstance.objs (e : PacketFogInstance) : List Ptr := [e.sender, e.receiver]

/-- An entry whose sender and receiver are live: what `getInstance` stores. -/
def PacketFogInstance.Usable (e : PacketFogInstance) (m : Heap) : Prop :=
  m.deref e.sender = .ok .packetFoG ∧ m.deref e.receiver = .ok .packetFoG

theorem PacketFogInstance.Usable.keep {e : PacketFogInstance} {m m' : Heap} (hu : e.Usable m)
    (hk : m.Keeps e.objs m') : e.Usable m' :=
  ⟨hk _ (List.mem_cons_self _ _) _ hu.1,
    hk _ (List.mem_cons_of_mem _ (List.mem_singleton_self _)) _ hu.2⟩

theorem newPacketFogInstance_fresh {ps ps' : Process Λ} {e : PacketFogInstance}
    (h : (newPacketFogInstance lib).run ps = .ok (e, ps')) :
    (∀ p ∈ e.objs, p.From ps.heap.next ∧ p.Below ps'.heap.next) ∧ e.Usable ps'.heap := by
  obtain ⟨rfl, hps⟩ := newPacketFogInstance_run_eq h
  rw [hps]
  refine ⟨?_, Heap.spares_new _ [] _ _ (List.not_mem_nil _) _ (Heap.deref_new _ _),
    Heap.deref_new _ _⟩
  simp only [PacketFogInstance.objs, List.mem_cons, List.mem_singleton, List.not_mem_nil,
    or_false]
  rintro p (rfl | rfl)
  · exact ⟨Nat.le_refl _, show _ < _ by simp only [Heap.new_next]; omega⟩
  · exact ⟨Nat.le_succ _, show _ < _ by simp only [Heap.new_next]; omega⟩

theorem step_spares {c : Call} (h : step lib c s = .ok (r, s')) :
    s.proc.heap.Spares [] s'.proc.heap := by
  cases hc : c.pHandle with
  | none =>
    cases c <;> cases hc
    rw [step, getInstance, initPacketFogInstance] at h
    obtain ⟨-, e, hrun, -⟩ := Statics.getInstance_eq_ok h
    rw [(newPacketFogInstance_run_eq hrun).2]
    exact (Heap.spares_new _ _ _).trans (Heap.spares_new _ _ _)
  | some p =>
    rcases step_shape hc with ⟨_, _, _, _, -, -, hst⟩ | ⟨_, _, _, -, hst⟩ | ⟨_, _, -, hst⟩ <;>
      rw [hst] at h
    · exact Statics.onEntry_spares (fun _ => (Native.frees_invoke _ _ []).bind fun _ =>
        .pure _ _) h
    · exact Statics.onEntry_spares (fun _ => setBytes_frees _ _ _ _ []) h
    · exact Statics.onEntry_spares (fun _ => (Native.frees_invoke _ _ []).bind fun _ =>
        .ite (.pure _ _) (Native.frees_fault _ _)) h

/-- The instances of the proxy are isolated; nothing in it frees. -/
def isolated (lib : Lib Λ) : Statics.Isolated (step lib) issuedHandle where
  objs := PacketFogInstance.objs
  Usable := PacketFogInstance.Usable
  closes _ := none
  getInstance := .getInstance
  build := newPacketFogInstance lib
  step_getInstance := rfl
  handle_some {c r h} hh := by cases c <;> first | rfl | exact nomatch hh
  objs_default := by
    simp only [PacketFogInstance.objs, List.mem_cons, List.mem_singleton, List.not_mem_nil,
      or_false]
    rintro p (rfl | rfl) <;> rfl
  build_fresh := newPacketFogInstance_fresh
  keep := PacketFogInstance.Usable.keep
  spares := step_spares

end FogJni.PacketFoG

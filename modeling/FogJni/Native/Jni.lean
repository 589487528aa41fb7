import FogJni.Native.Heap

/-! What crosses the JNI boundary: the values an entry point hands back to Java, and the JNI
array copies with their error paths. Java references passed in are taken to be non-null, and a
`jstring` reaches the library unchanged through `GetStringUTFChars` and a `stringstream`. -/

namespace FogJni

/-- What an entry point hands back to Java. -/
inductive Ret where
  | void
  | jint (v : CInt)
  | jboolean (b : Bool)
  | jstring (s : String)
  /-- A new `jbyteArray`, or `NULL`. -/
  | jbyteArray (a : Option (List UInt8))
  /-- The caller's `jintArray` as `ReleaseIntArrayElements` leaves it. -/
  | jintArray (a : List CInt)
  /-- The entry point returned with a Java exception pending, which the caller then throws. -/
  | pendingException
  deriving DecidableEq, Repr

/-- `GetByteArrayRegion(a, 0, len, buf)`: the region it copies into `buf`, or `none` when the
region does not lie in the array. The copy then writes nothing and leaves an
`ArrayIndexOutOfBoundsException` pending, which the native code does not check. -/
def getByteArrayRegion (a : List UInt8) (len : CInt) : Option (List UInt8) :=
  if 0 ≤ len.toInt ∧ len.toInt ≤ a.length then some (a.take len.toNat) else none

theorem getByteArrayRegion_eq_some {a bs : List UInt8} {len : CInt} :
    getByteArrayRegion a len = some bs ↔
      (0 ≤ len.toInt ∧ len.toInt ≤ a.length) ∧ bs = a.take len.toNat := by
  unfold getByteArrayRegion
  split
  · exact ⟨fun h => ⟨‹_›, (Option.some.inj h).symm⟩, fun h => h.2 ▸ rfl⟩
  · exact iff_of_false (fun h => nomatch h) fun h => ‹¬_› h.1

theorem getByteArrayRegion_eq_none {a : List UInt8} {len : CInt} :
    getByteArrayRegion a len = none ↔ ¬(0 ≤ len.toInt ∧ len.toInt ≤ a.length) := by
  unfold getByteArrayRegion
  split <;> simp_all

end FogJni

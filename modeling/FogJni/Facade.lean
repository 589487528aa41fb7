import FogJni.Registry
import FogJni.Native.Jni

/-! A proxy façade as both native libraries build one: a state holding a handle registry, and one
step per JNI entry point. A façade carries the one fact each proxy proves of its own code: from
a state of its invariant, every step is a registry `Step`. From that alone, every run of the
proxy keeps the handle law, whatever the calls and their handle arguments. -/

namespace FogJni

structure Facade where
  State : Type
  Call : Type
  Entry : Type
  [inhabited : Inhabited Entry]
  step : Call → State → Except Fault (Ret × State)
  /-- The handle a call hands back when it is `getInstance`. -/
  handle : Call → Ret → Option CInt
  registry : State → Registry Entry
  init : State
  Inv : State → Prop
  registry_init : registry init = .empty
  inv_init : Inv init
  inv_step : ∀ {c s r s'}, Inv s → step c s = .ok (r, s') → Inv s'
  step_registry : ∀ {c s r s'}, Inv s → step c s = .ok (r, s') →
    Registry.Step (registry s) (handle c r) (registry s')

attribute [instance] Facade.inhabited

namespace Facade

variable (F : Facade)

/-- The calls made one after another from `s`: each completed call with its result and the
state it left. A fault ends the run. -/
def run : List F.Call → F.State → List (F.Call × Ret × F.State)
  | [], _ => []
  | c :: cs, s =>
    match F.step c s with
    | .ok (r, s') => (c, r, s') :: run cs s'
    | .error _ => []

/-- The state a trace ends in. -/
def last (s : F.State) : List (F.Call × Ret × F.State) → F.State
  | [] => s
  | (_, _, s') :: tr => last s' tr

/-- The handles `getInstance` returned along a trace, in order, each with the registry it left. -/
def issued (tr : List (F.Call × Ret × F.State)) : List (CInt × Registry F.Entry) :=
  tr.filterMap fun x => (F.handle x.1 x.2.1).map fun h => (h, F.registry x.2.2)

/-- The handle law of the run of `calls` from the initial state. -/
def HandleLaw (calls : List F.Call) : Prop :=
  Registry.HandleLaw (F.issued (F.run calls F.init))
    (F.registry (F.last F.init (F.run calls F.init)))

theorem issued_cons (c : F.Call) (r : Ret) (s : F.State) (tr) :
    F.issued ((c, r, s) :: tr) =
      ((F.handle c r).map fun h => (h, F.registry s)).toList ++ F.issued tr := by
  cases h : F.handle c r <;> simp [issued, h]

/-- The run lemma: a property of a state and the handles issued so far that every completed
step keeps holds at the end of every run. -/
theorem run_induction (P : F.State → List (CInt × Registry F.Entry) → Prop)
    (hP : ∀ {c s r s' iss}, P s iss → F.step c s = .ok (r, s') →
      P s' (iss ++ ((F.handle c r).map fun h => (h, F.registry s')).toList))
    (cs : List F.Call) {s : F.State} (iss : List (CInt × Registry F.Entry)) (hs : P s iss) :
    P (F.last s (F.run cs s)) (iss ++ F.issued (F.run cs s)) := by
  induction cs generalizing s iss with
  | nil => simpa [run, last, issued] using hs
  | cons c cs ih =>
    simp only [run]
    split
    · next r s' hstep =>
      have := ih _ (hP hs hstep)
      rwa [last, issued_cons, ← List.append_assoc]
    · simpa [last, issued] using hs

/-- A property of the registry that every registry `Step` keeps holds at the end of every run
from the initial state. -/
theorem run_registry (Q : Registry F.Entry → List (CInt × Registry F.Entry) → Prop)
    (hQ : ∀ {r o r' iss}, Q r iss → Registry.Step r o r' →
      Q r' (iss ++ (o.map fun h => (h, r')).toList))
    (hinit : Q .empty []) (cs : List F.Call) :
    Q (F.registry (F.last F.init (F.run cs F.init))) (F.issued (F.run cs F.init)) :=
  (F.run_induction (fun s iss => F.Inv s ∧ Q (F.registry s) iss)
    (fun hs hstep => ⟨F.inv_step hs.1 hstep, hQ hs.2 (F.step_registry hs.1 hstep)⟩) cs []
    ⟨F.inv_init, F.registry_init ▸ hinit⟩).2

theorem handleLaw (calls : List F.Call) : F.HandleLaw calls :=
  (F.run_registry (fun r iss => r.Law iss) (fun hl hs => hl.step hs) .empty calls).handleLaw

/-- A call on a handle the run has not issued finds `T()` in the map. -/
theorem index_unissued (calls : List F.Call) {h : CInt}
    (hn : ∀ p ∈ F.issued (F.run calls F.init), p.1 ≠ h) :
    ((F.registry (F.last F.init (F.run calls F.init))).table.index h).1 = default :=
  (F.run_registry Registry.Known (fun hk hs => hk.step hs) .empty calls).index_fst hn

theorem run_stable_along {h : CInt} (P : F.State → Prop) (cs : List F.Call)
    (hP : ∀ {c s r s'}, c ∈ cs → P s → F.step c s = .ok (r, s') → F.handle c r ≠ some h → P s')
    {s : F.State} (hs : P s) (hn : ∀ p ∈ F.issued (F.run cs s), p.1 ≠ h) :
    P (F.last s (F.run cs s)) := by
  induction cs generalizing s with
  | nil => exact hs
  | cons c cs ih =>
    cases hstep : F.step c s with
    | error f => simpa [run, last, hstep] using hs
    | ok rs =>
      obtain ⟨r, s'⟩ := rs
      simp only [run, last, hstep, issued_cons] at hn ⊢
      have ho : F.handle c r ≠ some h := fun ho => hn (h, F.registry s') (by simp [ho]) rfl
      exact ih (fun hc => hP (List.mem_cons_of_mem _ hc)) (hP (List.mem_cons_self _ _) hs hstep ho)
        fun p hp => hn p (List.mem_append_right _ hp)

/-- A property every step keeps, unless it issues `h`, holds at the end of every run that does not
issue `h`. -/
theorem run_stable {h : CInt} (P : F.State → Prop)
    (hP : ∀ {c s r s'}, P s → F.step c s = .ok (r, s') → F.handle c r ≠ some h → P s')
    (cs : List F.Call) {s : F.State} (hs : P s) (hn : ∀ p ∈ F.issued (F.run cs s), p.1 ≠ h) :
    P (F.last s (F.run cs s)) :=
  F.run_stable_along P cs (fun _ => hP) hs hn

/-- A call that costs `k` of a measure each time it completes completes at most `μ s / k` times
in a row. -/
theorem run_replicate_length (c : F.Call) (μ : F.State → Nat) (k : Nat)
    (hc : ∀ {s r s'}, F.step c s = .ok (r, s') → μ s' + k = μ s) (n : Nat) (s : F.State) :
    (F.run (List.replicate n c) s).length * k ≤ μ s := by
  induction n generalizing s with
  | zero => simp [run]
  | succ n ih =>
    rw [List.replicate_succ, run]
    split
    · next r s' hs =>
      have := ih s'
      have := hc hs
      rw [List.length_cons, Nat.succ_mul]
      omega
    · simp

theorem issued_replicate (c : F.Call)
    (hc : ∀ s, ∃ r s' h, F.step c s = .ok (r, s') ∧ F.handle c r = some h) (n : Nat)
    (s : F.State) : (F.issued (F.run (List.replicate n c) s)).length = n := by
  induction n generalizing s with
  | zero => rfl
  | succ n ih =>
    obtain ⟨r, s', h, hs, hh⟩ := hc s
    simp [List.replicate_succ, run, hs, issued_cons, hh, ih]

/-- `c` issues a handle each time it is made: a run of `n` calls of it from the initial state
issues `n` handles. -/
def Issues (c : F.Call) : Prop :=
  ∀ n, (F.issued (F.run (List.replicate n c) F.init)).length = n

theorem issues (c : F.Call)
    (hc : ∀ s, ∃ r s' h, F.step c s = .ok (r, s') ∧ F.handle c r = some h) : F.Issues c :=
  fun n => F.issued_replicate c hc n F.init

end Facade

end FogJni

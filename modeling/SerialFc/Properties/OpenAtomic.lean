import SerialFc.Model.Open
import Mathlib.Tactic.Tauto

/-!
# Open and close

* `Balanced` — as many power references and rings as there are open handles
* `atomic_iff` — when a run keeps the balance and its failed creations leave no trace
-/

namespace SerialFc

open Lib

namespace OpenState

/-- What a failed creation must not change. The size of the buffer is written anew by every
creation. -/
def resources (p : OpenState) : OpenState := { p with bufferSize := 0 }

/-- The power references are those of the open handles, and a ring is allocated exactly when one is
open. -/
structure Balanced (p : OpenState) : Prop where
  power : p.powerReferences = p.openHandles
  rings : p.ringsAllocated = p.openHandles
  ring : p.interruptReadBuffer.isSome = true ↔ p.openHandles ≠ 0

/-- After the step everything balances, and a creation that fails leaves no trace: not in the
resources, and not in what any run does from here on. -/
def Atomic (e : Event) (p : OpenState) : Prop :=
  ∀ p', step e p = some p' → Balanced p' ∧
    ∀ c, e = .create c → (p.serialDeviceFileCreateWorker c).1 ≠ .success →
      p'.resources = p.resources ∧
        ∀ es, (run step es p').map resources = (run step es p).map resources

/-- A creation that fails does so for want of memory, before it has acquired anything. While a
handle is open there is no creation. -/
def FailsEarly : Event → OpenState → Prop
  | .create c, p => p.openHandles = 0 →
      c.systemSize.bufferSizes.find? c.pool = none ∨
        (c.stopIdle = true ∧ ¬(p.card = .fscc ∧ c.openedInSync = true))
  | .close _, _ => True

/-! ## Creation -/

theorem create_noMemory {c : CreateConditions} (h : c.systemSize.bufferSizes.find? c.pool = none)
    (p : OpenState) :
    p.serialDeviceFileCreateWorker c =
      (.insufficientResources, { p with interruptReadBuffer := none, bufferSize := 128 }) := by
  simp [serialDeviceFileCreateWorker, allocateRing, h]

theorem create_succeeds {c : CreateConditions} {size : Nat} {p : OpenState}
    (h : c.systemSize.bufferSizes.find? c.pool = some size) (hidle : c.stopIdle = true)
    (hsync : ¬(p.card = .fscc ∧ c.openedInSync = true)) :
    p.serialDeviceFileCreateWorker c =
      (.success, { p with
        interruptReadBuffer := some size
        bufferSize := size
        ringsAllocated := p.ringsAllocated + 1
        powerReferences := p.powerReferences + 1
        isBusy := true
        staticStopRemove := false
        deviceIsOpened := true
        openHandles := p.openHandles + 1 }) := by
  simp [serialDeviceFileCreateWorker, allocateRing, h, hidle, hsync]

/-- A creation that fails late keeps the ring without a handle. -/
theorem create_failsLate {c : CreateConditions} {size : Nat} {p : OpenState}
    (h : c.systemSize.bufferSizes.find? c.pool = some size)
    (hlate : ¬(c.stopIdle = true ∧ ¬(p.card = .fscc ∧ c.openedInSync = true))) :
    (p.serialDeviceFileCreateWorker c).2.interruptReadBuffer = some size ∧
      (p.serialDeviceFileCreateWorker c).2.openHandles = p.openHandles := by
  simp only [serialDeviceFileCreateWorker, allocateRing, h]
  split
  · next hnone => exact absurd hnone (by simp)
  split
  · exact ⟨rfl, rfl⟩
  · next hidle =>
    have hsync : p.card = .fscc ∧ c.openedInSync = true := by
      simp only [Bool.not_eq_true', Bool.not_eq_false] at hidle
      tauto
    rw [if_pos hsync]
    exact ⟨rfl, rfl⟩

/-! ## What a step depends on -/

theorem resources_create (c : CreateConditions) (p : OpenState) :
    (p.serialDeviceFileCreateWorker c).2.resources =
      (p.resources.serialDeviceFileCreateWorker c).2.resources := by
  unfold serialDeviceFileCreateWorker allocateRing
  cases c.systemSize.bufferSizes.find? c.pool with
  | none => rfl
  | some size =>
    simp only [Option.isNone_some, Bool.false_eq_true, if_false]
    split
    · rfl
    · by_cases hsync : p.card = .fscc ∧ c.openedInSync = true
      · rw [if_pos hsync, if_pos (by exact hsync)]
        rfl
      · rw [if_neg hsync, if_neg (by exact hsync)]
        rfl

theorem resources_close (connected : Bool) (p : OpenState) :
    (p.serialFileCloseWorker connected).resources =
      (p.resources.serialFileCloseWorker connected).resources := by
  cases connected <;> rfl

theorem step_resources (e : Event) (p q : OpenState) (h : p.resources = q.resources) :
    (step e p).map resources = (step e q).map resources := by
  have hopen : p.resources.openHandles = q.resources.openHandles := congrArg openHandles h
  have hopen : p.openHandles = q.openHandles := hopen
  cases e with
  | create c =>
    simp only [step, hopen]
    split
    · rw [Option.map_some, Option.map_some, resources_create, h, ← resources_create]
    · rfl
  | close connected =>
    simp only [step, hopen]
    split
    · rw [Option.map_some, Option.map_some, resources_close, h, ← resources_close]
    · rfl

/-! ## Balance -/

theorem balanced_idle (card : CardType) : Balanced (idle card) :=
  ⟨rfl, rfl, by simp [idle]⟩

/-- One handle is open at a time. -/
structure Alone (p : OpenState) : Prop extends Balanced p where
  single : p.openHandles ≤ 1

theorem Alone.noRing {p : OpenState} (h : Alone p) (hopen : p.openHandles = 0) :
    p.interruptReadBuffer = none :=
  Option.not_isSome_iff_eq_none.mp fun hsome => h.ring.mp hsome hopen

theorem Alone.step {e : Event} {p p' : OpenState} (h : Alone p) (hearly : FailsEarly e p)
    (hstep : step e p = some p') : Alone p' := by
  cases e with
  | create c =>
    obtain ⟨hopen, heq⟩ := Option.ite_none_right_eq_some.mp hstep
    cases hsize : c.systemSize.bufferSizes.find? c.pool with
    | none =>
      rw [create_noMemory hsize] at heq
      cases heq
      exact ⟨⟨h.power, h.rings, iff_of_false (by simp) (not_not.mpr hopen)⟩, h.single⟩
    | some size =>
      obtain ⟨hidle, hsync⟩ := (hearly hopen).resolve_left (by rw [hsize]; nofun)
      rw [create_succeeds hsize hidle hsync] at heq
      cases heq
      refine ⟨⟨?_, ?_, iff_of_true rfl (Nat.succ_ne_zero _)⟩, ?_⟩
      · simp only [h.power, hopen]
        rfl
      · simp only [h.rings]
      · simp only [hopen]
        exact Nat.le_refl 1
  | close connected =>
    obtain ⟨hopen, heq⟩ := Option.ite_none_right_eq_some.mp hstep
    have hone : p.openHandles = 1 := Nat.le_antisymm h.single (Nat.one_le_iff_ne_zero.mpr hopen)
    have hring : p.interruptReadBuffer.isSome = true := h.ring.mpr hopen
    have hpower := h.power
    have hrings := h.rings
    cases heq
    cases connected
    all_goals
      simp only [serialFileCloseWorker, if_true, Bool.false_eq_true, if_false, hring]
      refine ⟨⟨?_, ?_, ?_⟩, ?_⟩
      · simp [hpower, hone]
      · simp [hrings, hone]
      · simp [hone]
      · simp [hone]

/-! ## Whole runs -/

theorem Alone.atomic {e : Event} {p : OpenState} (h : Alone p) (hearly : FailsEarly e p) :
    Atomic e p := by
  intro p' hstep
  refine ⟨(h.step hearly hstep).toBalanced, ?_⟩
  rintro c rfl hfail
  obtain ⟨hopen, heq⟩ := Option.ite_none_right_eq_some.mp hstep
  have hsize : c.systemSize.bufferSizes.find? c.pool = none := by
    by_contra hne
    obtain ⟨size, hsize⟩ := Option.ne_none_iff_exists'.mp hne
    obtain ⟨hidle, hsync⟩ := (hearly hopen).resolve_left hne
    exact hfail (by rw [create_succeeds hsize hidle hsync])
  rw [create_noMemory hsize] at heq
  have hsame : p'.resources = p.resources := by
    rw [← Option.some.inj heq]
    simp only [resources, h.noRing hopen]
  exact ⟨hsame, fun es => run_map_congr step_resources hsame⟩

/-- A creation that fails late leaves a ring without a handle. -/
theorem failsEarly_of_atomic {e : Event} {p : OpenState} (h : Atomic e p) : FailsEarly e p := by
  cases e with
  | close connected => trivial
  | create c =>
    intro hopen
    by_contra hnot
    obtain ⟨hne, hlate⟩ := not_or.mp hnot
    obtain ⟨size, hsize⟩ := Option.ne_none_iff_exists'.mp hne
    obtain ⟨hring, hhandles⟩ := create_failsLate hsize hlate
    have hbalanced := (h _ (if_pos hopen)).1
    exact hbalanced.ring.mp (by rw [hring]; rfl) (hhandles.trans hopen)

/-- **Open is atomic.** In a run of creations and closes, every state balances and every creation
that fails leaves no trace if and only if no creation fails after it has got its ring. -/
theorem atomic_iff {card : CardType} {es : List Event} :
    RunMeets step Atomic es (idle card) ↔ RunMeets step FailsEarly es (idle card) := by
  have hidle : Alone (idle card) := ⟨balanced_idle card, Nat.zero_le 1⟩
  constructor
  · intro h
    exact RunMeets.mono (fun _ _ => failsEarly_of_atomic) h
  · intro h
    exact RunMeets.of_invariant (fun _ _ _ hstep hearly hp => Alone.step hp hearly hstep)
      (fun _ _ hearly hp => Alone.atomic hp hearly) h hidle

/-- A creation on an FSCC card that the other driver has. -/
def inSync : CreateConditions := ⟨.small, fun _ => true, true, true⟩

theorem not_atomic_inSync : ¬RunMeets step Atomic [.create inSync] (idle .fscc) := by
  rintro ⟨h, -⟩
  have hbalanced := (h _ rfl).1
  exact absurd hbalanced.power (by decide)

end OpenState

end SerialFc

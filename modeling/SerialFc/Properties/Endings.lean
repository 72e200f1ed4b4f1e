import SerialFc.Properties.Tracked

/-!
# How a request ends

What `SerialTryToCompleteCurrent` and the routines it calls at its end do with the request of a
slot, whichever slot it is.

* `tryToComplete_cases` — the request stays with its agents, or it is given its status
* `current_giveStatus`, `fields_getNext`, `fields_completeCurrent` — from there to its completion
-/

namespace SerialFc

open Extension

variable {U : Type} {e : Extension U}

theorem occ_pos_of_mem {r : Request} {l : List Request} (hr : r ∈ l) : 0 < occ r.id l :=
  List.count_pos_iff.mpr (List.mem_map_of_mem hr)

/-- A request in a slot has not been completed. -/
theorem Accounted.ne_done (h : Accounted e) {s : Slot} {r r' : Request} (hr : e.current s = some r)
    (hr' : r' ∈ e.done) : r'.id ≠ r.id := by
  intro hid
  have hhere : 0 < occ r.id [r] := occ_pos_of_mem (List.mem_singleton_self r)
  have hthere : 0 < occ r.id e.done := hid ▸ occ_pos_of_mem hr'
  have hset := places_setCurrent e s none r.id
  rw [hr, Option.toList_some, Option.toList_none, occ_nil] at hset
  have hrest : occ r.id e.done ≤ (e.setCurrent s none).places r.id := Nat.le_add_left _ _
  have hle : e.places r.id ≤ 1 := by
    rw [h.once r.id]
    split
    · exact Nat.le_refl 1
    · exact Nat.zero_le 1
  omega

/-! ## The status -/

/-- What a request becomes when it is given its status. A cancelled one reports nothing. -/
def Request.withStatus (status : NtStatus) (r : Request) : Request :=
  { r with
    status := status
    information := if status = .cancelled then 0 else r.information }

theorem current_giveStatus {s : Slot} {r : Request} (hr : e.current s = some r)
    (status : NtStatus) : (e.giveStatus s status).current s = some (r.withStatus status) := by
  unfold giveStatus Request.withStatus
  rw [hr]
  dsimp only
  split
  · exact (current_setCurrent ..).trans (if_pos rfl)
  · exact (current_setCurrent ..).trans (if_pos rfl)

theorem fields_giveStatus (e : Extension U) (s : Slot) (status : NtStatus) :
    ((e.giveStatus s status).tx, (e.giveStatus s status).wire, (e.giveStatus s status).ev,
      (e.giveStatus s status).done) = (e.tx, e.wire, e.ev, e.done) := by
  unfold giveStatus
  split
  · rfl
  · split <;> rfl

/-! ## Completion -/

theorem fields_getNext (e : Extension U) (s : Slot) (q : QueueId) :
    ((e.serialGetNextRequest s q true).tx, (e.serialGetNextRequest s q true).wire,
      (e.serialGetNextRequest s q true).done) = (e.tx, e.wire, e.done ++ (e.current s).toList) := by
  have hretrieve (e : Extension U) : ((e.retrieveNextRequest q s).tx,
      (e.retrieveNextRequest q s).wire, (e.retrieveNextRequest q s).done) =
      (e.tx, e.wire, e.done) := by
    unfold retrieveNextRequest
    split <;> rfl
  unfold serialGetNextRequest
  cases e.current s with
  | none => exact (hretrieve e).trans (by simp)
  | some r =>
    have hfields := hretrieve e
    simp only [Prod.mk.injEq] at hfields
    simp [serialCompleteRequest, hfields]

/-- A request that no other one follows leaves its slot empty. -/
theorem fields_completeCurrent {s : Slot} {r : Request} (hr : e.current s = some r) :
    ((e.completeCurrent s).ev, (e.completeCurrent s).current s, (e.completeCurrent s).done) =
      (e.ev, none, e.done ++ [r]) := by
  have hnone : (e.setCurrent s none).current s = none := by rw [current_setCurrent, if_pos rfl]
  unfold completeCurrent
  rw [hr]
  exact congrArg (fun c => (e.ev, c, e.done ++ [r])) hnone

variable [Uart U]

/-- `SerialTryToCompleteCurrent` leaves the request to the agents it still has, or gives it its
status and goes on with `finish`. -/
theorem tryToComplete_cases {s : Slot} {ref : Ref} (hcall : CalledFor e s ref)
    (hacc : Accounted e) {g : Extension U → Extension U} (hg : TakesBack s ref g)
    (hgacc : ∀ e, Accounted e → Accounted (g e)) (hown : OwnTimer s ref) (status : NtStatus)
    (finish : Extension U → Extension U) :
    let e₁ := e.stopAgents g status s (intervalTimerId s) (totalTimerId s) ref
    let e₂ := e.serialTryToCompleteCurrent g status s (intervalTimerId s) (totalTimerId s) finish ref
    (∃ r, e₁.current s = some r) ∧ (e₂ = e₁ ∨ e₂ = finish (e₁.giveStatus s status) ∧
      Accounted (e₁.giveStatus s status) ∧ Unheld s (e₁.giveStatus s status)) := by
  obtain ⟨⟨r, h⟩, hrel, _⟩ := hcall
  obtain ⟨r', h', _, _, _, hdone, _⟩ := h.stopAgents hg hown status
  have hacc' : Accounted
      (e.stopAgents g status s (intervalTimerId s) (totalTimerId s) ref) :=
    (anything.stopAgents e id (fun e ha => ⟨hgacc e ha, id⟩) (slot_intervalTimerId s)
      (slot_totalTimerId s) status ref hacc).1
  unfold serialTryToCompleteCurrent completeIfUnreferenced
  rw [h.current, h'.current]
  refine ⟨⟨r', h'.current⟩, ?_⟩
  dsimp only
  generalize e.stopAgents g status s (intervalTimerId s) (totalTimerId s) ref = e₁ at *
  split
  · next hzero =>
    have hrefs := RefCount.eq_zero_of_isZero hzero
    obtain ⟨hun, hcancelable⟩ := h'.unattended hrefs
    have hunheld : Unheld s e₁ := by
      refine ⟨hun, fun r'' hr'' => ?_, fun r hr => hrel r (hdone ▸ hr)⟩
      cases h'.current.symm.trans hr''
      exact ⟨hrefs, hcancelable, by rw [h'.routine (by simp), hcancelable]; rfl⟩
    exact .inr ⟨rfl, (anything.giveStatus e₁ (apart_nothing s) status hacc').1,
      (hunheld.giveStatus h'.current status).1⟩
  · exact .inl rfl

end SerialFc

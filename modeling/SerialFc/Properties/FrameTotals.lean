import SerialFc.Properties.FramePass
import SerialFc.Model.Chip
import SerialFc.Model.Driver

/-!
# A pass of the ISR accounts for every frame

* `Accounted` — RBR is read once for every frame, and every frame is passed on as it should be
* `accounted_iff` — a pass accounts for every frame if and only if every call of
  `SerialProcessLSR` is sound
-/

namespace SerialFc

variable {U : Type} [Uart U]

/-! ## One cause -/

namespace ReceiveFifo

variable {r : ReceiveFifo}

theorem interruptId_cons {f : ReceivedFrame} {frames : List ReceivedFrame}
    (h : r.frames = f :: frames) :
    (f.flagged = true ∧ r.seen = false ∧ r.interruptId = iirRls) ∨
      ((f.flagged = true → r.seen = true) ∧ (r.interruptId = iirRda ∨ r.interruptId = iirCti)) := by
  rw [interruptId, h]
  dsimp only
  by_cases hunseen : (f.flagged && !r.seen) = true
  · rw [if_pos hunseen]
    rw [Bool.and_eq_true, Bool.not_eq_true'] at hunseen
    exact .inl ⟨hunseen.1, hunseen.2, rfl⟩
  · rw [if_neg hunseen]
    refine .inr ⟨fun hflagged => ?_, ?_⟩
    · simpa [hflagged] using hunseen
    · split
      · exact .inl rfl
      · exact .inr rfl

theorem interruptId_nil (h : r.frames = []) : r.interruptId = iirNoInterruptPending := by
  rw [interruptId, h]

/-- The interrupt is pending just while a frame is there. -/
theorem pending_interruptId (r : ReceiveFifo) :
    has r.interruptId iirNoInterruptPending = false ↔ r.frames ≠ [] := by
  cases h : r.frames with
  | nil =>
    rw [interruptId_nil h]
    exact iff_of_false (by decide) (fun hne => hne rfl)
  | cons f frames =>
    refine iff_of_true ?_ nofun
    rcases interruptId_cons h with ⟨-, -, hid⟩ | ⟨-, hid | hid⟩
    all_goals
      rw [hid]
      decide

end ReceiveFifo

namespace PutLog

open ReceiveFifo Config

variable {l l' : PutLog (Receiver U)}

theorem isrCase_rls (n : Nat) (l : PutLog (Receiver U)) :
    l.isrCase n iirRls = some l.serialProcessLsr.2 := by
  unfold isrCase
  exact if_pos (by decide)

theorem causes_data {iir : UInt8} (h : iir = iirRda ∨ iir = iirCti) :
    iir &&& iirCauses ≠ iirRls ∧ (iir &&& iirCauses = iirRda ∨ iir &&& iirCauses = iirCti) := by
  rcases h with rfl | rfl <;> decide

theorem isrCase_data {iir : UInt8} (h : iir = iirRda ∨ iir = iirCti) (n : Nat)
    (l : PutLog (Receiver U)) : l.isrCase n iir = l.receiveLoop n := by
  unfold isrCase
  exact (if_neg (causes_data h).1).trans (if_pos (causes_data h).2)

theorem isrCaseLsrs_rls (n : Nat) (e : Extension (Receiver U)) :
    e.isrCaseLsrs n iirRls = [(false, e)] := by
  unfold Extension.isrCaseLsrs
  exact if_pos (by decide)

theorem isrCaseLsrs_data {iir : UInt8} (h : iir = iirRda ∨ iir = iirCti) (n : Nat)
    (e : Extension (Receiver U)) :
    e.isrCaseLsrs n iir = (e.receiveLoopLsrs n).map (true, ·) := by
  unfold Extension.isrCaseLsrs
  exact (if_neg (causes_data h).1).trans (if_pos (causes_data h).2)

/-- The first read after an interrupt for data is passed on rightly. -/
theorem rightly_firstPair (horderly : OrderlyLog l) {f : ReceivedFrame}
    {frames : List ReceivedFrame} (hframes : l.account.receive.frames = f :: frames)
    (hseen : f.flagged = true → l.account.receive.seen = true) :
    l.account.cfg.Rightly l.firstPair := by
  refine rightly_data.mpr ⟨f, ?_, fun herror => .inl ?_⟩
  · rw [readData_some (frames_arrive hframes)]
  · refine Bool.eq_false_iff.mpr fun hflagged => ?_
    obtain ⟨g, rest, hrest, hclean⟩ := horderly (hseen hflagged)
    obtain ⟨rfl, -⟩ := List.cons.inj (hframes.symm.trans hrest)
    rw [hclean herror] at hflagged
    cases hflagged

/-- **One cause.** Every call of `SerialProcessLSR` for it is sound if and only if everything that
is read is passed on rightly. -/
theorem isrCase_account {n : Nat} (hplain : l.account.cfg.Plain) (horderly : OrderlyLog l)
    (hthere : l.account.receive.frames ≠ [])
    (hrun : l.isrCase n l.account.receive.interruptId = some l') :
    ∃ pairs, Account.Extends l.account l'.account pairs ∧ OrderlyLog l' ∧
      ((∀ p ∈ pairs, l.account.cfg.Rightly p) ↔
        ∀ x ∈ l.ext.isrCaseLsrs n l.account.receive.interruptId,
          l.account.cfg.Sound x.1 x.2.uart.receive) := by
  obtain ⟨f, frames, hframes⟩ := List.exists_cons_of_ne_nil hthere
  rcases interruptId_cons hframes with ⟨-, -, hid⟩ | ⟨hseen, hid⟩
  · rw [hid, isrCase_rls] at hrun
    cases hrun
    refine ⟨_, extends_serialProcessLsr hplain, orderly_serialProcessLsr hplain horderly, ?_⟩
    rw [hid, isrCaseLsrs_rls, List.forall_mem_singleton]
    exact sound_once.symm
  · rw [isrCase_data hid] at hrun
    obtain ⟨pairs, hextends, horderly', hiff⟩ := receiveLoop_account hplain horderly hrun
    refine ⟨_, hextends, horderly', ?_⟩
    rw [hiff, isrCaseLsrs_data hid, List.forall_mem_map]
    exact and_iff_right (rightly_firstPair horderly hframes hseen)

/-! ## The ISR's loop -/

/-- What the ISR does when it reads IIR. -/
def readIir (l : PutLog (Receiver U)) : PutLog (Receiver U) := l.also fun e => (e.readReg .iir).2

theorem extends_readIir (l : PutLog (Receiver U)) :
    Account.Extends l.account l.readIir.account [] := Account.extends_arrive l.account

theorem orderly_readIir (h : OrderlyLog l) : OrderlyLog l.readIir := h.arrive

/-- The transmitter has nothing to say to this receiver. -/
theorem mustTransmit_eq (l : PutLog (Receiver U)) (e : Extension (Receiver U)) :
    e.mustTransmit l.serialProcessLsr.1 = false := by
  have hthre : has l.serialProcessLsr.1 lsrThre = false := by
    rw [status_eq]
    cases hframes : l.account.receive.arrive.frames with
    | nil =>
      rw [lineStatus_nil hframes]
      decide
    | cons f frames => exact (shows_lineStatus hframes).thre
  rw [Extension.mustTransmit, hthre]
  rfl

theorem isrLoop_succ (n : Nat) (l : PutLog (Receiver U)) :
    l.isrLoop (n + 1) =
      if l.readIir.account.receive.frames = [] then some l.readIir.serialProcessLsr.2
      else (l.readIir.isrCase n l.readIir.account.receive.interruptId).bind (isrLoop n) := by
  have hid := pending_interruptId l.readIir.account.receive
  show (if !has l.readIir.account.receive.interruptId iirNoInterruptPending then
      (l.readIir.isrCase n l.readIir.account.receive.interruptId).bind (isrLoop n)
    else if l.readIir.serialProcessLsr.2.ext.mustTransmit l.readIir.serialProcessLsr.1 then
      isrLoop n (l.readIir.serialProcessLsr.2.also Extension.transmit)
    else some l.readIir.serialProcessLsr.2) = _
  rw [mustTransmit_eq]
  by_cases hthere : l.readIir.account.receive.frames = []
  · rw [if_pos hthere, interruptId_nil hthere]
    rfl
  · rw [if_neg hthere, hid.mpr hthere]
    rfl

theorem isrLoopLsrs_succ (n : Nat) (l : PutLog (Receiver U)) :
    l.ext.isrLoopLsrs (n + 1) =
      if l.readIir.account.receive.frames = [] then [(false, l.readIir.ext)]
      else l.readIir.ext.isrCaseLsrs n l.readIir.account.receive.interruptId ++
        (l.readIir.isrCase n l.readIir.account.receive.interruptId).elim []
          fun l' => l'.ext.isrLoopLsrs n := by
  have hid := pending_interruptId l.readIir.account.receive
  have hcase := map_isrCase n l.readIir.account.receive.interruptId l.readIir
  have hnothing := mustTransmit_eq l.readIir l.readIir.ext.serialProcessLsr.2
  show (if !has l.readIir.account.receive.interruptId iirNoInterruptPending then
      l.readIir.ext.isrCaseLsrs n l.readIir.account.receive.interruptId ++
        (l.readIir.ext.isrCase n l.readIir.account.receive.interruptId).elim []
          (Extension.isrLoopLsrs n)
    else if l.readIir.ext.serialProcessLsr.2.mustTransmit l.readIir.serialProcessLsr.1 then _
    else [(false, l.readIir.ext)]) = _
  rw [hnothing, ← hcase]
  by_cases hthere : l.readIir.account.receive.frames = []
  · rw [if_pos hthere, interruptId_nil hthere]
    rfl
  · rw [if_neg hthere, hid.mpr hthere]
    cases l.readIir.isrCase n l.readIir.account.receive.interruptId <;> rfl

/-- **The ISR's loop.** It leaves nothing but what has arrived since it began. -/
theorem isrLoop_account {n : Nat} (hplain : l.account.cfg.Plain) (horderly : OrderlyLog l)
    (hrun : l.isrLoop n = some l') :
    ∃ pairs, Account.Extends l.account l'.account pairs ∧
      l'.account.receive.pending.length ≤ l.account.receive.arrivals.flatten.length ∧
      ((∀ p ∈ pairs, l.account.cfg.Rightly p) ↔
        ∀ x ∈ l.ext.isrLoopLsrs n, l.account.cfg.Sound x.1 x.2.uart.receive) := by
  induction n generalizing l with
  | zero => cases hrun
  | succ n ih =>
    have hread := extends_readIir l
    have hplain₁ := plain_of_extends hread hplain
    have horderly₁ := orderly_readIir horderly
    rw [isrLoop_succ] at hrun
    rw [isrLoopLsrs_succ]
    by_cases hthere : l.readIir.account.receive.frames = []
    · rw [if_pos hthere] at hrun ⊢
      cases hrun
      have hlsr := extends_serialProcessLsr hplain₁
      refine ⟨_, hread.trans hlsr, ?_, ?_⟩
      · refine Nat.le_trans (length_pending_of_extends hlsr) ?_
        rw [pending, hthere]
        exact hread.arrivals
      · rw [List.forall_mem_singleton]
        exact sound_once.symm
    · rw [if_neg hthere] at hrun ⊢
      obtain ⟨m, hcase, hloop⟩ := Option.bind_eq_some_iff.mp hrun
      obtain ⟨ps, hcaseExtends, horderly₂, hcaseIff⟩ :=
        isrCase_account hplain₁ horderly₁ hthere hcase
      have hplain₂ := plain_of_extends hcaseExtends hplain₁
      obtain ⟨qs, hloopExtends, hleft, hloopIff⟩ := ih hplain₂ horderly₂ hloop
      refine ⟨ps ++ qs, hread.trans (hcaseExtends.trans hloopExtends), ?_, ?_⟩
      · exact Nat.le_trans hleft (hread.trans hcaseExtends).arrivals
      · rw [hcaseExtends.cfg] at hloopIff
        rw [hcase, List.forall_mem_append, List.forall_mem_append]
        exact and_congr hcaseIff hloopIff

/-! ## The ISR ends -/

/-- Every cause takes a frame or sees the errors of the head. -/
def isrMeasure (l : PutLog (Receiver U)) : Nat :=
  2 * l.account.receive.pending.length + if l.account.receive.seen then 0 else 1

theorem isrMeasure_readIir (l : PutLog (Receiver U)) : l.readIir.isrMeasure = l.isrMeasure := by
  have hpending : l.readIir.account.receive.pending = l.account.receive.pending :=
    pending_arrive _
  have hseen : l.readIir.account.receive.seen = l.account.receive.seen := seen_arrive _
  rw [isrMeasure, isrMeasure, hpending, hseen]

/-- With enough fuel each cause is served, and the measure goes down. -/
theorem isrCase_ends (hplain : l.account.cfg.Plain) (horderly : OrderlyLog l)
    (hthere : l.account.receive.frames ≠ []) :
    ∃ N l', (∀ n ≥ N, l.isrCase n l.account.receive.interruptId = some l') ∧
      l'.account.cfg.Plain ∧ OrderlyLog l' ∧ l'.isrMeasure < l.isrMeasure := by
  obtain ⟨f, frames, hframes⟩ := List.exists_cons_of_ne_nil hthere
  rcases interruptId_cons hframes with ⟨-, hunseen, hid⟩ | ⟨-, hid⟩
  · refine ⟨0, l.serialProcessLsr.2, fun n _ => ?_, ?_, ?_, ?_⟩
    · rw [hid, isrCase_rls]
    · exact plain_of_extends (extends_serialProcessLsr hplain) hplain
    · exact orderly_serialProcessLsr hplain horderly
    · unfold isrMeasure
      rw [hunseen, if_neg Bool.false_ne_true]
      rcases measure_serialProcessLsr hplain (frames_arrive hframes) with hless | ⟨hsame, -, hseen⟩
      · split <;> omega
      · rw [hsame, hseen, if_pos rfl]
        omega
  · obtain ⟨N, l', hloop⟩ := receiveLoop_ends hplain
    obtain ⟨pairs, hextends, horderly', -⟩ := receiveLoop_account hplain horderly
      (hloop N (Nat.le_refl N))
    refine ⟨N, l', fun n hn => ?_, plain_of_extends hextends hplain, horderly', ?_⟩
    · rw [isrCase_data hid]
      exact hloop n hn
    · have hfirst : l.firstPair.1 = some f := by
        rw [firstPair, readData_some (frames_arrive hframes)]
      have hpending := congrArg List.length hextends.pending
      rw [List.map_cons, List.flatMap_cons, hfirst, List.length_append, List.length_append,
        Option.toList_some, List.length_singleton] at hpending
      unfold isrMeasure
      split <;> split <;> omega

/-- With enough fuel the loop of the ISR comes to its end. -/
theorem isrLoop_ends (hplain : l.account.cfg.Plain) (horderly : OrderlyLog l) :
    ∃ N l', ∀ n ≥ N, l.isrLoop n = some l' := by
  induction hm : l.isrMeasure using Nat.strong_induction_on generalizing l with
  | _ m ih =>
    have hplain₁ := plain_of_extends (extends_readIir l) hplain
    by_cases hthere : l.readIir.account.receive.frames = []
    · refine ⟨1, l.readIir.serialProcessLsr.2, fun n hn => ?_⟩
      obtain ⟨n, rfl⟩ := Nat.exists_eq_add_of_le' hn
      rw [isrLoop_succ, if_pos hthere]
    · obtain ⟨M, l₁, hcase, hplain₂, horderly₂, hless⟩ :=
        isrCase_ends hplain₁ (orderly_readIir horderly) hthere
      rw [isrMeasure_readIir, hm] at hless
      obtain ⟨N, l', hloop⟩ := ih _ hless hplain₂ horderly₂ rfl
      refine ⟨M + N + 1, l', fun n hn => ?_⟩
      obtain ⟨n, rfl⟩ := Nat.exists_eq_add_of_le' (Nat.le_trans (Nat.le_add_left 1 (M + N)) hn)
      rw [isrLoop_succ, if_neg hthere, hcase n (by omega), Option.bind_some]
      exact hloop n (by omega)

/-! ## The whole pass -/

theorem serialIsr_eq (n : Nat) (l : PutLog (Receiver U)) :
    l.serialIsr n =
      if l.readIir.account.receive.frames = [] then some l.readIir
      else (l.readIir.isrCase n l.readIir.account.receive.interruptId).bind (isrLoop n) := by
  have hid := pending_interruptId l.readIir.account.receive
  show (if has l.readIir.account.receive.interruptId iirNoInterruptPending then some l.readIir
    else (l.readIir.isrCase n l.readIir.account.receive.interruptId).bind (isrLoop n)) = _
  by_cases hthere : l.readIir.account.receive.frames = []
  · rw [if_pos hthere, interruptId_nil hthere]
    rfl
  · rw [if_neg hthere, hid.mpr hthere]
    rfl

theorem serialIsrLsrs_eq (n : Nat) (l : PutLog (Receiver U)) :
    l.ext.serialIsrLsrs n =
      if l.readIir.account.receive.frames = [] then []
      else l.readIir.ext.isrCaseLsrs n l.readIir.account.receive.interruptId ++
        (l.readIir.isrCase n l.readIir.account.receive.interruptId).elim []
          fun l' => l'.ext.isrLoopLsrs n := by
  have hid := pending_interruptId l.readIir.account.receive
  have hcase := map_isrCase n l.readIir.account.receive.interruptId l.readIir
  show (if has l.readIir.account.receive.interruptId iirNoInterruptPending then []
    else l.readIir.ext.isrCaseLsrs n l.readIir.account.receive.interruptId ++
        (l.readIir.ext.isrCase n l.readIir.account.receive.interruptId).elim []
          (Extension.isrLoopLsrs n)) = _
  rw [← hcase]
  by_cases hthere : l.readIir.account.receive.frames = []
  · rw [if_pos hthere, interruptId_nil hthere]
    rfl
  · rw [if_neg hthere, hid.mpr hthere]
    cases l.readIir.isrCase n l.readIir.account.receive.interruptId <;> rfl

/-- **A pass of the ISR** comes to its end, leaves nothing but what has arrived since it began, and
passes on rightly what it reads just if every call of `SerialProcessLSR` is sound. -/
theorem serialIsr_account (hplain : l.account.cfg.Plain) (horderly : OrderlyLog l) :
    ∃ N, ∀ n ≥ N, ∃ l' pairs, l.serialIsr n = some l' ∧
      Account.Extends l.account l'.account pairs ∧
      l'.account.receive.pending.length ≤ l.account.receive.arrivals.flatten.length ∧
      ((∀ p ∈ pairs, l.account.cfg.Rightly p) ↔
        ∀ x ∈ l.ext.serialIsrLsrs n, l.account.cfg.Sound x.1 x.2.uart.receive) := by
  have hread := extends_readIir l
  have hplain₁ := plain_of_extends hread hplain
  have horderly₁ := orderly_readIir horderly
  by_cases hthere : l.readIir.account.receive.frames = []
  · refine ⟨0, fun n _ => ⟨l.readIir, [], ?_, hread, ?_, ?_⟩⟩
    · rw [serialIsr_eq, if_pos hthere]
    · rw [pending, hthere]
      exact hread.arrivals
    · rw [serialIsrLsrs_eq, if_pos hthere]
      exact iff_of_true (List.forall_mem_nil _) (List.forall_mem_nil _)
  · obtain ⟨M, l₁, hcase, hplain₂, horderly₂, -⟩ := isrCase_ends hplain₁ horderly₁ hthere
    obtain ⟨N, l', hloop⟩ := isrLoop_ends hplain₂ horderly₂
    refine ⟨M + N, fun n hn => ?_⟩
    have hcase := hcase n (by omega)
    have hloop := hloop n (by omega)
    obtain ⟨ps, hcaseExtends, -, hcaseIff⟩ := isrCase_account hplain₁ horderly₁ hthere hcase
    obtain ⟨qs, hloopExtends, hleft, hloopIff⟩ := isrLoop_account hplain₂ horderly₂ hloop
    refine ⟨l', ps ++ qs, ?_, hread.trans (hcaseExtends.trans hloopExtends), ?_, ?_⟩
    · rw [serialIsr_eq, if_neg hthere, hcase]
      exact hloop
    · exact Nat.le_trans hleft (hread.trans hcaseExtends).arrivals
    · rw [hcaseExtends.cfg] at hloopIff
      rw [serialIsrLsrs_eq, if_neg hthere, hcase, List.forall_mem_append, List.forall_mem_append]
      exact and_congr hcaseIff hloopIff

end PutLog

/-! ## Every frame -/

/-- From `a` to `a'` RBR was read once for every frame of `read` and never while the FIFO was
empty; these are the frames that were there and maybe some that arrived, in their order; and
characters that stand for them, one for each, were passed on in that order. -/
def Account.Accounted (a a' : Account) : Prop :=
  ∃ read chars, a'.receive.reads = a.receive.reads ++ read.map some ∧
    a.receive.pending = read ++ a'.receive.pending ∧ a.receive.frames.length ≤ read.length ∧
    a'.put = a.put ++ chars ∧ List.Forall₂ a.cfg.PassesOn read chars

theorem Config.forall_rightly {cfg : Config} {pairs : List (Option ReceivedFrame × UInt8)} :
    (∀ p ∈ pairs, cfg.Rightly p) ↔ ∃ read : List ReceivedFrame,
      pairs.map Prod.fst = read.map some ∧
        List.Forall₂ cfg.PassesOn read (pairs.map Prod.snd) := by
  induction pairs with
  | nil => exact iff_of_true (List.forall_mem_nil _) ⟨[], rfl, .nil⟩
  | cons p pairs ih =>
    rw [List.forall_mem_cons, ih]
    constructor
    · rintro ⟨⟨f, hfirst, hchar⟩, read, hread, hchars⟩
      refine ⟨f :: read, ?_, .cons hchar hchars⟩
      rw [List.map_cons, List.map_cons, hfirst, hread]
    · rintro ⟨_ | ⟨f, read⟩, hread, hchars⟩
      · cases hread
      · obtain ⟨hfirst, hrest⟩ := List.cons.inj hread
        cases hchars with
        | cons hchar hchars => exact ⟨⟨f, hfirst, hchar⟩, read, hrest, hchars⟩

namespace Account

variable {a a' : Account} {pairs : List (Option ReceivedFrame × UInt8)}

theorem Extends.accounted_iff_rightly (h : Extends a a' pairs)
    (hleft : a'.receive.pending.length ≤ a.receive.arrivals.flatten.length) :
    Accounted a a' ↔ ∀ p ∈ pairs, a.cfg.Rightly p := by
  rw [Config.forall_rightly]
  constructor
  · rintro ⟨read, chars, hreads, -, -, hput, hchars⟩
    have hread := List.append_cancel_left (h.reads.symm.trans hreads)
    have hchars' := List.append_cancel_left (h.put.symm.trans hput)
    exact ⟨read, hread, hchars' ▸ hchars⟩
  · rintro ⟨read, hread, hchars⟩
    have hpending : a.receive.pending = read ++ a'.receive.pending := by
      rw [h.pending, hread, List.flatMap_map]
      simp
    refine ⟨read, _, ?_, hpending, ?_, h.put, hchars⟩
    · rw [h.reads, hread]
    · have hlength := congrArg List.length hpending
      rw [ReceiveFifo.pending, List.length_append, List.length_append] at hlength
      omega

end Account

namespace PutLog

/-- The device with these frames in its FIFO, and those that will arrive. -/
def receiving (frames : List ReceivedFrame) (trigger : Nat) (arrivals : List (List ReceivedFrame))
    (e : Extension (Receiver U)) : PutLog (Receiver U) :=
  ⟨{ e with uart := { e.uart with receive := .start frames trigger arrivals } }, []⟩

/-- **Frame accounting.** A pass of the ISR comes to its end, and it accounts for every frame if and
only if every call of `SerialProcessLSR` is sound. -/
theorem accounted_iff (e : Extension (Receiver U)) (hplain : e.cfg.Plain)
    (frames : List ReceivedFrame) (trigger : Nat) (arrivals : List (List ReceivedFrame)) :
    ∃ N, ∀ n ≥ N, ∃ l, (receiving frames trigger arrivals e).serialIsr n = some l ∧
      (Account.Accounted (receiving frames trigger arrivals e).account l.account ↔
        ∀ x ∈ (receiving frames trigger arrivals e).ext.serialIsrLsrs n,
          e.cfg.Sound x.1 x.2.uart.receive) := by
  have horderly : OrderlyLog (receiving frames trigger arrivals e) := nofun
  have hplain : (receiving frames trigger arrivals e).account.cfg.Plain := hplain
  obtain ⟨N, hpass⟩ := serialIsr_account hplain horderly
  refine ⟨N, fun n hn => ?_⟩
  obtain ⟨l, pairs, hrun, hextends, hleft, hiff⟩ := hpass n hn
  exact ⟨l, hrun, (hextends.accounted_iff_rightly hleft).trans hiff⟩

/-- A character, and one that came in with an overrun. -/
def overrunBehind : List ReceivedFrame := [⟨0x41, false, false, false⟩, ⟨0x42, true, false, false⟩]

/-- A port with these frames in its FIFO. -/
def receivingPort (frames : List ReceivedFrame) : PutLog (Receiver Chip) :=
  receiving frames 1 [] (.opened ⟨Chip.idle, .start [] 1 []⟩ .plain 8)

theorem accounted_iff_overrunBehind :
    ∃ N, ∀ n ≥ N, ∃ l, (receivingPort overrunBehind).serialIsr n = some l ∧
      (Account.Accounted (receivingPort overrunBehind).account l.account ↔
        ∀ x ∈ (receivingPort overrunBehind).ext.serialIsrLsrs n,
          (receivingPort overrunBehind).ext.cfg.Sound x.1 x.2.uart.receive) :=
  accounted_iff _ ⟨rfl, rfl, by decide, by decide⟩ overrunBehind 1 []

/-- The overrun is seen behind the first character: `SerialProcessLSR` takes the second one, and the
loop goes on to read an empty FIFO. -/
theorem not_accounted_overrunBehind :
    ∃ l, (receivingPort overrunBehind).serialIsr 8 = some l ∧ l.put.length = 3 ∧
      ¬ Account.Accounted (receivingPort overrunBehind).account l.account := by
  have hrun : ((receivingPort overrunBehind).serialIsr 8).any
      (fun l => l.put.length == 3 && l.account.receive.reads.contains none) = true := by
    decide +kernel
  obtain ⟨l, hl, hboth⟩ := (Option.any_eq_true _ _).mp hrun
  rw [Bool.and_eq_true, beq_iff_eq, List.contains_iff_mem] at hboth
  refine ⟨l, hl, hboth.1, ?_⟩
  rintro ⟨read, -, hreads, -⟩
  rw [hreads] at hboth
  simp [receivingPort, receiving, account, ReceiveFifo.start] at hboth

end PutLog

end SerialFc

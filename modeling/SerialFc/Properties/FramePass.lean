import SerialFc.Properties.FrameAccount

/-!
# What becomes of the frames that the receive loop reads

* `Rightly` — a read of RBR takes a frame, and that frame is passed on as it should be
* `Sound` — what a call of `SerialProcessLSR` may find in the FIFO
* `receiveLoop_account` — the loop passes on rightly what it reads if and only if every call is sound
* `receiveLoop_ends` — the loop comes to its end
-/

namespace SerialFc

open Extension

variable {U : Type} [Uart U]

/-! ## Which frames are passed on as they should be -/

/-- `char` is what should be passed on for `frame`: its data if it has no errors, and else
`ErrorChar` in its place or, without `SERIAL_ERROR_CHAR`, its data. -/
def Config.PassesOn (cfg : Config) (frame : ReceivedFrame) (char : UInt8) : Prop :=
  if frame.flagged then
    if cfg.handFlow.errorChar then char = cfg.specialChars.errorChar
    else char = frame.data ∨ char = frame.data &&& cfg.validDataMask
  else char = frame.data &&& cfg.validDataMask

/-- A read of RBR takes a frame, and that is what is passed on for it. -/
def Config.Rightly (cfg : Config) (p : Option ReceivedFrame × UInt8) : Prop :=
  ∃ frame, p.1 = some frame ∧ cfg.PassesOn frame p.2

/-- `ErrorChar` may stand for the frame. -/
def Config.Replaceable (cfg : Config) (frame : ReceivedFrame) : Prop :=
  frame.flagged = true ∨ frame.data &&& cfg.validDataMask = cfg.specialChars.errorChar

/-- The data of the frame may be passed on. -/
def Config.Readable (cfg : Config) (frame : ReceivedFrame) : Prop :=
  cfg.handFlow.errorChar = true →
    frame.flagged = false ∨ frame.data &&& cfg.validDataMask = cfg.specialChars.errorChar

/-- A call of `SerialProcessLSR`, with `again` from the receive loop. With `SERIAL_ERROR_CHAR` it
reads a frame for every error of the head: all of these must be there and have errors of their own.
If it reads any, the receive loop reads on without a look at LSR: that frame must be there too, and
must have no errors that would have been seen. -/
def Config.Sound (cfg : Config) (again : Bool) (r : ReceiveFifo) : Prop :=
  (cfg.handFlow.errorChar = true →
    ∀ frame ∈ r.readLsr.2.taken (cfg.takes r), ∃ f, frame = some f ∧ cfg.Replaceable f) ∧
  (again = true → cfg.takes r ≠ 0 →
    ∃ f, (r.readLsr.2.after (cfg.takes r)).readData.1 = some f ∧ cfg.Readable f)

/-! ## The calls of `SerialProcessLSR` -/

namespace Extension

/-- The states in which the receive loop calls `SerialProcessLSR`. -/
def receiveLoopLsrs : Nat → Extension U → List (Extension U)
  | 0, _ => []
  | n + 1, e =>
    let removed := e.receiveOne.uartRemoved
    let lsr := removed.2.serialProcessLsr
    if removed.1 then []
    else if !has lsr.1 lsrDr then [removed.2]
    else if lineError lsr.1 && lsr.2.cfg.escapeChar != 0 then [removed.2]
    else removed.2 :: receiveLoopLsrs n lsr.2

/-- The calls of `SerialProcessLSR` for one cause, and whether the receive loop makes them. -/
def isrCaseLsrs (fuel : Nat) (interruptIdReg : UInt8) (e : Extension U) :
    List (Bool × Extension U) :=
  let cause := interruptIdReg &&& iirCauses
  if cause = iirRls then [(false, e)]
  else if cause = iirRda ∨ cause = iirCti then (e.receiveLoopLsrs fuel).map (true, ·)
  else []

def isrLoopLsrs : Nat → Extension U → List (Bool × Extension U)
  | 0, _ => []
  | n + 1, e =>
    let iir := e.readReg .iir
    let lsr := iir.2.serialProcessLsr
    if !has iir.1 iirNoInterruptPending then
      iir.2.isrCaseLsrs n iir.1 ++ (iir.2.isrCase n iir.1).elim [] (isrLoopLsrs n)
    else if lsr.2.mustTransmit lsr.1 then (false, iir.2) :: isrLoopLsrs n lsr.2.transmit
    else [(false, iir.2)]

def serialIsrLsrs (fuel : Nat) (e : Extension U) : List (Bool × Extension U) :=
  let iir := e.readReg .iir
  if has iir.1 iirNoInterruptPending then []
  else iir.2.isrCaseLsrs fuel iir.1 ++ (iir.2.isrCase fuel iir.1).elim [] (isrLoopLsrs fuel)

end Extension

/-! ## One call -/

namespace Config

variable {cfg : Config} {r : ReceiveFifo}

open ReceiveFifo

theorem rightly_data {rbr : UInt8} {frame : Option ReceivedFrame} :
    cfg.Rightly (frame, PutLog.dataChar cfg rbr frame) ↔
      ∃ f, frame = some f ∧ cfg.Readable f := by
  refine exists_congr fun f => and_congr_right fun hsome => ?_
  have hsome : frame = some f := hsome
  rw [hsome]
  show cfg.PassesOn f (f.data &&& cfg.validDataMask) ↔ cfg.Readable f
  unfold PassesOn Readable
  cases f.flagged <;> cases cfg.handFlow.errorChar <;> simp

theorem rightly_errorChar (herror : cfg.handFlow.errorChar = true) {frame : Option ReceivedFrame} :
    cfg.Rightly (frame, cfg.lsrChar frame) ↔ ∃ f, frame = some f ∧ cfg.Replaceable f := by
  refine exists_congr fun f => and_congr_right fun _ => ?_
  rw [lsrChar, if_pos herror]
  unfold PassesOn Replaceable
  rw [herror]
  cases f.flagged with
  | true => simp
  | false => simp [eq_comm]

theorem rightly_overrun (herror : cfg.handFlow.errorChar = false) {f : ReceivedFrame}
    (hflagged : f.flagged = true) : cfg.Rightly (some f, cfg.lsrChar (some f)) := by
  refine ⟨f, rfl, ?_⟩
  unfold PassesOn lsrChar
  rw [hflagged, herror]
  exact .inl rfl

theorem takes_nil (h : r.arrive.frames = []) : cfg.takes r = 0 := by
  rw [takes, h]

theorem takes_cons {f : ReceivedFrame} {frames : List ReceivedFrame}
    (h : r.arrive.frames = f :: frames) : cfg.takes r = cfg.takesFor (r.shown f) := by
  rw [takes, h]

/-- What `SerialProcessLSR` reads is passed on rightly. -/
theorem rightly_lsr :
    (∀ p ∈ (r.readLsr.2.taken (cfg.takes r)).map fun frame => (frame, cfg.lsrChar frame),
      cfg.Rightly p) ↔
    (cfg.handFlow.errorChar = true →
      ∀ frame ∈ r.readLsr.2.taken (cfg.takes r), ∃ f, frame = some f ∧ cfg.Replaceable f) := by
  rw [List.forall_mem_map]
  cases herror : cfg.handFlow.errorChar with
  | true =>
    simp only [forall_const]
    exact forall_congr' fun frame => imp_congr_right fun _ => rightly_errorChar herror
  | false =>
    refine iff_of_true ?_ nofun
    cases hframes : r.arrive.frames with
    | nil =>
      rw [takes_nil hframes]
      exact fun _ h => absurd h List.not_mem_nil
    | cons f frames =>
      rw [takes_cons hframes, takesFor, herror, if_neg Bool.false_ne_true]
      cases hoverrun : (r.shown f).overrun with
      | false => exact fun _ h => absurd h List.not_mem_nil
      | true =>
        intro frame hframe
        have hhead : r.readLsr.2.readData.1 = some f := by
          rw [readData_some (frames_arrive (r := r.readLsr.2) hframes)]
        have hframe : frame = some f := (List.mem_singleton.mp hframe).trans hhead
        rw [hframe]
        refine rightly_overrun herror ?_
        have hunseen : r.shown f = f := by
          unfold shown at hoverrun ⊢
          split
          · next hseen =>
            rw [if_pos hseen] at hoverrun
            cases hoverrun
          · rfl
        rw [hunseen] at hoverrun
        simp [ReceivedFrame.flagged, hoverrun]

/-- With `SERIAL_ERROR_CHAR`, a head for which nothing is read has no errors. -/
theorem unflagged_of_takes {f : ReceivedFrame} {frames : List ReceivedFrame}
    (horderly : Orderly cfg.handFlow.errorChar r) (hframes : r.arrive.frames = f :: frames)
    (htakes : cfg.takes r = 0) (herror : cfg.handFlow.errorChar = true) : f.flagged = false := by
  rw [takes_cons hframes, takesFor, if_pos herror] at htakes
  unfold shown at htakes
  split at htakes
  · next hseen =>
    obtain ⟨g, rest, hrest, hclean⟩ := horderly.arrive (by exact hseen)
    have hsame : f = g := (List.cons.inj (hframes.symm.trans hrest)).1
    rw [hsame]
    exact hclean herror
  · simp only [ReceivedFrame.flagged]
    cases hover : f.overrun <;> cases hparity : f.parity <;> cases hframing : f.framing <;>
      simp_all

theorem orderly_lsr (horderly : Orderly cfg.handFlow.errorChar r) :
    Orderly cfg.handFlow.errorChar (r.readLsr.2.after (cfg.takes r)) := by
  cases hframes : r.arrive.frames with
  | nil =>
    have hseen : r.readLsr.2.seen = false := by
      show (!r.arrive.frames.isEmpty) = false
      rw [hframes]
      rfl
    refine Orderly.after _ fun h => ?_
    rw [hseen] at h
    cases h
  | cons f frames =>
    cases htakes : cfg.takes r with
    | zero => exact fun _ => ⟨f, frames, hframes, unflagged_of_takes horderly hframes htakes⟩
    | succ n =>
      refine Orderly.after n ?_
      rw [readData_some (frames_arrive (r := r.readLsr.2) hframes)]
      nofun

/-- A call from the receive loop is sound if what it reads and what the loop reads next are passed
on rightly. -/
theorem sound_again (rbr : UInt8) (horderly : Orderly cfg.handFlow.errorChar r)
    {f : ReceivedFrame} {frames : List ReceivedFrame} (hframes : r.arrive.frames = f :: frames) :
    cfg.Sound true r ↔
      (∀ p ∈ (r.readLsr.2.taken (cfg.takes r)).map fun frame => (frame, cfg.lsrChar frame),
        cfg.Rightly p) ∧
      cfg.Rightly ((r.readLsr.2.after (cfg.takes r)).readData.1,
        PutLog.dataChar cfg rbr (r.readLsr.2.after (cfg.takes r)).readData.1) := by
  rw [rightly_lsr, rightly_data]
  refine and_congr_right fun _ => ?_
  simp only [forall_const]
  cases htakes : cfg.takes r with
  | zero =>
    refine iff_of_true (fun h => absurd rfl h) ⟨f, ?_, fun herror => .inl ?_⟩
    · show r.readLsr.2.readData.1 = some f
      rw [readData_some (frames_arrive (r := r.readLsr.2) hframes)]
    · exact unflagged_of_takes horderly hframes htakes herror
  | succ n => exact forall_prop_of_true (Nat.succ_ne_zero n)

theorem sound_once : cfg.Sound false r ↔
    ∀ p ∈ (r.readLsr.2.taken (cfg.takes r)).map fun frame => (frame, cfg.lsrChar frame),
      cfg.Rightly p := by
  rw [rightly_lsr]
  exact and_iff_left nofun

/-- The last call of the receive loop reads nothing. -/
theorem sound_last (h : r.arrive.frames = []) : cfg.Sound true r := by
  refine ⟨fun _ => ?_, fun _ htakes => absurd (takes_nil h) htakes⟩
  rw [takes_nil h]
  exact fun _ h => absurd h List.not_mem_nil

end Config

/-! ## The receive loop -/

namespace PutLog

open ReceiveFifo Config

variable {l l' : PutLog (Receiver U)}

/-- What the receive loop reads first, and what it passes on for it. -/
def firstPair (l : PutLog (Receiver U)) : Option ReceivedFrame × UInt8 :=
  (l.account.receive.readData.1,
    dataChar l.account.cfg (Uart.read .data l.ext.uart.chip).1 l.account.receive.readData.1)

/-- What `SerialProcessLSR` reads, and what it passes on for it. -/
def lsrPairs (l : PutLog (Receiver U)) : List (Option ReceivedFrame × UInt8) :=
  (l.account.receive.readLsr.2.taken (l.account.cfg.takes l.account.receive)).map fun frame =>
    (frame, l.account.cfg.lsrChar frame)

abbrev OrderlyLog (l : PutLog (Receiver U)) : Prop :=
  Orderly l.account.cfg.handFlow.errorChar l.account.receive

theorem extends_serialProcessLsr (hplain : l.account.cfg.Plain) :
    Account.Extends l.account l.serialProcessLsr.2.account l.lsrPairs := by
  rw [account_serialProcessLsr hplain]
  exact (Account.extends_readLsr l.account).trans (Account.extends_iterate_take _ _ _)

theorem receive_serialProcessLsr (hplain : l.account.cfg.Plain) :
    l.serialProcessLsr.2.account.receive =
      l.account.receive.readLsr.2.after (l.account.cfg.takes l.account.receive) := by
  rw [account_serialProcessLsr hplain, Account.receive_iterate_take]
  rfl

theorem orderly_serialProcessLsr (hplain : l.account.cfg.Plain) (horderly : OrderlyLog l) :
    OrderlyLog l.serialProcessLsr.2 := by
  unfold OrderlyLog
  rw [(extends_serialProcessLsr hplain).cfg, receive_serialProcessLsr hplain]
  exact orderly_lsr horderly

theorem extends_receiveOne (hplain : l.account.cfg.Plain) :
    Account.Extends l.account l.receiveOne.uartRemoved.2.account [l.firstPair] := by
  have hone : Account.Extends l.account l.receiveOne.account [l.firstPair] := by
    rw [account_receiveOne hplain]
    exact Account.extends_take _ _
  rcases (uartRemoved_eq l.receiveOne).2 with hsame | harrive
  · rw [hsame]
    exact hone
  · rw [harrive]
    exact hone.trans (Account.extends_arrive _)

theorem orderly_receiveOne (hplain : l.account.cfg.Plain) (horderly : OrderlyLog l) :
    OrderlyLog l.receiveOne.uartRemoved.2 := by
  have hone : OrderlyLog l.receiveOne := by
    unfold OrderlyLog
    rw [account_receiveOne hplain]
    exact horderly.readData
  unfold OrderlyLog
  rcases (uartRemoved_eq l.receiveOne).2 with hsame | harrive
  · rw [hsame]
    exact hone
  · rw [harrive]
    exact hone.arrive

/-- DR says whether a frame is there. -/
theorem status_eq (l : PutLog (Receiver U)) :
    l.serialProcessLsr.1 = l.account.receive.arrive.lineStatus := rfl

omit [Uart U] in
theorem plain_of_extends {pairs : List (Option ReceivedFrame × UInt8)}
    (h : Account.Extends l.account l'.account pairs) (hplain : l.account.cfg.Plain) :
    l'.account.cfg.Plain := by
  rw [h.cfg]
  exact hplain

/-- One round of the loop, and where it goes on. -/
theorem receiveLoop_succ (hplain : l.account.cfg.Plain) (n : Nat) :
    l.receiveLoop (n + 1) =
      if has l.receiveOne.uartRemoved.2.serialProcessLsr.1 lsrDr then
        l.receiveOne.uartRemoved.2.serialProcessLsr.2.receiveLoop n
      else some l.receiveOne.uartRemoved.2.serialProcessLsr.2 := by
  have hone := extends_receiveOne hplain
  have hlsr := extends_serialProcessLsr (plain_of_extends hone hplain)
  have hescape : l.receiveOne.uartRemoved.2.serialProcessLsr.2.ext.cfg.escapeChar = 0 :=
    (plain_of_extends (hone.trans hlsr) hplain).escapeChar
  simp only [receiveLoop]
  rw [(uartRemoved_eq l.receiveOne).1, if_neg Bool.false_ne_true, hescape]
  cases has l.receiveOne.uartRemoved.2.serialProcessLsr.1 lsrDr <;> simp

theorem receiveLoopLsrs_succ (hplain : l.account.cfg.Plain) (n : Nat) :
    l.ext.receiveLoopLsrs (n + 1) = l.receiveOne.uartRemoved.2.ext ::
      if has l.receiveOne.uartRemoved.2.serialProcessLsr.1 lsrDr then
        l.receiveOne.uartRemoved.2.serialProcessLsr.2.ext.receiveLoopLsrs n
      else [] := by
  have hone := extends_receiveOne hplain
  have hlsr := extends_serialProcessLsr (plain_of_extends hone hplain)
  have hescape : l.receiveOne.uartRemoved.2.serialProcessLsr.2.ext.cfg.escapeChar = 0 :=
    (plain_of_extends (hone.trans hlsr) hplain).escapeChar
  have hremoved := (uartRemoved_eq l.receiveOne).1
  rw [removed_receiveOne] at hremoved
  simp only [ext_serialProcessLsr, ext_removed, status_serialProcessLsr] at hescape ⊢
  simp only [receiveLoopLsrs]
  rw [hremoved, if_neg Bool.false_ne_true, hescape]
  cases has l.ext.receiveOne.uartRemoved.2.serialProcessLsr.1 lsrDr <;> simp

theorem forall_mem_pairs {cfg : Config} {p : Option ReceivedFrame × UInt8}
    {ps qs : List (Option ReceivedFrame × UInt8)} :
    (∀ q ∈ p :: (ps ++ qs), cfg.Rightly q) ↔
      cfg.Rightly p ∧ (∀ q ∈ ps, cfg.Rightly q) ∧ ∀ q ∈ qs, cfg.Rightly q := by
  rw [List.forall_mem_cons, List.forall_mem_append]

/-- **The receive loop.** Everything it reads is passed on rightly if its first read is and every
call of `SerialProcessLSR` is sound. -/
theorem receiveLoop_account {n : Nat} (hplain : l.account.cfg.Plain) (horderly : OrderlyLog l)
    (hrun : l.receiveLoop n = some l') :
    ∃ pairs, Account.Extends l.account l'.account (l.firstPair :: pairs) ∧ OrderlyLog l' ∧
      ((∀ p ∈ l.firstPair :: pairs, l.account.cfg.Rightly p) ↔ l.account.cfg.Rightly l.firstPair ∧
        ∀ x ∈ l.ext.receiveLoopLsrs n, l.account.cfg.Sound true x.uart.receive) := by
  induction n generalizing l with
  | zero => cases hrun
  -- one character and the LSR that is read after it, together one turn of the loop
  | succ n ih =>
    have hone := extends_receiveOne hplain
    have hplain₁ := plain_of_extends hone hplain
    have horderly₁ := orderly_receiveOne hplain horderly
    have hlsr := extends_serialProcessLsr hplain₁
    have hplain₂ := plain_of_extends hlsr hplain₁
    have horderly₂ := orderly_serialProcessLsr hplain₁ horderly₁
    have hreceive := receive_serialProcessLsr hplain₁
    rw [receiveLoop_succ hplain] at hrun
    rw [receiveLoopLsrs_succ hplain]
    generalize l.receiveOne.uartRemoved.2 = m at *
    rw [status_eq] at hrun ⊢
    cases hframes : m.account.receive.arrive.frames with
    -- no frame is left: the loop ends
    | nil =>
      rw [lineStatus_nil hframes] at hrun ⊢
      rw [if_neg (by decide)] at hrun
      cases hrun
      refine ⟨m.lsrPairs, hone.trans hlsr, horderly₂, ?_⟩
      have hnone : m.lsrPairs = [] := by
        rw [lsrPairs, takes_nil hframes]
        rfl
      have hsound : l.account.cfg.Sound true m.ext.uart.receive := sound_last hframes
      rw [hnone, if_neg (by decide), List.forall_mem_singleton, List.forall_mem_singleton]
      exact (and_iff_left hsound).symm
    -- LSR shows the next frame: the loop goes on with it
    | cons f frames =>
      rw [(shows_lineStatus hframes).data] at hrun ⊢
      rw [if_pos rfl] at hrun ⊢
      obtain ⟨pairs, hextends, horderly', hiff⟩ := ih hplain₂ horderly₂ hrun
      refine ⟨m.lsrPairs ++ (m.serialProcessLsr.2.firstPair :: pairs),
        hone.trans (hlsr.trans hextends), horderly', ?_⟩
      have hfirst : m.serialProcessLsr.2.firstPair =
          ((m.account.receive.readLsr.2.after (m.account.cfg.takes m.account.receive)).readData.1,
            dataChar m.account.cfg (Uart.read .data m.serialProcessLsr.2.ext.uart.chip).1
              (m.account.receive.readLsr.2.after
                (m.account.cfg.takes m.account.receive)).readData.1) := by
        rw [firstPair, hreceive, hlsr.cfg]
      have hagain := sound_again (Uart.read .data m.serialProcessLsr.2.ext.uart.chip).1
        horderly₁ hframes
      rw [← hfirst] at hagain
      rw [hlsr.cfg] at hiff
      rw [forall_mem_pairs, ← hone.cfg, hiff, List.forall_mem_cons]
      refine and_congr_right fun _ => ?_
      rw [← and_assoc]
      exact and_congr_left fun _ => hagain.symm

/-! ## The loop ends -/

theorem length_pending_after {r : ReceiveFifo} {f : ReceivedFrame} {frames : List ReceivedFrame}
    (h : r.arrive.frames = f :: frames) (n : Nat) :
    (r.after (n + 1)).pending.length < r.pending.length := by
  have hread : r.readData.1 = some f := by rw [readData_some h]
  have hfirst := congrArg List.length (pending_readData r)
  have hrest := congrArg List.length (pending_after n r.readData.2)
  rw [hread, List.length_append, Option.toList_some, List.length_singleton] at hfirst
  rw [List.length_append] at hrest
  show (r.readData.2.after n).pending.length < _
  omega

/-- `SerialProcessLSR` reads the head, or leaves it with its flags shown. -/
theorem measure_serialProcessLsr (hplain : l.account.cfg.Plain) {f : ReceivedFrame}
    {frames : List ReceivedFrame} (hframes : l.account.receive.arrive.frames = f :: frames) :
    l.serialProcessLsr.2.account.receive.pending.length < l.account.receive.pending.length ∨
      (l.serialProcessLsr.2.account.receive.pending = l.account.receive.pending ∧
        l.serialProcessLsr.2.account.receive.frames ≠ [] ∧
        l.serialProcessLsr.2.account.receive.seen = true) := by
  rw [receive_serialProcessLsr hplain]
  cases l.account.cfg.takes l.account.receive with
  | zero =>
    refine .inr ⟨pending_arrive _, ?_, ?_⟩
    · show l.account.receive.arrive.frames ≠ []
      rw [hframes]
      nofun
    · show (!l.account.receive.arrive.frames.isEmpty) = true
      rw [hframes]
      rfl
  | succ n =>
    have hshown := frames_arrive (r := l.account.receive.readLsr.2) hframes
    refine .inl (Nat.lt_of_lt_of_eq (length_pending_after hshown n) ?_)
    exact congrArg List.length (pending_arrive _)

theorem length_pending_of_extends {a a' : Account} {pairs : List (Option ReceivedFrame × UInt8)}
    (h : Account.Extends a a' pairs) : a'.receive.pending.length ≤ a.receive.pending.length := by
  rw [h.pending, List.length_append]
  exact Nat.le_add_left _ _

/-- A round of the receive loop on an empty FIFO is followed by one that is not. -/
def loopMeasure (l : PutLog (Receiver U)) : Nat :=
  2 * l.account.receive.pending.length + if l.account.receive.frames = [] then 1 else 0

theorem loopMeasure_lt (hplain : l.account.cfg.Plain)
    (hmore : l.receiveOne.uartRemoved.2.account.receive.arrive.frames ≠ []) :
    l.receiveOne.uartRemoved.2.serialProcessLsr.2.loopMeasure < l.loopMeasure := by
  have hone := extends_receiveOne hplain
  have hplain₁ := plain_of_extends hone hplain
  have hlsr := length_pending_of_extends (extends_serialProcessLsr hplain₁)
  have hpending := congrArg List.length hone.pending
  obtain ⟨f, frames, hframes⟩ := List.exists_cons_of_ne_nil hmore
  have hstep := measure_serialProcessLsr hplain₁ hframes
  rw [List.length_append] at hpending
  unfold loopMeasure
  cases hread : l.account.receive.arrive.frames with
  | nil =>
    rw [if_pos (frames_of_arrive hread)]
    rcases hstep with hless | ⟨hsame, hthere, -⟩
    · split <;> omega
    · rw [if_neg hthere, hsame]
      omega
  | cons g rest =>
    have hfirst : l.firstPair.1 = some g := by
      rw [firstPair, readData_some hread]
    simp only [List.map_singleton, List.flatMap_singleton, hfirst, Option.toList_some,
      List.length_singleton] at hpending
    split <;> split <;> omega

/-- With enough fuel the receive loop comes to its end. -/
theorem receiveLoop_ends (hplain : l.account.cfg.Plain) :
    ∃ N l', ∀ n ≥ N, l.receiveLoop n = some l' := by
  induction hm : l.loopMeasure using Nat.strong_induction_on generalizing l with
  | _ m ih =>
    have hone := extends_receiveOne hplain
    have hplain₁ := plain_of_extends hone hplain
    have hplain₂ := plain_of_extends (extends_serialProcessLsr hplain₁) hplain₁
    by_cases hmore : l.receiveOne.uartRemoved.2.account.receive.arrive.frames = []
    · refine ⟨1, l.receiveOne.uartRemoved.2.serialProcessLsr.2, fun n hn => ?_⟩
      obtain ⟨n, rfl⟩ := Nat.exists_eq_add_of_le' hn
      rw [receiveLoop_succ hplain, status_eq, lineStatus_nil hmore, if_neg (by decide)]
    · obtain ⟨f, frames, hframes⟩ := List.exists_cons_of_ne_nil hmore
      obtain ⟨N, l', hloop⟩ := ih _ (hm ▸ loopMeasure_lt hplain hmore) hplain₂ rfl
      refine ⟨N + 1, l', fun n hn => ?_⟩
      obtain ⟨n, rfl⟩ := Nat.exists_eq_add_of_le' (Nat.le_trans (Nat.le_add_left 1 N) hn)
      rw [receiveLoop_succ hplain, status_eq, (shows_lineStatus hframes).data, if_pos rfl]
      exact hloop n (Nat.le_of_succ_le_succ hn)

end PutLog

end SerialFc

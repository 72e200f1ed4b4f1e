import SerialFc.Model.Isr

/-!
# The interrupt service routine with a record of `SerialPutChar`

The routines of `Isr` that pass characters to `SerialPutChar`, with a list of the characters they
have passed. Everything else they do is taken from there.
-/

namespace SerialFc

variable {U : Type} [Uart U]

/-- The state of the ISR, and the characters that have been passed to `SerialPutChar`. -/
structure PutLog (U : Type) where
  ext : Extension U
  put : List UInt8

namespace PutLog

/-- Something that passes no character. -/
def also (f : Extension U → Extension U) (l : PutLog U) : PutLog U := ⟨f l.ext, l.put⟩

/-- The character is stored, or is not, and is written down in either case. -/
def serialPutChar (c : UInt8) (l : PutLog U) : PutLog U :=
  ⟨l.ext.serialPutChar c, l.put ++ [c]⟩

/-- `READ_RECEIVE_BUFFER`, as in `Isr`: a character that is taken from the chip is not passed on
yet. -/
def readReceiveBuffer (l : PutLog U) : UInt8 × PutLog U :=
  (l.ext.readReceiveBuffer.1, l.also fun e => e.readReceiveBuffer.2)

/-! ## Line status -/

/-- What is in the receive buffer is passed on. -/
def putReceiveBuffer (l : PutLog U) : PutLog U :=
  l.readReceiveBuffer.2.serialPutChar l.readReceiveBuffer.1

def putIfData (lineStatus : UInt8) (l : PutLog U) : PutLog U :=
  if has lineStatus lsrDr then l.putReceiveBuffer else l

/-- With an escape character the line status goes into the data, with the character that has the
error after it. -/
def insertLsr (lineStatus : UInt8) (l : PutLog U) : PutLog U :=
  if l.ext.cfg.escapeChar != 0 then
    l.serialPutChar l.ext.cfg.escapeChar
      |>.serialPutChar (if has lineStatus lsrDr then lsrmstLsrData else lsrmstLsrNodata)
      |>.serialPutChar lineStatus
      |>.putIfData lineStatus
  else l

/-- `ErrorChar` takes the place of the character in the receive buffer, which is thrown away. -/
def replaceByErrorChar (lineStatus : UInt8) (l : PutLog U) : PutLog U :=
  (l.serialPutChar l.ext.cfg.specialChars.errorChar).also (Extension.discardIfData lineStatus)

/-- An overrun comes with a character that is all right, so without `SERIAL_ERROR_CHAR` it is passed
on. -/
def lsrOverrun (lineStatus : UInt8) (l : PutLog U) : PutLog U :=
  if has lineStatus lsrOe then
    if l.ext.handFlow.errorChar then
      (l.also Extension.countOverrunError).replaceByErrorChar lineStatus
    else (l.also Extension.countOverrunError).putIfData lineStatus
  else l

def replaceIfErrorChar (lineStatus : UInt8) (l : PutLog U) : PutLog U :=
  if l.ext.handFlow.errorChar then l.replaceByErrorChar lineStatus else l

/-- A parity error: of the character itself nothing is passed on. -/
def lsrParity (lineStatus : UInt8) (l : PutLog U) : PutLog U :=
  if has lineStatus lsrPe then
    (l.also Extension.countParityError).replaceIfErrorChar lineStatus
  else l

/-- A framing error, as the one of parity. -/
def lsrFraming (lineStatus : UInt8) (l : PutLog U) : PutLog U :=
  if has lineStatus lsrFe then
    (l.also Extension.countFrameError).replaceIfErrorChar lineStatus
  else l

/-- A break is passed on as `BreakChar` if that is asked for. -/
def putBreakChar (l : PutLog U) : PutLog U :=
  if l.ext.handFlow.breakChar then l.serialPutChar l.ext.cfg.specialChars.breakChar else l

def lsrBreakOrError (lineStatus : UInt8) (l : PutLog U) : PutLog U :=
  if has lineStatus lsrBi then (l.also (Extension.addError 0x01)).putBreakChar
  else (l.lsrParity lineStatus).lsrFraming lineStatus

/-- What `SerialProcessLSR` does about a status with an error, in the order of the source. -/
def lsrErrors (lineStatus : UInt8) (l : PutLog U) : PutLog U :=
  l.insertLsr lineStatus
    |>.lsrOverrun lineStatus
    |>.lsrBreakOrError lineStatus
    |>.also Extension.abortOnError
    |>.also (Extension.lsrEvents lineStatus)
    |>.also (Extension.lsrRestart lineStatus)

def processLineStatus (lineStatus : UInt8) (l : PutLog U) : PutLog U :=
  if Extension.lineError lineStatus then
    (l.also (Extension.setHoldingEmpty (has lineStatus lsrThre))).lsrErrors lineStatus
  else l.also (Extension.setHoldingEmpty (has lineStatus lsrThre))

/-- `SerialProcessLSR`. The line status is what it returns. -/
def serialProcessLsr (l : PutLog U) : UInt8 × PutLog U :=
  ((l.ext.readReg .lsr).1,
    (l.also fun e => (e.readReg .lsr).2).processLineStatus (l.ext.readReg .lsr).1)

/-! ## Reception -/

/-- In nine-bit mode the ninth bit follows its character. -/
def putNinthBit (ninthBit : UInt8) (l : PutLog U) : PutLog U :=
  if l.ext.cfg.nineBit then l.serialPutChar ninthBit else l

/-- A received character that is the escape character is passed on with a mark after it. -/
def putEscaped (c : UInt8) (l : PutLog U) : PutLog U :=
  if l.ext.cfg.escapeChar != 0 && l.ext.cfg.escapeChar == c then l.serialPutChar lsrmstEscape
  else l

/-- The cases of the receive loop: a null that is stripped, XON and XOFF, and a character that goes
to the reader. -/
def receiveChar (c ninthBit : UInt8) (l : PutLog U) : PutLog U :=
  if c = 0 && l.ext.handFlow.nullStripping then l
  else if l.ext.handFlow.autoTransmit &&
      (c = l.ext.cfg.specialChars.xonChar || c = l.ext.cfg.specialChars.xoffChar) then
    l.also (Extension.receiveFlowChar c)
  else (l.also (Extension.receiveEvents c)).serialPutChar c |>.putNinthBit ninthBit |>.putEscaped c

/-- One round of the receive loop, up to the line status. -/
def receiveOne (l : PutLog U) : PutLog U :=
  let ninthBit := l.ext.readNinthBit
  let received := (l.also fun e => e.readNinthBit.2).readReceiveBuffer
  received.2.receiveChar (received.1 &&& l.ext.cfg.validDataMask) ninthBit.1

def uartRemoved (l : PutLog U) : Bool × PutLog U :=
  (l.ext.uartRemoved.1, l.also fun e => e.uartRemoved.2)

/-- The receive loop. It goes on while the line status shows another character, unless that has an
error and characters are escaped. -/
def receiveLoop : Nat → PutLog U → Option (PutLog U)
  | 0, _ => none
  | n + 1, l =>
    let removed := l.receiveOne.uartRemoved
    let lsr := removed.2.serialProcessLsr
    if removed.1 then some removed.2
    else if !has lsr.1 lsrDr then some lsr.2
    else if Extension.lineError lsr.1 && lsr.2.ext.cfg.escapeChar != 0 then some lsr.2
    else receiveLoop n lsr.2

/-! ## The routine -/

/-- The `switch` of the ISR. -/
def isrCase (fuel : Nat) (interruptIdReg : UInt8) (l : PutLog U) : Option (PutLog U) :=
  let cause := interruptIdReg &&& iirCauses
  if cause = iirRls then some l.serialProcessLsr.2
  else if cause = iirRda ∨ cause = iirCti then l.receiveLoop fuel
  else if cause = iirThr then some (l.also Extension.transmit)
  else if cause = iirMs then some (l.also fun e => (e.serialHandleModemUpdate false).2)
  else some l

def isrLoop : Nat → PutLog U → Option (PutLog U)
  | 0, _ => none
  | n + 1, l =>
    let iir := (l.ext.readReg .iir).1
    let read := l.also fun e => (e.readReg .iir).2
    let lsr := read.serialProcessLsr
    if !has iir iirNoInterruptPending then (read.isrCase n iir).bind (isrLoop n)
    else if lsr.2.ext.mustTransmit lsr.1 then isrLoop n (lsr.2.also Extension.transmit)
    else some lsr.2

/-- `SerialISR`. -/
def serialIsr (fuel : Nat) (l : PutLog U) : Option (PutLog U) :=
  let iir := (l.ext.readReg .iir).1
  let read := l.also fun e => (e.readReg .iir).2
  if has iir iirNoInterruptPending then some read
  else (read.isrCase fuel iir).bind (isrLoop fuel)

/-! ## It is the same routine -/

section

omit [Uart U]

@[simp] theorem ext_also (f : Extension U → Extension U) (l : PutLog U) :
    (l.also f).ext = f l.ext := rfl

@[simp] theorem put_also (f : Extension U → Extension U) (l : PutLog U) :
    (l.also f).put = l.put := rfl

/-- Both routines take the same branch. -/
theorem ext_ite {p : Prop} [Decidable p] {a b : PutLog U} {x y : Extension U} (ha : a.ext = x)
    (hb : b.ext = y) : (if p then a else b).ext = if p then x else y := by
  split
  · exact ha
  · exact hb

end

section

variable (l : PutLog U)

@[simp] theorem ext_serialPutChar (c : UInt8) :
    (l.serialPutChar c).ext = l.ext.serialPutChar c := rfl

@[simp] theorem put_serialPutChar (c : UInt8) : (l.serialPutChar c).put = l.put ++ [c] := rfl

theorem ext_putIfData (s : UInt8) : (l.putIfData s).ext = l.ext.putIfData s := ext_ite rfl rfl

theorem ext_insertLsr (s : UInt8) : (l.insertLsr s).ext = l.ext.insertLsr s :=
  ext_ite (ext_putIfData _ s) rfl

theorem ext_lsrOverrun (s : UInt8) : (l.lsrOverrun s).ext = l.ext.lsrOverrun s :=
  ext_ite (ext_ite rfl (ext_putIfData _ s)) rfl

theorem ext_replaceIfErrorChar (s : UInt8) :
    (l.replaceIfErrorChar s).ext = l.ext.replaceIfErrorChar s := ext_ite rfl rfl

theorem ext_lsrParity (s : UInt8) : (l.lsrParity s).ext = l.ext.lsrParity s :=
  ext_ite (ext_replaceIfErrorChar _ s) rfl

theorem ext_lsrFraming (s : UInt8) : (l.lsrFraming s).ext = l.ext.lsrFraming s :=
  ext_ite (ext_replaceIfErrorChar _ s) rfl

theorem ext_lsrBreakOrError (s : UInt8) :
    (l.lsrBreakOrError s).ext = l.ext.lsrBreakOrError s := by
  refine ext_ite (ext_ite rfl rfl) ?_
  rw [ext_lsrFraming, ext_lsrParity]

theorem ext_processLineStatus (s : UInt8) :
    (l.processLineStatus s).ext = l.ext.processLineStatus s := by
  refine ext_ite ?_ rfl
  simp only [lsrErrors, Extension.lsrErrors, ext_also]
  rw [ext_lsrBreakOrError, ext_lsrOverrun, ext_insertLsr, ext_also]

/-- With the record left out this is `SerialProcessLSR` of `Isr`. -/
theorem ext_serialProcessLsr : l.serialProcessLsr.2.ext = l.ext.serialProcessLsr.2 :=
  ext_processLineStatus _ _

theorem ext_putNinthBit (b : UInt8) : (l.putNinthBit b).ext = l.ext.putNinthBit b :=
  ext_ite rfl rfl

theorem ext_putEscaped (c : UInt8) : (l.putEscaped c).ext = l.ext.putEscaped c := ext_ite rfl rfl

theorem ext_receiveChar (c b : UInt8) : (l.receiveChar c b).ext = l.ext.receiveChar c b := by
  refine ext_ite rfl (ext_ite rfl ?_)
  rw [ext_putEscaped, ext_putNinthBit]
  rfl

/-- With the record left out this is the round of `Isr`. -/
theorem ext_receiveOne : l.receiveOne.ext = l.ext.receiveOne := ext_receiveChar _ _ _

/-- The record has no influence on the line status, -/
theorem status_serialProcessLsr : l.serialProcessLsr.1 = l.ext.serialProcessLsr.1 := rfl

/-- nor on whether the card is found to be gone. -/
theorem removed_receiveOne : l.receiveOne.uartRemoved.1 = l.ext.receiveOne.uartRemoved.1 := by
  rw [← ext_receiveOne]
  rfl

theorem ext_removed : l.receiveOne.uartRemoved.2.ext = l.ext.receiveOne.uartRemoved.2 := by
  rw [← ext_receiveOne]
  rfl

end

/-- With the record left out this is `receiveLoop` of `Isr`. -/
theorem map_receiveLoop (n : Nat) (l : PutLog U) :
    (l.receiveLoop n).map ext = l.ext.receiveLoop n := by
  induction n generalizing l with
  | zero => rfl
  | succ n ih =>
    simp only [receiveLoop, Extension.receiveLoop, apply_ite (Option.map ext), Option.map_some,
      removed_receiveOne, status_serialProcessLsr, ext_serialProcessLsr, ext_removed, ih]

theorem map_isrCase (n : Nat) (iir : UInt8) (l : PutLog U) :
    (l.isrCase n iir).map ext = l.ext.isrCase n iir := by
  simp only [isrCase, Extension.isrCase, apply_ite (Option.map ext), Option.map_some, ext_also,
    ext_serialProcessLsr, map_receiveLoop]

/-- The loop of the ISR: a case and what follows it, or a transmission without an interrupt. -/
theorem map_isrLoop (n : Nat) (l : PutLog U) : (l.isrLoop n).map ext = l.ext.isrLoop n := by
  induction n generalizing l with
  | zero => rfl
  | succ n ih =>
    let read : PutLog U := l.also fun e => (e.readReg .iir).2
    have hcase := map_isrCase n (l.ext.readReg .iir).1 read
    have hlsr := ext_serialProcessLsr read
    have hloop : ((read.isrCase n (l.ext.readReg .iir).1).bind (isrLoop n)).map ext =
        (read.ext.isrCase n (l.ext.readReg .iir).1).bind (Extension.isrLoop n) := by
      rw [← hcase]
      cases read.isrCase n (l.ext.readReg .iir).1 with
      | none => rfl
      | some l' => exact ih l'
    have hsend : (isrLoop n (read.serialProcessLsr.2.also Extension.transmit)).map ext =
        Extension.isrLoop n read.ext.serialProcessLsr.2.transmit := by
      rw [ih, ext_also, hlsr]
    simp only [isrLoop, Extension.isrLoop, apply_ite (Option.map ext), Option.map_some]
    rw [hloop, hsend, hlsr]
    rfl

/-- With the record left out this is `SerialISR`. -/
theorem map_serialIsr (n : Nat) (l : PutLog U) :
    (l.serialIsr n).map ext = l.ext.serialIsr n := by
  let read : PutLog U := l.also fun e => (e.readReg .iir).2
  have hloop : ((read.isrCase n (l.ext.readReg .iir).1).bind (isrLoop n)).map ext =
      (read.ext.isrCase n (l.ext.readReg .iir).1).bind (Extension.isrLoop n) := by
    rw [← map_isrCase]
    cases read.isrCase n (l.ext.readReg .iir).1 with
    | none => rfl
    | some l' => exact map_isrLoop n l'
  simp only [serialIsr, Extension.serialIsr, apply_ite (Option.map ext), Option.map_some]
  rw [hloop]
  rfl

end PutLog

end SerialFc

import SerialFc.Model.Completion

/-!
# Reads

`read.c`. `SerialStartRead` copies out of the interrupt buffer without the interrupt lock, so it is
cut into the pieces between which the ISR can run: `serialStartReadStep` runs the piece `pc`
stands at. `SerialResizeBuffer`, which it runs for a request to resize the interrupt buffer, is
cut in the same way. Everything else here is one piece.
-/

namespace SerialFc

open Lib

variable {U : Type} [Uart U]

/-- `RtlMoveMemory` of `bytes` to offset `at` of `buffer`. -/
def rtlMoveMemory (buffer : List UInt8) (offset : Nat) (bytes : List UInt8) : List UInt8 :=
  buffer.take offset ++ bytes ++ buffer.drop (offset + bytes.length)

/-- The decisions `SerialStartRead` takes from the timeouts. -/
def readStart (t : Timeouts) : ReadStart :=
  let useIntervalTimer := t.readIntervalTimeout != 0 && t.readIntervalTimeout != maxUlong
  if t.readIntervalTimeout = maxUlong then
    if t.readTotalTimeoutConstant = 0 ∧ t.readTotalTimeoutMultiplier = 0 then
      ⟨true, false, false, false, useIntervalTimer⟩
    else if t.readTotalTimeoutConstant ≠ maxUlong ∧ t.readTotalTimeoutMultiplier ≠ maxUlong then
      ⟨false, true, false, true, useIntervalTimer⟩
    else if t.readTotalTimeoutConstant ≠ maxUlong ∧ t.readTotalTimeoutMultiplier = maxUlong then
      ⟨false, true, true, true, useIntervalTimer⟩
    else ⟨false, false, false, false, useIntervalTimer⟩
  else
    ⟨false, false, false,
      t.readTotalTimeoutMultiplier != 0 || t.readTotalTimeoutConstant != 0, useIntervalTimer⟩

namespace Extension

def goto (pc : ReadPc) (e : Extension U) : Extension U := { e with pc := pc }

/-! ## `SerialGetCharsFromIntBuffer` -/

def numberOfCharsToGet (e : Extension U) : Nat :=
  min e.rx.charsInInterruptBuffer e.rx.numberNeededForRead

/-- The bytes of the interrupt buffer from `offset` on. -/
def ringFrom (offset number : Nat) (e : Extension U) : List UInt8 :=
  (e.rx.interruptReadBuffer.drop offset).take number

/-- Copies from the interrupt buffer behind what the current read has got already. -/
def copyToUser (offset number : Nat) (e : Extension U) : Extension U :=
  { e with rx := { e.rx with numberNeededForRead := e.rx.numberNeededForRead - number }
  }.modifyCurrent .read fun r => { r with
    systemBuffer := rtlMoveMemory r.systemBuffer (r.length - e.rx.numberNeededForRead)
      (e.ringFrom offset number) }

def firstTryNumberToGet (e : Extension U) : Nat :=
  e.rx.lastCharSlot - e.rx.firstReadableChar + 1

def addInformation (number : Nat) (e : Extension U) : Extension U :=
  e.modifyCurrent .read fun r => { r with information := r.information + number }

def setFirstReadable (offset : Nat) (e : Extension U) : Extension U :=
  { e with rx := { e.rx with firstReadableChar := offset } }

/-- `FirstReadableChar` after `number` characters that do not wrap around. -/
def nextReadable (number : Nat) (e : Extension U) : Nat :=
  if e.rx.firstReadableChar + (number - 1) = e.rx.lastCharSlot then 0
  else e.rx.firstReadableChar + number

/-- The copy up to the end of the interrupt buffer, when it suffices. -/
def copyWhole (number : Nat) (e : Extension U) : Extension U :=
  (e.copyToUser e.rx.firstReadableChar number).setFirstReadable (e.nextReadable number)
    |>.addInformation number

/-- The first copy, when it does not suffice. -/
def copyFirst (e : Extension U) : Extension U :=
  e.copyToUser e.rx.firstReadableChar e.firstTryNumberToGet

/-- The second copy, from the start of the interrupt buffer. -/
def copyRest (number firstTry : Nat) (e : Extension U) : Extension U :=
  (e.copyToUser 0 (number - firstTry)).setFirstReadable (number - firstTry)
    |>.addInformation number

/-- `SerialGetCharsFromIntBuffer`, in one piece, for `number` characters. -/
def getChars (number : Nat) (e : Extension U) : Extension U :=
  if number = 0 then e
  else if e.firstTryNumberToGet > number then e.copyWhole number
  else e.copyFirst.copyRest number e.firstTryNumberToGet

/-! ## With the interrupt lock held -/

def removeChars (number : Nat) (e : Extension U) : Extension U :=
  { e with rx := { e.rx with
    charsInInterruptBuffer := e.rx.charsInInterruptBuffer - number } }

/-- `SerialUpdateInterruptBuffer`. -/
def serialUpdateInterruptBuffer (charsCopied : Nat) (e : Extension U) : Extension U :=
  (e.removeChars charsCopied).serialHandleReducedIntBuffer

/-- `SerialGetCharsFromIntBuffer` and `SerialUpdateInterruptBuffer`, once more. -/
def getCharsAgain (e : Extension U) : Extension U :=
  (e.getChars e.numberOfCharsToGet).serialUpdateInterruptBuffer e.numberOfCharsToGet

/-- Points the ISR at the reader's buffer. -/
def switchToUser (e : Extension U) : Extension U :=
  match e.current .read with
  | none => e.crash
  | some r =>
    { e with rx := { e.rx with
      countOnLastRead := r.information
      readByIsr := 0
      readBufferBase := .user
      currentCharSlot := r.information
      lastCharSlot := r.length - 1 } }.modifyCurrent .read (·.putReference true .isr)

/-- `SerialGrabReadFromIsr`. -/
def serialGrabReadFromIsr (e : Extension U) : Extension U :=
  if e.rx.readBufferBase = .user then
    (e.modifyCurrent .read fun r =>
        { r with information := r.length - (e.rx.lastCharSlot - e.rx.currentCharSlot + 1) })
      |>.resetRing
      |>.clearReference .read .isr
  else e

/-- What is in the interrupt buffer is thrown away. -/
def clearRing (e : Extension U) : Extension U :=
  { e.resetRing with stream := e.stream ++ [Fifo.Op.clear e.rx.charsInInterruptBuffer] }

/-- `SerialPurgeInterruptBuff`. -/
def serialPurgeInterruptBuff (e : Extension U) : Extension U :=
  if e.rx.readBufferBase = .ring then e.clearRing.serialHandleReducedIntBuffer else e

/-! ## Resizing the interrupt buffer -/

/-- The second copy of `SerialMoveToNewIntBuffer`, behind `offset` and the first copy. -/
def moveRest (number firstTry offset : Nat) (newBuffer : List UInt8) (e : Extension U) :
    List UInt8 :=
  rtlMoveMemory newBuffer (offset + firstTry) (e.ringFrom 0 (number - firstTry))

/-- What `SerialMoveToNewIntBuffer` puts at `offset` of `newBuffer`, in one piece. -/
def moveToNew (number offset : Nat) (newBuffer : List UInt8) (e : Extension U) : List UInt8 :=
  if number = 0 then newBuffer
  else if e.firstTryNumberToGet ≥ number then
    rtlMoveMemory newBuffer offset (e.ringFrom e.rx.firstReadableChar number)
  else
    e.moveRest number e.firstTryNumberToGet offset
      (rtlMoveMemory newBuffer offset (e.ringFrom e.rx.firstReadableChar e.firstTryNumberToGet))

/-- The new interrupt buffer takes over, with the characters still unread at its start. -/
def installBuffer (newBuffer : List UInt8) (e : Extension U) : Extension U :=
  { e with
    rx := { e.rx with
      interruptReadBuffer := newBuffer
      lastCharSlot := newBuffer.length - 1
      firstReadableChar := 0
      readBufferBase := .ring
      bufferSize := newBuffer.length
      currentCharSlot := e.rx.charsInInterruptBuffer
      bufferSizePt8 := 3 * (newBuffer.length / 4) + newBuffer.length / 16 } }

/-- `SerialUpdateAndSwitchToNew`. The characters that came in after the first copy are moved here,
with `CharsInInterruptBuffer` cut down to their number for the time being. -/
def serialUpdateAndSwitchToNew (numberMoved : Nat) (newBuffer : List UInt8) (e : Extension U) :
    Extension U :=
  (e.installBuffer
      (e.moveToNew (e.rx.charsInInterruptBuffer - numberMoved) numberMoved newBuffer)).putHandFlow
    { e.handFlow with xoffLimit := newBuffer.length / 8, xonLimit := newBuffer.length / 2 }
    |>.serialHandleReducedIntBuffer

/-! ## Starting reads -/

/-- Once more around the loop of `SerialStartRead` if `SerialGetNextRequest` found a request. -/
def loopRead (e : Extension U) : Extension U :=
  e.goto (if (e.current .read).isSome then .start else .idle)

def nextRead (e : Extension U) : Extension U :=
  (e.serialGetNextRequest .read .readQueue true).loopRead

def succeedRead (e : Extension U) : Extension U :=
  (e.modifyCurrent .read fun r => { r with status := .success }).nextRead

/-- `SerialResizeBuffer` up to the first look at the interrupt buffer. -/
def beginResize (inSize : Nat) (e : Extension U) : Extension U :=
  if inSize ≤ e.rx.bufferSize then e.nextRead else e.goto (.move e.rx.charsInInterruptBuffer)

def setNeeded (length : Nat) (e : Extension U) : Extension U :=
  { e with rx := { e.rx with numberNeededForRead := length } }

def setIntervalTime (e : Extension U) : Extension U :=
  if (readStart e.cfg.timeouts).useIntervalTimer then
    { e with rx := { e.rx with
      intervalTime := e.cfg.timeouts.readIntervalTimeout.toNat * 10000 } }
  else e

/-- From the top of the loop to the first look at the interrupt buffer. -/
def beginRead (r : Request) (e : Extension U) : Extension U :=
  match r.body with
  | .setQueueSize inSize =>
    (e.modifyCurrent .read fun r => { r with information := 0, status := .success })
      |>.beginResize inSize
  | _ =>
    ((e.setNeeded r.length).serialCancelTimer .readRequestTotal).2.serialCancelTimer
        .readRequestInterval |>.2
      |>.setIntervalTime
      |>.goto (.sample (readStart e.cfg.timeouts))

/-- `SERIAL_INIT_REFERENCE` and, if asked, the read is cut down to one character. -/
def initRead (l : ReadStart) (e : Extension U) : Extension U :=
  if l.crunchDownToOne then
    (e.setNeeded 1).modifyCurrent .read fun r => { r with refCount := .zero, length := 1 }
  else e.modifyCurrent .read fun r => { r with refCount := .zero }

/-- The end of `SerialUpdateAndSwitchToUser`: the read is satisfied, or the ISR fills it. -/
def succeedOrSwitch (l : ReadStart) (e : Extension U) : Extension U :=
  if e.rx.numberNeededForRead = 0 then e.succeedRead else e.switchToUser.goto (.arm l)

/-- The copy without the lock is done. -/
def finishCopy (l : ReadStart) (charsCopied : Nat) (r : Request) (e : Extension U) :
    Extension U :=
  if l.returnWithWhatsPresent || e.rx.numberNeededForRead == 0
      || (l.os2ssreturn && r.information != 0) then
    (e.serialUpdateInterruptBuffer charsCopied).succeedRead
  else
    ((e.initRead l).serialUpdateInterruptBuffer charsCopied).getCharsAgain.succeedOrSwitch l

def setLastReadTime (e : Extension U) : Extension U :=
  { e with rx := { e.rx with lastReadTime := e.clock } }

def armTotalTimer (l : ReadStart) (e : Extension U) : Extension U :=
  if l.useTotalTimer then e.setTimerWithReference .read .readRequestTotal .totalTimer else e

def armIntervalTimer (l : ReadStart) (e : Extension U) : Extension U :=
  if l.useIntervalTimer then
    e.setLastReadTime.setTimerWithReference .read .readRequestInterval .intTimer
  else e

/-- The cancel routine and the timers of a read that waits for characters. -/
def armRead (l : ReadStart) (e : Extension U) : Extension U :=
  (e.modifyCurrent .read (·.serialSetCancelRoutine)).armTotalTimer l
    |>.armIntervalTimer l
    |>.goto .idle

/-- The buffer allocated for a request to resize. -/
def newBuffer (r : Request) : List UInt8 :=
  match r.body with
  | .setQueueSize inSize => List.replicate inSize 0
  | _ => []

/-- Runs the piece of `SerialStartRead` that `pc` stands at. -/
def serialStartReadStep (e : Extension U) : Extension U :=
  match e.current .read, e.pc with
  | _, .idle => e
  | none, _ => e.crash
  | some r, .start => e.beginRead r
  | some _, .sample l => e.goto (.copy l e.numberOfCharsToGet)
  | some _, .copy l number =>
    if number = 0 then e.goto (.copied l 0)
    else if e.firstTryNumberToGet > number then (e.copyWhole number).goto (.copied l number)
    else e.copyFirst.goto (.copyRest l number e.firstTryNumberToGet)
  | some _, .copyRest l number firstTry => (e.copyRest number firstTry).goto (.copied l number)
  | some r, .copied l charsCopied => e.finishCopy l charsCopied r
  | some _, .arm l => e.armRead l
  | some r, .move number =>
    if number = 0 then e.goto (.moved 0 (newBuffer r))
    else if e.firstTryNumberToGet ≥ number then
      (e.setFirstReadable (e.nextReadable number)).goto
        (.moved number (e.moveToNew number 0 (newBuffer r)))
    else
      e.goto (.moveRest number e.firstTryNumberToGet (rtlMoveMemory (newBuffer r) 0
        (e.ringFrom e.rx.firstReadableChar e.firstTryNumberToGet)))
  | some _, .moveRest number firstTry buffer =>
    (e.setFirstReadable (number - firstTry)).goto
      (.moved number (e.moveRest number firstTry 0 buffer))
  | some _, .moved number buffer => (e.serialUpdateAndSwitchToNew number buffer).nextRead

/-- `SerialStartRead`: the loop begins; its pieces follow one by one. -/
def serialStartRead (e : Extension U) : Extension U := e.goto .start

/-! ## Ending reads -/

/-- `SerialTryToCompleteCurrent` as every read routine calls it. -/
def tryToCompleteRead (synchRoutine : Extension U → Extension U)
    (statusToUse : NtStatus) (refType : Ref) (e : Extension U) : Extension U :=
  e.serialTryToCompleteCurrent synchRoutine statusToUse .read (some .readRequestInterval)
    (some .readRequestTotal)
    (fun e => (e.serialGetNextRequest .read .readQueue true).startNew .read serialStartRead)
    refType

def setCountOnLastRead (n : Int) (e : Extension U) : Extension U :=
  { e with rx := { e.rx with countOnLastRead := n } }

/-- `SERIAL_COMPLETE_READ_CANCEL`. -/
def completeReadCancel : Int := -1

/-- `SERIAL_COMPLETE_READ_TOTAL`. -/
def completeReadTotal : Int := -2

/-- `SERIAL_COMPLETE_READ_COMPLETE`. -/
def completeReadComplete : Int := -3

/-- `SerialCompleteRead`. -/
def serialCompleteRead (e : Extension U) : Extension U :=
  (e.setCountOnLastRead completeReadComplete).tryToCompleteRead id .success .isr

/-- `SerialCancelCurrentRead`. -/
def serialCancelCurrentRead (e : Extension U) : Extension U :=
  (e.setCountOnLastRead completeReadCancel).tryToCompleteRead serialGrabReadFromIsr
    .cancelled .cancel

/-- `SerialReadTimeout`. -/
def serialReadTimeout (e : Extension U) : Extension U :=
  (e.setCountOnLastRead completeReadTotal).tryToCompleteRead serialGrabReadFromIsr
    .timeout .totalTimer

/-- `SerialUpdateReadByIsr`. -/
def serialUpdateReadByIsr (e : Extension U) : Extension U :=
  { e with rx := { e.rx with countOnLastRead := e.rx.readByIsr, readByIsr := 0 } }

def rearmIntervalTimer (e : Extension U) : Extension U :=
  (e.serialSetTimer .readRequestInterval).2

/-- `SerialIntervalReadTimeout`. -/
def serialIntervalReadTimeout (e : Extension U) : Extension U :=
  if e.rx.countOnLastRead = completeReadTotal then
    e.tryToCompleteRead serialGrabReadFromIsr .timeout .intTimer
  else if e.rx.countOnLastRead = completeReadComplete then
    e.tryToCompleteRead serialGrabReadFromIsr .success .intTimer
  else if e.rx.countOnLastRead = completeReadCancel then
    e.tryToCompleteRead serialGrabReadFromIsr .cancelled .intTimer
  else if e.rx.countOnLastRead ≠ 0 ∨ e.rx.readByIsr ≠ 0 then
    if e.rx.readByIsr ≠ 0 then e.serialUpdateReadByIsr.setLastReadTime.rearmIntervalTimer
    else if e.clock - e.rx.lastReadTime ≥ e.rx.intervalTime then
      e.tryToCompleteRead serialGrabReadFromIsr .timeout .intTimer
    else e.rearmIntervalTimer
  else e.rearmIntervalTimer

end Extension

end SerialFc

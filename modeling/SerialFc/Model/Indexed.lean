import SerialFc.Model.Isr

/-!
# The indexed registers of an FSCC port

A 16C950 keeps registers behind two of its addresses: SPR holds an index, and ICR, at the address of
LSR, is the register of that index. What is written to ICR goes there at any time; what is read
comes from there only while bit 6 of ACR, the register of index 0, is set. Bit 7 of ACR shows the
level of the transmit FIFO at the address of MCR.

The routines below are the FSCC ones of `utils.c`. They run without the interrupt lock, so that the
ISR may come in between any two of their accesses, and the ISR uses the same registers to send data.
-/

namespace SerialFc

/-! ## The chip -/

/-- While LCR is `0xbf` the addresses of SPR and ICR belong to registers that the driver does not
use. -/
structure Indexed where
  lcr : UInt8
  spr : UInt8
  icr : UInt8 → UInt8
  mcr : UInt8
  lsr : UInt8
  level : UInt8

def acrOffset : UInt8 := 0x00
def tcrOffset : UInt8 := 0x02
def cksOffset : UInt8 := 0x03
def ttlOffset : UInt8 := 0x04
def rtlOffset : UInt8 := 0x05
def nmrOffset : UInt8 := 0x0d
def mdmOffset : UInt8 := 0x0e
def extOffset : UInt8 := 0x16
def exthOffset : UInt8 := 0x17
def flrOffset : UInt8 := 0x20

namespace Indexed

def read (r : Reg) (u : Indexed) : UInt8 :=
  match r with
  | .lcr => u.lcr
  | .spr => u.spr
  | .mcr => if has (u.icr acrOffset) 0x80 then u.level else u.mcr
  | .lsr => if has (u.icr acrOffset) 0x40 then u.icr u.spr else u.lsr
  | _ => 0

def write (r : Reg) (v : UInt8) (u : Indexed) : Indexed :=
  match r with
  | .lcr => { u with lcr := v }
  | .mcr => { u with mcr := v }
  | .spr => if u.lcr = 0xbf then u else { u with spr := v }
  | .lsr => if u.lcr = 0xbf then u else { u with icr := Function.update u.icr u.spr v }
  | _ => u

end Indexed

instance : Uart Indexed where
  Input := Empty
  evolve x _ := x.elim
  read r u := (u.read r, u)
  write r v u := u.write r v
  modemChanges _ := 0
  modemChanges_read_msr _ h := absurd (show has 0 msrDelta = true from h) (by decide)
  modemChanges_read _ _ := Nat.le_refl 0
  modemChanges_write _ _ _ := Nat.le_refl 0

/-! ## Accesses -/

/-- What is written to ICR: a value, `pDevExt->ACR` or `pDevExt->ACR | 0x40`. -/
inductive IcrValue
  | value (v : UInt8)
  | acr
  | acrReadEnable
  deriving DecidableEq, Repr

/-- What the routines are put together from. -/
inductive Access
  /-- `orig_lcr = READ_LINE_CONTROL(...)` -/
  | saveLcr
  /-- `WRITE_LINE_CONTROL(..., 0)` -/
  | clearLcr
  /-- `SPR_OFFSET` is written. -/
  | select (index : UInt8)
  /-- `ICR_OFFSET` is written. -/
  | write (v : IcrValue)
  /-- `ICR_OFFSET` is read. -/
  | read
  /-- `pDevExt->ACR |= 0x10` or `pDevExt->ACR &= ~0x10` -/
  | setRs485 (enable : Bool)
  /-- `WRITE_LINE_CONTROL(..., orig_lcr)` -/
  | restoreLcr
  deriving DecidableEq, Repr

/-- A port in the middle of a routine. `stray` says that a value went to another register than its
writer had selected. -/
structure Running where
  port : Extension Indexed
  origLcr : UInt8
  selected : UInt8
  got : List UInt8
  stray : Bool

namespace Extension

def setAcr (acr : UInt8) (e : Extension Indexed) : Extension Indexed :=
  { e with cfg := { e.cfg with acr := acr } }

def icrValue (e : Extension Indexed) : IcrValue → UInt8
  | .value v => v
  | .acr => e.cfg.acr
  | .acrReadEnable => e.cfg.acr ||| 0x40

end Extension

def Access.run : Access → Running → Running
  | .saveLcr, x => { x with origLcr := (x.port.readReg .lcr).1 }
  | .clearLcr, x => { x with port := x.port.writeReg .lcr 0 }
  | .select i, x => { x with port := x.port.writeReg .spr i, selected := i }
  | .write v, x =>
    { x with
      port := x.port.writeReg .lsr (x.port.icrValue v)
      stray := x.stray || x.port.uart.spr != x.selected }
  | .read, x => { x with got := x.got ++ [(x.port.readReg .lsr).1] }
  | .setRs485 true, x => { x with port := x.port.setAcr (x.port.cfg.acr ||| 0x10) }
  | .setRs485 false, x => { x with port := x.port.setAcr (x.port.cfg.acr &&& ~~~0x10) }
  | .restoreLcr, x => { x with port := x.port.writeReg .lcr x.origLcr }

/-! ## The routines -/

/-- `FsccGetFrev` reads a register of the board, the revision of its logic. -/
inductive Routine
  | setSampleRate (value : Nat)
  | setTxTrigger (value : Nat)
  | getTxTrigger
  | setRxTrigger (value : Nat)
  | getRxTrigger
  | setRs485 (enable : Bool)
  | setIsochronous (mode : Int)
  | getIsochronous
  | setExternalTransmit (numFrames : Nat)
  | getExternalTransmit
  | setFrameLength (frev : UInt8) (numChars : Nat)
  | getFrameLength (frev : UInt8)
  | set9Bit (enable : Bool)
  | get9Bit
  deriving DecidableEq, Repr

/-- The accesses of a routine between reading LCR and writing it back. -/
def inWindow (body : List Access) : List Access := [.saveLcr, .clearLcr] ++ body ++ [.restoreLcr]

def store (index v : UInt8) : List Access := [.select index, .write (.value v)]

def fetch (index : UInt8) : List Access := [.select index, .read]

/-- Reads of ICR are enabled for the time that `body` takes. -/
def withReadEnable (body : List Access) : List Access :=
  [.select acrOffset, .write .acrReadEnable] ++ body ++ [.select acrOffset, .write .acr]

/-- `new_cks` and `new_mdm` of `FastcomSetIsochronousFSCC`. -/
def receiveClock (mode : Int) : UInt8 × UInt8 :=
  if mode = 2 ∨ mode = 3 ∨ mode = 4 ∨ mode = 10 then (0x09, 0x02)
  else if mode = 5 ∨ mode = 6 ∨ mode = 7 then (0x0a, 0)
  else if mode = 8 then (0x0b, 0)
  else (0, 0)

def transmitClock (mode : Int) : UInt8 × UInt8 :=
  if mode = 0 ∨ mode = 3 ∨ mode = 6 ∨ mode = 8 then (0xd0, 0x04)
  else if mode = 1 ∨ mode = 4 ∨ mode = 7 then (0x90, 0)
  else if mode = 9 ∨ mode = 10 then (0x10, 0)
  else (0, 0)

def newCks (mode : Int) : UInt8 := (receiveClock mode).1 ||| (transmitClock mode).1

def newMdm (mode : Int) : UInt8 := (receiveClock mode).2 ||| (transmitClock mode).2

/-- The `switch` of `FastcomGetIsochronousFSCC`; any other value leaves `*mode` as it is. -/
def isochronousMode (cks : UInt8) : Option Int :=
  if cks = 0x00 then some (-1)
  else if cks = 0xd0 then some 0
  else if cks = 0x90 then some 1
  else if cks = 0x09 then some 2
  else if cks = 0xd9 then some 3
  else if cks = 0x99 then some 4
  else if cks = 0x0a then some 5
  else if cks = 0xda then some 6
  else if cks = 0x9a then some 7
  else if cks = 0xdb then some 8
  else if cks = 0x10 then some 9
  else if cks = 0x19 then some 10
  else none

namespace Routine

/-- The accesses of each routine; a routine that refuses its argument makes none. -/
def accesses : Routine → List Access
  | setSampleRate value =>
    if value < 4 ∨ value > 16 then [] else inWindow (store tcrOffset (UInt8.ofNat value))
  | setTxTrigger value =>
    if value > 127 then [] else inWindow (store ttlOffset (UInt8.ofNat value))
  | getTxTrigger => inWindow (withReadEnable (fetch ttlOffset))
  | setRxTrigger value =>
    if value > 127 then [] else inWindow (store rtlOffset (UInt8.ofNat value))
  | getRxTrigger => inWindow (withReadEnable (fetch rtlOffset))
  | setRs485 enable => inWindow [.select acrOffset, .setRs485 enable, .write .acr]
  | setIsochronous mode =>
    if mode > 10 ∨ mode < -1 then []
    else inWindow (store mdmOffset (newMdm mode) ++ store cksOffset (newCks mode))
  | getIsochronous => inWindow (withReadEnable (fetch cksOffset))
  | setExternalTransmit numFrames =>
    if numFrames > 8191 then []
    else inWindow (store exthOffset (UInt8.ofNat (numFrames / 256)) ++
      store extOffset (UInt8.ofNat numFrames))
  | getExternalTransmit => inWindow (withReadEnable (fetch extOffset ++ fetch exthOffset))
  | setFrameLength frev numChars =>
    if numChars = 0 ∨ numChars > 256 then [] else if frev < 0x20 then []
    else inWindow (store flrOffset (UInt8.ofNat numChars - 1))
  | getFrameLength frev =>
    if frev < 0x20 then [.saveLcr] else inWindow (withReadEnable (fetch flrOffset))
  | set9Bit enable => inWindow (store nmrOffset (if enable then 0x01 else 0x00))
  | get9Bit => inWindow (withReadEnable (fetch nmrOffset))

/-- What the routine returns of the bytes it has read, if it returns anything. -/
def value : Routine → List UInt8 → Option Int
  | getTxTrigger, [ttl] => some (ttl &&& 0x7f).toNat
  | getRxTrigger, [rtl] => some (rtl &&& 0x7f).toNat
  | getIsochronous, [cks] => isochronousMode cks
  | getExternalTransmit, [ext, exth] => some (((exth &&& 0x1f).toNat * 256 + ext.toNat : Nat) : Int)
  | getFrameLength _, [flr] => some ((flr.toNat + 1 : Nat) : Int)
  | get9Bit, [nmr] => some (nmr &&& 0x01).toNat
  | _, _ => none

end Routine

/-! ## The ISR comes in between -/

/-- An access of the routine, or a pass of the ISR that sends `bytes`. -/
inductive Turn
  | access (a : Access)
  | transmit (bytes : List UInt8)
  deriving DecidableEq, Repr

namespace Turn

def run : Turn → Running → Running
  | .access a, x => a.run x
  | .transmit bytes, x => { x with port := x.port.amountToWrite.2.writeBytes bytes }

def access? : Turn → Option Access
  | .access a => some a
  | .transmit _ => none

end Turn

/-- The accesses of the routine, without the passes of the ISR. -/
def accesses (s : List Turn) : List Access := s.filterMap Turn.access?

/-- The passes of the ISR. -/
def passes (s : List Turn) : List Turn := s.filter (·.access? == none)

def runTurns (s : List Turn) (x : Running) : Running := s.foldl (fun x t => t.run x) x

/-- The routine begins. -/
def Running.start (e : Extension Indexed) : Running := ⟨e, 0, 0, [], false⟩

end SerialFc

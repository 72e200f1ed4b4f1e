import SerialFc.Model.Traced
import SerialFc.Model.Write

/-!
# Nine bits

A 16C950 in nine-bit mode sends with each character the lowest bit that SPR has then. The frames on
the line follow from what is written to SPR and to the holding register.

The sender here is the part of the driver that sends writes: one write after the other is given to
the ISR, and at each transmit interrupt the ISR sends as many of its bytes as there is room for.
-/

namespace SerialFc

/-! ## Frames -/

namespace Traced

/-- SPR after these writes. -/
def scratch : UInt8 → List (Reg × UInt8) → UInt8
  | spr, [] => spr
  | _, (.spr, v) :: written => scratch v written
  | spr, _ :: written => scratch spr written

/-- The characters that these writes send, with their ninth bits. -/
def frames : UInt8 → List (Reg × UInt8) → List (UInt8 × Bool)
  | _, [] => []
  | _, (.spr, v) :: written => frames v written
  | spr, (.data, b) :: written => (b, has spr 0x01) :: frames spr written
  | spr, _ :: written => frames spr written

end Traced

/-- A write as the nine-bit protocol has it: MARK with the first byte, SPACE with the others. -/
def addressed : List UInt8 → List (UInt8 × Bool)
  | [] => []
  | b :: bytes => (b, true) :: bytes.map fun b => (b, false)

/-! ## The sender -/

inductive SendLabel (Input : Type)
  | write (payload : List UInt8)
  | interrupt (x : Input)

/-- The payloads of the writes. -/
def writes {Input : Type} (ls : List (SendLabel Input)) : List (List UInt8) :=
  ls.filterMap fun
    | .write payload => some payload
    | .interrupt _ => none

namespace Extension

variable {U : Type} [Uart U]

/-- A write becomes `CurrentWriteRequest` and is given to the ISR. -/
def startWrite (payload : List UInt8) (e : Extension U) : Extension U :=
  let r := Request.new e.nextId (.write payload) payload.length payload
  ({ e with nextId := e.nextId + 1 }.setCurrent .write (some r)).serialGiveWriteToIsr

/-- What happened to the chip before the interrupt; the room in the FIFO is part of it. -/
def evolve (x : Uart.Input U) (e : Extension U) : Extension U :=
  { e with uart := Uart.evolve x e.uart }

/-- The next write starts when the one before has gone. A write that is held has to wait. -/
def sendStep : SendLabel (Uart.Input U) → Extension U → Option (Extension U)
  | .write payload, e =>
    if e.tx.writeLength = 0 ∧ payload ≠ [] then some (e.startWrite payload) else none
  | .interrupt x, e =>
    if e.tx.writeLength ≠ 0 ∧ e.tx.txHolding.any = false then some (e.evolve x).transmitData
    else none

end Extension

end SerialFc

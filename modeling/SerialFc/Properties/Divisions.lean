import SerialFc.Model.Divisions
import SerialFc.Properties.OpenPort
import SerialFc.Properties.BaudDivisor

/-!
# No division by zero

* `Divisible` — the baud rate is not zero, and the sampling rate of a PCIe card is not either
* `zero_notMem_divisors_iff` — when an operation divides by nothing that is zero
* `divides_iff` — the same for whole runs from the start of the device on
-/

namespace SerialFc

open Lib

namespace Device

/-! ## The three routines -/

/-- What the check of the product lets through is not zero. -/
theorem zero_notMem_divisorsFromBaud (d : Device) (desiredBaud : UInt32) :
    0 ∉ d.divisorsFromBaud desiredBaud := by
  unfold divisorsFromBaud
  simp only
  split
  · exact List.not_mem_nil
  split
  · exact List.not_mem_nil
  · next hpos =>
    split
    · exact List.not_mem_nil
    · next hle =>
      have hne : desiredBaud * d.sampleRate ≠ 0 := by
        intro hzero
        have hlong : toLong 0 = 0 := by decide
        rw [hzero, hlong] at hle
        omega
      simp only [List.mem_cons, List.not_mem_nil, or_false]
      rintro (h | h | h)
      · exact absurd h (by decide)
      · exact hne h.symm
      · exact hne h.symm

/-- `PCIeSetBaudRate` divides by zero for a sampling rate or a baud rate of zero. -/
theorem zero_notMem_pcieDivisors_iff (d : Device) (value : UInt32) :
    0 ∉ d.pcieDivisors value ↔ d.sampleRate ≠ 0 ∧ value ≠ 0 := by
  have hdefined : 0 ∉ d.pcieDivisors value ↔ ({ d with currentBaud := value } : Device).BaudDefined := by
    unfold pcieDivisors BaudDefined
    by_cases hhigh : value > pcieInputFreq / d.sampleRate
    · simp [hhigh, eq_comm]
    · simp [hhigh, eq_comm]
  rw [hdefined]
  constructor
  · intro h
    exact ⟨h.1, h.baud_ne_zero⟩
  · rintro ⟨hrate, hvalue⟩
    exact .of_ne_zero hrate hvalue

/-! ## The invariant -/

/-- No rate that the driver divides by is zero. -/
structure Divisible (d : Device) : Prop where
  baud : d.currentBaud ≠ 0
  rate : d.card = .pcie → d.sampleRate ≠ 0

/-- What is divided by stays what it is, but for a sampling rate that a PCIe card accepts. -/
structure SameBaud (d d' : Device) : Prop where
  deviceId : d'.deviceId = d.deviceId
  baud : d'.currentBaud = d.currentBaud
  rate : d.card = .pcie → d.sampleRate ≠ 0 → d'.sampleRate ≠ 0

theorem SameBaud.of_eq {d d' : Device} (hid : d'.deviceId = d.deviceId)
    (hbaud : d'.currentBaud = d.currentBaud) (hrate : d'.sampleRate = d.sampleRate) :
    SameBaud d d' :=
  ⟨hid, hbaud, fun _ h => by rwa [hrate]⟩

theorem SameLine.sameBaud {d d' : Device} (h : SameLine d d') : SameBaud d d' :=
  ⟨h.deviceId, h.currentBaud, h.rate⟩

theorem SameBaud.card {d d' : Device} (h : SameBaud d d') : d'.card = d.card :=
  congrArg fastcomGetCardType h.deviceId

theorem SameBaud.trans {d₁ d₂ d₃ : Device} (h₁ : SameBaud d₁ d₂) (h₂ : SameBaud d₂ d₃) :
    SameBaud d₁ d₃ :=
  ⟨h₂.1.trans h₁.1, h₂.2.trans h₁.2, fun hcard h => h₂.3 (h₁.card.trans hcard) (h₁.3 hcard h)⟩

/-- What leaves the rates alone leaves them so. -/
theorem SameBaud.divisible {d d' : Device} (h : SameBaud d d') (hd : Divisible d) : Divisible d' :=
  ⟨h.baud ▸ hd.baud, fun hcard => h.rate (h.card ▸ hcard) (hd.rate (h.card ▸ hcard))⟩

/-- The registry brings in no sampling rate but one that the card accepts. -/
theorem sameBaud_serialFcInit (d : Device) (pool : Bool) (config : Option ConfigData) :
    SameBaud d (d.serialFcInit pool config) := by
  have hgpio : SameBaud d d.fastcomInitGpio := by
    unfold fastcomInitGpio
    split
    · split <;> exact .of_eq rfl rfl rfl
    all_goals exact .of_eq rfl rfl rfl
  have htriggers (d : Device) : SameBaud d d.fastcomInitTriggers := by
    unfold fastcomInitTriggers
    split <;> exact .of_eq rfl rfl rfl
  have hclock (d : Device) : SameBaud d (d.initClock pool) := by
    unfold initClock
    split
    · exact (sameLine_fastcomSetClockBitsFscc _ _ _ _).sameBaud
    · exact (sameLine_fastcomSetClockBitsPci _ _ _).sameBaud
    · exact .of_eq rfl rfl rfl
    · exact .of_eq rfl rfl rfl
  exact hgpio.trans <| (htriggers _).trans <| (hclock _).trans (sameLine_initSettings _ _).sameBaud

theorem sameBaud_resetFifo (d : Device) : SameBaud d d.resetFifo := by
  unfold resetFifo
  split <;> exact .of_eq rfl rfl rfl

/-- The baud rate outlives the UART. -/
theorem sameBaud_serialDisableUart (d : Device) : SameBaud d d.serialDisableUart := by
  unfold serialDisableUart
  simp only
  split <;> exact .of_eq rfl rfl rfl

theorem sameBaud_restoreRegisters (d : Device) : SameBaud d d.restoreRegisters := by
  have hfifo : SameBaud d (if d.fifoPresent then d.resetFifo else d.writeReg .fcr 0) := by
    split
    · exact sameBaud_resetFifo d
    · exact .of_eq rfl rfl rfl
  refine hfifo.trans ?_
  simp only [restoreRegisters]
  generalize (if d.fifoPresent = true then d.resetFifo else d.writeReg .fcr 0) = e
  split <;> exact .of_eq rfl rfl rfl

/-- A reset that comes to an end has divided by nothing that is zero. -/
theorem serialReset_divisible {d d' : Device} {stack : UInt16} (h : d.serialReset stack = some d') :
    SameBaud d d' ∧ (d'.card = .pcie → d'.sampleRate ≠ 0) := by
  have hfifo := sameBaud_resetFifo (d.writeReg .mcr (d.readReg .mcr &&& ~~~mcrOut2))
  simp only [serialReset, serialSetLineControl, Option.bind_eq_bind, Option.bind_eq_some_iff,
    Option.pure_def, Option.some.injEq] at h
  obtain ⟨e, hset, rfl⟩ := h
  have hbaud := (sameLine_serialSetBaud hset).sameBaud
  have hsame : SameBaud d e :=
    ⟨hbaud.deviceId.trans hfifo.deviceId, hbaud.baud.trans hfifo.baud, fun hcard hrate =>
      hbaud.rate (hfifo.card.trans hcard) (hfifo.rate hcard hrate)⟩
  refine ⟨⟨hsame.1, hsame.2, hsame.3⟩, fun hcard => ?_⟩
  have hcard₀ := hbaud.card.symm.trans hcard
  exact hbaud.rate hcard₀ (baudDefined_of_some hcard₀ hset).1

/-! ## The operations -/

/-- On a PCIe card, the sampling rate of the registry is one the card accepts, or there is one
already, and no baud rate of zero is set. -/
def DividesWell : Op → Device → Prop
  | .initController _ config, d =>
    d.card = .pcie → (config.sampleRate = 4 ∨ config.sampleRate = 8 ∨ config.sampleRate = 16) ∨
      d.sampleRate ≠ 0
  | .ioctl _ (.setBaudRate baudRate), d => d.card = .pcie → d.effectiveBaud baudRate ≠ 0
  | _, _ => True

/-- The first baud rate is 1200. -/
theorem divisible_initController {d d' : Device} {around : Surroundings} {config : ConfigData}
    (h : d.serialInitController around config = some d') : Divisible d' := by
  simp only [serialInitController, Option.bind_eq_bind, Option.bind_eq_some_iff, Option.pure_def,
    Option.some.injEq] at h
  generalize Device.serialFcInit _ around.pool (some config) = f at h
  obtain ⟨e, hreset, rfl⟩ := h
  obtain ⟨hsame, hrate⟩ := serialReset_divisible hreset
  have hbaud : e.currentBaud = 1200 := hsame.baud
  have hdisable := sameBaud_serialDisableUart e
  have he : Divisible e := ⟨by rw [hbaud]; decide, hrate⟩
  exact ⟨(hdisable.divisible he).baud, (hdisable.divisible he).rate⟩

/-- A baud rate of zero is refused, or divided by at once. -/
theorem divisible_ioctl {d : Device} (hd : Divisible d) {around : Surroundings} {i : Ioctl}
    {x : SettingStatus × Device} (hrun : d.serialEvtIoDeviceControl around i = some x) :
    Divisible x.2 := by
  rcases ioctl_cases hrun with hsame | ⟨baudRate, divisor, rfl, hok, hset⟩ |
    ⟨wordLength, parity, stopBits, bits, rfl, -, hline⟩
  · exact hsame.sameBaud.divisible hd
  · have hsame := (sameLine_serialSetBaud hset).sameBaud
    refine hsame.divisible ⟨?_, hd.rate⟩
    by_cases hcard : d.card = .pcie
    · exact (baudDefined_of_some (by exact hcard) hset).baud_ne_zero
    · -- Zero is an invalid baud rate.
      intro hzero
      have hzero : d.effectiveBaud baudRate = 0 := hzero
      have hreject : RejectedAtOnce d.sampleRate 0 := .inl rfl
      simp [serialGetDivisorFromBaud, hcard, hzero, calculatedDivisor_rejected _ hreject,
        SettingStatus.ok] at hok
  · rw [hline]
    exact ⟨hd.baud, hd.rate⟩

/-- **Step lemma.** -/
theorem divisible_step {op : Op} {d d' : Device} (hstep : op.step d = some d')
    (hd : Divisible d) : Divisible d' := by
  cases op with
  | initController around config => exact divisible_initController hstep
  | d0Entry around =>
    simp only [Op.step, serialEvtDeviceD0Entry, Option.bind_eq_bind, Option.bind_eq_some_iff,
      Option.pure_def, Option.some.injEq] at hstep
    -- the baud rate is set again, then only registers that do not matter here
    obtain ⟨e, hset, rfl⟩ := hstep
    have hbaud := (sameLine_serialSetBaud hset).sameBaud
    have he : Divisible e := hbaud.divisible ⟨hd.baud, hd.rate⟩
    exact ((sameBaud_restoreRegisters e).trans (sameBaud_serialFcInit _ _ _)).divisible he
  | d0Exit =>
    have hdisable := sameBaud_serialDisableUart (d.setDeviceIsOpened false true)
    rw [← Option.some.inj hstep]
    unfold serialEvtDeviceD0Exit
    split
    · have he := hdisable.divisible ⟨hd.baud, hd.rate⟩
      exact ⟨he.baud, he.rate⟩
    · exact ⟨hd.baud, hd.rate⟩
  | losePower hw =>
    rw [← Option.some.inj hstep]
    exact ⟨hd.baud, hd.rate⟩
  | fileOpen stack =>
    have hstep : d.serialDeviceFileOpen stack = some d' := hstep
    unfold serialDeviceFileOpen at hstep
    split at hstep
    · cases hstep
    have hasync : SameBaud d (if d.card = .fscc then d.fsccEnableAsync else d) := by
      split
      · unfold fsccEnableAsync
        simp only
        split <;> exact .of_eq rfl rfl rfl
      · exact .of_eq rfl rfl rfl
    simp only [Option.bind_eq_bind, Option.bind_eq_some_iff, Option.pure_def,
      Option.some.injEq] at hstep
    obtain ⟨e, hreset, rfl⟩ := hstep
    have he := (serialReset_divisible hreset).1.divisible (hasync.divisible hd)
    exact ⟨he.baud, he.rate⟩
  | fileClose connected =>
    rw [← Option.some.inj hstep]
    have hdisable := sameBaud_serialDisableUart (d.setDeviceIsOpened false false)
    have he := hdisable.divisible ⟨hd.baud, hd.rate⟩
    unfold serialEvtFileClose
    cases connected with
    | true =>
      simp only [if_true]
      split <;> exact ⟨he.baud, he.rate⟩
    | false =>
      simp only [Bool.false_eq_true, if_false]
      split <;> exact ⟨hd.baud, hd.rate⟩
  -- a request sets the baud rate or the sample rate, or neither
  | ioctl around i =>
    obtain ⟨x, hrun, rfl⟩ := Option.map_eq_some_iff.mp hstep
    exact divisible_ioctl hd hrun
  | lines v =>
    rw [← Option.some.inj hstep]
    exact ⟨hd.baud, hd.rate⟩
  | startTimerLowerRts =>
    rw [← Option.some.inj hstep]
    exact hd

/-! ## What is divided by -/

/-- Only a PCIe card divides by its rates. -/
theorem zero_notMem_setBaudDivisors_iff (d : Device) :
    0 ∉ d.setBaudDivisors ↔ (d.card = .pcie → d.sampleRate ≠ 0 ∧ d.currentBaud ≠ 0) := by
  unfold setBaudDivisors
  split
  · next hcard => rw [zero_notMem_pcieDivisors_iff, imp_iff_right hcard]
  · next hcard => exact iff_of_true List.not_mem_nil fun h => absurd h hcard

/-- The same for setting the present baud rate again. -/
theorem zero_notMem_programDivisors_iff (d : Device) :
    0 ∉ d.programDivisors ↔ (d.card = .pcie → d.sampleRate ≠ 0 ∧ d.currentBaud ≠ 0) := by
  unfold programDivisors
  rw [List.mem_append, not_or, ← zero_notMem_setBaudDivisors_iff]
  exact and_iff_right (d.zero_notMem_divisorsFromBaud _)

/-- The time of a character is computed from the baud rate. -/
theorem Divisible.zero_notMem_charTimeDivisors {d : Device} (hd : Divisible d) :
    0 ∉ d.charTimeDivisors := by
  unfold charTimeDivisors
  simpa [eq_comm] using hd.baud

theorem beforeSettings_pcie {d : Device} (hcard : d.card = .pcie) (pool : Bool) :
    (d.fastcomInitGpio.fastcomInitTriggers.initClock pool).card = .pcie ∧
      (d.fastcomInitGpio.fastcomInitTriggers.initClock pool).sampleRate = d.sampleRate := by
  have hgpio : d.fastcomInitGpio.card = .pcie ∧ d.fastcomInitGpio.sampleRate = d.sampleRate := by
    simp only [fastcomInitGpio, hcard]
    exact ⟨hcard, rfl⟩
  generalize d.fastcomInitGpio = e at hgpio
  have htriggers : e.fastcomInitTriggers.card = .pcie ∧
      e.fastcomInitTriggers.sampleRate = d.sampleRate := by
    simp only [fastcomInitTriggers, hgpio.1]
    exact hgpio
  generalize e.fastcomInitTriggers = f at htriggers
  simp only [initClock, htriggers.1]
  exact htriggers

/-- The sampling rate with which a PCIe card starts. -/
theorem sampleRate_afterFcInit {d : Device} (hcard : d.card = .pcie) (around : Surroundings)
    (config : ConfigData) :
    (d.afterFcInit around config).sampleRate =
      if config.sampleRate = 4 ∨ config.sampleRate = 8 ∨ config.sampleRate = 16 then
        config.sampleRate
      else d.sampleRate := by
  let d₀ : Device := { d with clockRate := config.clockRate, rxFifoTrigger := 0xc0 }
  obtain ⟨hcard', hrate⟩ := beforeSettings_pcie (d := d₀) hcard around.pool
  simp only [afterFcInit, serialFcInit, Option.getD_some]
  rw [initSettings_pcie hcard']
  simp only [hrate]
  rfl

theorem zero_notMem_initController_iff (d : Device) (around : Surroundings) (config : ConfigData) :
    0 ∉ (Op.initController around config).divisors d ↔
      DividesWell (.initController around config) d := by
  have hcard : (d.afterFcInit around config).card = d.card := by
    have hsame := samePort_serialFcInit
      { d with clockRate := config.clockRate, rxFifoTrigger := 0xc0 } around.pool (some config)
    unfold afterFcInit
    generalize Device.serialFcInit _ around.pool (some config) = f at hsame ⊢
    exact congrArg fastcomGetCardType hsame.deviceId
  have hbaud : (d.afterFcInit around config).currentBaud ≠ 0 := by
    simp only [afterFcInit]
    decide
  have hnamed : 0 ∉ supportedBaudRates.flatMap (d.afterFcInit around config).divisorsFromBaud := by
    rw [List.mem_flatMap]
    rintro ⟨baud, -, hmem⟩
    exact zero_notMem_divisorsFromBaud _ _ hmem
  show 0 ∉ _ ++ _ ↔ _
  rw [List.mem_append, not_or, and_iff_right hnamed, zero_notMem_programDivisors_iff, hcard]
  show _ ↔ (d.card = .pcie → _)
  refine forall_congr' fun hpcie => ?_
  rw [and_iff_left hbaud, sampleRate_afterFcInit hpcie]
  split
  · next hrate =>
    refine iff_of_true ?_ (.inl hrate)
    rcases hrate with h | h | h <;> rw [h] <;> decide
  · next hrate => rw [or_iff_right hrate]

/-- **Divisions of a step.** Zero is among the divisors exactly if the step is one of the named
ones. -/
theorem zero_notMem_divisors_iff {d : Device} (hd : Divisible d) (op : Op) :
    0 ∉ op.divisors d ↔ DividesWell op d := by
  have hprogram : 0 ∉ d.programDivisors :=
    (zero_notMem_programDivisors_iff d).mpr fun hcard => ⟨hd.rate hcard, hd.baud⟩
  have hchar := hd.zero_notMem_charTimeDivisors
  -- only a request for the baud rate can bring in a zero; the state never has one
  cases op with
  | initController around config => exact zero_notMem_initController_iff d around config
  | d0Entry around => exact iff_of_true hprogram trivial
  | d0Exit =>
    refine iff_of_true ?_ trivial
    show 0 ∉ if d.deviceIsOpened then d.charTimeDivisors else []
    split
    · exact hchar
    · exact List.not_mem_nil
  | losePower hw => exact iff_of_true List.not_mem_nil trivial
  | fileOpen stack =>
    refine iff_of_true ?_ trivial
    show 0 ∉ if _ then [] else d.programDivisors
    split
    · exact List.not_mem_nil
    · exact hprogram
  | fileClose connected =>
    refine iff_of_true ?_ trivial
    show 0 ∉ if connected = true then d.charTimeDivisors else []
    split
    · exact hchar
    · exact List.not_mem_nil
  | lines v => exact iff_of_true List.not_mem_nil trivial
  | startTimerLowerRts => exact iff_of_true hchar trivial
  | ioctl around i =>
    cases i with
    | setBaudRate baudRate =>
      show 0 ∉ _ ++ _ ↔ (d.card = .pcie → d.effectiveBaud baudRate ≠ 0)
      rw [List.mem_append, not_or, and_iff_right (d.zero_notMem_divisorsFromBaud _)]
      by_cases hcard : d.card = .pcie
      · have hok : (d.serialGetDivisorFromBaud around.stack (d.effectiveBaud baudRate)).1.ok = true := by
          simp [serialGetDivisorFromBaud, hcard, SettingStatus.ok]
        rw [if_pos hok, zero_notMem_setBaudDivisors_iff]
        show (d.card = .pcie → d.sampleRate ≠ 0 ∧ d.effectiveBaud baudRate ≠ 0) ↔ _
        exact forall_congr' fun hcard => and_iff_right (hd.rate hcard)
      · refine iff_of_true ?_ fun h => absurd h hcard
        split
        · rw [zero_notMem_setBaudDivisors_iff]
          exact fun h => absurd h hcard
        · exact List.not_mem_nil
    | _ => exact iff_of_true List.not_mem_nil trivial

/-- **No division by zero.** In a run from the start of a device on, no operation divides by zero if
and only if, on a PCIe card, the registry gives a sampling rate that the card accepts and no baud
rate of zero is ever set. -/
theorem divides_iff {on : Hardware} {vstr : UInt32} {deviceId : UInt16} {channel : Nat}
    {fifoPresent : Bool} {around : Surroundings} {config : ConfigData} {ops : List Op} :
    RunMeets Op.step (fun op d => 0 ∉ op.divisors d) (.initController around config :: ops)
        (fresh on vstr deviceId channel fifoPresent) ↔
      RunMeets Op.step DividesWell (.initController around config :: ops)
        (fresh on vstr deviceId channel fifoPresent) := by
  refine and_congr (zero_notMem_initController_iff _ around config) ?_
  refine forall_congr' fun d => forall_congr' fun hstep => ?_
  have hd : Divisible d := divisible_initController hstep
  exact runMeets_congr (fun _ _ _ hstep hd => divisible_step hstep hd)
    (fun op d hd => zero_notMem_divisors_iff hd op) hd

/-- A PCIe port that is started with the default settings and asked for 0 baud. -/
theorem divides_byZeroBaud :
    ¬RunMeets Op.step (fun op d => 0 ∉ op.divisors d)
      [.initController calm plainConfig, .ioctl calm (.setBaudRate 0)]
      (fresh zeroHardware 0 0x0020 0 true) := by
  decide +kernel

end Device

end SerialFc

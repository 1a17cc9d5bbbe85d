import RadioFlash.Proofs.SessionRuns
/-!
# The steps of the block-echo transfer on a logged link

From the bootloader's knock to the final reset, each step of the OEM procedure is computed here
once, as an equation for its run from any state: which calls it makes on the link, what it
answers and which state it leaves. The image reads inside them are taken where the source yields
them, so every equation holds under the bounds the transfer keeps; what the steps do outside
those bounds is not needed.
-/

namespace RadioFlash

namespace Session

open Source

variable (s : Session LoggedPort)

/-- The break is held 400 ms, then released for the bootloader. -/
theorem holdBreak_run :
    (stepOem .holdBreak).run s =
      if s.waited 400 then
        (.ok .goOn, { s with
          target := { s.target with
            port := { s.target.port with log := s.target.port.log ++ [.setBreak false] } },
          phase := .oem .bootloader })
      else (.ok .pause, s) := by
  by_cases h : s.waited 400 = true
  · simp only [waited_eq] at h
    simp [stepOem, Action.run_bind, waited_eq, h]
  · simp only [waited_eq] at h
    simp [stepOem, Action.run_bind, waited_eq, h]

/-- Entering the bootloader: reopen at 38400 baud and knock with `+`; a link that takes nothing
of the knock fails the session. -/
theorem bootloader_run :
    (stepOem .bootloader).run s =
      let port := s.target.port
      if 38400 ∈ port.failBauds then
        (.error (.io s!"cannot open at {(38400 : UInt32)}"), { s with
          target := { s.target with port := { port with log := port.log ++ [.reopen 38400] } } })
      else
        let k := LoggedPort.taken port.writeChunk 1
        let s₁ := { s with
          target := { s.target with
            port := { port with baud := 38400, log := port.log ++ [.reopen 38400, .write [43] k] } } }
        if k = 0 then
          (.error (.resourceExhausted
            s!"transmit buffer full writing 0x{Text.hexUpper 2 (43 : UInt8).toNat}"), s₁)
        else (.ok .pause, { s₁ with timer := port.now, phase := .oem .txStart }) := by
  by_cases hf : (38400 : UInt32) ∈ s.target.port.failBauds
  · simp [stepOem, Action.run_bind, hf]
  by_cases hk : LoggedPort.taken s.target.port.writeChunk 1 = 0
  · simp [stepOem, Action.run_bind, hf, hk, SerialLink.writeByte]
  · simp [stepOem, Action.run_bind, hf, hk, SerialLink.writeByte, Except.map]

/-- The bootloader's answer: `U` or 0x11 starts the transfer at the header length, with the
image length as its bound; anything else, or silence for 1000 ms, ends it. -/
theorem txStart_run (hy : s.source.readLimit ≠ some 0) (h10 : 10 ≤ s.source.data.size) :
    (stepOem .txStart).run s =
      let got := (s.target.port.rx.take 1).1
      let s₁ := { s with
        target := { s.target with
          port := { s.target.port with
            rx := (s.target.port.rx.take 1).2, log := s.target.port.log ++ [.read 1 got] } } }
      match got.head? with
      | some b =>
        if b = 85 ∨ b = 17 then
          let data := s.source.data
          (.ok .goOn, { s₁ with
            tries := 0, source := { s.source with pos := 10 }, phase := .oem .txBlock,
            sub := .oem {
              firmwareLength := ((wordAt data 4).toUInt32 <<< 16 ||| (wordAt data 6).toUInt32).toNat,
              blockOffset := (wordAt data 8).toNat, curOffset := (wordAt data 8).toNat } })
        else (.error (.protocol s!"unexpected bootloader reply 0x{Text.hexUpper 2 b.toNat}"), s₁)
      | none =>
        if s.waited 1000 then (.error (.protocol "bootloader did not answer"), s₁)
        else (.ok .pause, s₁) := by
  have hc : s.source.Covers s.source.data.size := ⟨Nat.le_refl _, hy⟩
  have h4 : (4 : UInt32).toNat = 4 := rfl
  have hseek := seek_run_of_le (show (4 : UInt32).toNat ≤ s.source.data.size by omega)
  have h32 := readU32_run_of_covers (hc.setPos 4) (by simp only; omega)
  have h16 := readU16_run_of_covers (hc.setPos (4 + 4)) (by simp only; omega)
  rw [h4] at hseek
  simp only [stepOem, Action.run_bind, onPort_run, SerialLink.readByte, LoggedPort.read_run,
    Action.run_pure]
  rcases hg : (s.target.port.rx.take 1).1.head? with _ | b
  · by_cases hw : s.waited 1000 = true
    · simp only [waited_eq] at hw
      simp [Action.run_bind, waited_eq, hw]
    · simp only [waited_eq] at hw
      simp [Action.run_bind, waited_eq, hw]
  · by_cases hb : b = 85 ∨ b = 17
    · simp [Action.run_bind, hb, hseek, h32, h16]
    · simp [hb]

/-- Opening the next outbound block: a zero length ends the transfer with the reset pulse and a
reopen at 9600 baud; a block must end within the image. -/
theorem txBlock_run {p : OemProgress} (hsub : s.sub = .oem p) (hy : s.source.readLimit ≠ some 0)
    (hread : p.blockOffset + 2 ≤ s.source.data.size) (hlt : p.blockOffset < 4294967296) :
    (stepOem .txBlock).run s =
      let len := wordAt s.source.data p.blockOffset
      let s₁ := { s with source := { s.source with pos := p.blockOffset + 2 } }
      let port := s.target.port
      if len = 0 then
        let t := { s.target with
          port := { port with log := port.log ++ [.setReset true, .setReset false, .reopen 9600] },
          mode := .unknown, modeTimer := port.now }
        if 9600 ∈ port.failBauds then
          (.error (.io s!"cannot open at {(9600 : UInt32)}"), { s₁ with target := t })
        else
          (.ok .pause, { s₁ with
            target := { t with port := { t.port with baud := 9600, log := t.port.log ++ [.flowControl true] } },
            timer := port.now, phase := .oem .finalPrompt })
      else if p.blockOffset + 2 + len.toNat > p.firmwareLength then
        (.error (.validation
          s!"{len.toNat}-byte block at offset {p.blockOffset} overruns the {p.firmwareLength}-byte image"), s₁)
      else
        (.ok .goOn, { s₁ with
          sub := .oem { p with blockLength := len.toNat, curOffset := p.blockOffset + 2 + len.toNat },
          phase := .oem .sending }) := by
  simp only [stepOem, Action.run_bind, Action.run_get, progress, hsub, onSource_run,
    seek_readU16_run hy hread hlt]
  by_cases hz : wordAt s.source.data p.blockOffset = 0
  · rw [if_pos hz, if_pos hz]
    by_cases hf : (9600 : UInt32) ∈ s.target.port.failBauds
    · simp [Action.run_bind, Target.resetModule, SerialLink.pulseReset, Target.onPort, Target.now, hf]
    · simp [Action.run_bind, Target.resetModule, SerialLink.pulseReset, Target.onPort, Target.now, hf]
  rw [if_neg hz, if_neg hz]
  by_cases ho : p.blockOffset + 2 + (wordAt s.source.data p.blockOffset).toNat > p.firmwareLength
  · simp [Action.run_bind, OemProgress.openBlock, ho]
  · simp [Action.run_bind, OemProgress.openBlock, ho]

/-- Expecting the echo reads its length word after the outbound block, opens it and waits at
RxBlock. -/
theorem expectEcho_run {p : OemProgress} (hy : s.source.readLimit ≠ some 0)
    (hread : p.curOffset + 2 ≤ s.source.data.size) (hlt : p.curOffset < 4294967296) :
    (expectEcho p).run s =
      let len := (wordAt s.source.data p.curOffset).toNat
      let s₁ := { s with source := { s.source with pos := p.curOffset + 2 } }
      if p.curOffset + 2 + len > p.firmwareLength then
        (.error (.validation
          s!"{len}-byte block at offset {p.curOffset} overruns the {p.firmwareLength}-byte image"), s₁)
      else
        (.ok .pause, { s₁ with
          sub := .oem { p with blockLength := len, curOffset := p.curOffset + 2 + len },
          timer := s.now, phase := .oem .rxBlock }) := by
  by_cases hover : p.curOffset + 2 + (wordAt s.source.data p.curOffset).toNat > p.firmwareLength
  · simp [expectEcho, Action.run_bind, seek_readU16_run hy hread hlt, OemProgress.openBlock, hover]
  · simp [expectEcho, Action.run_bind, seek_readU16_run hy hread hlt, OemProgress.openBlock, hover, Except.map]

/-- One send: ask for the room, write the next piece of the block, at most 128 bytes and no more
than the room; once the block is out, open its echo. -/
theorem sendBlock_run {p : OemProgress} (hsub : s.sub = .oem p) (hy : s.source.readLimit ≠ some 0)
    (hpos : p.blockLength ≤ p.curOffset) (hcur : p.curOffset ≤ s.source.data.size)
    (hlt : p.curOffset < 4294967296) (hbl : 0 < p.blockLength) :
    sendBlock.run s =
      let room := s.target.port.txCapacity
      let n := min (min room echoChunk) p.blockLength
      let chunk := s.source.data.extract p.position (p.position + n)
      let k := LoggedPort.taken s.target.port.writeChunk n
      if n = 0 then
        (.ok .pause, { s with
          target := { s.target with
            port := { s.target.port with log := s.target.port.log ++ [.txFree room] } },
          sub := .oem p })
      else
        let s₁ := { s with
          target := { s.target with
            port := { s.target.port with
              log := s.target.port.log ++ [.txFree room, .write chunk.toList k] } },
          source := { s.source with pos := p.position + n },
          scratch := chunk ++ s.scratch.extract n s.scratch.size }
        if k < p.blockLength then
          (.ok .pause, { s₁ with sub := .oem { p with blockLength := p.blockLength - k } })
        else (expectEcho { p with blockLength := p.blockLength - k }).run s₁ := by
  simp only [sendBlock, Action.run_bind, Action.run_get, progress, hsub, onPort_run,
    LoggedPort.txFree_run]
  by_cases hn : min (min s.target.port.txCapacity echoChunk) p.blockLength = 0
  · simp [hn, hbl, Except.map]
  have hread : p.position + min (min s.target.port.txCapacity echoChunk) p.blockLength ≤
      s.source.data.size := by
    simp only [OemProgress.position]
    omega
  have hplt : p.position < 4294967296 := by
    simp only [OemProgress.position]
    omega
  simp only [hn, if_false, gt_iff_lt, Nat.pos_of_ne_zero hn, if_true, Action.run_bind, onSource_run,
    seek_readFull_run hy hread hplt, Action.run_modify, onPort_run, LoggedPort.write_run]
  have hlen : (s.source.data.extract p.position
      (p.position + min (min s.target.port.txCapacity echoChunk) p.blockLength)).toList.length =
      min (min s.target.port.txCapacity echoChunk) p.blockLength := by
    simp
    omega
  rw [hlen]
  by_cases hk : LoggedPort.taken s.target.port.writeChunk
      (min (min s.target.port.txCapacity echoChunk) p.blockLength) < p.blockLength
  · rw [if_pos (Nat.sub_pos_of_lt hk), if_pos hk]
    simp only [List.append_assoc, List.cons_append, List.nil_append, Action.run_bind,
      Action.run_modify, Action.run_pure]
  · rw [if_neg (by omega), if_neg hk]
    simp only [List.append_assoc, List.cons_append, List.nil_append]

/-- A matched echo resets the resends and moves to the next outbound block. -/
theorem echoMatched_run (p : OemProgress) :
    (echoMatched p).run s =
      (.ok .pause, { s with
        tries := 0, sub := .oem { p with blockOffset := p.curOffset }, phase := .oem .txBlock }) := by
  simp [echoMatched, Action.run_bind, Except.map]

/-- Checking a piece of echo compares it with the image at the current position. -/
theorem checkEcho_run {p : OemProgress} {received : List UInt8}
    (hy : s.source.readLimit ≠ some 0) (hread : p.position + received.length ≤ s.source.data.size)
    (hlt : p.position < 4294967296) :
    (checkEcho p received).run s =
      let expected := s.source.data.extract p.position (p.position + received.length)
      let s₁ := { s with
        source := { s.source with pos := p.position + received.length },
        scratch := received.toArray ++ s.scratch.extract received.length echoChunk ++ expected ++
          s.scratch.extract (echoChunk + received.length) s.scratch.size }
      if received.toArray ≠ expected then (.ok .goOn, { s₁ with phase := .oem .rxFail })
      else if received.length < p.blockLength then
        (.ok .pause, { s₁ with sub := .oem { p with blockLength := p.blockLength - received.length } })
      else (echoMatched { p with blockLength := p.blockLength - received.length }).run s₁ := by
  simp only [checkEcho, Action.run_bind, onSource_run, seek_readFull_run hy hread hlt,
    Action.run_modify]
  by_cases hm : received.toArray ≠ s.source.data.extract p.position (p.position + received.length)
  · rw [if_pos hm, if_pos hm]
    simp only [Action.run_bind, say_run, gotoOem_run, Action.run_pure]
  rw [if_neg hm, if_neg hm]
  by_cases hl : received.length < p.blockLength
  · rw [if_pos (Nat.sub_pos_of_lt hl), if_pos hl]
    simp only [Action.run_bind, Action.run_modify, Action.run_pure]
  · rw [if_neg (by omega), if_neg hl]

/-- One compare: read at most 128 bytes of the echo; nothing for 4000 ms is a failed echo. -/
theorem compareEcho_run {p : OemProgress} (hsub : s.sub = .oem p) :
    compareEcho.run s =
      if p.blockLength = 0 then (echoMatched p).run s
      else
        let want := min p.blockLength echoChunk
        let got := (s.target.port.rx.take want).1
        let s₁ := { s with
          target := { s.target with
            port := { s.target.port with
              rx := (s.target.port.rx.take want).2, log := s.target.port.log ++ [.read want got] } } }
        if got = [] then
          if s.waited 4000 then (.ok .goOn, { s₁ with phase := .oem .rxFail }) else (.ok .pause, s₁)
        else (checkEcho p got).run s₁ := by
  by_cases hz : p.blockLength = 0
  · rw [if_pos hz]
    simp only [compareEcho, Action.run_bind, Action.run_get, progress, hsub, hz, if_true]
  rw [if_neg hz]
  simp only [compareEcho, Action.run_bind, Action.run_get, progress, hsub, hz, if_false,
    onPort_run, LoggedPort.read_run]
  by_cases hg : (s.target.port.rx.take (min p.blockLength echoChunk)).1 = []
  · rw [if_pos (by rw [hg]; rfl), if_pos hg]
    by_cases hws : s.waited 4000 = true
    · simp only [waited_eq] at hws
      simp only [Action.run_bind, Action.run_get, waited_eq, hws, if_true, say_run,
        gotoOem_run, Action.run_pure]
    · simp only [waited_eq] at hws
      simp only [Action.run_bind, Action.run_get, waited_eq, hws, Bool.false_eq_true, if_false,
        Action.run_pure]
  · rw [if_neg (by simpa using hg), if_neg hg]

/-- A failed echo sends the block again after flushing the receiver, three times at most. -/
theorem rxFail_run :
    (stepOem .rxFail).run s =
      if s.tries + 1 > maxResends then
        (.error (.protocol
          s!"block at offset {s.progress.blockOffset} not accepted after 3 resends"),
          { s with tries := s.tries + 1 })
      else
        (.ok .goOn, { s with
          tries := s.tries + 1, phase := .oem .txBlock,
          target := { s.target with
            port := { s.target.port with rx := {}, log := s.target.port.log ++ [.flushRx] } } }) := by
  simp only [stepOem, Action.run_bind, Action.run_get, Action.run_modify]
  split
  · simp [progress]
  · simp [Action.run_bind, Except.map]

/-- The reset module gets 3000 ms to come back. -/
theorem finalPrompt_run :
    (stepOem .finalPrompt).run s =
      if s.waited 3000 then (.ok .goOn, { s with phase := .oem .done }) else (.ok .pause, s) := by
  by_cases h : s.waited 3000 <;> simp [stepOem, Action.run_bind, h, Except.map]

/-- Done moves to Success and yields. -/
theorem done_run : (stepOem .done).run s = (.ok .pause, { s with phase := .oem .success }) := by
  simp [stepOem, Except.map]

/-- Success yields and changes nothing. -/
theorem success_run : (stepOem .success).run s = (.ok .pause, s) := rfl

/-- Failure fails the tick and changes nothing. -/
theorem failure_run : (stepOem .failure).run s = (.error .sessionFailed, s) := rfl

end Session

end RadioFlash

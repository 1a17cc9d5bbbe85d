import RadioFlash.Proofs.PortControl
/-!
# The transfer's record stays within the image

From the bootloader's answer on, an OEM session keeps a record of the block-echo transfer
(`OemProgress`): the declared image length, the offset of the outbound block, the end of the
block being sent or compared, and the count of its bytes still to send or compare. Its arithmetic
is safe only because of relations among these fields, which TxStart, TxBlock and the end of an
outbound block set up again and which the position and the block openings read back.

`RecordKept` states them for the image `D` a session installs: the record holds the header's
image length, the outbound block starts no later than the current block ends, the count left is
at most that end, and that end lies within the image. While sending, the current block is the
outbound one and some but at most its length is left; while comparing, it is the echo right
after it and at most the echo's length is left. Each step keeps it (`recordKept_step`): the
steps of the transfer from their run equations, the others because they leave the record alone
and move only to steps that need none (`stepOem_record`).

`transfer_record_within_image` puts it together for every state a session reaches from Init on an
image Init accepts: the position never runs below zero, no block opening sums past 32 bits, every
seek stays within the image, and a step of a block's round writes or reads at most the count
left, so the count never runs below zero either.
-/

namespace RadioFlash

open RadioFlash.Action

/-- Where the block whose length word sits at `o` ends: past its word and its bytes. -/
def blockEnd (D : Array UInt8) (o : Nat) : Nat := o + 2 + (wordAt D o).toNat

/-- A chain walked from `o` reads a length word there, within the image length. -/
theorem blockWalk_start {D : Array UInt8} {fl o : Nat} {w : List (Nat × Nat) × Nat}
    (h : blockWalk D fl o = some w) : o + 2 ≤ fl := by
  rw [blockWalk] at h
  split at h
  · cases h
  · omega

namespace OemState

/-- A step that awaits a command response is outside a block's round. -/
theorem asked_inBlock {st : OemState} (h : st.asked = true) : st.inBlock = false := by
  cases st <;> simp_all [asked, inBlock]

end OemState

namespace OemProgress

/-- The record stays within an image of declared length `fl`: it holds that length, the outbound
block starts no later than the current block ends, at most that many bytes are left to send or
compare, and the current block ends within the image. -/
structure Within (fl : Nat) (p : OemProgress) : Prop where
  length : p.firmwareLength = fl
  offset_le : p.blockOffset ≤ p.curOffset
  count_le : p.blockLength ≤ p.curOffset
  cur_le : p.curOffset ≤ fl

/-- What the record says at a step of a block's round of the image `D`. While sending, the
current block is the outbound one, with some and at most its length left; while comparing, it is
the echo right after it, with at most the echo's length left. -/
def Stage (D : Array UInt8) : OemState → OemProgress → Prop
  | .sending, p => p.curOffset = blockEnd D p.blockOffset ∧ 0 < p.blockLength ∧
      p.blockLength ≤ (wordAt D p.blockOffset).toNat
  | .rxBlock, p => p.curOffset = blockEnd D (blockEnd D p.blockOffset) ∧
      p.blockLength ≤ (wordAt D (blockEnd D p.blockOffset)).toNat
  | _, _ => True

namespace Within

variable {fl : Nat} {p : OemProgress} (h : p.Within fl)
include h

/-- Opening a block at `start`, at or after the outbound block, that ends within the declared
length. -/
theorem openAt {start len : Nat} (hs : p.blockOffset ≤ start) (hfit : start + 2 + len ≤ p.firmwareLength) :
    ({ p with blockLength := len, curOffset := start + 2 + len } : OemProgress).Within fl := by
  have := h.length
  exact ⟨h.length, by dsimp only; omega, by dsimp only; omega, by dsimp only; omega⟩

/-- Taking `k` bytes off the count left. -/
theorem consume (k : Nat) : ({ p with blockLength := p.blockLength - k } : OemProgress).Within fl := by
  have := h.count_le
  exact ⟨h.length, h.offset_le, by dsimp only; omega, h.cur_le⟩

/-- Making the current end the next outbound block. -/
theorem advance : ({ p with blockOffset := p.curOffset } : OemProgress).Within fl :=
  ⟨h.length, Nat.le_refl _, h.count_le, h.cur_le⟩

end Within

/-- The position is the current end less the count left, exactly. -/
theorem Within.position_add {fl : Nat} {p : OemProgress} (h : p.Within fl) :
    p.position + p.blockLength = p.curOffset := by
  have := h.count_le
  unfold position
  omega

end OemProgress

namespace PortCall

/-- A call moves at most `n` bytes: a write offers at most `n` and the link takes at most what it
was offered, a read asks for at most `n` and gets at most what it asked. -/
def MovesAtMost (n : Nat) : PortCall → Prop
  | .write offered taken => taken ≤ offered.length ∧ offered.length ≤ n
  | .read asked got => got.length ≤ asked ∧ asked ≤ n
  | _ => True

end PortCall

namespace Session

/-- What Init's acceptance says of an image that the transfer relies on: it holds its header and
its declared length, that length is at most 131072 bytes, and the chain starts with a length
word within it. -/
structure ImageBounds (D : Array UInt8) : Prop where
  header : 16 ≤ D.size
  within : imageLength D ≤ D.size
  bounded : imageLength D ≤ maxImageLen
  chain : chainStart D + 2 ≤ imageLength D

namespace ImageBounds

variable {D : Array UInt8} {p : OemProgress} (hb : ImageBounds D) (hw : p.Within (imageLength D))
include hb hw

/-- A record within a bounded image ends within the image's bytes. -/
theorem cur_le_size : p.curOffset ≤ D.size := Nat.le_trans hw.cur_le hb.within

/-- A record within a bounded image ends so far below 2^32 that a block of any 16-bit length
opened there still ends below it. -/
theorem cur_add_lt : p.curOffset + 2 + 65535 < 4294967296 := by
  have hcur := hw.cur_le
  have hmax := hb.bounded
  unfold maxImageLen at hmax
  omega

end ImageBounds

/-- An image Init accepts is bounded as the transfer needs, and its reads hand bytes out. The
declared length is the header's, which its check bounds. -/
theorem Accepts.bounds {s : Session LoggedPort} (h : Accepts s) :
    ImageBounds s.source.data ∧ s.source.readLimit ≠ some 0 := by
  obtain ⟨hdr, p, c, src, hv, hc⟩ := h
  obtain ⟨hy, h16, hwithin, bs, z, hbw, -⟩ := init_accepts hv hc
  obtain ⟨hparse, hcheck, -⟩ := verify_ok hv
  rw [parse_extract h16] at hparse
  unfold OemHeader.parse at hparse
  rw [if_neg (by omega)] at hparse
  cases hparse
  have hmax : imageLength s.source.data ≤ maxImageLen := by
    unfold OemHeader.check at hcheck
    split at hcheck
    · cases hcheck
    split at hcheck
    · cases hcheck
    rename_i hbad
    dsimp only at hbad
    unfold imageLength
    omega
  exact ⟨⟨h16, hwithin, hmax, blockWalk_start hbw⟩, hy⟩

/-! ## The record and the steps that leave it alone -/

/-- A session outside a block's round, where it needs no record, whose pending response, if it
waits for one, leads to a check. -/
def OutsideRound (s : Session LoggedPort) : Prop :=
  s.phase.inBlock = false ∧ (s.phase = .oem .parseResponse → s.nextState.asked = true)

/-- What a step outside the block transfer may change: not the record, and the step and the
pending response only to ones outside a round. -/
def recordFrame : Frame (Session LoggedPort) where
  rel s s' := s'.sub = s.sub ∧ (s'.phase = s.phase ∧ s'.nextState = s.nextState ∨ OutsideRound s')
  refl s := ⟨rfl, .inl ⟨rfl, rfl⟩⟩
  trans h₁ h₂ := by
    refine ⟨h₂.1.trans h₁.1, ?_⟩
    rcases h₂.2 with ⟨hp, hn⟩ | hc
    · rcases h₁.2 with ⟨hp', hn'⟩ | hb
      · exact .inl ⟨hp.trans hp', hn.trans hn'⟩
      · right
        unfold OutsideRound at hb ⊢
        rw [hp, hn]
        exact hb
    · exact .inr hc

/-- The record of the transfer against the image `D`: any record there is stays within the image,
a step of a block's round has one, standing as the step needs, and a pending response leads to a
check. -/
structure RecordKept (D : Array UInt8) (s : Session LoggedPort) : Prop where
  within : ∀ p, s.sub = .oem p → p.Within (imageLength D)
  round : ∀ st, s.phase = .oem st → st.inBlock = true → ∃ p, s.sub = .oem p ∧ p.Stage D st
  asked : s.phase = .oem .parseResponse → s.nextState.asked = true

section Record

variable {D : Array UInt8} {s s' : Session LoggedPort} {r : Except Error Step}

/-- A change the record frame allows keeps the record within the image. -/
theorem RecordKept.of_frame (hk : RecordKept D s) (h : recordFrame.rel s s') : RecordKept D s' := by
  obtain ⟨hsub, ⟨hph, hn⟩ | hset⟩ := h
  · refine ⟨fun p hp => hk.within p (hsub ▸ hp), fun st hst hin => ?_, fun hp => ?_⟩
    · rw [hsub]
      exact hk.round st (hph ▸ hst) hin
    · rw [hn]
      exact hk.asked (hph ▸ hp)
  · refine ⟨fun p hp => hk.within p (hsub ▸ hp), fun st hst hin => ?_, hset.2⟩
    have hout := hset.1
    rw [hst] at hout
    simp [Phase.inBlock, hin] at hout

/-- A step's failure keeps the record: the session is marked failed and holds what it held. -/
theorem recordKept_settle (hk : RecordKept D s) (r : Except Error Step) : RecordKept D (settle r s) := by
  cases r with
  | ok a => exact hk
  | error e =>
    refine hk.of_frame ⟨rfl, .inr ?_⟩
    unfold OutsideRound
    rcases hph : s.phase with st | st <;> simp [settle, hph, Phase.inBlock, OemState.inBlock]

/-- A session at step `st` holding a record that stands as the step needs keeps the record. -/
theorem recordKept_at {st : OemState} {q : OemProgress} (hph : s.phase = .oem st) (hsub : s.sub = .oem q)
    (hw : q.Within (imageLength D)) (hst : q.Stage D st) (hpr : st ≠ .parseResponse) :
    RecordKept D s := by
  refine ⟨fun p hp => ?_, fun st' hst' _ => ?_, fun hp => ?_⟩
  · rw [hsub] at hp
    cases hp
    exact hw
  · rw [hph] at hst'
    cases hst'
    exact ⟨q, hsub, hst⟩
  · rw [hph] at hp
    exact absurd (Phase.oem.inj hp) hpr

/-- The record of a step of a block's round stands as the step needs. -/
theorem RecordKept.stage (hk : RecordKept D s) {st : OemState} {p : OemProgress}
    (hph : s.phase = .oem st) (hin : st.inBlock = true) (hsub : s.sub = .oem p) : p.Stage D st := by
  obtain ⟨q, hq, hst⟩ := hk.round st hph hin
  rw [hsub] at hq
  cases hq
  exact hst

end Record

section Frame

variable {α : Type}

/-- A target action keeps the record frame. -/
theorem onTarget_record (m : Action (Target LoggedPort) α) : Keeps recordFrame (onTarget m) :=
  keeps_iff.mpr fun _ => ⟨rfl, .inl ⟨rfl, rfl⟩⟩

/-- A link action keeps the record frame. -/
theorem onPort_record (m : Action LoggedPort α) : Keeps recordFrame (onPort m) :=
  onTarget_record _

/-- An image action keeps the record frame. -/
theorem onSource_record (m : Action Source α) : Keeps recordFrame (onSource m) :=
  keeps_iff.mpr fun _ => ⟨rfl, .inl ⟨rfl, rfl⟩⟩

/-- A note keeps the record frame. -/
theorem say_record (origin : String) (level : Level) (text : String) :
    Keeps recordFrame (say origin level text : Action (Session LoggedPort) _) :=
  onPort_record _

/-- An action on a part of the session that leaves the record, the step and the pending response
keeps the frame. -/
theorem focus_record {τ : Type} {g : Session LoggedPort → τ} {put : τ → Session LoggedPort → Session LoggedPort}
    (m : Action τ α) (hp : ∀ t s, (put t s).sub = s.sub ∧ (put t s).phase = s.phase ∧
      (put t s).nextState = s.nextState) : Keeps recordFrame (Action.focus g put m) :=
  keeps_iff.mpr fun s => ⟨(hp _ s).1, .inl (hp _ s).2⟩

/-- A pure check's result keeps the record frame. -/
theorem ofExcept_record (x : Except Error α) : Keeps recordFrame (ofExcept x : Action (Session LoggedPort) α) :=
  keeps_iff.mpr fun s => by
    rw [ofExcept_run]
    exact recordFrame.refl s

/-- Moving to a step outside a round and not awaiting a response keeps the record frame. -/
theorem gotoOem_record {st : OemState} (hin : st.inBlock = false) (hpr : st ≠ .parseResponse) :
    Keeps recordFrame (gotoOem st : Action (Session LoggedPort) _) :=
  keeps_iff.mpr fun s => by
    rw [gotoOem_run]
    exact ⟨rfl, .inr ⟨hin, fun h => absurd (Phase.oem.inj h) hpr⟩⟩

/-- A request waits for a response that leads to a check. -/
theorem request_record (cmd : List UInt8) {next : OemState} (hnext : next.asked = true) :
    Keeps recordFrame (request cmd next : Action (Session LoggedPort) _) :=
  keeps_iff.mpr fun s => by
    rw [request_run]
    dsimp only
    split
    · exact ⟨rfl, .inl ⟨rfl, rfl⟩⟩
    · exact ⟨rfl, .inr ⟨rfl, fun _ => hnext⟩⟩

/-- The steps outside the block transfer leave the record alone and move only to steps outside a round. -/
theorem stepOem_record {st : OemState} (hin : st.inBlock = false) (htx : st ≠ .txStart)
    (hpr : st ≠ .parseResponse) : Keeps recordFrame (stepOem st : Action (Session LoggedPort) _) := by
  cases st
  case txStart => exact absurd rfl htx
  case parseResponse => exact absurd rfl hpr
  case txBlock | sending | rxBlock | rxFail => cases hin
  all_goals unfold stepOem
  all_goals try unfold armTimer imageByte
  all_goals
  repeat' first
    | with_reducible exact Keeps.pure _
    | with_reducible exact Keeps.throw _
    | with_reducible exact Keeps.get
    | (with_reducible apply Keeps.modify); intro _; exact ⟨rfl, .inl ⟨rfl, rfl⟩⟩
    | with_reducible exact say_record _ _ _
    | with_reducible exact gotoOem_record rfl (by decide)
    | with_reducible exact ofExcept_record _
    | with_reducible exact request_record _ rfl
    | with_reducible exact onSource_record _
    | with_reducible exact onPort_record _
    | with_reducible exact onTarget_record _
    | (with_reducible apply focus_record); intro _ _; exact ⟨rfl, rfl, rfl⟩
    | with_reducible apply Keeps.bind
    | intro _
    | split
    | dsimp only

/-- A run of such a step stays within the frame. -/
theorem recordFrame_of_step {s s' : Session LoggedPort} {r : Except Error Step} {st : OemState}
    (h : (stepOem st).run s = (r, s')) (hin : st.inBlock = false) (htx : st ≠ .txStart)
    (hpr : st ≠ .parseResponse) : recordFrame.rel s s' := by
  have hkeep := keeps_iff.mp (stepOem_record hin htx hpr) s
  rwa [h] at hkeep

/-- Waiting for a response leaves the record and the pending response alone, and moves on only to
the step the request named. -/
theorem parseResponse_record {s s' : Session LoggedPort} {r : Except Error Step}
    (h : (stepOem .parseResponse).run s = (r, s')) :
    s'.sub = s.sub ∧ s'.nextState = s.nextState ∧ (s'.phase = s.phase ∨ s'.phase = .oem s.nextState) := by
  simp only [stepOem, collectResponse, Action.run_bind, Action.run_focus] at h
  rcases hr : Target.readResponse.run (s.target, ({ bytes := s.scratch, cursor := s.responseLen } : LineBuffer))
    with ⟨_ | _ | len, t, b⟩ <;> rw [hr] at h
  · obtain ⟨-, rfl⟩ := Prod.mk.inj h
    exact ⟨rfl, rfl, .inl rfl⟩
  · obtain ⟨-, rfl⟩ := Prod.mk.inj h
    exact ⟨rfl, rfl, .inl rfl⟩
  · simp only [Action.run_bind, Action.run_modify, Action.run_get, gotoOem_run, Action.run_pure,
      Prod.mk.injEq] at h
    obtain ⟨-, rfl⟩ := h
    exact ⟨rfl, rfl, .inr rfl⟩

end Frame

/-! ## The steps of the transfer -/

section Transfer

variable {D : Array UInt8} {s s' : Session LoggedPort} {r : Except Error Step}

/-- The bootloader's answer creates the record: the header's image length, and the chain's start
as both the outbound block and the current end. -/
theorem txStart_record (hD : s.source.data = D) (hy : s.source.readLimit ≠ some 0) (hb : ImageBounds D)
    (hk : RecordKept D s) (h : (stepOem .txStart).run s = (r, s')) : RecordKept D s' := by
  have h10 : 10 ≤ s.source.data.size := by
    rw [hD]
    have := hb.header
    omega
  rw [txStart_run s hy h10] at h
  dsimp only at h
  split at h
  · split at h
    · obtain ⟨rfl, rfl⟩ := Prod.mk.inj h
      have hc := hb.chain
      refine recordKept_at rfl rfl ⟨?_, Nat.le_refl _, Nat.zero_le _, ?_⟩ trivial (by decide)
      · rw [hD]
        rfl
      · dsimp only
        rw [hD]
        unfold chainStart at hc
        omega
    · obtain ⟨rfl, rfl⟩ := Prod.mk.inj h
      exact hk.of_frame ⟨rfl, .inl ⟨rfl, rfl⟩⟩
  · split at h <;> obtain ⟨rfl, rfl⟩ := Prod.mk.inj h <;> exact hk.of_frame ⟨rfl, .inl ⟨rfl, rfl⟩⟩

/-- Opening the outbound block at the block offset: its end becomes the current end and its length
the count left. A zero length ends the transfer, and a block past the image, or a length word
that cannot be read, ends the session, all with the record as it was. -/
theorem txBlock_record (hD : s.source.data = D) (hb : ImageBounds D) (hk : RecordKept D s)
    (hph : s.phase = .oem .txBlock) (h : (stepOem .txBlock).run s = (r, s')) : RecordKept D s' := by
  obtain ⟨p, hsub, -⟩ := hk.round .txBlock hph rfl
  have hw := hk.within p hsub
  have hlt : p.blockOffset < 4294967296 := by
    have := hb.cur_add_lt hw
    have := hw.offset_le
    omega
  rw [stepOem, Action.run_bind, Action.run_get] at h
  dsimp only at h
  rw [Action.run_bind, onSource_run] at h
  simp only [progress, hsub] at h
  rcases hm : (do Source.seek (UInt32.ofNat p.blockOffset); Source.readU16).run s.source
    with ⟨_ | len, src⟩ <;> rw [hm] at h
  · obtain ⟨rfl, rfl⟩ := Prod.mk.inj h
    exact hk.of_frame ⟨hsub.symm, .inl ⟨rfl, rfl⟩⟩
  obtain ⟨hlen, -⟩ := Source.seek_readU16_ok hm
  rw [UInt32.toNat_ofNat_of_lt' hlt, hD] at hlen
  by_cases hz : len = 0
  · -- the last block is out: the module is reset, and the record stays for the final wait
    by_cases hf : (9600 : UInt32) ∈ s.target.port.failBauds
    · simp [Action.run_bind, Target.resetModule, SerialLink.pulseReset, Target.onPort, Target.now,
        hz, hf] at h
      obtain ⟨rfl, rfl⟩ := h
      exact hk.of_frame ⟨hsub.symm, .inl ⟨rfl, rfl⟩⟩
    · simp [Action.run_bind, Target.resetModule, SerialLink.pulseReset, Target.onPort, Target.now,
        hz, hf] at h
      obtain ⟨rfl, rfl⟩ := h
      exact hk.of_frame ⟨hsub.symm, .inr ⟨rfl, fun h => by cases h⟩⟩
  by_cases ho : p.blockOffset + 2 + len.toNat > p.firmwareLength
  · simp [Action.run_bind, OemProgress.openBlock, hz, ho] at h
    obtain ⟨rfl, rfl⟩ := h
    exact hk.of_frame ⟨hsub.symm, .inl ⟨rfl, rfl⟩⟩
  · simp [Action.run_bind, OemProgress.openBlock, hz, ho] at h
    obtain ⟨rfl, rfl⟩ := h
    have hpos : 0 < len.toNat := by
      rcases Nat.eq_zero_or_pos len.toNat with h0 | h0
      · exact absurd (UInt16.toNat_inj.mp (by simpa using h0)) hz
      · exact h0
    refine recordKept_at rfl rfl (hw.openAt (Nat.le_refl _) (by omega))
      ⟨by rw [blockEnd, ← hlen], hpos, Nat.le_of_eq (by rw [← hlen])⟩ (by decide)

/-- Opening the echo at the current end: it fails with the record and the step as they were, or
moves to comparing the echo, whose end becomes the current end and whose length the count left;
the link is not touched. -/
theorem expectEcho_cases {p : OemProgress} (hlt : p.curOffset < 4294967296)
    (h : (expectEcho p).run s = (r, s')) :
    s'.target = s.target ∧ (recordFrame.rel s s' ∨
      s'.phase = .oem .rxBlock ∧ blockEnd s.source.data p.curOffset ≤ p.firmwareLength ∧
        s'.sub = .oem { p with
          blockLength := (wordAt s.source.data p.curOffset).toNat,
          curOffset := blockEnd s.source.data p.curOffset }) := by
  rw [expectEcho, Action.run_bind, onSource_run] at h
  rcases hm : (do Source.seek (UInt32.ofNat p.curOffset); Source.readU16).run s.source
    with ⟨_ | len, src⟩ <;> rw [hm] at h
  · obtain ⟨rfl, rfl⟩ := Prod.mk.inj h
    exact ⟨rfl, .inl ⟨rfl, .inl ⟨rfl, rfl⟩⟩⟩
  obtain ⟨hlen, -⟩ := Source.seek_readU16_ok hm
  rw [UInt32.toNat_ofNat_of_lt' hlt] at hlen
  subst hlen
  by_cases ho : p.curOffset + 2 + (wordAt s.source.data p.curOffset).toNat > p.firmwareLength
  · simp [OemProgress.openBlock, ho, Action.run_bind] at h
    obtain ⟨rfl, rfl⟩ := h
    exact ⟨rfl, .inl ⟨rfl, .inl ⟨rfl, rfl⟩⟩⟩
  · simp [OemProgress.openBlock, ho, Action.run_bind] at h
    obtain ⟨rfl, rfl⟩ := h
    exact ⟨rfl, .inr ⟨rfl, by unfold blockEnd; omega, rfl⟩⟩

/-- The piece of the block a send writes, at most the count left, read where that count starts:
the link takes at most the piece. -/
theorem write_piece_moves {D : Array UInt8} {p : OemProgress} {n : Nat} (limit : Option Nat)
    (hn : n ≤ p.blockLength) (hread : p.position + n ≤ D.size) :
    (PortCall.write (D.extract p.position (p.position + n)).toList (LoggedPort.taken limit n)).MovesAtMost
      p.blockLength := by
  have hlen : (D.extract p.position (p.position + n)).toList.length = n := by
    simp only [Array.length_toList, Array.size_extract]
    omega
  simp only [PortCall.MovesAtMost, hlen]
  exact ⟨LoggedPort.taken_le _ _, hn⟩

/-- Sending a piece of the outbound block: the count left falls by what the link took, which is at
most the count; once the block is out, the echo right after it becomes the current block. -/
theorem sending_record {p : OemProgress} (hD : s.source.data = D) (hy : s.source.readLimit ≠ some 0)
    (hb : ImageBounds D) (hk : RecordKept D s) (hph : s.phase = .oem .sending) (hsub : s.sub = .oem p)
    (h : (stepOem .sending).run s = (r, s')) :
    RecordKept D s' ∧ ∃ calls, s'.target.port.log = s.target.port.log ++ calls ∧
      ∀ c ∈ calls, c.MovesAtMost p.blockLength := by
  obtain ⟨hend, hpos, hle⟩ := hk.stage hph rfl hsub
  have hw := hk.within p hsub
  have hsize : p.curOffset ≤ s.source.data.size := by
    rw [hD]
    exact hb.cur_le_size hw
  have hlt : p.curOffset < 4294967296 := by
    have := hb.cur_add_lt hw
    omega
  change sendBlock.run s = (r, s') at h
  rw [sendBlock_run s hsub hy hw.count_le hsize hlt hpos] at h
  dsimp only at h
  split at h
  · -- no room: the step only asks for it
    obtain ⟨rfl, rfl⟩ := Prod.mk.inj h
    exact ⟨hk.of_frame ⟨hsub.symm, .inl ⟨rfl, rfl⟩⟩, _, rfl, by simp [PortCall.MovesAtMost]⟩
  have hpiece := write_piece_moves (D := s.source.data) s.target.port.writeChunk
    (Nat.min_le_right (min s.target.port.txCapacity echoChunk) p.blockLength)
    (by have := hw.position_add; have := Nat.min_le_right (min s.target.port.txCapacity echoChunk) p.blockLength; omega)
  have hcalls : ∀ c ∈ [PortCall.txFree s.target.port.txCapacity,
      .write (s.source.data.extract p.position
        (p.position + min (min s.target.port.txCapacity echoChunk) p.blockLength)).toList
        (LoggedPort.taken s.target.port.writeChunk
          (min (min s.target.port.txCapacity echoChunk) p.blockLength))],
      c.MovesAtMost p.blockLength := by
    simpa [PortCall.MovesAtMost] using hpiece
  generalize LoggedPort.taken s.target.port.writeChunk
    (min (min s.target.port.txCapacity echoChunk) p.blockLength) = k at h hcalls
  split at h
  · -- part of the block is out: the count left falls by what the link took
    obtain ⟨rfl, rfl⟩ := Prod.mk.inj h
    refine ⟨recordKept_at hph rfl (hw.consume k) ⟨hend, by dsimp only; omega, by dsimp only; omega⟩
      (by decide), _, by simp, hcalls⟩
  · -- the block is out: its echo right after it is opened
    obtain ⟨htgt, hfr | ⟨hph', hfit, hsub'⟩⟩ := expectEcho_cases hlt h
    · exact ⟨(hk.of_frame ⟨rfl, .inl ⟨rfl, rfl⟩⟩).of_frame hfr, _, by rw [htgt], hcalls⟩
    · refine ⟨recordKept_at hph' hsub' ((hw.consume k).openAt hw.offset_le hfit) ⟨?_, ?_⟩ (by decide),
        _, by rw [htgt], hcalls⟩
      · show blockEnd s.source.data p.curOffset = _
        rw [hD, hend]
      · show (wordAt s.source.data p.curOffset).toNat ≤ _
        exact Nat.le_of_eq (by rw [hD, hend])

/-- Comparing a piece of the echo: the count left falls by what was read, which is at most the
count; a finished echo makes its end the next outbound block, a wrong or missing one sends the
block again. The read asks for at most the count left and gets at most what it asked. -/
theorem rxBlock_record {p : OemProgress} (hD : s.source.data = D) (hy : s.source.readLimit ≠ some 0)
    (hb : ImageBounds D) (hk : RecordKept D s) (hph : s.phase = .oem .rxBlock) (hsub : s.sub = .oem p)
    (h : (stepOem .rxBlock).run s = (r, s')) :
    RecordKept D s' ∧ ∃ calls, s'.target.port.log = s.target.port.log ++ calls ∧
      ∀ c ∈ calls, c.MovesAtMost p.blockLength := by
  obtain ⟨hend, hle⟩ := hk.stage hph rfl hsub
  have hw := hk.within p hsub
  change compareEcho.run s = (r, s') at h
  rw [compareEcho_run s hsub] at h
  split at h
  · -- nothing left to compare: the echo is matched
    rw [echoMatched_run] at h
    obtain ⟨rfl, rfl⟩ := Prod.mk.inj h
    exact ⟨recordKept_at rfl rfl hw.advance trivial (by decide), [], by simp, by simp⟩
  dsimp only at h
  have hgot : (s.target.port.rx.take (min p.blockLength echoChunk)).1.length ≤ min p.blockLength echoChunk := by
    rw [ByteQueue.take_fst]
    exact List.length_take_le _ _
  have hcalls : ∀ c ∈ [PortCall.read (min p.blockLength echoChunk)
      (s.target.port.rx.take (min p.blockLength echoChunk)).1], c.MovesAtMost p.blockLength := by
    simp only [List.mem_singleton, forall_eq, PortCall.MovesAtMost]
    exact ⟨hgot, Nat.min_le_left _ _⟩
  split at h
  · -- nothing arrived: wait, or send the block again once the echo is overdue
    split at h <;> obtain ⟨rfl, rfl⟩ := Prod.mk.inj h
    · exact ⟨recordKept_at rfl hsub hw trivial (by decide), _, rfl, hcalls⟩
    · exact ⟨hk.of_frame ⟨rfl, .inl ⟨rfl, rfl⟩⟩, _, rfl, hcalls⟩
  have hmin := Nat.min_le_left p.blockLength echoChunk
  have hpos := hw.position_add
  have hcmp : p.position + (s.target.port.rx.take (min p.blockLength echoChunk)).1.length ≤
      s.source.data.size := by
    rw [hD]
    have := hb.cur_le_size hw
    omega
  have hplt : p.position < 4294967296 := by
    have := hb.cur_add_lt hw
    omega
  rw [checkEcho_run _ ?_ ?_ ?_] at h
  rotate_left
  · exact hy
  · exact hcmp
  · exact hplt
  dsimp only at h
  split at h
  · -- a mismatch sends the block again
    obtain ⟨rfl, rfl⟩ := Prod.mk.inj h
    exact ⟨recordKept_at rfl hsub hw trivial (by decide), _, rfl, hcalls⟩
  split at h
  · -- part of the echo matched: the count left falls by what was read
    obtain ⟨rfl, rfl⟩ := Prod.mk.inj h
    exact ⟨recordKept_at hph rfl (hw.consume _) ⟨hend, by dsimp only; omega⟩ (by decide), _, rfl, hcalls⟩
  · -- the whole echo matched: its end is the next outbound block
    rw [echoMatched_run] at h
    obtain ⟨rfl, rfl⟩ := Prod.mk.inj h
    exact ⟨recordKept_at rfl rfl (hw.consume _).advance trivial (by decide), _, rfl, hcalls⟩

/-- A failed echo sends the block again with the record as it was. -/
theorem rxFail_record (hk : RecordKept D s) (hph : s.phase = .oem .rxFail)
    (h : (stepOem .rxFail).run s = (r, s')) : RecordKept D s' := by
  obtain ⟨p, hsub, -⟩ := hk.round .rxFail hph rfl
  rw [rxFail_run] at h
  split at h <;> obtain ⟨rfl, rfl⟩ := Prod.mk.inj h
  · exact hk.of_frame ⟨rfl, .inl ⟨rfl, rfl⟩⟩
  · exact recordKept_at rfl hsub (hk.within p hsub) trivial (by decide)

/-- Every step of the OEM procedure keeps the record, whether it succeeds or fails. The response
moves on to the check its request named, which needs no record. -/
theorem recordKept_step (hD : s.source.data = D) (hy : s.source.readLimit ≠ some 0) (hb : ImageBounds D)
    (hk : RecordKept D s) {st : OemState} (hph : s.phase = .oem st) (h : (stepOem st).run s = (r, s')) :
    RecordKept D s' := by
  cases st
  case txStart => exact txStart_record hD hy hb hk h
  case txBlock => exact txBlock_record hD hb hk hph h
  case sending =>
    obtain ⟨p, hsub, -⟩ := hk.round .sending hph rfl
    exact (sending_record hD hy hb hk hph hsub h).1
  case rxBlock =>
    obtain ⟨p, hsub, -⟩ := hk.round .rxBlock hph rfl
    exact (rxBlock_record hD hy hb hk hph hsub h).1
  case rxFail => exact rxFail_record hk hph h
  case parseResponse =>
    obtain ⟨hsub, hn, hph' | hph'⟩ := parseResponse_record h
    · exact hk.of_frame ⟨hsub, .inl ⟨hph', hn⟩⟩
    · have hasked := hk.asked hph
      refine hk.of_frame ⟨hsub, .inr ⟨?_, fun hp => ?_⟩⟩
      · rw [hph']
        exact OemState.asked_inBlock hasked
      · rw [hph'] at hp
        exact absurd (Phase.oem.inj hp) (Session.OemState.asked_cases hasked).2.1
  all_goals exact hk.of_frame (recordFrame_of_step h rfl (by decide) (by decide))

end Transfer

/-! ## Every reachable state -/

/-- Every state a session reaches from Init, with no record yet, on an image Init accepts follows
its start and keeps the record against the start's image. -/
theorem reachable_recordKept {s₀ s : Session LoggedPort} (hphase : s₀.phase = .oem .init)
    (hsub : s₀.sub = .idle) (hacc : Accepts s₀) (hs : Reachable s₀ s) :
    Follows s₀ s ∧ RecordKept s₀.source.data s := by
  obtain ⟨hb, hy⟩ := hacc.bounds
  have hstep : StepsKeep fun s => Follows s₀ s ∧ RecordKept s₀.source.data s := by
    rintro s st r s' ⟨hf, hk⟩ hst h
    have hs' : Follows s s' := by
      have hkeep := keeps_iff.mp (stepOem_keeps st) s
      rwa [h] at hkeep
    refine ⟨hf.trans (hs'.trans (settle_follows r s')), recordKept_settle ?_ r⟩
    exact recordKept_step hf.data (by rw [hf.readLimit]; exact hy) hb hk hst h
  have h₀ : RecordKept s₀.source.data s₀ := by
    refine ⟨fun p hp => ?_, fun st hst hin => ?_, fun hp => ?_⟩
    · rw [hsub] at hp
      cases hp
    · rw [hphase] at hst
      cases hst
      cases hin
    · rw [hphase] at hp
      cases hp
  exact reachable_induct (fun s hs => hs.1.oem ⟨_, hphase⟩) hstep
    (fun w s hs => ⟨hs.1.trans (meetPort_follows w s), hs.2.of_frame ⟨rfl, .inl ⟨rfl, rfl⟩⟩⟩)
    ⟨Follows.refl s₀, h₀⟩ hs

/-- In every state a session reaches from Init, with no record yet, on an image Init accepts, and
whatever the link, the bootloader and the clock do, a record of the block transfer stays within
the image. It holds the header's image length, at most 131072; the outbound block starts no later
than the current block ends, and that end lies within the image length. While sending, the
current block is the outbound one and at most its length is left; while comparing, it is the echo
right after it and at most the echo's length is left.

Hence the position, the current end less the count left, never runs below zero; a block opened at
an offset up to the current end with any 16-bit length sums to less than 2^32; every seek, to the
outbound block, the position or the current end, stays within the image; and a step of a block's
round writes or reads at most the count left, and gets at most what it asked, so the count never
runs below zero. The session holds the image it started with. -/
theorem transfer_record_within_image {s₀ : Session LoggedPort} (hphase : s₀.phase = .oem .init)
    (hsub : s₀.sub = .idle) (hacc : Accepts s₀) :
    ∀ s, Reachable s₀ s → ∀ p, s.sub = .oem p →
      p.firmwareLength = imageLength s.source.data ∧ imageLength s.source.data ≤ 131072 ∧
      p.blockOffset ≤ p.curOffset ∧ p.curOffset ≤ imageLength s.source.data ∧
      (s.phase = .oem .sending → p.curOffset = blockEnd s.source.data p.blockOffset ∧
        p.blockLength ≤ (wordAt s.source.data p.blockOffset).toNat) ∧
      (s.phase = .oem .rxBlock →
        p.curOffset = blockEnd s.source.data (blockEnd s.source.data p.blockOffset) ∧
        p.blockLength ≤ (wordAt s.source.data (blockEnd s.source.data p.blockOffset)).toNat) ∧
      p.position + p.blockLength = p.curOffset ∧ p.curOffset + 2 + 65535 < 4294967296 ∧
      p.curOffset ≤ s.source.data.size ∧
      (s.phase = .oem .sending ∨ s.phase = .oem .rxBlock → ∀ r s', (stepAt s.phase).run s = (r, s') →
        ∃ calls, s'.target.port.log = s.target.port.log ++ calls ∧
          ∀ c ∈ calls, c.MovesAtMost p.blockLength) := by
  intro s hs p hp
  obtain ⟨hb, hy⟩ := hacc.bounds
  obtain ⟨hf, hk⟩ := reachable_recordKept hphase hsub hacc hs
  rw [← hf.data] at hb hk
  have hy' : s.source.readLimit ≠ some 0 := by
    rw [hf.readLimit]
    exact hy
  have hw := hk.within p hp
  refine ⟨hw.length, hb.bounded, hw.offset_le, hw.cur_le, fun hph => ?_, fun hph => hk.stage hph rfl hp,
    hw.position_add, hb.cur_add_lt hw, hb.cur_le_size hw, ?_⟩
  · obtain ⟨hend, -, hle⟩ := hk.stage hph rfl hp
    exact ⟨hend, hle⟩
  · rintro (hph | hph) r s' h <;> rw [hph] at h
    · exact (sending_record rfl hy' hb hk hph hp h).2
    · exact (rxBlock_record rfl hy' hb hk hph hp h).2

/-- The session about to install `onePairImage` starts at Init with no record, on an image Init
accepts, and every record it comes to hold stays within the image. -/
theorem onePair_record_within_image :
    onePairSession.phase = .oem .init ∧ onePairSession.sub = .idle ∧ Accepts onePairSession ∧
      ∀ s, Reachable onePairSession s → ∀ p, s.sub = .oem p → p.curOffset ≤ s.source.data.size := by
  have hacc : Accepts onePairSession := accepts_of_init_ok (by decide +kernel)
  refine ⟨rfl, rfl, hacc, fun s hs p hp => ?_⟩
  exact (transfer_record_within_image rfl rfl hacc s hs p hp).2.2.2.2.2.2.2.2.1

end Session

end RadioFlash

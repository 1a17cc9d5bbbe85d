import RadioFlash.Proofs.ImageRefusal
/-!
# The status line and its redraw token

A caller redraws a session's status line only when its progress token changes. The token packs
the step's number under the transfer position (the XMODEM packet number, or the OEM block
offset), but the status line reads more of the session than that: the phase of the XMODEM
sender, the command a response is awaited for, the fallback to 9600 baud. So the status can
change under an unchanged token. `redraw_token_misses_status` is such a run: a one-byte EBL
image whose first packet goes out whole, so that "Sending packet 1" becomes "Waiting for ACK of
packet 1" while the token stays at packet 1 of the transfer step.

What does hold: within one procedure the token names the step, and two sessions at that step
with one token show one status line as soon as they agree on what the line reads beyond the
token (`AgreeBeyondToken`).
-/

namespace RadioFlash

/-- The OEM step numbers fit the six low bits of a token. -/
theorem OemState.index_lt (st : OemState) : st.index < 64 := by
  cases st <;> decide

/-- Distinct OEM steps have distinct numbers. -/
theorem OemState.index_injective : Function.Injective OemState.index := by
  intro a b h
  cases a <;> cases b <;> first | rfl | cases h

/-- The EBL step numbers fit the six low bits of a token. -/
theorem EblState.index_lt (st : EblState) : st.index < 64 := by
  cases st <;> decide

/-- Distinct EBL steps have distinct numbers. -/
theorem EblState.index_injective : Function.Injective EblState.index := by
  intro a b h
  cases a <;> cases b <;> first | rfl | cases h

/-- A token's value: the position's low 26 bits above the six bits of the step's number. -/
theorem token_toNat (x : UInt32) {i : Nat} (hi : i < 64) :
    ((x <<< 6) ||| UInt32.ofNat i).toNat = x.toNat % 67108864 * 64 + i := by
  have hshift : (x <<< 6).toNat = (x.toNat % 67108864) <<< 6 := by
    rw [UInt32.toNat_shiftLeft, show (6 : UInt32).toNat % 32 = 6 from rfl, Nat.shiftLeft_eq,
      Nat.shiftLeft_eq, show (2 : Nat) ^ 32 = 67108864 * 2 ^ 6 from rfl, Nat.mul_mod_mul_right]
  rw [UInt32.toNat_or, hshift, UInt32.toNat_ofNat_of_lt' (by simp [UInt32.size]; omega),
    ← Nat.shiftLeft_add_eq_or_of_lt (by omega : i < 2 ^ 6), Nat.shiftLeft_eq]

/-- Two tokens are equal exactly for one step number and one position modulo 2^26. -/
theorem token_eq_iff {x y : UInt32} {i j : Nat} (hi : i < 64) (hj : j < 64) :
    ((x <<< 6) ||| UInt32.ofNat i) = ((y <<< 6) ||| UInt32.ofNat j) ↔
      i = j ∧ x.toNat % 67108864 = y.toNat % 67108864 := by
  rw [← UInt32.toNat_inj, token_toNat x hi, token_toNat y hj]
  omega

namespace Session

section Agreement

variable {π : Type}

/-- The XMODEM sender of an EBL session's transfer, if one runs. -/
def runningSender (s : Session π) : Option Xmodem.Sender :=
  match s.sub with
  | .xmodem x => some x
  | _ => none

/-- The packet number an EBL token carries: the running sender's, or 0. -/
def tokenPacket (s : Session π) : UInt32 :=
  match s.sub with
  | .xmodem x => x.packetNum
  | _ => 0

/-- `s` and `t` agree on what the status line of step `p` reads beyond its progress token: at
CmdPending whether 9600 baud is tried, at ParseResponse the command awaited, during the block
transfer the image length, with offsets that fit the token's 26 bits, and at XmodemSend the
sender's phase, with packet numbers that fit those bits. -/
def AgreeBeyondToken (s t : Session π) : Phase → Prop
  | .oem .cmdPending => (s.tries > 0 ↔ t.tries > 0)
  | .oem .parseResponse => s.nextState.command = t.nextState.command
  | .oem .txBlock | .oem .sending | .oem .rxBlock | .oem .rxFail =>
    s.progress.firmwareLength = t.progress.firmwareLength ∧
      s.progress.blockOffset < 67108864 ∧ t.progress.blockOffset < 67108864
  | .ebl .xmodemSend =>
    s.runningSender.map Xmodem.Sender.phase = t.runningSender.map Xmodem.Sender.phase ∧
      s.tokenPacket.toNat < 67108864 ∧ t.tokenPacket.toNat < 67108864
  | _ => True

/-- An EBL token is the packet number above the step's number. -/
theorem eblToken_eq (s : Session π) (st : EblState) :
    s.eblToken st = (s.tokenPacket <<< 6) ||| UInt32.ofNat st.index := by
  unfold eblToken tokenPacket
  cases s.sub <;> rfl

/-- An OEM status line is fixed by the step, the token's offset bits and what they agree on. -/
theorem oemStatus_eq {s t : Session π} {st : OemState}
    (hpos : s.progress.blockOffset % 67108864 = t.progress.blockOffset % 67108864)
    (h : AgreeBeyondToken s t (.oem st)) : s.oemStatus st = t.oemStatus st := by
  cases st
  case cmdPending =>
    replace h : s.tries > 0 ↔ t.tries > 0 := h
    unfold oemStatus
    by_cases hs : s.tries > 0
    · rw [if_pos hs, if_pos (h.mp hs)]
    · rw [if_neg hs, if_neg (mt h.mpr hs)]
  case parseResponse =>
    replace h : s.nextState.command = t.nextState.command := h
    unfold oemStatus
    rw [h]
  case txBlock | sending | rxBlock | rxFail =>
    obtain ⟨hlen, hs, ht⟩ := h
    have hoff : s.progress.blockOffset = t.progress.blockOffset := by omega
    unfold oemStatus
    rw [hoff, hlen]
  all_goals rfl

/-- An EBL status line is fixed by the step, the token's packet bits and what they agree on. The
senders run in one phase at one packet, or neither runs. -/
theorem eblStatus_eq {s t : Session π} {st : EblState}
    (hnum : s.tokenPacket.toNat % 67108864 = t.tokenPacket.toNat % 67108864)
    (h : AgreeBeyondToken s t (.ebl st)) : s.eblStatus st = t.eblStatus st := by
  cases st
  case xmodemSend =>
    obtain ⟨hph, hs, ht⟩ := h
    have hpkt : s.tokenPacket = t.tokenPacket := UInt32.toNat_inj.mp (by omega)
    unfold eblStatus
    unfold runningSender at hph
    unfold tokenPacket at hpkt
    rcases hsub : s.sub with _ | x | p <;> rcases hsub' : t.sub with _ | y | q <;>
      simp only [hsub, hsub', Option.map_some, Option.map_none, reduceCtorEq, Option.some.injEq]
        at hph hpkt ⊢
    all_goals first | rfl | simp only [xmodemStatus, hph, hpkt]
  all_goals rfl

/-- Two sessions of one procedure with one progress token stand at one step; and they show one
status line when they agree on what it reads beyond the token. The token holds the offset modulo
2^32 first, then its low 26 bits. -/
theorem status_follows_token {s t : Session π}
    (hproc : (∃ a b, s.phase = .ebl a ∧ t.phase = .ebl b) ∨ ∃ a b, s.phase = .oem a ∧ t.phase = .oem b)
    (htok : progressToken s = progressToken t) :
    s.phase = t.phase ∧ (AgreeBeyondToken s t s.phase → status s = status t) := by
  rcases hproc with ⟨a, b, hs, ht⟩ | ⟨a, b, hs, ht⟩
  · rw [progressToken, progressToken, hs, ht] at htok
    dsimp only at htok
    rw [eblToken_eq, eblToken_eq, token_eq_iff a.index_lt b.index_lt] at htok
    obtain ⟨hidx, hnum⟩ := htok
    cases EblState.index_injective hidx
    refine ⟨hs.trans ht.symm, fun h => ?_⟩
    rw [hs] at h
    rw [status, status, hs, ht]
    exact eblStatus_eq hnum h
  · rw [progressToken, progressToken, hs, ht] at htok
    dsimp only at htok
    unfold oemToken at htok
    rw [token_eq_iff a.index_lt b.index_lt] at htok
    obtain ⟨hidx, hpos⟩ := htok
    cases OemState.index_injective hidx
    refine ⟨hs.trans ht.symm, fun h => ?_⟩
    rw [hs] at h
    rw [status, status, hs, ht]
    refine oemStatus_eq ?_ h
    simpa [UInt32.toNat_ofNat', Nat.mod_mod_of_dvd] using hpos

end Agreement

/-- A one-byte EBL image on a fresh logged link. -/
def tinyEbl : Session LoggedPort :=
  make (Target.make ({ rx := default } : LoggedPort)) (Source.ofBytes #[0x5A]) .ebl false

/-- Surroundings at `now` milliseconds, the far end having sent `rx`. -/
def heardAt (now : Millis) (rx : List UInt8) : Surroundings :=
  { rx := ByteQueue.push rx default, now, txCapacity := 4096, writeChunk := none, failBauds := [] }

/-- `tinyEbl` up to the start of its transfer: the reset and the break, held 150 ms; the prompt
`>`, answered with `1`; and the `C` that asks for CRC packets. -/
def tinyEblStarted : Session LoggedPort :=
  advance (meetPort (heardAt 150 [67]) (advance (meetPort (heardAt 150 [62])
    (advance (meetPort (heardAt 150 []) (advance tinyEbl))))))

/-- The tick after: the first packet is written whole, and the sender waits for its ACK. -/
def tinyEblNext : Session LoggedPort :=
  advance (meetPort (heardAt 150 []) tinyEblStarted)

/-- A run in which two consecutive ticks end with the same progress token and different status
lines. -/
theorem redraw_token_misses_status :
    Reachable tinyEbl tinyEblStarted ∧ progressToken tinyEblNext = progressToken tinyEblStarted ∧
      status tinyEblStarted = "XMODEM: Sending packet 1..." ∧
      status tinyEblNext = "XMODEM: Waiting for ACK of packet 1..." :=
  ⟨.tick (.meet _ (.tick (.meet _ (.tick (.meet _ (.tick .start)))))), by decide +kernel,
    by decide +kernel, by decide +kernel⟩

/-- At those two ticks the token names one step, XmodemSend, whose status reads the sender. -/
theorem tinyEbl_redraw_same_step :
    ((∃ a b, tinyEblStarted.phase = .ebl a ∧ tinyEblNext.phase = .ebl b) ∨
        ∃ a b, tinyEblStarted.phase = .oem a ∧ tinyEblNext.phase = .oem b) ∧
      progressToken tinyEblStarted = progressToken tinyEblNext ∧
      tinyEblStarted.phase = tinyEblNext.phase ∧
      (AgreeBeyondToken tinyEblStarted tinyEblNext tinyEblStarted.phase →
        status tinyEblStarted = status tinyEblNext) := by
  have hproc : (∃ a b, tinyEblStarted.phase = .ebl a ∧ tinyEblNext.phase = .ebl b) ∨
      ∃ a b, tinyEblStarted.phase = .oem a ∧ tinyEblNext.phase = .oem b :=
    .inl ⟨.xmodemSend, .xmodemSend, by decide +kernel, by decide +kernel⟩
  have htok : progressToken tinyEblStarted = progressToken tinyEblNext := by decide +kernel
  exact ⟨hproc, htok, status_follows_token hproc htok⟩

end Session

end RadioFlash

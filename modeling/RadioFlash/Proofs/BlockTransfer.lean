import RadioFlash.Proofs.TransferTrack
/-!
# The block-echo transfer of an accepted image

Init accepts an OEM image after `verify` and `countBlocks`, and the transfer then walks the same
block chain again, block by block, as it sends it. The two walks end on different rules:
`countBlocks` at the first zero length, the transfer only at a zero length where an outbound
block would start, since an echo may be empty. `transfer_walks_counted_chain` says exactly when
they agree (an even number of counted blocks) and what follows then: the transfer sends the
counted blocks as its pairs, and no tick of the session refuses the image. Where they do not
agree, the transfer walks past the end `countBlocks` checked.

`transfer_follows_echo_talk` says what the session does on the link for an image whose chain
the transfer walks as the pairs `ps`, whatever the link, the bootloader and the clock do: every
state it reaches follows the talk of `EchoTalk`, the fourth failed echo of a block ends it with
a protocol error, and the reset module is given 3000 ms before the session is done.
-/

namespace RadioFlash

namespace Session

open Source

/-- Init's acceptance: reads hand bytes out, the image holds its header and its declared length,
and the chain walks from the header length to a zero length, through as many blocks as Init
counted. The checked length is at least 32 bytes, all of them in the image. The header fields are
the image's words. -/
theorem init_accepts {src src' : Source} {scr : Array UInt8} {hdr : OemHeader}
    {p : Source × Array UInt8} {chain : BlockChain} (hv : verify.run (src, scr) = (.ok hdr, p))
    (hc : (countBlocks hdr).run p.1 = (.ok chain, src')) :
    src.readLimit ≠ some 0 ∧ 16 ≤ src.data.size ∧ imageLength src.data ≤ src.data.size ∧
      ∃ bs z, blockWalk src.data (imageLength src.data) (chainStart src.data) = some (bs, z) ∧
        chain.blocks = bs.length := by
  obtain ⟨hparse, hcheck, hcov, q, hq⟩ := verify_ok hv
  have hlen : 32 ≤ hdr.imageLen.toNat := by
    unfold OemHeader.check at hcheck
    split at hcheck
    · cases hcheck
    split at hcheck
    · cases hcheck
    rename_i hbad
    simp only [minImageLen] at hbad
    omega
  have h16 : 16 ≤ src.data.size := by
    have := hcov.size_ge
    omega
  rw [parse_extract h16] at hparse
  unfold OemHeader.parse at hparse
  rw [if_neg (by omega)] at hparse
  cases hparse
  refine ⟨hcov.yields, h16, hcov.size_ge, ?_⟩
  rw [hq] at hc
  obtain ⟨bs, z, hbw, hblocks, -⟩ := walkBlocks_ok (hcov.setPos q) (UInt32.toNat_lt _) hc
  exact ⟨bs, z, hbw, by simpa using hblocks⟩

/-- Init and the transfer walk the image's block chain each its own way. The transfer's walk ends
at the zero length where `countBlocks` stopped exactly when the counted chain has an even
number of blocks. Then its pairs are the counted blocks, two to a pair, there are `transfers`
of them, every state the session reaches follows the transfer of these pairs, and no tick
refuses the image. The walk ends where the count did: the pairs are the counted blocks. -/
theorem transfer_walks_counted_chain {s₀ : Session LoggedPort} {hdr : OemHeader}
    {p : Source × Array UInt8} {chain : BlockChain} {src : Source}
    (hphase : s₀.phase = .oem .init) (hlog : s₀.target.port.log = [])
    (hv : verify.run (s₀.source, s₀.scratch) = (.ok hdr, p))
    (hc : (countBlocks hdr).run p.1 = (.ok chain, src)) :
    ∃ bs z, blockWalk s₀.source.data (imageLength s₀.source.data) (chainStart s₀.source.data) =
        some (bs, z) ∧ chain.blocks = bs.length ∧
      ((∃ ps, echoWalk s₀.source.data (imageLength s₀.source.data) (chainStart s₀.source.data) =
        some (ps, z)) ↔ bs.length % 2 = 0) ∧
      ∀ ps, echoWalk s₀.source.data (imageLength s₀.source.data) (chainStart s₀.source.data) =
          some (ps, z) →
        ps.flatMap EchoPair.blocks = bs ∧ ps.length = chain.transfers ∧
        ∀ s, Reachable s₀ s → OnTrack s₀.source.data ps z (imageLength s₀.source.data) s ∧
          ∀ e, (tick.run s).1 = .error e → ∀ d, e ≠ .validation d := by
  obtain ⟨hy, h16, hwithin, bs, z, hbw, hblocks⟩ := init_accepts hv hc
  have hiff := echoWalk_ends_at_count_iff hwithin hbw
  refine ⟨bs, z, hbw, hblocks, hiff, fun ps hw => ?_⟩
  obtain ⟨ps', hw', hflat⟩ := echoWalk_of_blockWalk_even hwithin hbw (hiff.mp ⟨ps, hw⟩)
  rw [hw] at hw'
  cases hw'
  have hfit : Fit s₀.source.data ps z (imageLength s₀.source.data) := ⟨h16, rfl, hwithin, hw⟩
  have h₀ : OnTrack s₀.source.data ps z (imageLength s₀.source.data) s₀ :=
    onTrack_init hphase hlog ⟨hdr, p, chain, src, hv, hc⟩
  have hcount : ps.length = chain.transfers := by
    rw [BlockChain.transfers, hblocks, ← hflat, length_flatMap_blocks]
    omega
  refine ⟨hflat, hcount, fun s hs => ⟨?_, fun e he => ?_⟩⟩
  · exact (reachable_onTrack hfit hy ⟨_, hphase⟩ h₀ hs).2
  · exact reachable_tick_keeps_image hfit hy ⟨_, hphase⟩ h₀ hs he

/-- An image of one pair: a two-byte block, its two-byte echo, then the zero length. -/
def onePairImage : Array UInt8 :=
  #[0x93, 0xFD, 0x91, 0xF5, 0, 0, 0, 32, 0, 16, 0x18, 2, 0x38, 0x30, 0x34, 0x32,
    0, 2, 0xAA, 0xBB, 0, 2, 0xAA, 0xBB, 0, 0, 0, 0, 0, 0, 0, 0]

/-- A session about to install `onePairImage` over a logged link. -/
def onePairSession : Session LoggedPort :=
  { target := { port := { rx := default } }, source := Source.ofBytes onePairImage, kind := .oem,
    phase := .oem .init, timer := 0, scratch := Array.replicate 8 0 }

/-- Init accepts the image of a session as soon as its step succeeds. -/
theorem accepts_of_init_ok {s : Session LoggedPort} (h : ((stepOem .init).run s).1.isOk = true) :
    Accepts s := by
  rw [init_run] at h
  rcases hv : verify.run (s.source, s.scratch) with ⟨_ | hdr, p⟩ <;> rw [hv] at h
  · cases h
  dsimp only at h
  rcases hc : (countBlocks hdr).run p.1 with ⟨_ | chain, src⟩ <;> rw [hc] at h
  · cases h
  exact ⟨hdr, p, chain, src, hv, hc⟩

/-- The one-pair session is accepted, and every state it reaches walks the counted chain of its
image. -/
theorem onePair_walks_counted_chain :
    onePairSession.phase = .oem .init ∧ onePairSession.target.port.log = [] ∧
    ∃ hdr p chain src,
      verify.run (onePairSession.source, onePairSession.scratch) = (.ok hdr, p) ∧
      (countBlocks hdr).run p.1 = (.ok chain, src) ∧
      ∃ bs z, blockWalk onePairSession.source.data (imageLength onePairSession.source.data)
          (chainStart onePairSession.source.data) = some (bs, z) ∧ chain.blocks = bs.length ∧
        ((∃ ps, echoWalk onePairSession.source.data (imageLength onePairSession.source.data)
          (chainStart onePairSession.source.data) = some (ps, z)) ↔ bs.length % 2 = 0) ∧
        ∀ ps, echoWalk onePairSession.source.data (imageLength onePairSession.source.data)
            (chainStart onePairSession.source.data) = some (ps, z) →
          ps.flatMap EchoPair.blocks = bs ∧ ps.length = chain.transfers ∧
          ∀ s, Reachable onePairSession s →
            OnTrack onePairSession.source.data ps z (imageLength onePairSession.source.data) s ∧
            ∀ e, (tick.run s).1 = .error e → ∀ d, e ≠ .validation d := by
  obtain ⟨hdr, p, chain, src, hv, hc⟩ := accepts_of_init_ok (s := onePairSession) (by decide +kernel)
  exact ⟨rfl, rfl, hdr, p, chain, src, hv, hc, transfer_walks_counted_chain rfl rfl hv hc⟩

/-- For an image Init accepted whose chain the transfer walks as the pairs `ps`, whatever the
link, the bootloader and the clock do: every state the session reaches follows the talk over
`ps`; when the echo of a block's fourth copy fails, the tick ends the session with a protocol
error; and the session leaves the reboot wait only once 3000 ms have passed. At the fourth copy's
echo the session has counted three resends. The failed echo goes on to the resend, which is one too
many. -/
theorem transfer_follows_echo_talk {s₀ : Session LoggedPort} {hdr : OemHeader}
    {p : Source × Array UInt8} {chain : BlockChain} {src : Source} {ps : List EchoPair} {z : Nat}
    (hphase : s₀.phase = .oem .init) (hlog : s₀.target.port.log = [])
    (hv : verify.run (s₀.source, s₀.scratch) = (.ok hdr, p))
    (hc : (countBlocks hdr).run p.1 = (.ok chain, src))
    (hwalk : echoWalk s₀.source.data (imageLength s₀.source.data) (chainStart s₀.source.data) =
      some (ps, z)) :
    ∀ s, Reachable s₀ s →
      OnTrack s₀.source.data ps z (imageLength s₀.source.data) s ∧
      (∀ L k heard q, afterWrite [43] s.target.port.log = some L →
        talk s₀.source.data ps L = some (.echoing k 4 heard) → s.phase = .oem .rxBlock →
        ps[k]? = some q → EchoFails s₀.source.data q heard s →
        ∃ msg, (tick.run s).1 = .error (.protocol msg)) ∧
      (s.phase = .oem .finalPrompt → (advance s).phase ≠ .oem .finalPrompt →
        s.waited 3000 = true) := by
  intro s hs
  obtain ⟨hy, h16, hwithin, -⟩ := init_accepts hv hc
  have hfit : Fit s₀.source.data ps z (imageLength s₀.source.data) := ⟨h16, rfl, hwithin, hwalk⟩
  have h₀ : OnTrack s₀.source.data ps z (imageLength s₀.source.data) s₀ :=
    onTrack_init hphase hlog ⟨hdr, p, chain, src, hv, hc⟩
  obtain ⟨hf, hon⟩ := reachable_onTrack hfit hy ⟨_, hphase⟩ h₀ hs
  refine ⟨hon, ?_, ?_⟩
  · intro L k heard q hL htalk hrx hq hfail
    unfold OnTrack at hon
    rw [hL] at hon
    obtain ⟨st, hst, hat⟩ := hon
    rw [htalk] at hst
    cases hst
    simp only [TransferAt, hrx] at hat
    obtain ⟨k', c, p', hp', htries, -, ⟨heard', hst', hheard, hsub⟩ | ⟨-, hst', -⟩⟩ := hat
    · injection hst' with hk hc hh
      subst hk hc hh
      rw [hq] at hp'
      cases hp'
      obtain ⟨s₁, h₁, hph₁, htr₁⟩ :=
        rxBlock_retry hfit hf.data (by rw [hf.readLimit]; exact hy) hrx hq hheard hsub hfail
      have h₂ := rxFail_run s₁
      rw [if_pos (by simp only [maxResends]; omega)] at h₂
      exact ⟨_, tick_error_of_second hrx (by decide) h₁ hph₁ h₂⟩
    · -- an empty echo is matched at once: the talk is past it
      unfold Talk.toSend at hst'
      split at hst' <;> cases hst'
  · intro hfp hleft
    rw [advance_finalPrompt hfp] at hleft
    cases hw : s.waited 3000
    · simp [hw] at hleft
    · rfl

/-- The one-pair session follows the echo talk over its single pair, and a fourth failed echo ends
it. -/
theorem onePair_follows_echo_talk :
    onePairSession.phase = .oem .init ∧ onePairSession.target.port.log = [] ∧
    echoWalk onePairSession.source.data (imageLength onePairSession.source.data)
      (chainStart onePairSession.source.data) = some ([⟨16, 2, 2⟩], 24) ∧
    ∃ hdr p chain src,
      verify.run (onePairSession.source, onePairSession.scratch) = (.ok hdr, p) ∧
      (countBlocks hdr).run p.1 = (.ok chain, src) ∧
      ∀ s, Reachable onePairSession s →
        OnTrack onePairSession.source.data [⟨16, 2, 2⟩] 24 (imageLength onePairSession.source.data) s ∧
        (∀ L k heard q, afterWrite [43] s.target.port.log = some L →
          talk onePairSession.source.data [⟨16, 2, 2⟩] L = some (.echoing k 4 heard) →
          s.phase = .oem .rxBlock → [⟨16, 2, 2⟩][k]? = some q →
          EchoFails onePairSession.source.data q heard s →
          ∃ msg, (tick.run s).1 = .error (.protocol msg)) ∧
        (s.phase = .oem .finalPrompt → (advance s).phase ≠ .oem .finalPrompt →
          s.waited 3000 = true) := by
  have hwalk : echoWalk onePairSession.source.data (imageLength onePairSession.source.data)
      (chainStart onePairSession.source.data) = some ([⟨16, 2, 2⟩], 24) := by decide +kernel
  obtain ⟨hdr, p, chain, src, hv, hc⟩ := accepts_of_init_ok (s := onePairSession) (by decide +kernel)
  exact ⟨rfl, rfl, hwalk, hdr, p, chain, src, hv, hc, transfer_follows_echo_talk rfl rfl hv hc hwalk⟩

end Session

end RadioFlash

import RadioFlash.Proofs.BlockTransfer
/-!
# An image refused before the link is touched

The first tick of an OEM session validates its image and counts its block chain, and does
nothing else: it makes no call on the link, whatever the image and whatever the source. Every
way the image can be refused is a validation error, a seek included, since `countBlocks` seeks
only within the length that `verify` read. A refused image leaves the session failed, and a
failed session stays so: every later tick answers `sessionFailed` and changes nothing.
`first_tick_validates` puts this together for every image and every kind of source.
-/

namespace RadioFlash

open Source

/-- The header parse refuses only with a validation error. -/
theorem OemHeader.parse_error {bytes : Array UInt8} {e : Error}
    (h : OemHeader.parse bytes = .error e) : ∃ d, e = .validation d := by
  unfold OemHeader.parse at h
  split at h
  · exact ⟨_, (Except.error.inj h).symm⟩
  · cases h

/-- The header check refuses only with a validation error. -/
theorem OemHeader.check_error {hdr : OemHeader} {e : Error} (h : hdr.check = .error e) :
    ∃ d, e = .validation d := by
  unfold OemHeader.check at h
  split at h
  · exact ⟨_, (Except.error.inj h).symm⟩
  split at h
  · exact ⟨_, (Except.error.inj h).symm⟩
  · cases h

/-- Reading a word fails only with a validation error. -/
theorem readU16_error {s s' : Source} {e : Error} (h : readU16.run s = (.error e, s')) :
    ∃ d, e = .validation d := by
  simp only [readU16, Action.run_bind] at h
  rcases hr : (readFull 2).run s with ⟨_ | b, s₁⟩
  · rw [hr] at h
    cases h
    exact readFull_error hr
  · rw [hr] at h
    cases h

/-- Reading the header fails only on a short image or a bad parse. -/
theorem readFrom_error {src src' : Source} {e : Error}
    (h : OemHeader.readFrom.run src = (.error e, src')) : ∃ d, e = .validation d := by
  have hseek := seek_run_of_le (s := src) (o := 0) (Nat.zero_le _)
  simp only [OemHeader.readFrom, Action.run_bind, hseek] at h
  rcases hr : (readFull 16).run { src with pos := (0 : UInt32).toNat } with ⟨_ | bytes, s₁⟩
  · rw [hr] at h
    cases h
    exact readFull_error hr
  rw [hr] at h
  dsimp only at h
  rcases hp : OemHeader.parse bytes with e' | hdr
  · rw [hp] at h
    cases h
    exact OemHeader.parse_error hp
  · rw [hp] at h
    cases h

/-- Summing the image fails only where a piece of it is missing. Strong induction on the bytes left,
as `sumChunks` recurses on fewer of them. -/
theorem sumChunks_error {chunk : Nat} {hc : 0 < chunk} {rem : Nat} {sum : UInt16} {src : Source}
    {scr : Array UInt8} {e : Error} {p : Source × Array UInt8}
    (h : (sumChunks chunk hc rem sum).run (src, scr) = (.error e, p)) : ∃ d, e = .validation d := by
  induction rem using Nat.strongRecOn generalizing sum src scr with
  | _ rem ih =>
  rw [sumChunks] at h
  split at h
  · cases h
  simp only [Action.run_bind, Action.run_focus] at h
  rcases hr : (readFull (min rem chunk)).run src with ⟨_ | piece, src'⟩
  · rw [hr] at h
    cases h
    exact readFull_error hr
  rw [hr] at h
  simp only [Action.run_modify] at h
  exact ih _ (by omega) h

/-- `verify` refuses an image only with a validation error, given a scratch buffer that holds a
word. The scratch buffer holds a word, so the piece size is not zero. -/
theorem verify_error {src : Source} {scr : Array UInt8} {e : Error} {p : Source × Array UInt8}
    (hscr : 2 ≤ scr.size) (h : verify.run (src, scr) = (.error e, p)) : ∃ d, e = .validation d := by
  simp only [verify, Action.run_bind, Action.run_focus] at h
  rcases hr : OemHeader.readFrom.run src with ⟨_ | hdr, src₁⟩
  · rw [hr] at h
    cases h
    exact readFrom_error hr
  rw [hr] at h
  obtain ⟨-, -, -, rfl⟩ := readFrom_ok hr
  dsimp only at h
  rcases hc : hdr.check with e' | ⟨⟩
  · rw [hc] at h
    cases h
    exact OemHeader.check_error hc
  rw [hc] at h
  simp only [Action.run_bind, Action.run_get] at h
  rw [dif_neg (by omega)] at h
  have hseek := seek_run_of_le (s := { src with pos := 16 }) (o := 0) (Nat.zero_le _)
  simp only [Action.run_bind, Action.run_focus, hseek] at h
  rcases hs : (sumChunks (scr.size / 2 * 2) _ hdr.imageLen.toNat 0).run
    ({ src with pos := (0 : UInt32).toNat }, scr) with ⟨_ | sum, p₁⟩
  · rw [hs] at h
    cases h
    exact sumChunks_error hs
  rw [hs] at h
  dsimp only at h
  split at h
  · rw [Action.run_bind_error _ (Action.run_throw _ _)] at h
    cases h
    exact ⟨_, rfl⟩
  · cases h

/-- Walking the chain within a length the image holds fails only with a validation error: every
seek stays within the image. Strong induction on the room left, as `walkBlocks` does. The read moved
only the cursor, so the rest of the walk stays within the image. -/
theorem walkBlocks_error {src src' : Source} {fl o : Nat} {chain : BlockChain} {e : Error}
    (hle : fl ≤ src.data.size) (hfl : fl < 4294967296)
    (h : (walkBlocks fl o chain).run src = (.error e, src')) : ∃ d, e = .validation d := by
  induction hm : fl - o using Nat.strongRecOn generalizing o chain src with
  | _ m ih =>
  rw [walkBlocks] at h
  split at h
  · cases h
    exact ⟨_, rfl⟩
  rename_i hfit
  simp only [Action.run_bind] at h
  rw [seek_ofNat_run (by omega) (by omega)] at h
  dsimp only at h
  rcases hr : readU16.run { src with pos := o } with ⟨_ | len, s₁⟩
  · rw [hr] at h
    cases h
    exact readU16_error hr
  rw [hr] at h
  dsimp only at h
  split at h
  · cases h
  split at h
  · cases h
    exact ⟨_, rfl⟩
  have hdata : s₁.data = src.data := by
    have hkeep := (Action.keeps_iff.mp Source.readU16_keeps { src with pos := o }).1
    rwa [hr] at hkeep
  exact ih _ (by omega) (hdata ▸ hle) h rfl

namespace Session

/-! ## Init and the first tick -/

section Init

variable {s s' : Session LoggedPort}

/-- Init refuses an image only with a validation error, given a scratch buffer that holds a
word: `countBlocks` walks only within the length that `verify` read. The chain is walked on the
image `verify` read, up to its declared length. -/
theorem init_error {e : Error} (hscr : 2 ≤ s.scratch.size) (h : (stepOem .init).run s = (.error e, s')) :
    ∃ d, e = .validation d := by
  rw [init_run] at h
  rcases hv : verify.run (s.source, s.scratch) with ⟨_ | hdr, p⟩ <;> rw [hv] at h <;> dsimp only at h
  · cases h
    exact verify_error hscr hv
  rcases hc : (countBlocks hdr).run p.1 with ⟨_ | chain, src⟩ <;> rw [hc] at h <;> dsimp only at h
  · cases h
    obtain ⟨-, -, hcov, q, hq⟩ := verify_ok hv
    rw [hq] at hc
    have hwalk : (walkBlocks hdr.imageLen.toNat hdr.headerLen.toNat {}).run { s.source with pos := q } =
        (.error e, src) := hc
    exact walkBlocks_error (hcov.setPos q).size_ge (UInt32.toNat_lt _) hwalk
  · cases h

/-- What Init can do: accept the image and wait at Reset, or refuse it and stay at its step.
Either way it makes no call on the link: it reads the image into the scratch buffer only. -/
theorem init_cases {r : Except Error Step} (h : (stepOem .init).run s = (r, s')) :
    s'.target = s.target ∧
      (Accepts s ∧ r = .ok .pause ∧ s'.phase = .oem .reset ∨
        ¬ Accepts s ∧ r.isOk = false ∧ s'.phase = s.phase) := by
  rw [init_run] at h
  rcases hv : verify.run (s.source, s.scratch) with ⟨_ | hdr, p⟩ <;> rw [hv] at h <;> dsimp only at h
  · -- `verify` refused the image
    cases h
    refine ⟨rfl, .inr ⟨?_, rfl, rfl⟩⟩
    rintro ⟨hdr', p', c', src', hv', -⟩
    rw [hv] at hv'
    cases hv'
  rcases hc : (countBlocks hdr).run p.1 with ⟨_ | chain, src⟩ <;> rw [hc] at h <;> dsimp only at h
  · -- `countBlocks` refused the chain
    cases h
    refine ⟨rfl, .inr ⟨?_, rfl, rfl⟩⟩
    rintro ⟨hdr', p', c', src', hv', hc'⟩
    rw [hv] at hv'
    cases hv'
    rw [hc] at hc'
    cases hc'
  · cases h
    exact ⟨rfl, .inl ⟨⟨hdr, p, chain, src, hv, hc⟩, rfl, rfl⟩⟩

end Init

section Ticks

variable {s s' : Session LoggedPort} {st : OemState}

/-- A tick whose first step yields ends there. -/
theorem tick_of_pause (hst : s.phase = .oem st) (hlive : st ≠ .failure)
    (h : (stepOem st).run s = (.ok .pause, s')) :
    tick.run s = (.ok (if s'.isComplete then .complete else .pending), s') := by
  have hok : s.isFailed = false := by
    cases st <;> simp_all [isFailed]
  have hrun : (runSteps 6).run s = (.ok (if s'.isComplete then .complete else .pending), s') := by
    simp only [runSteps, Action.run_bind, Action.run_get, hst, h]
    rfl
  unfold tick
  simp only [Action.run_bind, Action.run_get, hok, Bool.false_eq_true, if_false]
  rw [Action.run_tryCatch, Action.run_bind, hrun]
  by_cases hc : s'.isComplete = true <;> simp [hc, Action.run_bind]

/-- A tick whose first step fails ends with that failure, and marks the session failed. -/
theorem tick_of_error {e : Error} (hst : s.phase = .oem st) (hlive : st ≠ .failure)
    (h : (stepOem st).run s = (.error e, s')) :
    tick.run s = (.error e, settle (.error e : Except Error Step) s') := by
  have hok : s.isFailed = false := by
    cases st <;> simp_all [isFailed]
  have hrun : (runSteps 6).run s = (.error e, s') := by
    simp only [runSteps, Action.run_bind, Action.run_get, hst, h]
  unfold tick
  simp only [Action.run_bind, Action.run_get, hok, Bool.false_eq_true, if_false]
  rw [Action.run_tryCatch, Action.run_bind, hrun]
  simp only [Action.run_bind, say_run, Action.run_modify, Action.run_throw]
  rfl

/-- A failed session answers every tick with `sessionFailed`, and stays as it is. -/
theorem tick_of_failed {π : Type} [SerialLink π] {s : Session π} (h : s.isFailed = true) :
    tick.run s = (.error .sessionFailed, s) := by
  simp [tick, Action.run_bind, h]

/-- Whatever its surroundings do, a failed OEM session stays failed, and each of its ticks
answers `sessionFailed` and changes nothing. A tick of a failed session changes nothing, and the
surroundings do not touch the phase. -/
theorem reachable_of_failed {s₁ : Session LoggedPort} (h₁ : s₁.phase = .oem .failure)
    (h : Reachable s₁ s) : s.phase = .oem .failure ∧ tick.run s = (.error .sessionFailed, s) := by
  have hfailed : s.phase = .oem .failure := by
    induction h with
    | start => exact h₁
    | tick _ ih =>
      rw [advance, tick_of_failed (by simp [isFailed, ih])]
      exact ih
    | meet w _ ih => exact ih
  exact ⟨hfailed, tick_of_failed (by simp [isFailed, hfailed])⟩

end Ticks

/-- The first tick of an OEM session validates its image and makes no call on the link, whatever
the image and its source. It accepts exactly the images that `verify` and `countBlocks` accept,
and then waits at Reset; it refuses any other with a validation error, and the session is failed
for good: every later tick answers `sessionFailed` and changes nothing. -/
theorem first_tick_validates (t : Target LoggedPort) (src : Source) (force : Bool) :
    (tick.run (make t src .oem force)).2.target = t ∧
    (Accepts (make t src .oem force) →
      (tick.run (make t src .oem force)).1 = .ok .pending ∧
      (tick.run (make t src .oem force)).2.phase = .oem .reset) ∧
    (¬ Accepts (make t src .oem force) →
      (∃ d, (tick.run (make t src .oem force)).1 = .error (.validation d)) ∧
      ∀ s, Reachable (tick.run (make t src .oem force)).2 s →
        s.phase = .oem .failure ∧ tick.run s = (.error .sessionFailed, s)) := by
  have hst : (make t src .oem force).phase = .oem .init := rfl
  have hscr : 2 ≤ (make t src .oem force).scratch.size := by simp [make, scratchSize]
  rcases hstep : (stepOem .init).run (make t src .oem force) with ⟨r, s₁⟩
  obtain ⟨htarget, ⟨hacc, rfl, hreset⟩ | ⟨hnot, hfailed, hphase⟩⟩ := init_cases hstep
  · -- accepted: the session waits at Reset, having called nothing on the link
    have hrun := tick_of_pause hst (by decide) hstep
    rw [show s₁.isComplete = false by simp [isComplete, hreset]] at hrun
    rw [hrun]
    exact ⟨htarget, fun _ => ⟨rfl, hreset⟩, fun hnot => absurd hacc hnot⟩
  · -- refused: a validation error, and the session is marked failed
    cases r with
    | ok step => cases hfailed
    | error e =>
      have hfail : (settle (.error e : Except Error Step) s₁).phase = .oem .failure :=
        settle_error_phase e (hphase.trans hst)
      rw [tick_of_error hst (by decide) hstep]
      obtain ⟨d, rfl⟩ := init_error hscr hstep
      exact ⟨htarget, fun hacc => absurd hacc hnot, fun _ => ⟨⟨d, rfl⟩, fun s hs => reachable_of_failed hfail hs⟩⟩

/-- An OEM session on an empty image is not accepted, and its first tick fails validation. An empty
image has no header to parse. -/
theorem empty_image_refused :
    ¬ Accepts (make (Target.make ({ rx := default } : LoggedPort)) (Source.ofBytes #[]) .oem false) ∧
      ∃ d, (tick.run (make (Target.make ({ rx := default } : LoggedPort)) (Source.ofBytes #[]) .oem false)).1 =
        .error (.validation d) := by
  have hnot : ¬ Accepts (make (Target.make ({ rx := default } : LoggedPort)) (Source.ofBytes #[]) .oem false) := by
    rintro ⟨hdr, p, c, src, hv, -⟩
    obtain ⟨hparse, -⟩ := verify_ok hv
    simp [make, Source.ofBytes, OemHeader.parse] at hparse
  exact ⟨hnot, ((first_tick_validates _ _ _).2.2 hnot).1⟩

end Session

end RadioFlash

import RadioFlash.Proofs.XmodemRetries
/-!
# A receiver that never acknowledges

Once a packet is in the air, the sender writes copies of it until an ACK comes. Without one it
gives up after the third copy: `Transfer.reachable_unanswered` shows that, until the next ACK,
the packet stays in the air, the same bytes in the buffer, or the sender has failed with exactly
three copies of it and CAN CAN on the wire since the ACK before it; and a tick that fails there
fails with `cancelled`.

That it does give up needs surroundings that let it: a receiver that says anything but ACK, or
stays silent for the ACK timeout, and a link that takes a byte of every write at least
(`Transfer.NeverAcks`). Under them `Transfer.budget` goes down at every tick
(`Transfer.Retries.tick_progress`), so the sender gives up before it runs out
(`Transfer.NeverAcks.gives_up`).

`Transfer.sender_fails_cleanly` puts together how a sender fails at every state it reaches: what
a failed tick leaves on the wire, the copies between two ACKs, the giving up above, a short read
from the image, and a buffer without room for a packet.
-/

namespace RadioFlash

open RadioFlash.Action

namespace Xmodem

namespace Phase

/-- A packet is in the air: about to be copied, being copied, or waiting for its ACK. -/
def inAir : Phase → Bool
  | .resend | .sending | .waitAck => true
  | _ => false

end Phase

namespace Transfer

section Unanswered

variable {t t' : Transfer LoggedPort} {now : Millis} {r : Except Error Step}

/-- A step with a packet in the air keeps it there with the same bytes in the buffer, or gives up
after the third copy, or reads ACK. No other step starts with a packet in the air. -/
theorem Moves.in_air (hm : Moves now t r t') (h : Retries t) (hin : t.sender.phase.inAir = true) :
    ((∃ a, r = .ok a) ∧ t'.sender.phase.inAir = true ∧ t'.held = t.held) ∨
      (r = .error .cancelled ∧ unacked t'.port.log = copies t.held attempts 0) ∨
      (r = .ok .pause ∧ ∃ c, t'.port.log = t.port.log ++ [c] ∧ c.isAck = true) := by
  cases hm with
  | resend hph => exact .inl ⟨⟨_, rfl⟩, rfl, rfl⟩
  | write hph _ => exact .inl ⟨⟨_, rfl⟩, hin, rfl⟩
  | written hph _ => exact .inl ⟨⟨_, rfl⟩, rfl, rfl⟩
  | acked hph hb => exact .inr (.inr ⟨rfl, _, rfl, by rw [hb]; rfl⟩)
  | idle hph _ _ => exact .inl ⟨⟨_, rfl⟩, hin, rfl⟩
  | retry hph hb hfail =>
    obtain ⟨k, hk, hpos, hu⟩ := h.pace.waitAck hph
    rcases hfail with ⟨hz, rfl, rfl⟩ | ⟨hz, rfl, rfl⟩
    · -- the third copy went unanswered
      refine .inr (.inl ⟨rfl, ?_⟩)
      have hk3 : k = attempts := by unfold attempts at hk ⊢; omega
      show unacked (t.port.log ++ [.read 1 t.port.heard]) = _
      rw [unacked_read (heard_ne_ack hb), hu, hk3]
    · exact .inl ⟨⟨_, rfl⟩, rfl, rfl⟩
  | rest hph => rcases hph with hph | hph <;> rw [hph] at hin <;> cases hin
  | _ => simp_all [Phase.inAir]

/-- The steps of a tick with a packet in the air: as one step. On to the next step, the packet still
in the air. -/
theorem Retries.steps_in_air (h : Retries t) (hin : t.sender.phase.inAir = true) {n : Nat}
    {r : Except Error Status} (hrun : (steps now n).run t = (r, t')) :
    ((∃ a, r = .ok a) ∧ t'.sender.phase.inAir = true ∧ t'.held = t.held) ∨
      (r = .error .cancelled ∧ unacked t'.port.log = copies t.held attempts 0) ∨
      ((∃ a, r = .ok a) ∧ ∃ calls c, t'.port.log = t.port.log ++ calls ∧ c ∈ calls ∧ c.isAck = true) := by
  induction n generalizing t with
  | zero =>
    simp only [Transfer.steps, run_pure, Prod.mk.injEq] at hrun
    obtain ⟨rfl, rfl⟩ := hrun
    exact .inl ⟨⟨_, rfl⟩, hin, rfl⟩
  | succ n ih =>
    rw [steps_succ_run] at hrun
    rcases hstep : (step now).run t with ⟨r₁, t₁⟩
    have hm := step_moves hstep
    rw [hstep] at hrun
    rcases hm.in_air h hin with ⟨⟨a, rfl⟩, hin₁, hheld⟩ | ⟨rfl, hu⟩ | ⟨rfl, c, hlog, hc⟩
    · cases a with
      | goOn =>
        rcases ih (hm.after h) hin₁ hrun with ⟨hok, hin', hheld'⟩ | ⟨hr, hu⟩ | ⟨hok, calls, c, hlog, hc⟩
        · exact .inl ⟨hok, hin', hheld'.trans hheld⟩
        · exact .inr (.inl ⟨hr, hheld ▸ hu⟩)
        · obtain ⟨calls₁, hlog₁, -⟩ := keeps_iff.mp (step_quiet now) t
          rw [hstep] at hlog₁
          exact .inr (.inr ⟨hok, calls₁ ++ calls, c, by rw [hlog, hlog₁, List.append_assoc],
            List.mem_append_right _ hc.1, hc.2⟩)
      | pause =>
        obtain ⟨rfl, rfl⟩ := Prod.mk.inj hrun
        exact .inl ⟨⟨_, rfl⟩, hin₁, hheld⟩
    · obtain ⟨rfl, rfl⟩ := Prod.mk.inj hrun
      exact .inr (.inl ⟨rfl, hu⟩)
    · -- ACK ends the tick
      obtain ⟨rfl, rfl⟩ := Prod.mk.inj hrun
      exact .inr (.inr ⟨⟨_, rfl⟩, [c], c, hlog, List.mem_singleton_self _, hc⟩)

/-- A packet in the air is not a finished transfer. -/
theorem Phase.inAir_ne_success {ph : Phase} (h : ph.inAir = true) : ph ≠ .success := by
  rintro rfl
  cases h

/-- A packet in the air is not a failed transfer. -/
theorem Phase.inAir_ne_failure {ph : Phase} (h : ph.inAir = true) : ph ≠ .failure := by
  rintro rfl
  cases h

/-- A tick with a packet in the air keeps it there with the same bytes in the buffer, or gives up
with `cancelled` after three copies and CAN CAN, or reads ACK. -/
theorem Retries.tick_in_air (h : Retries t) (hin : t.sender.phase.inAir = true)
    {r : Except Error Status} (hrun : (Transfer.tick now).run t = (r, t')) :
    ((∃ a, r = .ok a) ∧ t'.sender.phase.inAir = true ∧ t'.held = t.held) ∨
      (r = .error .cancelled ∧ t'.sender.phase = .failure ∧
        ∃ j, unacked t'.port.log = copies t.held attempts 0 ++ [can, can].take j) ∨
      ((∃ a, r = .ok a) ∧ ∃ calls c, t'.port.log = t.port.log ++ calls ∧ c ∈ calls ∧ c.isAck = true) := by
  rw [tick_live (Phase.inAir_ne_success hin) (Phase.inAir_ne_failure hin) h.room] at hrun
  rcases hsteps : (steps now 6).run t with ⟨r₁, t₁⟩
  rw [hsteps] at hrun
  rcases h.steps_in_air hin hsteps with ⟨⟨a, rfl⟩, hin₁, hheld⟩ | ⟨rfl, hu⟩ | ⟨⟨a, rfl⟩, hack⟩
  · obtain ⟨rfl, rfl⟩ := Prod.mk.inj hrun
    exact .inl ⟨⟨a, rfl⟩, hin₁, hheld⟩
  · -- the third copy went unanswered: CAN CAN follows
    obtain ⟨rfl, rfl⟩ := Prod.mk.inj hrun
    refine .inr (.inl ⟨rfl, rfl, LoggedPort.taken t₁.port.writeChunk 2, ?_⟩)
    show unacked (t₁.port.log ++ [.write [can, can] (LoggedPort.taken t₁.port.writeChunk 2)]) = _
    rw [unacked_write, hu]
  · obtain ⟨rfl, rfl⟩ := Prod.mk.inj hrun
    exact .inr (.inr ⟨⟨a, rfl⟩, hack⟩)

/-- Since a packet `P` went into the air, with no ACK since: it is still in the air, the same
bytes in the buffer, or the sender gave up after three copies of it and CAN CAN. -/
def Unanswered (P : List UInt8) (t : Transfer LoggedPort) : Prop :=
  (t.sender.phase.inAir = true ∧ t.held = P) ∨
    (t.sender.phase = .failure ∧ ∃ j, unacked t.port.log = copies P attempts 0 ++ [can, can].take j)

/-- A run only adds to the log. -/
theorem log_extends_of_reachable {s : Transfer LoggedPort} (h : Reachable s t) :
    ∃ calls, t.port.log = s.port.log ++ calls := by
  induction h with
  | start => exact ⟨[], (List.append_nil _).symm⟩
  | tick _ ih =>
    obtain ⟨calls, hlog⟩ := ih
    obtain ⟨more, hmore, -⟩ := keeps_iff.mp (tick_quiet _) _
    exact ⟨calls ++ more, by rw [Transfer.advance, hmore, hlog, List.append_assoc]⟩
  | meet w _ ih => exact ih

/-- From a state with a packet in the air, every run keeps it unanswered until an ACK is read. -/
theorem reachable_unanswered {t₀ s : Transfer LoggedPort} (h₀ : Retries t₀) (hs : Reachable t₀ s)
    (hin : s.sender.phase.inAir = true) (h : Reachable s t) :
    Unanswered s.held t ∨ ∃ calls c, t.port.log = s.port.log ++ calls ∧ c ∈ calls ∧ c.isAck = true := by
  induction h with
  | start => exact .inl (.inl ⟨hin, rfl⟩)
  | @tick u hu ih =>
    have hr : Retries u := reachable_retries h₀ (hs.trans hu)
    have hrun : (Transfer.tick u.port.now).run u = (_, Transfer.advance u) := rfl
    rcases ih with (⟨hin', hheld⟩ | ⟨hfail, hwire⟩) | ⟨calls, c, hlog, hc, hack⟩
    · obtain ⟨callsᵤ, hlogᵤ⟩ := log_extends_of_reachable hu
      rcases hr.tick_in_air hin' hrun with ⟨-, hin'', hheld'⟩ | ⟨-, hfail', j, hwire'⟩ |
        ⟨-, more, c, hmore, hc, hack⟩
      · exact .inl (.inl ⟨hin'', hheld'.trans hheld⟩)
      · exact .inl (.inr ⟨hfail', j, hheld ▸ hwire'⟩)
      · exact .inr ⟨callsᵤ ++ more, c, by rw [hmore, hlogᵤ, List.append_assoc],
          List.mem_append_right _ hc, hack⟩
    · -- a failed sender stays as it is
      rw [Transfer.advance, tick_failure hfail]
      exact .inl (.inr ⟨hfail, hwire⟩)
    · obtain ⟨more, hmore, -⟩ := keeps_iff.mp (tick_quiet u.port.now) u
      exact .inr ⟨calls ++ more, c, by rw [Transfer.advance, hmore, hlog, List.append_assoc],
        List.mem_append_left _ hc, hack⟩
  | meet w _ ih => exact ih

/-- With a packet in the air and no ACK read since, a tick that fails fails with `cancelled`, and
since the ACK before the packet the wire holds three whole copies of it and then CAN CAN, as
much of it as the link took. -/
theorem tick_error_unanswered {t₀ s : Transfer LoggedPort} (h₀ : Retries t₀) (hs : Reachable t₀ s)
    (hin : s.sender.phase.inAir = true) (h : Reachable s t)
    (hfree : ∀ calls, t.port.log = s.port.log ++ calls → ∀ c ∈ calls, c.isAck = false)
    {e : Error} (hrun : (tick now).run t = (.error e, t')) :
    e = .cancelled ∧ t'.sender.phase = .failure ∧
      ∃ j, unacked t'.port.log = s.held ++ s.held ++ s.held ++ [can, can].take j := by
  rw [← copies_attempts]
  rcases reachable_unanswered h₀ hs hin h with (⟨hin', hheld⟩ | ⟨hfail, hwire⟩) |
    ⟨calls, c, hlog, hc, hack⟩
  · have hr : Retries t := reachable_retries h₀ (hs.trans h)
    rcases hr.tick_in_air hin' hrun with ⟨⟨a, ha⟩, -⟩ | ⟨he, hfail', hwire'⟩ | ⟨⟨a, ha⟩, -⟩
    · cases ha
    · exact ⟨Except.error.inj he, hfail', hheld ▸ hwire'⟩
    · cases ha
  · rw [tick_failure hfail, Prod.mk.injEq] at hrun
    obtain ⟨he, rfl⟩ := hrun
    exact ⟨(Except.error.inj he).symm, hfail, hwire⟩
  · exact absurd hack (by rw [hfree calls hlog c hc]; decide)

end Unanswered

/-! ## Giving up -/

/-- Ticks a packet in the air can still take before its sender gives up, against a receiver that
never acknowledges and a link that takes a byte of every write at least: each copy takes a tick
per byte at most, and each answer one tick. -/
def budget (t : Transfer LoggedPort) : Nat :=
  match t.sender.phase with
  | .resend => t.sender.tries * (t.sender.packetSize + 1)
  | .sending =>
    t.sender.packetSize - t.sender.offset + (t.sender.tries - 1) * (t.sender.packetSize + 1) + 1
  | .waitAck => (t.sender.tries - 1) * (t.sender.packetSize + 1) + 1
  | _ => 0

section Progress

variable {t t' : Transfer LoggedPort} {now : Millis} {r : Except Error Step}

/-- A packet's size is the flags' and the check's: a step that moves the sender on keeps it. -/
@[simp] theorem Sender.packetSize_with (s : Sender) (p : Phase) (n : UInt32) (k o : Nat) (d : Deadline) :
    ({ flags := s.flags, check := s.check, phase := p, packetNum := n, tries := k, offset := o,
        deadline := d } : Sender).packetSize = s.packetSize := rfl

/-- A link that takes something of every write takes something of a copy not yet through. -/
theorem takes_pos (hroom : 3 + t.sender.blockBytes + 2 ≤ t.buffer.size)
    (ho : t.sender.offset < t.sender.packetSize) (hchunk : t.port.writeChunk ≠ some 0) : 0 < t.takes := by
  unfold takes LoggedPort.taken
  rw [chunk_eq_drop, List.length_drop, held_length hroom]
  cases hc : t.port.writeChunk with
  | none => simp only [Option.elim]; omega
  | some c =>
    have : c ≠ 0 := fun h0 => hchunk (by rw [hc, h0])
    simp only [Option.elim]
    omega

/-- What a step at `now` meets that moves a packet in the air on: the receiver says anything but
ACK, or lets the ACK deadline pass in silence, and the link takes a byte of a write at least. -/
structure Unheard (now : Millis) (t : Transfer LoggedPort) : Prop where
  no_ack : t.port.heard ≠ [ack]
  silent : t.sender.phase = .waitAck → t.port.heard = [] → t.sender.deadline.elapsed now = true
  takes : t.port.writeChunk ≠ some 0

/-- A wait for an ACK, if one is going on, started at `now`. -/
def Armed (now : Millis) (t : Transfer LoggedPort) : Prop :=
  t.sender.phase = .waitAck → t.sender.deadline = Deadline.arm now ackTimeoutMs

/-- From `t` to `t'` the packet stayed in the air and spent budget; a wait for its ACK was armed
at `now`. -/
structure Spends (now : Millis) (t t' : Transfer LoggedPort) : Prop where
  in_air : t'.sender.phase.inAir = true
  held : t'.held = t.held
  budget_lt : budget t' < budget t
  armed : Armed now t'

/-- A step with a packet in the air that meets nothing but silence and NAKs: Resend goes on to the
copy at no cost, every other step spends budget, or the sender gives up. A copy from its first byte
costs as much as Resend. Silence lasts past the deadline. -/
theorem Moves.progress (hm : Moves now t r t') (h : Retries t) (hin : t.sender.phase.inAir = true)
    (hu : Unheard now t) :
    (t.sender.phase = .resend ∧ r = .ok .goOn ∧ t'.sender.phase = .sending ∧ t'.port = t.port ∧
        t'.held = t.held ∧ budget t' = budget t) ∨
      (r = .ok .pause ∧ Spends now t t') ∨ r = .error .cancelled := by
  cases hm with
  | resend hph =>
    obtain ⟨k, hk, hpos, -⟩ := h.pace.resend hph
    refine .inl ⟨hph, rfl, rfl, rfl, rfl, ?_⟩
    obtain ⟨n, hn⟩ : ∃ n, t.sender.tries = n + 1 := ⟨_, (Nat.succ_pred_eq_of_pos hpos).symm⟩
    simp only [budget, hph, hn, Sender.packetSize_with, Nat.add_sub_cancel, Nat.succ_mul]
    omega
  | write hph hpart =>
    obtain ⟨k, hk, hpos, ho, -⟩ := h.pace.sending hph
    have hpos' := takes_pos h.room ho hu.takes
    refine .inr (.inl ⟨rfl, hin, rfl, ?_, fun hw => by rw [hph] at hw; cases hw⟩)
    simp only [budget, hph, Sender.packetSize_with]
    have hle := takes_le h.room (Nat.le_of_lt ho)
    omega
  | written hph hfull =>
    obtain ⟨k, hk, hpos, ho, -⟩ := h.pace.sending hph
    refine .inr (.inl ⟨rfl, rfl, rfl, ?_, fun _ => rfl⟩)
    simp only [budget, hph, Sender.packetSize_with]
    omega
  | acked hph hb => exact absurd hb hu.no_ack
  | idle hph hb hd =>
    rcases hph with hph | hph
    · rw [hu.silent hph hb] at hd
      cases hd
    · rw [hph] at hin
      cases hin
  | retry hph hb hfail =>
    rcases hfail with ⟨-, rfl, -⟩ | ⟨hz, rfl, rfl⟩
    · exact .inr (.inr rfl)
    · refine .inr (.inl ⟨rfl, ⟨rfl, rfl, ?_, fun hw => by cases hw⟩⟩)
      simp only [budget, hph, Sender.packetSize_with]
      omega
  | rest hph => rcases hph with hph | hph <;> rw [hph] at hin <;> cases hin
  | _ => simp_all [Phase.inAir]

/-- The steps of a tick, two at least, with a packet in the air that meets nothing but silence
and NAKs: they spend budget, or the sender gives up after the third copy. -/
theorem Retries.steps_progress (h : Retries t) (hin : t.sender.phase.inAir = true) (hu : Unheard now t)
    {n : Nat} {r : Except Error Status} (hrun : (steps now (n + 2)).run t = (r, t')) :
    ((∃ a, r = .ok a) ∧ Spends now t t') ∨
      (r = .error .cancelled ∧ unacked t'.port.log = copies t.held attempts 0) := by
  rw [steps_succ_run] at hrun
  rcases hstep : (step now).run t with ⟨r₁, t₁⟩
  have hm := step_moves hstep
  rw [hstep] at hrun
  rcases hm.progress h hin hu with ⟨-, rfl, hph₁, hport, hheld, hbudget⟩ | ⟨rfl, hs⟩ | rfl
  · -- Resend: the copy starts on the same tick, on the same link
    change (steps now (n + 1)).run t₁ = (r, t') at hrun
    rw [steps_succ_run] at hrun
    rcases hstep₁ : (step now).run t₁ with ⟨r₂, t₂⟩
    have hm₁ := step_moves hstep₁
    rw [hstep₁] at hrun
    have hin₁ : t₁.sender.phase.inAir = true := by rw [hph₁]; rfl
    have hu₁ : Unheard now t₁ :=
      ⟨hport ▸ hu.no_ack, fun hw => (by rw [hph₁] at hw; cases hw), hport ▸ hu.takes⟩
    rcases hm₁.progress (hm.after h) hin₁ hu₁ with ⟨hph', -⟩ | ⟨rfl, hs⟩ | rfl
    · rw [hph₁] at hph'
      cases hph'
    · obtain ⟨rfl, rfl⟩ := Prod.mk.inj hrun
      exact .inl ⟨⟨_, rfl⟩, hs.in_air, hs.held.trans hheld, hbudget ▸ hs.budget_lt, hs.armed⟩
    · obtain ⟨rfl, rfl⟩ := Prod.mk.inj hrun
      rcases hm₁.in_air (hm.after h) hin₁ with ⟨⟨a, ha⟩, -⟩ | ⟨-, hu'⟩ | ⟨⟨⟩, -⟩
      · cases ha
      · exact .inr ⟨rfl, hheld ▸ hu'⟩
  · obtain ⟨rfl, rfl⟩ := Prod.mk.inj hrun
    exact .inl ⟨⟨_, rfl⟩, hs⟩
  · obtain ⟨rfl, rfl⟩ := Prod.mk.inj hrun
    rcases hm.in_air h hin with ⟨⟨a, ha⟩, -⟩ | ⟨-, hu'⟩ | ⟨⟨⟩, -⟩
    · cases ha
    · exact .inr ⟨rfl, hu'⟩

/-- A tick with a packet in the air that meets nothing but silence and NAKs spends budget, or
gives up after the third copy with CAN CAN, as much of it as the link took. -/
theorem Retries.tick_progress (h : Retries t) (hin : t.sender.phase.inAir = true) (hu : Unheard now t)
    {r : Except Error Status} (hrun : (Transfer.tick now).run t = (r, t')) :
    ((∃ a, r = .ok a) ∧ Spends now t t') ∨
      (r = .error .cancelled ∧ t'.sender.phase = .failure ∧
        ∃ j, unacked t'.port.log = copies t.held attempts 0 ++ [can, can].take j) := by
  rw [tick_live (Phase.inAir_ne_success hin) (Phase.inAir_ne_failure hin) h.room] at hrun
  rcases hsteps : (steps now 6).run t with ⟨r₁, t₁⟩
  rw [hsteps] at hrun
  rcases h.steps_progress hin hu (n := 4) hsteps with ⟨⟨a, rfl⟩, hs⟩ | ⟨rfl, hu'⟩
  · obtain ⟨rfl, rfl⟩ := Prod.mk.inj hrun
    exact .inl ⟨⟨a, rfl⟩, hs⟩
  · obtain ⟨rfl, rfl⟩ := Prod.mk.inj hrun
    refine .inr ⟨rfl, rfl, LoggedPort.taken t₁.port.writeChunk 2, ?_⟩
    show unacked (t₁.port.log ++ [.write [can, can] (LoggedPort.taken t₁.port.writeChunk 2)]) = _
    rw [unacked_write, hu']

/-- A packet in the air has budget left. -/
theorem budget_pos (h : Retries t) (hin : t.sender.phase.inAir = true) : 0 < budget t := by
  have hpace := h.pace
  unfold budget
  cases hph : t.sender.phase with
  | resend =>
    obtain ⟨-, -, hpos, -⟩ := hpace.resend hph
    exact Nat.mul_pos hpos (Nat.succ_pos _)
  | sending | waitAck => exact Nat.succ_pos _
  | _ => rw [hph] at hin; cases hin

/-- The budget is at most a tick per byte of three copies and one per answer. -/
theorem budget_le (h : Retries t) : budget t ≤ attempts * (t.sender.packetSize + 1) + 1 := by
  have hpace := h.pace
  unfold budget
  cases hph : t.sender.phase with
  | resend =>
    obtain ⟨k, hk, -⟩ := hpace.resend hph
    have := Nat.mul_le_mul_right (t.sender.packetSize + 1) (show t.sender.tries ≤ attempts by omega)
    dsimp only
    omega
  | sending =>
    obtain ⟨k, hk, hpos, -⟩ := hpace.sending hph
    have := Nat.mul_le_mul_right (t.sender.packetSize + 1) (show t.sender.tries - 1 ≤ 2 by unfold attempts at hk; omega)
    dsimp only
    unfold attempts
    omega
  | waitAck =>
    obtain ⟨k, hk, -⟩ := hpace.waitAck hph
    have := Nat.mul_le_mul_right (t.sender.packetSize + 1) (show t.sender.tries - 1 ≤ attempts by omega)
    dsimp only
    omega
  | _ => exact Nat.zero_le _

end Progress

/-! ## Runs that never hear ACK -/

section Drive

variable {w : Nat → Surroundings} {start : Millis} {s : Transfer LoggedPort} {i : Nat}

/-- The clock before tick `i` of a run from `start` under `w`. -/
def clockBefore (start : Millis) (w : Nat → Surroundings) : Nat → Millis
  | 0 => start
  | i + 1 => (w i).now

/-- Surroundings that let a sender give up: at every tick the receiver has sent anything but ACK,
or nothing at a tick that comes the ACK timeout or more (less than half the clock's range) after
the tick before, and the link takes a byte of a write at least. -/
structure NeverAcks (start : Millis) (w : Nat → Surroundings) : Prop where
  no_ack : ∀ i, ack ∉ (w i).rx.toList
  takes : ∀ i, (w i).writeChunk ≠ some 0
  silence : ∀ i, (w i).rx.toList = [] →
    ackTimeoutMs.toNat ≤ ((w i).now - clockBefore start w i).toNat ∧
      ((w i).now - clockBefore start w i).toNat < ackTimeoutMs.toNat + 2147483648

/-- The run from `t` under `w`: before tick `i` the surroundings become `w i`. -/
def drive (w : Nat → Surroundings) (t : Transfer LoggedPort) : Nat → Transfer LoggedPort
  | 0 => t
  | i + 1 => advance (meetPort (w i) (drive w t i))

/-- Tick `i` of the run from `t` under `w`: what it returns and where it leaves the transfer. -/
def driveTick (w : Nat → Surroundings) (t : Transfer LoggedPort) (i : Nat) :
    Except Error Status × Transfer LoggedPort :=
  (tick (w i).now).run (meetPort (w i) (drive w t i))

/-- The run's next state is the tick on the surroundings of its step. -/
theorem drive_succ (w : Nat → Surroundings) (t : Transfer LoggedPort) (i : Nat) :
    drive w t (i + 1) = (driveTick w t i).2 := rfl

/-- Every state of a run is reachable from its start. -/
theorem drive_reachable (w : Nat → Surroundings) (t : Transfer LoggedPort) (i : Nat) :
    Reachable t (drive w t i) := by
  induction i with
  | zero => exact .start
  | succ i ih => exact (ih.meet (w i)).tick

/-- Ticks leave the clock where the surroundings put it. -/
theorem drive_now (w : Nat → Surroundings) (t : Transfer LoggedPort) (i : Nat) :
    (drive w t i).port.now = clockBefore t.port.now w i := by
  cases i with
  | zero => rfl
  | succ i =>
    obtain ⟨-, -, -, -, hnow⟩ := keeps_iff.mp (tick_quiet (w i).now) (meetPort (w i) (drive w t i))
    exact hnow

/-- What a tick meets under such surroundings moves a packet in the air on, provided its wait
for an ACK started at the tick before. -/
theorem NeverAcks.unheard (hw : NeverAcks start w) {u : Transfer LoggedPort}
    (harm : Armed (clockBefore start w i) u) : Unheard (w i).now (meetPort (w i) u) where
  no_ack hb := by
    change ((w i).rx.take 1).1 = [ack] at hb
    rw [ByteQueue.take_fst] at hb
    exact hw.no_ack i (List.mem_of_mem_take (hb ▸ List.mem_singleton_self ack))
  silent hph hb := by
    change ((w i).rx.take 1).1 = [] at hb
    rw [ByteQueue.take_fst, List.take_eq_nil_iff] at hb
    have hnil : (w i).rx.toList = [] := hb.resolve_left (by decide)
    rw [show (meetPort (w i) u).sender.deadline = _ from harm hph]
    exact (Deadline.elapsed_arm_iff (by decide)).mpr (hw.silence i hnil)
  takes := hw.takes i

variable {t₀ : Transfer LoggedPort}

/-- Tick `i` of a run that never hears ACK, from a packet in the air whose wait started at the
tick before: it spends budget, or gives up after the third copy. Meeting the surroundings leaves the
packet and the budget alone. -/
theorem NeverAcks.drive_tick (hw : NeverAcks s.port.now w) (h₀ : Retries t₀) (hs : Reachable t₀ s)
    (hin : (drive w s i).sender.phase.inAir = true) (harm : Armed (clockBefore s.port.now w i) (drive w s i)) :
    ((∃ a, (driveTick w s i).1 = .ok a) ∧ Spends (w i).now (drive w s i) (drive w s (i + 1))) ∨
      ((driveTick w s i).1 = .error .cancelled ∧ (driveTick w s i).2.sender.phase = .failure ∧
        ∃ j, unacked (driveTick w s i).2.port.log = copies (drive w s i).held attempts 0 ++ [can, can].take j) := by
  have hr : Retries (meetPort (w i) (drive w s i)) :=
    reachable_retries h₀ (hs.trans ((drive_reachable w s i).meet (w i)))
  have hrun : (tick (w i).now).run (meetPort (w i) (drive w s i)) =
      ((driveTick w s i).1, (driveTick w s i).2) := rfl
  rcases hr.tick_progress hin (hw.unheard harm) hrun with ⟨hok, hsp⟩ | hfail
  · exact .inl ⟨hok, hsp.in_air, hsp.held, hsp.budget_lt, hsp.armed⟩
  · exact .inr hfail

/-- Until a tick fails, a run that never hears ACK keeps the packet in the air, spending a tick of
budget at least per tick. -/
theorem NeverAcks.in_air (hw : NeverAcks s.port.now w) (h₀ : Retries t₀) (hs : Reachable t₀ s)
    (hin : s.sender.phase.inAir = true) (harm : Armed s.port.now s) :
    ∀ i, (∀ k < i, ∃ a, (driveTick w s k).1 = .ok a) →
      (drive w s i).sender.phase.inAir = true ∧ (drive w s i).held = s.held ∧
        Armed (clockBefore s.port.now w i) (drive w s i) ∧ budget (drive w s i) + i ≤ budget s := by
  intro i
  induction i with
  | zero => exact fun _ => ⟨hin, rfl, harm, Nat.le_refl _⟩
  | succ i ih =>
    intro hok
    obtain ⟨hin', hheld, harm', hbudget⟩ := ih fun k hk => hok k (Nat.lt_succ_of_lt hk)
    rcases hw.drive_tick h₀ hs hin' harm' with ⟨-, hsp⟩ | ⟨herr, -⟩
    · exact ⟨hsp.in_air, hsp.held.trans hheld, hsp.armed, by have := hsp.budget_lt; omega⟩
    · -- tick `i` succeeded
      obtain ⟨a, ha⟩ := hok i (Nat.lt_succ_self i)
      rw [herr] at ha
      cases ha

/-- A run that never hears ACK, from a packet in the air whose wait started at the tick before,
gives up within its budget: every tick before succeeds, and the failed tick leaves the sender in
failure with three copies of the packet and CAN CAN, as much of it as the link took, on the wire
since the last ACK. The first failing tick comes before the budget runs out. -/
theorem NeverAcks.gives_up (hw : NeverAcks s.port.now w) (h₀ : Retries t₀) (hs : Reachable t₀ s)
    (hin : s.sender.phase.inAir = true) (harm : Armed s.port.now s) :
    ∃ i < budget s, (∀ k < i, ∃ a, (driveTick w s k).1 = .ok a) ∧
      (driveTick w s i).1 = .error .cancelled ∧ (driveTick w s i).2.sender.phase = .failure ∧
        ∃ j, unacked (driveTick w s i).2.port.log = copies s.held attempts 0 ++ [can, can].take j := by
  have hfirst : ∀ n ≤ budget s, (∃ i < n, (∀ k < i, ∃ a, (driveTick w s k).1 = .ok a) ∧
      (driveTick w s i).1 = .error .cancelled ∧ (driveTick w s i).2.sender.phase = .failure ∧
        ∃ j, unacked (driveTick w s i).2.port.log = copies s.held attempts 0 ++ [can, can].take j) ∨
      ∀ k < n, ∃ a, (driveTick w s k).1 = .ok a := by
    intro n
    induction n with
    | zero => exact fun _ => .inr fun k hk => absurd hk (Nat.not_lt_zero k)
    | succ n ih =>
      intro hn
      rcases ih (Nat.le_of_succ_le hn) with ⟨i, hi, hfail⟩ | hok
      · exact .inl ⟨i, Nat.lt_succ_of_lt hi, hfail⟩
      obtain ⟨hin', hheld, harm', -⟩ := hw.in_air h₀ hs hin harm n hok
      rcases hw.drive_tick h₀ hs hin' harm' with ⟨hokn, -⟩ | ⟨herr, hph, hwire⟩
      · refine .inr fun k hk => ?_
        rcases Nat.lt_succ_iff_lt_or_eq.mp hk with hk | rfl
        · exact hok k hk
        · exact hokn
      · exact .inl ⟨n, Nat.lt_succ_self n, hok, herr, hph, hheld ▸ hwire⟩
  rcases hfirst (budget s) (Nat.le_refl _) with hfail | hok
  · exact hfail
  · -- a run that never failed would have spent all the budget with the packet still in the air
    obtain ⟨hin', -, -, hbudget⟩ := hw.in_air h₀ hs hin harm (budget s) hok
    have hpos := budget_pos (reachable_retries h₀ (hs.trans (drive_reachable w s _))) hin'
    omega

end Drive

/-! ## How a sender fails -/

section Contract

/-- How a sender at `t` fails, whatever the image, the receiver, the clock and the link do next. -/
structure FailsCleanly (t : Transfer LoggedPort) : Prop where
  /-- Between two ACKs it writes part of three copies of one packet and CAN CAN, or of three EOTs
  at most and CAN CAN, at every point of its log. -/
  history : History t.sender.packetSize t.port.log
  /-- A tick that fails leaves the sender failed, having offered CAN CAN to the link on that tick
  unless it had failed before; every later tick fails with `cancelled` and changes nothing. -/
  aborts : ∀ now e t', (tick now).run t = (.error e, t') →
    t'.sender.phase = .failure ∧
      ((t.sender.phase = .failure ∧ e = .cancelled ∧ t' = t) ∨
        ∃ calls, t'.port.log =
          t.port.log ++ calls ++ [.write [can, can] (LoggedPort.taken t'.port.writeChunk 2)]) ∧
      ∀ u, Reachable t' u → ∀ now', (tick now').run u = (.error .cancelled, u)
  /-- A packet in the air that never hears ACK, under surroundings that let the sender give up,
  is given up within three copies' worth of ticks: the ticks before succeed, and the one that
  fails leaves exactly three copies of the packet and CAN CAN, as much of it as the link took,
  on the wire since the last ACK. -/
  gives_up : t.sender.phase.inAir = true → Armed t.port.now t → ∀ w, NeverAcks t.port.now w →
    ∃ i ≤ attempts * (t.sender.packetSize + 1), (∀ k < i, ∃ a, (driveTick w t k).1 = .ok a) ∧
      (driveTick w t i).1 = .error .cancelled ∧ (driveTick w t i).2.sender.phase = .failure ∧
        ∃ j, unacked (driveTick w t i).2.port.log = t.held ++ t.held ++ t.held ++ [can, can].take j
  /-- A source that hands out part of a block while more of the image is left fails the tick
  with a protocol error, and the sender gives up. -/
  short : t.sender.phase = .send → 0 < t.source.grant t.sender.blockBytes →
    t.source.grant t.sender.blockBytes < t.sender.blockBytes →
    t.source.grant t.sender.blockBytes < t.source.remaining → ∀ now, ∃ u,
      (tick now).run t = (.error (.protocol s!"firmware source returned {t.source.grant t.sender.blockBytes} of {t.sender.blockBytes} bytes before end of image"), aborted u)

/-- A sender started on a link nothing was done on, with any flags, image and source, fails
cleanly at every state it reaches when its buffer has room for a packet with a CRC; without that
room it stays as it was, and every tick refuses with an invalid-state error. -/
theorem sender_fails_cleanly {fl : Flags} {t₀ t : Transfer LoggedPort}
    (hsender : t₀.sender = Sender.new fl ∨ t₀.sender = (Sender.new fl).withFlush)
    (hlog : t₀.port.log = []) (h : Reachable t₀ t) :
    (3 + t₀.sender.blockBytes + 2 ≤ t₀.buffer.size → FailsCleanly t) ∧
      (t₀.buffer.size < 3 + t₀.sender.blockBytes + 2 → ∀ now, (tick now).run t = (.error (.invalidState
        s!"XMODEM buffer of {t.buffer.size} bytes cannot hold a {t.sender.blockBytes}-byte block"), t)) := by
  have hph : t₀.sender.phase = .start ∨ t₀.sender.phase = .flush := by
    rcases hsender with hs | hs <;> rw [hs] <;> simp [Sender.new, Sender.withFlush]
  constructor
  · intro hroom
    have h₀ : Retries t₀ := Retries.start hsender hroom hlog
    have ht : Retries t := reachable_retries h₀ h
    refine ⟨ht.history, ?_, ?_, ?_⟩
    · intro now e t' hrun
      obtain ⟨hfail, hwire⟩ := tick_error_aborts ht.room hrun
      exact ⟨hfail, hwire, fun u hu now' => (reachable_of_failure hfail hu).2 now'⟩
    · intro hin harm w hw
      obtain ⟨i, hi, hok, herr, hfail, j, hj⟩ := hw.gives_up h₀ h hin harm
      have hle := budget_le ht
      exact ⟨i, by omega, hok, herr, hfail, j, by rw [hj, copies_attempts]⟩
    · intro hsend hpos hshort hmore now
      exact tick_short hsend ht.room hpos hshort hmore
  · intro hsmall now
    have hs : t₀.sender.phase ≠ .success := by rcases hph with hp | hp <;> rw [hp] <;> decide
    have hf : t₀.sender.phase ≠ .failure := by rcases hph with hp | hp <;> rw [hp] <;> decide
    obtain ⟨hsender', hbuffer⟩ := reachable_of_cramped hs hf hsmall h
    rw [← hsender'] at hs hf
    rw [← hsender', ← hbuffer] at hsmall
    exact tick_cramped hs hf hsmall

/-- A sender with the default flags, a buffer just large enough, and a one-byte image. -/
def roomyStart : Transfer LoggedPort where
  sender := Sender.new {}
  buffer := Array.replicate 133 0
  source := Source.ofBytes #[0x5A]
  port := { rx := default }

/-- One tick into a transfer with room for its packet, the sender fails cleanly whatever comes next. -/
theorem roomyStart_fails_cleanly : FailsCleanly (advance roomyStart) :=
  (sender_fails_cleanly (.inl (rfl : roomyStart.sender = Sender.new {})) rfl (.tick .start)).1
    (by simp [roomyStart, Sender.new, Sender.blockBytes, BlockSize.bytes])

end Contract

end Transfer

end Xmodem

end RadioFlash

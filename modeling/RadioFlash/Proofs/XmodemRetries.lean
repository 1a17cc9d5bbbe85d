import RadioFlash.Proofs.XmodemFailure
/-!
# How often an XMODEM sender says the same thing

A sender moves to the next packet only on ACK, so what it writes between two ACKs is all it
says about one packet, or about the end of the transfer. `Xmodem.Retransmits` says what that
may be: at most three copies of one packet, or at most three EOTs, and after them at most
CAN CAN. `Transfer.reachable_retries` shows that, for any image source and any behaviour of the
receiver, the clock and the link, every point of the log keeps to it.

The invariant behind it, `Transfer.Retries`, ties the attempts the sender has left to the bytes
on the wire since the last ACK: with `k` copies of the packet out, `k` and the attempts left
add up to three, or to four while a copy's ACK is awaited (`Transfer.Pace`). Each step keeps it
(`Transfer.Moves.after`), and so each tick does.
-/

namespace RadioFlash

open RadioFlash.Action

namespace PortCall

/-- The call is a one-byte read that brought in ACK. -/
def isAck : PortCall → Bool
  | .read 1 [b] => b == Xmodem.ack
  | _ => false

end PortCall

/-- The calls since the last read that brought in ACK; all of them if none did. -/
def sinceAck (calls : List PortCall) : List PortCall :=
  calls.foldl (fun acc c => if c.isAck then [] else acc ++ [c]) []

/-- The bytes written since the last ACK. -/
def unacked (calls : List PortCall) : List UInt8 := sentBytes (sinceAck calls)

section SinceAck

variable {l m : List PortCall}

/-- Calls that bring no ACK only pile up on the calls since the last one. -/
theorem sinceAck_append_of_free (h : ∀ c ∈ m, c.isAck = false) :
    sinceAck (l ++ m) = sinceAck l ++ m := by
  rw [sinceAck, List.foldl_append, ← sinceAck]
  generalize sinceAck l = acc
  induction m generalizing acc with
  | nil => simp
  | cons c m ih =>
    simp only [List.mem_cons, forall_eq_or_imp] at h
    rw [List.foldl_cons, if_neg (by simp [h.1]), ih h.2, List.append_assoc, List.singleton_append]

/-- An ACK leaves no calls since it. -/
theorem sinceAck_ack (c : PortCall) (h : c.isAck = true) : sinceAck (l ++ [c]) = [] := by
  simp [sinceAck, List.foldl_append, h]

/-- Calls that bring no ACK add what they wrote to the bytes since the last one. -/
theorem unacked_append_of_free (h : ∀ c ∈ m, c.isAck = false) :
    unacked (l ++ m) = unacked l ++ sentBytes m := by
  rw [unacked, sinceAck_append_of_free h, sentBytes_append, ← unacked]

/-- A read that brought in anything but ACK leaves the bytes since the last ACK as they were. -/
theorem unacked_read {n : Nat} {got : List UInt8} (h : got ≠ [Xmodem.ack]) :
    unacked (l ++ [.read n got]) = unacked l := by
  have hfree : ∀ c ∈ [PortCall.read n got], c.isAck = false := by
    intro c hc
    rw [List.mem_singleton.mp hc]
    unfold PortCall.isAck
    split
    · next b heq =>
      simp only [PortCall.read.injEq] at heq
      obtain ⟨rfl, rfl⟩ := heq
      simpa using fun hb => h (by rw [hb])
    · rfl
  rw [unacked_append_of_free hfree]
  simp [PortCall.sent]

/-- A write adds what the link took to the bytes since the last ACK. -/
theorem unacked_write (bs : List UInt8) (n : Nat) :
    unacked (l ++ [.write bs n]) = unacked l ++ bs.take n := by
  rw [unacked_append_of_free (by simp [PortCall.isAck])]
  simp [PortCall.sent]

/-- An ACK leaves no bytes since it. -/
theorem unacked_ack : unacked (l ++ [.read 1 [Xmodem.ack]]) = [] := by
  rw [unacked, sinceAck_ack _ (by decide)]
  rfl

/-- Draining reads 64 bytes at a time, which is no ACK and writes nothing. -/
theorem unacked_drain (h : ∀ c ∈ m, ∃ got, c = .read 64 got) : unacked (l ++ m) = unacked l := by
  have hfree : ∀ c ∈ m, c.isAck = false := by
    intro c hc
    obtain ⟨got, rfl⟩ := h c hc
    rfl
  rw [unacked_append_of_free hfree, List.append_right_eq_self]
  induction m with
  | nil => rfl
  | cons c m ih =>
    obtain ⟨got, rfl⟩ := h c (List.mem_cons_self ..)
    simpa [PortCall.sent] using ih (fun c hc => h c (List.mem_cons_of_mem _ hc))
      (fun c hc => hfree c (List.mem_cons_of_mem _ hc))

/-- The calls since the last ACK end the log. The fold keeps the log, but for what it has left
behind. -/
theorem sinceAck_suffix (l : List PortCall) : ∃ pre, l = pre ++ sinceAck l := by
  suffices h : ∀ acc : List PortCall, ∃ pre,
      acc ++ l = pre ++ l.foldl (fun acc c => if c.isAck then [] else acc ++ [c]) acc by
    obtain ⟨pre, hpre⟩ := h []
    exact ⟨pre, hpre⟩
  induction l with
  | nil => exact fun acc => ⟨[], by simp⟩
  | cons c l ih =>
    intro acc
    rw [List.foldl_cons]
    by_cases hc : c.isAck = true
    · obtain ⟨pre, hpre⟩ := ih []
      rw [if_pos hc, List.nil_append] at *
      exact ⟨acc ++ c :: pre, by rw [List.append_assoc, List.cons_append, ← hpre]⟩
    · obtain ⟨pre, hpre⟩ := ih (acc ++ [c])
      rw [if_neg hc]
      exact ⟨pre, by rw [← hpre, List.append_assoc, List.singleton_append]⟩

/-- A log that wrote nothing has written nothing since its last ACK either. -/
theorem unacked_of_silent (h : sentBytes l = []) : unacked l = [] := by
  obtain ⟨pre, hpre⟩ := sinceAck_suffix l
  rw [hpre, sentBytes_append, List.append_eq_nil_iff] at h
  exact h.2

/-- Draining writes nothing. -/
theorem sentBytes_drain (h : ∀ c ∈ m, ∃ got, c = .read 64 got) : sentBytes m = [] := by
  induction m with
  | nil => rfl
  | cons c m ih =>
    obtain ⟨got, rfl⟩ := h c (List.mem_cons_self ..)
    simpa [PortCall.sent] using ih fun c hc => h c (List.mem_cons_of_mem _ hc)

end SinceAck

namespace Xmodem

/-- What a sender may write between two ACKs: at most three copies of one packet of `size` bytes,
or at most three EOTs, and after either at most CAN CAN. -/
def Retransmits (size : Nat) (w : List UInt8) : Prop :=
  (∃ P : List UInt8, P.length = size ∧ w <+: P ++ P ++ P ++ [can, can]) ∨
    ∃ e, e ≤ attempts ∧ w <+: List.replicate e eot ++ [can, can]

/-- At every point of a log, what was written since the ACK before it retransmits. -/
def History (size : Nat) (log : List PortCall) : Prop :=
  ∀ pre, pre <+: log → Retransmits size (unacked pre)

/-- `k` whole copies of a packet, and the first `o` bytes of one more. -/
def copies (P : List UInt8) (k o : Nat) : List UInt8 := (List.replicate k P).flatten ++ P.take o

section Retransmits

variable {size : Nat} {w w' : List UInt8} {P : List UInt8} {log : List PortCall}

/-- Whatever starts a retransmission is a retransmission. -/
theorem Retransmits.of_initial (h : Retransmits size w') (hp : w <+: w') : Retransmits size w := by
  rcases h with ⟨P, hP, hw⟩ | ⟨e, he, hw⟩
  · exact .inl ⟨P, hP, hp.trans hw⟩
  · exact .inr ⟨e, he, hp.trans hw⟩

/-- Writing nothing retransmits. -/
theorem retransmits_nil : Retransmits size [] := .inr ⟨0, Nat.zero_le _, List.nil_prefix⟩

/-- No copies are no bytes. -/
theorem copies_zero (P : List UInt8) : copies P 0 0 = [] := by simp [copies]

/-- A copy written up to `o`, and `n` more of its bytes. -/
theorem copies_write (k o n : Nat) : copies P k o ++ (P.drop o).take n = copies P k (o + n) := by
  rw [copies, copies, List.take_add, List.append_assoc]

/-- A copy written to its end is one more whole copy. -/
theorem copies_full (k : Nat) {o : Nat} (ho : P.length ≤ o) : copies P k o = copies P (k + 1) 0 := by
  rw [copies, copies, List.take_of_length_le ho, List.replicate_succ', List.flatten_append]
  simp

/-- Copies and a piece of one more start the next whole copy's run. -/
theorem copies_prefix_succ (k o : Nat) : copies P k o <+: copies P (k + 1) 0 := by
  rw [← copies_full k (Nat.le_refl P.length), copies, copies, List.take_length]
  exact (List.prefix_append_right_inj _).mpr (List.take_prefix o P)

/-- Fewer whole copies start the run of more. -/
theorem copies_prefix_le {j k : Nat} (h : j ≤ k) : copies P j 0 <+: copies P k 0 := by
  obtain ⟨d, rfl⟩ := Nat.exists_eq_add_of_le h
  simp only [copies, List.take_zero, List.append_nil, ← List.replicate_append_replicate,
    List.flatten_append]
  exact List.prefix_append _ _

/-- Three whole copies are the packet three times. -/
theorem copies_attempts (P : List UInt8) : copies P attempts 0 = P ++ P ++ P := by
  simp [copies, attempts, List.replicate]

/-- Up to three copies of a packet, the last perhaps in part, retransmit it. -/
theorem retransmits_copies {k o : Nat} (hP : P.length = size) (hk : k + 1 ≤ attempts ∨ k = attempts ∧ o = 0) :
    Retransmits size (copies P k o) := by
  have hall : copies P k o <+: copies P attempts 0 := by
    rcases hk with hk | ⟨rfl, rfl⟩
    · exact (copies_prefix_succ k o).trans (copies_prefix_le hk)
    · exact List.prefix_refl _
  rw [copies_attempts] at hall
  exact .inl ⟨P, hP, hall.trans (List.prefix_append _ _)⟩

/-- Three whole copies, then CAN CAN. -/
theorem retransmits_spent (hP : P.length = size) : Retransmits size (copies P attempts 0 ++ [can, can]) := by
  rw [copies_attempts]
  exact .inl ⟨P, hP, List.prefix_refl _⟩

/-- Up to three EOTs, then CAN CAN. -/
theorem retransmits_eots {e : Nat} (he : e ≤ attempts) :
    Retransmits size (List.replicate e eot ++ [can, can]) :=
  .inr ⟨e, he, List.prefix_refl _⟩

/-- A log that wrote nothing retransmits at every point. -/
theorem History.of_silent (h : sentBytes log = []) : History size log := by
  intro pre hpre
  obtain ⟨rest, rfl⟩ := hpre
  rw [sentBytes_append, List.append_eq_nil_iff] at h
  rw [unacked_of_silent h.1]
  exact retransmits_nil

/-- A log that retransmitted goes on doing so through a call after which it still does. -/
theorem History.concat {c : PortCall} (h : History size log) (hc : Retransmits size (unacked (log ++ [c]))) :
    History size (log ++ [c]) := by
  intro pre hpre
  rcases List.prefix_concat_iff.mp hpre with rfl | hpre
  · exact hc
  · exact h pre hpre

/-- Draining keeps every point retransmitting: it writes nothing and brings in no ACK. -/
theorem History.drain {calls : List PortCall} (h : History size log)
    (hw : Retransmits size (unacked log)) (hcalls : ∀ c ∈ calls, ∃ got, c = .read 64 got) :
    History size (log ++ calls) := by
  induction calls generalizing log with
  | nil => simpa using h
  | cons c calls ih =>
    have hc : ∃ got, c = .read 64 got := hcalls c (List.mem_cons_self ..)
    have hone : unacked (log ++ [c]) = unacked log := unacked_drain (by simpa using hc)
    rw [← List.singleton_append, ← List.append_assoc]
    exact ih (h.concat (hone ▸ hw)) (hone ▸ hw) fun c hc => hcalls c (List.mem_cons_of_mem _ hc)

/-- EOTs, and one more if the link took it. -/
theorem replicate_eot_take (e : Nat) {j : Nat} (hj : j ≤ 1) :
    List.replicate e eot ++ [eot].take j = List.replicate (e + j) eot := by
  rcases Nat.le_one_iff_eq_zero_or_eq_one.mp hj with rfl | rfl
  · simp
  · simp [List.replicate_succ']

end Retransmits

/-- A packet is never empty. -/
theorem Sender.packetSize_pos (s : Sender) : 0 < s.packetSize := by
  unfold Sender.packetSize
  omega

/-- A packet is at most header, block and CRC trailer. -/
theorem Sender.packetSize_le (s : Sender) : s.packetSize ≤ 3 + s.blockBytes + 2 := by
  unfold Sender.packetSize
  split <;> omega

namespace Transfer

/-- The packet the buffer holds: its first `packetSize` bytes. -/
def held (t : Transfer LoggedPort) : List UInt8 := (t.buffer.extract 0 t.sender.packetSize).toList

/-- Where the attempts stand against what was written since the last ACK, by phase: `k` copies
of the packet in the buffer, or `e` EOTs, against the attempts left. -/
def Pace (t : Transfer LoggedPort) : Prop :=
  match t.sender.phase with
  | .flush | .start => sentBytes t.port.log = []
  | .send => unacked t.port.log = []
  | .resend => ∃ k, k + t.sender.tries = attempts ∧ 0 < t.sender.tries ∧
      unacked t.port.log = copies t.held k 0
  | .sending => ∃ k, k + t.sender.tries = attempts ∧ 0 < t.sender.tries ∧
      t.sender.offset < t.sender.packetSize ∧ unacked t.port.log = copies t.held k t.sender.offset
  | .waitAck => ∃ k, k + t.sender.tries = attempts + 1 ∧ 0 < t.sender.tries ∧
      unacked t.port.log = copies t.held k 0
  | .eof => ∃ e, e + t.sender.tries ≤ attempts ∧ 0 < t.sender.tries ∧
      unacked t.port.log = List.replicate e eot
  | .finalAck => ∃ e, e + t.sender.tries ≤ attempts + 1 ∧ 0 < t.sender.tries ∧
      unacked t.port.log = List.replicate e eot
  | .success | .failure => True

namespace Pace

variable {t : Transfer LoggedPort} (hp : Pace t)
include hp

/-- Flushing or waiting for the start request, nothing has been written. -/
theorem silent (hph : t.sender.phase = .flush ∨ t.sender.phase = .start) : sentBytes t.port.log = [] := by
  rcases hph with hph | hph <;> simpa only [Pace, hph] using hp

/-- About to assemble a packet, nothing has been written since the last ACK. -/
theorem send (hph : t.sender.phase = .send) : unacked t.port.log = [] := by
  simpa only [Pace, hph] using hp

/-- About to copy the packet again: `k` whole copies out, and the attempts left make three. -/
theorem resend (hph : t.sender.phase = .resend) :
    ∃ k, k + t.sender.tries = attempts ∧ 0 < t.sender.tries ∧ unacked t.port.log = copies t.held k 0 := by
  simpa only [Pace, hph] using hp

/-- Copying: `k` whole copies out and the current one up to the offset. -/
theorem sending (hph : t.sender.phase = .sending) :
    ∃ k, k + t.sender.tries = attempts ∧ 0 < t.sender.tries ∧
      t.sender.offset < t.sender.packetSize ∧ unacked t.port.log = copies t.held k t.sender.offset := by
  simpa only [Pace, hph] using hp

/-- Waiting for an ACK: the copy awaited is out, and counts among the attempts. -/
theorem waitAck (hph : t.sender.phase = .waitAck) :
    ∃ k, k + t.sender.tries = attempts + 1 ∧ 0 < t.sender.tries ∧ unacked t.port.log = copies t.held k 0 := by
  simpa only [Pace, hph] using hp

/-- About to offer EOT: `e` EOTs out since the last ACK. -/
theorem eof (hph : t.sender.phase = .eof) :
    ∃ e, e + t.sender.tries ≤ attempts ∧ 0 < t.sender.tries ∧ unacked t.port.log = List.replicate e eot := by
  simpa only [Pace, hph] using hp

/-- Waiting for the ACK of EOT: the EOT awaited is out, and counts among the attempts. -/
theorem finalAck (hph : t.sender.phase = .finalAck) :
    ∃ e, e + t.sender.tries ≤ attempts + 1 ∧ 0 < t.sender.tries ∧
      unacked t.port.log = List.replicate e eot := by
  simpa only [Pace, hph] using hp

end Pace

/-- What a sender keeps between ticks: room for a packet, a log that retransmits at every point,
and its attempts against what it wrote since the last ACK. -/
structure Retries (t : Transfer LoggedPort) : Prop where
  room : 3 + t.sender.blockBytes + 2 ≤ t.buffer.size
  history : History t.sender.packetSize t.port.log
  pace : Pace t

/-- What a sender keeps once a step failed: as much, and CAN CAN may follow. -/
structure Spent (t : Transfer LoggedPort) : Prop where
  room : 3 + t.sender.blockBytes + 2 ≤ t.buffer.size
  history : History t.sender.packetSize t.port.log
  cancel : Retransmits t.sender.packetSize (unacked t.port.log ++ [can, can])

/-- What a sender keeps after a run that ended with `r`. -/
def After {α : Type} (r : Except Error α) (t : Transfer LoggedPort) : Prop :=
  match r with
  | .ok _ => Retries t
  | .error _ => Spent t

section Retries

variable {t t' : Transfer LoggedPort} {now : Millis} {r : Except Error Step}

/-- With room in the buffer, it holds a whole packet. -/
theorem held_length (hroom : 3 + t.sender.blockBytes + 2 ≤ t.buffer.size) :
    t.held.length = t.sender.packetSize := by
  have hle := Sender.packetSize_le t.sender
  simp only [held, Array.length_toList, Array.size_extract]
  omega

/-- The rest of the copy going out is the packet past the sender's offset. -/
theorem chunk_eq_drop (t : Transfer LoggedPort) : t.chunk = t.held.drop t.sender.offset := by
  rw [chunk, held, Array.toList_extract, Array.toList_extract, List.extract_eq_take_drop,
    List.extract_eq_take_drop, List.drop_zero, Nat.sub_zero, List.drop_take]

/-- A write takes no more than the rest of the copy. -/
theorem takes_le (hroom : 3 + t.sender.blockBytes + 2 ≤ t.buffer.size)
    (ho : t.sender.offset ≤ t.sender.packetSize) : t.sender.offset + t.takes ≤ t.sender.packetSize := by
  have hle := LoggedPort.taken_le t.port.writeChunk t.chunk.length
  rw [chunk_eq_drop, List.length_drop, held_length hroom] at hle
  unfold takes
  rw [chunk_eq_drop, List.length_drop, held_length hroom]
  omega

/-- What a sender wrote since the last ACK retransmits its packet. -/
theorem Retries.retransmits (h : Retries t) : Retransmits t.sender.packetSize (unacked t.port.log) :=
  h.history _ (List.prefix_refl _)

/-- Giving up after a failed step keeps what a sender keeps between ticks. -/
theorem Spent.aborted (h : Spent t) : Retries (aborted t) where
  room := h.room
  history := by
    refine h.history.concat ?_
    rw [unacked_write]
    exact h.cancel.of_initial ((List.prefix_append_right_inj _).mpr (List.take_prefix _ _))
  pace := trivial

/-- A one-byte read that brought in anything but ACK. -/
theorem heard_ne_ack (hb : (t.port.heard = [] ∧ t.sender.deadline.elapsed now = true) ∨
    ∃ b, t.port.heard = [b] ∧ b ≠ ack) : t.port.heard ≠ [ack] := by
  rcases hb with ⟨hb, -⟩ | ⟨b, hb, hne⟩ <;> rw [hb]
  · exact List.cons_ne_nil _ _ |>.symm
  · exact fun h => hne (List.cons.inj h).1

/-- Every step keeps what a sender keeps: one case per move. The trailer is chosen before anything
is written. The piece taken continues the copy. The copy is whole: one more copy out. Silence
changes nothing but the log. -/
theorem Moves.after (hm : Moves now t r t') (h : Retries t) : After r t' := by
  have hw := h.retransmits
  cases hm with
  | @flush q calls hph hcalls =>
    have hp : sentBytes t.port.log = [] := h.pace.silent (.inl hph)
    have hs : sentBytes (t.port.log ++ calls) = [] := by rw [sentBytes_append, hp, sentBytes_drain hcalls]; rfl
    exact Retries.mk h.room (.of_silent hs) hs
  | idleStart hph _ =>
    have hp : sentBytes t.port.log = [] := h.pace.silent (.inr hph)
    have hs : sentBytes (t.port.log ++ [.read 1 t.port.heard]) = [] := by rw [sentBytes_append, hp]; rfl
    exact Retries.mk h.room (.of_silent hs) (by simp only [Pace, hph]; exact hs)
  | accept hph _ _ =>
    have hp : sentBytes t.port.log = [] := h.pace.silent (.inr hph)
    have hs : sentBytes (t.port.log ++ [.read 1 t.port.heard]) = [] := by rw [sentBytes_append, hp]; rfl
    exact Retries.mk h.room (.of_silent hs) (unacked_of_silent hs)
  | finish hph hsize =>
    have hp : unacked t.port.log = [] := h.pace.send hph
    exact Retries.mk (Nat.le_trans h.room (Nat.le_of_eq hsize.symm)) h.history
      ⟨0, by dsimp only; decide, by dsimp only; decide, hp⟩
  | load hph hsize hcalls =>
    have hp : unacked t.port.log = [] := h.pace.send hph
    exact Retries.mk (Nat.le_trans h.room (Nat.le_of_eq hsize.symm)) (h.history.drain hw hcalls)
      ⟨0, rfl, by dsimp only; decide, by rw [unacked_drain hcalls, hp, copies_zero]⟩
  | broken hph hsize =>
    have hp : unacked t.port.log = [] := h.pace.send hph
    exact Spent.mk (Nat.le_trans h.room (Nat.le_of_eq hsize.symm)) h.history
      (by rw [hp]; exact retransmits_eots (e := 0) (Nat.zero_le _))
  | resend hph =>
    obtain ⟨k, hk, hpos, hu⟩ := h.pace.resend hph
    exact Retries.mk h.room h.history ⟨k, hk, hpos, Sender.packetSize_pos _, hu⟩
  | write hph hpart =>
    obtain ⟨k, hk, hpos, ho, hu⟩ := h.pace.sending hph
    have hu' : unacked (t.port.log ++ [.write t.chunk t.takes]) =
        copies t.held k (t.sender.offset + t.takes) := by
      rw [unacked_write, hu, chunk_eq_drop, copies_write]
    have hr := retransmits_copies (k := k) (o := t.sender.offset + t.takes) (held_length h.room)
      (.inl (by omega))
    have hle := takes_le h.room (Nat.le_of_lt ho)
    exact Retries.mk h.room (h.history.concat (hu' ▸ hr))
      (by simp only [Pace, hph]
          exact ⟨k, hk, hpos, (show t.sender.offset + t.takes < t.sender.packetSize by omega), hu'⟩)
  | written hph hfull =>
    obtain ⟨k, hk, hpos, -, hu⟩ := h.pace.sending hph
    have hu' : unacked (t.port.log ++ [.write t.chunk t.takes]) = copies t.held (k + 1) 0 := by
      rw [unacked_write, hu, chunk_eq_drop, copies_write,
        copies_full k (by rw [held_length h.room]; exact Nat.le_of_eq hfull.symm)]
    have hr := retransmits_copies (k := k + 1) (o := 0) (held_length h.room)
      (by unfold attempts at hk ⊢; omega)
    exact Retries.mk h.room (h.history.concat (hu' ▸ hr)) ⟨k + 1, by dsimp only; omega, hpos, hu'⟩
  | acked hph hb =>
    have hu' : unacked (t.port.log ++ [.read 1 t.port.heard]) = [] := by rw [hb]; exact unacked_ack
    exact Retries.mk h.room (h.history.concat (hu' ▸ retransmits_nil)) hu'
  | idle hph hb hd =>
    have hu' : unacked (t.port.log ++ [.read 1 t.port.heard]) = unacked t.port.log :=
      unacked_read (by rw [hb]; exact List.cons_ne_nil _ _ |>.symm)
    refine Retries.mk h.room (h.history.concat (hu' ▸ hw)) ?_
    have hp := h.pace
    rcases hph with hph | hph <;> simp only [Pace, hph, LoggedPort.readOne] at hp ⊢ <;> rw [hu'] <;>
      exact hp
  | retry hph hb hfail =>
    obtain ⟨k, hk, hpos, hu⟩ := h.pace.waitAck hph
    have hu' : unacked (t.port.log ++ [.read 1 t.port.heard]) = unacked t.port.log :=
      unacked_read (heard_ne_ack hb)
    rcases hfail with ⟨hz, rfl, rfl⟩ | ⟨hz, rfl, rfl⟩
    · -- the third copy failed: all three are out
      have hk3 : k = attempts := by unfold attempts at hk ⊢; omega
      refine Spent.mk h.room (h.history.concat (hu' ▸ hw)) ?_
      show Retransmits t.sender.packetSize (unacked (t.port.log ++ [.read 1 t.port.heard]) ++ [can, can])
      rw [hu', hu, hk3]
      exact retransmits_spent (held_length h.room)
    · exact Retries.mk h.room (h.history.concat (hu' ▸ hw))
        ⟨k, by dsimp only; omega, by dsimp only; omega, hu'.trans hu⟩
  | offerEot hph =>
    obtain ⟨e, he, hpos, hu⟩ := h.pace.eof hph
    have hj := LoggedPort.taken_le t.port.writeChunk 1
    have hu' : unacked (t.port.log ++ [.write [eot] (LoggedPort.taken t.port.writeChunk 1)]) =
        List.replicate (e + LoggedPort.taken t.port.writeChunk 1) eot := by
      rw [unacked_write, hu, replicate_eot_take e hj]
    have hr : Retransmits t.sender.packetSize (List.replicate (e + LoggedPort.taken t.port.writeChunk 1) eot) :=
      (retransmits_eots (by omega)).of_initial (List.prefix_append _ _)
    exact Retries.mk h.room (h.history.concat (hu' ▸ hr)) ⟨_, by dsimp only; omega, hpos, hu'⟩
  | done hph hb =>
    have hu' : unacked (t.port.log ++ [.read 1 t.port.heard]) = [] := by rw [hb]; exact unacked_ack
    exact Retries.mk h.room (h.history.concat (hu' ▸ retransmits_nil)) trivial
  | reclose hph hb hfail =>
    obtain ⟨e, he, hpos, hu⟩ := h.pace.finalAck hph
    have hu' : unacked (t.port.log ++ [.read 1 t.port.heard]) = unacked t.port.log :=
      unacked_read (heard_ne_ack hb)
    rcases hfail with ⟨hz, rfl, rfl⟩ | ⟨hz, rfl, rfl⟩
    · -- the third attempt at EOT failed
      refine Spent.mk h.room (h.history.concat (hu' ▸ hw)) ?_
      show Retransmits t.sender.packetSize (unacked (t.port.log ++ [.read 1 t.port.heard]) ++ [can, can])
      rw [hu', hu]
      exact retransmits_eots (by omega)
    · exact Retries.mk h.room (h.history.concat (hu' ▸ hw))
        ⟨e, by dsimp only; omega, by dsimp only; omega, hu'.trans hu⟩
  | rest _ => exact h

/-- A run of steps keeps what a sender keeps, or, if a step failed, what it keeps then. -/
theorem Retries.steps_after (h : Retries t) {n : Nat} {r : Except Error Status}
    (hrun : (steps now n).run t = (r, t')) : After r t' := by
  induction n generalizing t with
  | zero =>
    simp only [Transfer.steps, run_pure, Prod.mk.injEq] at hrun
    obtain ⟨rfl, rfl⟩ := hrun
    exact h
  | succ n ih =>
    rw [steps_succ_run] at hrun
    rcases hstep : (step now).run t with ⟨r₁, t₁⟩
    have h₁ := (step_moves hstep).after h
    rw [hstep] at hrun
    rcases r₁ with e | (_ | _)
    · obtain ⟨rfl, rfl⟩ := Prod.mk.inj hrun
      exact h₁
    · exact ih h₁ hrun
    · obtain ⟨rfl, rfl⟩ := Prod.mk.inj hrun
      exact h₁

/-- Every tick keeps what a sender keeps: a failed step ends in CAN CAN, which `Spent` allows. -/
theorem Retries.tick (h : Retries t) {r : Except Error Status} (hrun : (tick now).run t = (r, t')) :
    Retries t' := by
  by_cases hs : t.sender.phase = .success
  · rw [tick_success hs, Prod.mk.injEq] at hrun
    exact hrun.2 ▸ h
  by_cases hf : t.sender.phase = .failure
  · rw [tick_failure hf, Prod.mk.injEq] at hrun
    exact hrun.2 ▸ h
  rw [tick_live hs hf h.room] at hrun
  rcases hsteps : (steps now 6).run t with ⟨_ | a, t₁⟩ <;> rw [hsteps] at hrun <;>
    have h₁ := h.steps_after hsteps <;> obtain ⟨-, rfl⟩ := Prod.mk.inj hrun
  · exact Spent.aborted h₁
  · exact h₁

/-- A tick keeps the sender's retries. -/
theorem Retries.advance (h : Retries t) : Retries (advance t) :=
  h.tick (show (Transfer.tick t.port.now).run t = (_, Transfer.advance t) from rfl)

/-- A change of surroundings keeps the sender's retries. -/
theorem Retries.meetPort (w : Surroundings) (h : Retries t) : Retries (meetPort w t) :=
  ⟨h.room, h.history, h.pace⟩

/-- A sender starts with room for a packet and nothing logged, waiting for the start request or
flushing first. -/
theorem Retries.start {fl : Flags}
    (hsender : t.sender = Sender.new fl ∨ t.sender = (Sender.new fl).withFlush)
    (hroom : 3 + t.sender.blockBytes + 2 ≤ t.buffer.size) (hlog : t.port.log = []) : Retries t := by
  refine ⟨hroom, .of_silent (by rw [hlog]; rfl), ?_⟩
  rcases hsender with hs | hs <;> simp only [Pace, hs, Sender.new, Sender.withFlush, hlog] <;> rfl

/-- Every state reached keeps the sender's retries. -/
theorem reachable_retries {t₀ : Transfer LoggedPort} (h₀ : Retries t₀) (h : Reachable t₀ t) : Retries t :=
  Reaches.induct_on Retries h₀ (fun _ _ => Retries.advance) (fun w _ _ => Retries.meetPort w) h

end Retries

end Transfer

end Xmodem

end RadioFlash

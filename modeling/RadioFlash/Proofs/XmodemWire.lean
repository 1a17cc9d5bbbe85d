import RadioFlash.Proofs.LoggedLink
import RadioFlash.Xmodem.Sender
/-!
# What an XMODEM send looks like on the link

An image of `D` bytes goes out in packets of `B` data bytes, counted from 1: packet `k` is the
start byte, `k` modulo 256 and its complement, the image's bytes from `(k - 1) * B` padded with
0xFF to `B` bytes, and a trailer, the byte sum of the block or its CRC-16 high byte first
(`packet`). There are ⌈|D| / B⌉ packets.

`Wire` is a monitor of the calls a sender makes on its link, said without the sender. Before the
start it reads only: the receiver's start request picks the trailer, `C` the CRC and NAK the sum
(NAK only when CRC is not forced), and every other byte is passed over. Then each packet is
written, a copy in full before anything else, and the ACK read after a copy moves on to the
next packet, while anything else, or silence, leads to the next copy, three at most. Past the
last packet the same holds of EOT, and after the third failed attempt come CAN CAN.

`Wire.Written` says what bytes the monitor's states allow to have been written: packet after
packet, each one to three times, then EOTs, then at most CAN CAN (`Wire.written_of_wire`).
-/

namespace RadioFlash

namespace Xmodem

/-- The image's bytes in block `k` (counted from 1) of `bs` bytes: fewer in the last block. -/
def imageBlock (D : Array UInt8) (bs k : Nat) : List UInt8 :=
  (D.extract ((k - 1) * bs) (k * bs)).toList

/-- Block `k` as a packet carries it: padded with 0xFF to `bs` bytes. -/
def paddedBlock (D : Array UInt8) (bs k : Nat) : List UInt8 :=
  imageBlock D bs k ++ List.replicate (bs - (imageBlock D bs k).length) 0xFF

/-- The trailer of a data block: its byte sum, or its CRC-16 high byte first. -/
def Check.trailer : Check → List UInt8 → List UInt8
  | .sum, b => [checksum8 b]
  | .crc, b => [(crc16 b >>> 8).toUInt8, (crc16 b).toUInt8]

/-- Packet `k` of the image `D`: the start byte, the block number modulo 256 and its complement,
the padded block and its trailer. -/
def packet (D : Array UInt8) (size : BlockSize) (c : Check) (k : Nat) : List UInt8 :=
  [size.startByte, UInt8.ofNat k, 255 - UInt8.ofNat k] ++ paddedBlock D size.bytes k ++
    c.trailer (paddedBlock D size.bytes k)

/-- The packets an image takes: ⌈|D| / bs⌉. -/
def packetCount (D : Array UInt8) (bs : Nat) : Nat := (D.size + bs - 1) / bs

/-- Where an XMODEM send stands, as the calls on its link show it. Packets, their copies and the
attempts at EOT are counted from 1; `c` is the trailer the receiver asked for. -/
inductive Wire where
  /-- No start request accepted yet. -/
  | opening
  /-- Copy `copy` of packet `k` is going out, its first `sent` bytes written. -/
  | sending (c : Check) (k copy sent : Nat)
  /-- Copy `copy` of packet `k` is out, and its ACK awaited. -/
  | waiting (c : Check) (k copy : Nat)
  /-- Copy `copy` of packet `k` was answered with something other than ACK. -/
  | refused (c : Check) (k copy : Nat)
  /-- Every packet is ACKed, and attempt `n` at EOT is to come. -/
  | closing (c : Check) (n : Nat)
  /-- Attempt `n` at EOT is made, and its ACK awaited. -/
  | closed (c : Check) (n : Nat)
  /-- Attempt `n` at EOT was answered with something other than ACK. -/
  | closeRefused (c : Check) (n : Nat)
  /-- EOT is ACKed. -/
  | done
  /-- CAN CAN went out after a third failed attempt. -/
  | aborted
deriving DecidableEq, Repr

namespace Wire

section Monitor

variable (D : Array UInt8) (fl : Flags)

/-- Packet `k` going out for the first time, or EOT once every packet is through. -/
def next (c : Check) (k : Nat) : Wire :=
  if k ≤ packetCount D fl.blockSize.bytes then .sending c k 1 0 else .closing c 1

/-- A write after copy `copy` of packet `k` failed: the next copy, from its start; after the
third, CAN CAN. -/
def resend (c : Check) (k copy : Nat) (bs : List UInt8) (n : Nat) : Option Wire :=
  if copy < attempts then
    if bs = packet D fl.blockSize c k ∧ n ≤ bs.length then
      some (if n = bs.length then .waiting c k (copy + 1) else .sending c k (copy + 1) n)
    else none
  else if bs = [can, can] ∧ n ≤ 2 then some .aborted else none

/-- A write after attempt `n` at EOT failed: EOT again; after the third, CAN CAN. -/
def reclose (c : Check) (n : Nat) (bs : List UInt8) (j : Nat) : Option Wire :=
  if n < attempts then
    if bs = [eot] ∧ j ≤ 1 then some (.closed c (n + 1)) else none
  else if bs = [can, can] ∧ j ≤ 2 then some .aborted else none

/-- The monitor's step: where the send stands after one more call, or `none` for a call that a
correct sender does not make. Reads of 64 bytes are the sender discarding stale input, before
the start and before the first copy of a packet. -/
def step : Wire → PortCall → Option Wire
  | .opening, .read 64 _ => some .opening
  | .opening, .read 1 [] => some .opening
  | .opening, .read 1 [b] =>
    some (if b = crcRequest then next D fl .crc 1
      else if b = nak ∧ fl.forceCrc = false then next D fl .sum 1 else .opening)
  | .sending c k 1 0, .read 64 _ => some (.sending c k 1 0)
  | .sending c k copy sent, .write bs n =>
    if bs = (packet D fl.blockSize c k).drop sent ∧ n ≤ bs.length then
      some (if sent + n = (packet D fl.blockSize c k).length then .waiting c k copy
        else .sending c k copy (sent + n))
    else none
  | .waiting c k copy, .read 1 [] => some (.waiting c k copy)
  | .waiting c k copy, .read 1 [b] =>
    some (if b = ack then next D fl c (k + 1) else .refused c k copy)
  | .waiting c k copy, .write bs n => resend D fl c k copy bs n
  | .refused c k copy, .write bs n => resend D fl c k copy bs n
  | .closing c n, .write bs j => if bs = [eot] ∧ j ≤ 1 then some (.closed c n) else none
  | .closed c n, .read 1 [] => some (.closed c n)
  | .closed c n, .read 1 [b] => some (if b = ack then .done else .closeRefused c n)
  | .closed c n, .write bs j => reclose c n bs j
  | .closeRefused c n, .write bs j => reclose c n bs j
  | _, _ => none

end Monitor

end Wire

/-- The monitor run over the calls of a send from its start. -/
def wire (D : Array UInt8) (fl : Flags) (calls : List PortCall) : Option Wire :=
  calls.foldlM (Wire.step D fl) .opening

end Xmodem

namespace PortCall

/-- The bytes a call put on the wire: what a write took. -/
def sent : PortCall → List UInt8
  | .write bs n => bs.take n
  | _ => []

end PortCall

/-- The bytes a log put on the wire, in order. -/
def sentBytes (calls : List PortCall) : List UInt8 := calls.flatMap PortCall.sent

/-- An empty log sent nothing. -/
@[simp] theorem sentBytes_nil : sentBytes [] = [] := rfl

/-- The bytes two logs sent, one after the other. -/
@[simp] theorem sentBytes_append (l m : List PortCall) : sentBytes (l ++ m) = sentBytes l ++ sentBytes m :=
  List.flatMap_append

/-- A log's bytes are those its first call sent, then those of the rest. -/
@[simp] theorem sentBytes_cons (c : PortCall) (l : List PortCall) :
    sentBytes (c :: l) = c.sent ++ sentBytes l :=
  List.flatMap_cons

namespace Xmodem

namespace Wire

section Written

variable (D : Array UInt8) (fl : Flags)

/-- Packets `k, k + 1, …`, packet `k + i` sent `reps[i]` times. -/
def copiesFrom (c : Check) : Nat → List Nat → List UInt8
  | _, [] => []
  | k, r :: rs => (List.replicate r (packet D fl.blockSize c k)).flatten ++ copiesFrom c (k + 1) rs

/-- Each packet sent one to three times. -/
def Tries (reps : List Nat) : Prop := ∀ r ∈ reps, 1 ≤ r ∧ r ≤ attempts

/-- `w` is packets `1 … k - 1`, each sent one to three times, then `copy` copies of packet `k`
and the first `part` bytes of one more. -/
def PacketsOut (c : Check) (k copy part : Nat) (w : List UInt8) : Prop :=
  ∃ reps, Tries reps ∧ reps.length + 1 = k ∧
    w = copiesFrom D fl c 1 reps ++ (List.replicate copy (packet D fl.blockSize c k)).flatten ++
      (packet D fl.blockSize c k).take part

/-- `w` is every packet, each sent one to three times, then `e` EOTs. -/
def EotsOut (c : Check) (e : Nat) (w : List UInt8) : Prop :=
  ∃ reps, Tries reps ∧ reps.length = packetCount D fl.blockSize.bytes ∧
    w = copiesFrom D fl c 1 reps ++ List.replicate e eot

/-- The bytes written so far that a state of the monitor allows. -/
def Written : Wire → List UInt8 → Prop
  | .opening, w => w = []
  | .sending c k copy sent, w => 1 ≤ copy ∧ copy ≤ attempts ∧ k ≤ packetCount D fl.blockSize.bytes ∧
      PacketsOut D fl c k (copy - 1) sent w
  | .waiting c k copy, w | .refused c k copy, w => 1 ≤ copy ∧ copy ≤ attempts ∧
      k ≤ packetCount D fl.blockSize.bytes ∧ PacketsOut D fl c k copy 0 w
  | .closing c n, w => 1 ≤ n ∧ n ≤ attempts ∧ ∃ e, e < n ∧ EotsOut D fl c e w
  | .closed c n, w | .closeRefused c n, w => 1 ≤ n ∧ n ≤ attempts ∧ ∃ e, e ≤ n ∧ EotsOut D fl c e w
  | .done, w => ∃ c e, e ≤ attempts ∧ EotsOut D fl c e w
  | .aborted, w => ∃ c u a, a <+: [can, can] ∧ w = u ++ a ∧
      ((∃ k, k ≤ packetCount D fl.blockSize.bytes ∧ PacketsOut D fl c k attempts 0 u) ∨
        ∃ e, e ≤ attempts ∧ EotsOut D fl c e u)

end Written

section Laws

variable {D : Array UInt8} {fl : Flags} {c : Check} {w : List UInt8}

/-- One more packet's copies come after the copies before it. -/
theorem copiesFrom_concat (k : Nat) (rs : List Nat) (r : Nat) :
    copiesFrom D fl c k (rs ++ [r]) =
      copiesFrom D fl c k rs ++ (List.replicate r (packet D fl.blockSize c (k + rs.length))).flatten := by
  induction rs generalizing k with
  | nil => simp [copiesFrom]
  | cons r' rs ih =>
    simp only [List.cons_append, copiesFrom, ih, List.append_assoc, List.length_cons]
    rw [Nat.add_assoc, Nat.add_comm 1]

/-- A write of the next piece of the copy going out. -/
theorem PacketsOut.write {k copy sent n : Nat} (h : PacketsOut D fl c k copy sent w) :
    PacketsOut D fl c k copy (sent + n) (w ++ ((packet D fl.blockSize c k).drop sent).take n) := by
  obtain ⟨reps, htries, hlen, rfl⟩ := h
  exact ⟨reps, htries, hlen, by rw [List.take_add, List.append_assoc]⟩

/-- A copy written in full. -/
theorem PacketsOut.complete {k copy : Nat}
    (h : PacketsOut D fl c k copy (packet D fl.blockSize c k).length w) :
    PacketsOut D fl c k (copy + 1) 0 w := by
  obtain ⟨reps, htries, hlen, rfl⟩ := h
  refine ⟨reps, htries, hlen, ?_⟩
  rw [List.take_length, List.replicate_succ', List.flatten_append]
  simp

/-- The ACK of one to three copies moves on to the next packet. -/
theorem PacketsOut.ack {k copy : Nat} (h : PacketsOut D fl c k copy 0 w) (h1 : 1 ≤ copy)
    (h3 : copy ≤ attempts) : PacketsOut D fl c (k + 1) 0 0 w := by
  obtain ⟨reps, htries, hlen, rfl⟩ := h
  refine ⟨reps ++ [copy], ?_, by simp [hlen], ?_⟩
  · intro r hr
    rcases List.mem_append.mp hr with hr | hr
    · exact htries r hr
    · rw [List.mem_singleton.mp hr]
      exact ⟨h1, h3⟩
  · rw [copiesFrom_concat, Nat.add_comm 1, hlen]
    simp

/-- Past the last packet, the bytes so far are every packet and no EOT yet. -/
theorem PacketsOut.eots {k : Nat} (h : PacketsOut D fl c k 0 0 w)
    (hk : k = packetCount D fl.blockSize.bytes + 1) : EotsOut D fl c 0 w := by
  obtain ⟨reps, htries, hlen, rfl⟩ := h
  exact ⟨reps, htries, by omega, by simp⟩

/-- An attempt at EOT, taken whole or not at all. -/
theorem EotsOut.eot {e j : Nat} (h : EotsOut D fl c e w) (hj : j ≤ 1) :
    EotsOut D fl c (e + j) (w ++ [eot].take j) := by
  obtain ⟨reps, htries, hlen, rfl⟩ := h
  refine ⟨reps, htries, hlen, ?_⟩
  rw [← List.replicate_append_replicate, List.append_assoc]
  congr 2
  rcases Nat.le_one_iff_eq_zero_or_eq_one.mp hj with rfl | rfl <;> rfl

/-- Where the monitor goes once packets `1 … k - 1` are through. -/
theorem written_next {k : Nat} (h : PacketsOut D fl c k 0 0 w)
    (hk : k ≤ packetCount D fl.blockSize.bytes + 1) : Written D fl (next D fl c k) w := by
  unfold next
  split
  · exact ⟨Nat.le_refl 1, by decide, by assumption, h⟩
  · exact ⟨Nat.le_refl 1, by decide, 0, Nat.zero_lt_one, h.eots (by omega)⟩

/-- Resending a packet keeps the wire the bytes of the packets and copies so far. -/
theorem written_resend {k copy : Nat} {bs : List UInt8} {n : Nat} {st : Wire}
    (hw : 1 ≤ copy ∧ copy ≤ attempts ∧ k ≤ packetCount D fl.blockSize.bytes ∧ PacketsOut D fl c k copy 0 w)
    (hs : resend D fl c k copy bs n = some st) : Written D fl st (w ++ bs.take n) := by
  obtain ⟨h1, h3, hk, hout⟩ := hw
  unfold resend at hs
  split at hs
  · -- the next copy, from its start
    split at hs
    · next hcopy hbs =>
      obtain ⟨rfl, hn⟩ := hbs
      have hout' : PacketsOut D fl c k copy (0 + n) (w ++ (packet D fl.blockSize c k).take n) := by
        simpa using hout.write (n := n)
      cases hs
      split
      · next hfull =>
        rw [Nat.zero_add] at hout'
        rw [hfull] at hout' ⊢
        exact ⟨by omega, by omega, hk, hout'.complete⟩
      · exact ⟨by omega, by omega, hk, by simpa using hout'⟩
    · cases hs
  · -- after the third copy, CAN CAN
    split at hs
    · next hcopy hbs =>
      obtain ⟨rfl, hn⟩ := hbs
      cases hs
      exact ⟨c, w, _, List.take_prefix n _, rfl, .inl ⟨k, hk, by
        rwa [show copy = attempts by unfold attempts at *; omega] at hout⟩⟩
    · cases hs

/-- Sending EOT again keeps the wire the packets followed by EOTs. -/
theorem written_reclose {n : Nat} {bs : List UInt8} {j : Nat} {st : Wire}
    (hw : 1 ≤ n ∧ n ≤ attempts ∧ ∃ e, e ≤ n ∧ EotsOut D fl c e w)
    (hs : reclose c n bs j = some st) : Written D fl st (w ++ bs.take j) := by
  obtain ⟨h1, h3, e, he, hout⟩ := hw
  unfold reclose at hs
  split at hs
  · -- EOT again
    split at hs
    · next hn hbs =>
      obtain ⟨rfl, hj⟩ := hbs
      cases hs
      exact ⟨by omega, by omega, e + j, by omega, hout.eot hj⟩
    · cases hs
  · -- after the third attempt, CAN CAN
    split at hs
    · next hn hbs =>
      obtain ⟨rfl, hj⟩ := hbs
      cases hs
      exact ⟨c, w, _, List.take_prefix j _, rfl, .inr ⟨e, by omega, hout⟩⟩
    · cases hs

/-- A call that writes nothing keeps what is written. -/
theorem written_quiet {st : Wire} {call : PortCall} (hw : Written D fl st w) (hc : call.sent = []) :
    Written D fl st (w ++ call.sent) := by
  rw [hc, List.append_nil]
  exact hw

/-- Nothing is written before the first packet. -/
theorem packetsOut_start (hw : w = []) : PacketsOut D fl c 1 0 0 w :=
  ⟨[], fun _ h => absurd h List.not_mem_nil, rfl, by simp [hw, copiesFrom]⟩

/-- Every step of the monitor keeps what it allows written: one case per transition. -/
theorem written_step {st st' : Wire} {call : PortCall} (hw : Written D fl st w)
    (hs : step D fl st call = some st') : Written D fl st' (w ++ call.sent) := by
  unfold step at hs
  split at hs
  · -- a drain before the start
    cases hs
    exact written_quiet hw rfl
  · -- silence before the start
    cases hs
    exact written_quiet hw rfl
  · -- a start request, accepted or passed over
    cases hs
    rw [show PortCall.sent _ = [] from rfl, List.append_nil]
    have hnil : w = [] := hw
    split
    · exact written_next (packetsOut_start hnil) (by omega)
    · split
      · exact written_next (packetsOut_start hnil) (by omega)
      · exact hnil
  · -- a drain before the first copy of a packet
    cases hs
    exact written_quiet hw rfl
  · -- the next piece of a copy
    split at hs
    · next k copy sent bs n hbs =>
      obtain ⟨rfl, hn⟩ := hbs
      cases hs
      obtain ⟨h1, h3, hk, hout⟩ := hw
      have hout' := hout.write (n := n)
      split
      · next hfull =>
        rw [hfull] at hout'
        have hcopy : copy - 1 + 1 = copy := by omega
        exact ⟨h1, h3, hk, hcopy ▸ hout'.complete⟩
      · exact ⟨h1, h3, hk, hout'⟩
    · cases hs
  · -- silence while the ACK is awaited
    cases hs
    exact written_quiet hw rfl
  · -- the answer to a copy
    cases hs
    rw [show PortCall.sent _ = [] from rfl, List.append_nil]
    obtain ⟨h1, h3, hk, hout⟩ := hw
    split
    · exact written_next (hout.ack h1 h3) (by omega)
    · exact ⟨h1, h3, hk, hout⟩
  · exact written_resend hw hs
  · exact written_resend hw hs
  · -- an attempt at EOT
    split at hs
    · next n bs j hbs =>
      obtain ⟨rfl, hj⟩ := hbs
      cases hs
      obtain ⟨h1, h3, e, he, hout⟩ := hw
      exact ⟨h1, h3, e + j, by omega, hout.eot hj⟩
    · cases hs
  · -- silence while the ACK of EOT is awaited
    cases hs
    exact written_quiet hw rfl
  · -- the answer to EOT
    cases hs
    rw [show PortCall.sent _ = [] from rfl, List.append_nil]
    obtain ⟨h1, h3, e, he, hout⟩ := hw
    split
    · exact ⟨_, e, by omega, hout⟩
    · exact ⟨h1, h3, e, he, hout⟩
  · exact written_reclose hw hs
  · exact written_reclose hw hs
  · cases hs

/-- What a run of the monitor allows written, from any state it starts in. -/
theorem written_foldlM {calls : List PortCall} {st st' : Wire} (hw : Written D fl st w)
    (h : calls.foldlM (step D fl) st = some st') : Written D fl st' (w ++ sentBytes calls) := by
  induction calls generalizing st w with
  | nil =>
    cases h
    simpa using hw
  | cons call rest ih =>
    obtain ⟨st₁, h₁, hrest⟩ := Option.bind_eq_some_iff.mp h
    have := ih (written_step hw h₁) hrest
    simpa using this

/-- A send that the monitor follows from its start has written what the monitor's state
allows. -/
theorem written_of_wire {calls : List PortCall} {st : Wire} (h : wire D fl calls = some st) :
    Written D fl st (sentBytes calls) := by
  simpa using written_foldlM (show Written D fl .opening [] from rfl) h

end Laws

end Wire

end Xmodem

end RadioFlash

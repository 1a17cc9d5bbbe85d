import RadioFlash.Proofs.XmodemWire
/-!
# An XMODEM sender on a logged link follows the wire

The sender of `Xmodem.Sender` runs on a logged link, with an image read from a cursor that
hands out whole blocks until the last (an image held in memory, or a stream, from offset 0).
Whatever the receiver sends, however the clock moves and however much each write takes, the
calls it makes pass the monitor `Wire` of `XmodemWire`, and its own state agrees with where the
monitor stands (`WireAt`).

The packet buffer is the sender's memory between ticks: `assemble` puts packet `k` into it, and
each copy is written from it. So the agreement says what the buffer holds from the first write
of a packet to its ACK, and where the image's cursor stands.
-/

namespace RadioFlash

open RadioFlash.Action

/-! ## The buffer and the image -/

section Buffer

variable (start : Nat)

/-- Writing `g 0, g 1, …` from `start` on, one index after the other, puts them in place. The new
byte lands on the first byte after those already written. -/
theorem toList_fold_setIfInBounds (buf : Array UInt8) (g : Nat → UInt8) :
    ∀ n, start + n ≤ buf.size →
      (Nat.fold n (fun i _ b => b.setIfInBounds (start + i) (g i)) buf).toList =
        buf.toList.take start ++ (List.range n).map g ++ buf.toList.drop (start + n) := by
  intro n
  induction n with
  | zero =>
    intro _
    simp
  | succ n ih =>
    intro h
    rw [Nat.fold_succ, Array.toList_setIfInBounds, ih (by omega)]
    have hlen : (buf.toList.take start ++ (List.range n).map g).length = start + n := by
      simp only [List.length_append, List.length_take, Array.length_toList, List.length_map,
        List.length_range]
      omega
    rw [List.set_append_right _ _ (by omega), hlen, Nat.sub_self,
      List.drop_eq_getElem_cons (by simp only [Array.length_toList]; omega), List.set_cons_zero,
      List.range_succ, List.map_append]
    simp [Nat.add_assoc]

/-- Writing the bytes of an array from `start` on puts them in place. -/
theorem toList_fold_bytes (buf bytes : Array UInt8) (h : start + bytes.size ≤ buf.size) :
    (bytes.size.fold (fun i _ b => b.setIfInBounds (start + i) bytes[i]) buf).toList =
      buf.toList.take start ++ bytes.toList ++ buf.toList.drop (start + bytes.size) := by
  have hf : (fun i (hi : i < bytes.size) (b : Array UInt8) => b.setIfInBounds (start + i) bytes[i]) =
      fun i _ b => b.setIfInBounds (start + i) (bytes.getD i 0) := by
    funext i hi b
    simp [Array.getD, hi]
  rw [hf, toList_fold_setIfInBounds start buf _ _ h]
  congr 2
  apply List.ext_getElem (by simp)
  intro i h₁ h₂
  simp [Array.getD, show i < bytes.size by simpa using h₂]

/-- Writing bytes into a buffer keeps its size. -/
theorem size_fold_setIfInBounds (buf : Array UInt8) {n : Nat} (f : (i : Nat) → i < n → UInt8) :
    (Nat.fold n (fun i h b => b.setIfInBounds (start + i) (f i h)) buf).size = buf.size := by
  induction n with
  | zero => rfl
  | succ n ih =>
    rw [Nat.fold_succ, Array.size_setIfInBounds]
    exact ih _

end Buffer

namespace Source

variable {s : Source}

/-- A read from a cursor that hands out all it may: what is left, up to `n` bytes. -/
theorem read_run_unlimited (hlim : s.readLimit = none) (n : Nat) :
    (read n).run s = (.ok (s.data.extract s.pos (s.pos + min n (s.data.size - s.pos))),
      { s with pos := s.pos + min n (s.data.size - s.pos) }) := by
  simp [read, grant, remaining, hlim, Action.run_bind]

end Source

namespace LoggedPort

variable (l : LoggedPort)

/-- Reading a byte on a logged link takes the oldest byte waiting and logs the read. -/
theorem readByte_run :
    (SerialLink.readByte : Action LoggedPort _).run l =
      (.ok (l.rx.take 1).1.head?,
        { l with rx := (l.rx.take 1).2, log := l.log ++ [.read 1 (l.rx.take 1).1] }) := rfl

/-- Draining reads 64 bytes at a time and changes nothing but the queue and the log. -/
theorem drainWith_run (fuel total : Nat) :
    ∃ n q calls, (SerialLink.drainWith fuel total : Action LoggedPort Nat).run l =
        (.ok n, { l with rx := q, log := l.log ++ calls }) ∧ ∀ c ∈ calls, ∃ got, c = .read 64 got := by
  induction fuel generalizing l total with
  | zero => exact ⟨total, l.rx, [], by simp [SerialLink.drainWith], by simp⟩
  | succ fuel ih =>
    rw [SerialLink.drainWith, run_bind, read_run]
    dsimp only
    split
    · exact ⟨total, _, [.read 64 (l.rx.take 64).1], rfl, by simp⟩
    · obtain ⟨n, q, calls, hrun, hcalls⟩ := ih
        { l with rx := (l.rx.take 64).2, log := l.log ++ [.read 64 (l.rx.take 64).1] }
        (total + (l.rx.take 64).1.length)
      refine ⟨n, q, .read 64 (l.rx.take 64).1 :: calls, by rw [hrun]; simp, ?_⟩
      intro c hc
      rcases List.mem_cons.mp hc with rfl | hc
      · exact ⟨_, rfl⟩
      · exact hcalls c hc

/-- Draining only makes reads of 64 bytes. -/
theorem drain_run :
    ∃ n q calls, (SerialLink.drain : Action LoggedPort Nat).run l =
        (.ok n, { l with rx := q, log := l.log ++ calls }) ∧ ∀ c ∈ calls, ∃ got, c = .read 64 got := by
  obtain ⟨n, q, calls, hrun, hcalls⟩ := drainWith_run l (l.rx.size + 1) 0
  exact ⟨n, q, calls, by rw [SerialLink.drain, run_bind, run_get]; exact hrun, hcalls⟩

end LoggedPort

namespace Xmodem

/-! ## Packets as the sender builds them -/

/-- A block is never empty. -/
theorem BlockSize.bytes_pos (b : BlockSize) : 0 < b.bytes := by
  cases b <;> decide

/-- The trailer `assemble` puts after a block. -/
def Sender.trailerOf (s : Sender) (blk : List UInt8) : List UInt8 :=
  if s.usesCrc then [(crc16 blk >>> 8).toUInt8, (crc16 blk).toUInt8] else [checksum8 blk]

/-- A CRC trailer has two bytes, a sum trailer one. -/
theorem Sender.trailerOf_length (s : Sender) (blk : List UInt8) :
    (s.trailerOf blk).length = if s.usesCrc then 2 else 1 := by
  unfold Sender.trailerOf
  split <;> rfl

/-- The trailer is the one of the check in use. -/
theorem Sender.trailerOf_eq {s : Sender} {c : Check} (hchk : s.check = some c) (blk : List UInt8) :
    s.trailerOf blk = c.trailer blk := by
  cases c <;> simp [Sender.trailerOf, Sender.usesCrc, hchk, Check.trailer]

/-- A block of the image is at most the block size. -/
theorem imageBlock_length_le (D : Array UInt8) (bs k : Nat) : (imageBlock D bs k).length ≤ bs := by
  simp only [imageBlock, Array.length_toList, Array.size_extract]
  rcases k with _ | k
  · simp
  · simp only [Nat.add_sub_cancel, Nat.add_mul, Nat.one_mul]
    omega

/-- A padded block has exactly the block size. -/
theorem paddedBlock_length (D : Array UInt8) (bs k : Nat) : (paddedBlock D bs k).length = bs := by
  have := imageBlock_length_le D bs k
  simp only [paddedBlock, List.length_append, List.length_replicate]
  omega

/-- Block `j + 1` is one of the image's packets when some of the image lies past `j` blocks. -/
theorem succ_le_packetCount_iff {D : Array UInt8} {bs : Nat} (hbs : 0 < bs) (j : Nat) :
    j + 1 ≤ packetCount D bs ↔ j * bs < D.size := by
  rw [packetCount, Nat.le_div_iff_mul_le hbs, Nat.succ_mul]
  omega

/-- A sender's packets are as long as the packets of its block size and trailer. -/
theorem Sender.packetSize_eq {s : Sender} {c : Check} (hchk : s.check = some c) (D : Array UInt8) (k : Nat) :
    s.packetSize = (packet D s.flags.blockSize c k).length := by
  cases c <;>
    simp [Sender.packetSize, Sender.usesCrc, hchk, packet, paddedBlock_length, Check.trailer,
      Sender.blockBytes] <;> omega

namespace Transfer

section Combinators

variable (t : Transfer LoggedPort)

/-- A link action runs on the transfer's link. -/
@[simp] theorem onPort_run {α : Type} (m : Action LoggedPort α) :
    (onPort m).run t = ((m.run t.port).1, { t with port := (m.run t.port).2 }) := rfl

/-- An image action runs on the transfer's image. -/
@[simp] theorem onSource_run {α : Type} (m : Action Source α) :
    (onSource m).run t = ((m.run t.source).1, { t with source := (m.run t.source).2 }) := rfl

/-- A sender's note on a logged link changes nothing. -/
@[simp] theorem say_run (level : Level) (text : String) :
    (say level text : Action (Transfer LoggedPort) Unit).run t = (.ok (), t) := rfl

/-- A change of the sender. -/
@[simp] theorem update_run (f : Sender → Sender) :
    (update f : Action (Transfer LoggedPort) Unit).run t = (.ok (), { t with sender := f t.sender }) :=
  rfl

/-- Filling writes the bytes into the buffer from `start` on. -/
theorem fill_run (start : Nat) (bytes : Array UInt8) :
    (fill start bytes : Action (Transfer LoggedPort) Unit).run t =
      (.ok (), { t with
        buffer := bytes.size.fold (fun i _ b => b.setIfInBounds (start + i) bytes[i]) t.buffer }) :=
  rfl

/-- Filling replaces as many bytes as it writes, from `start` on. -/
theorem fill_segment {pre mid post : List UInt8} (start : Nat) (bytes : Array UInt8)
    (hbuf : t.buffer.toList = pre ++ mid ++ post) (hpre : pre.length = start)
    (hmid : mid.length = bytes.size) :
    ∃ buf, (fill start bytes).run t = (.ok (), { t with buffer := buf }) ∧
      buf.toList = pre ++ bytes.toList ++ post ∧ buf.size = t.buffer.size := by
  have hsize : start + bytes.size ≤ t.buffer.size := by
    have hlen := congrArg List.length hbuf
    simp only [Array.length_toList, List.length_append] at hlen
    omega
  refine ⟨_, fill_run t start bytes, ?_, size_fold_setIfInBounds start _ _⟩
  rw [toList_fold_bytes start _ _ hsize, hbuf,
    List.drop_left' (by simp only [List.length_append]; omega : (pre ++ mid).length = start + bytes.size),
    List.append_assoc pre mid post, List.take_left' hpre, List.append_assoc]

end Combinators

section Assemble

variable {t : Transfer LoggedPort}

/-- The block number's byte is the number modulo 256. -/
theorem toUInt8_ofNat (k : Nat) : (UInt32.ofNat k).toUInt8 = UInt8.ofNat k := by
  apply UInt8.toNat_inj.mp
  simp

/-- What a whole-block cursor at block `j + 1` hands out is the image's bytes of that block. -/
theorem read_imageBlock (D : Array UInt8) (bs j : Nat) :
    (D.extract (j * bs) (j * bs + min bs (D.size - j * bs))).toList = imageBlock D bs (j + 1) := by
  simp only [imageBlock, Nat.add_sub_cancel, Array.toList_extract, List.extract_eq_take_drop]
  rw [List.take_eq_take_iff]
  simp only [List.length_drop, Array.length_toList, Nat.add_mul, Nat.one_mul]
  omega

/-- The end of `assemble`, once the padded block is in place: the header before it and its
trailer after it. The block sits between the header and the rest. -/
theorem assemble_tail_run (s : Sender) {u : Transfer LoggedPort} {pre blk rest : List UInt8}
    (hbuf : u.buffer.toList = pre ++ blk ++ rest) (hpre : pre.length = 3)
    (hblk : blk.length = s.blockBytes) (hrest : 2 ≤ rest.length) :
    ∃ buf, (do
        fill 0 #[s.flags.blockSize.startByte, s.packetNum.toUInt8, 255 - s.packetNum.toUInt8]
        let b ← get
        if s.usesCrc = true then do
          fill (3 + s.blockBytes)
            #[(crc16 (b.buffer.extract 3 (3 + s.blockBytes)).toList >>> 8).toUInt8,
              (crc16 (b.buffer.extract 3 (3 + s.blockBytes)).toList).toUInt8]
          pure true
        else do
          fill (3 + s.blockBytes) #[checksum8 (b.buffer.extract 3 (3 + s.blockBytes)).toList]
          pure true : Action (Transfer LoggedPort) Bool).run u = (.ok true, { u with buffer := buf }) ∧
      buf.size = u.buffer.size ∧
      buf.toList = [s.flags.blockSize.startByte, s.packetNum.toUInt8, 255 - s.packetNum.toUInt8] ++ blk ++
        s.trailerOf blk ++ rest.drop (s.trailerOf blk).length := by
  obtain ⟨b₁, hf₁, hl₁, hs₁⟩ := fill_segment u 0
    #[s.flags.blockSize.startByte, s.packetNum.toUInt8, 255 - s.packetNum.toUInt8]
    (show u.buffer.toList = [] ++ pre ++ (blk ++ rest) by rw [hbuf, List.nil_append, List.append_assoc])
    rfl (by simp [hpre])
  have hblock : ({ u with buffer := b₁ }.buffer.extract 3 (3 + s.blockBytes)).toList = blk := by
    simp only [Array.toList_extract, List.extract_eq_take_drop, hl₁, List.nil_append]
    rw [Nat.add_sub_cancel_left]
    simp [hblk]
  have htl : (s.trailerOf blk).length ≤ rest.length := by
    unfold Sender.trailerOf
    split <;> simp <;> omega
  obtain ⟨b₂, hf₂, hl₂, hs₂⟩ := fill_segment { u with buffer := b₁ } (3 + s.blockBytes)
    ⟨s.trailerOf blk⟩
    (show b₁.toList = ([s.flags.blockSize.startByte, s.packetNum.toUInt8, 255 - s.packetNum.toUInt8] ++ blk) ++
      rest.take (s.trailerOf blk).length ++ rest.drop (s.trailerOf blk).length by
      rw [hl₁, List.append_assoc _ (List.take _ _), List.take_append_drop]
      simp)
    (by simp [hblk]; omega) (by simp [htl])
  refine ⟨b₂, ?_, hs₂.trans hs₁, by rw [hl₂]⟩
  rw [run_bind, hf₁]
  dsimp only
  rw [run_bind, run_get]
  dsimp only
  rw [hblock]
  unfold Sender.trailerOf at hf₂
  split
  · next hc =>
    rw [if_pos hc] at hf₂
    rw [run_bind, hf₂]
    rfl
  · next hc =>
    rw [if_neg hc] at hf₂
    rw [run_bind, hf₂]
    rfl

/-- `assemble` with image left at the cursor: the next block, padded, between its header and its
trailer, and the cursor past it. `g` bytes are read, all of the block or the rest of the image. The
buffer in three parts: the header's room, the block's, and the rest. The packet's length is the
header's, the block's and the trailer's. -/
theorem assemble_block (hlim : t.source.readLimit = none) (hp : t.source.pos < t.source.data.size)
    (hbuf : 3 + t.sender.blockBytes + 2 ≤ t.buffer.size) :
    ∃ buf, assemble.run t = (.ok true, { t with
        buffer := buf
        source := { t.source with
          pos := t.source.pos + min t.sender.blockBytes (t.source.data.size - t.source.pos) } }) ∧
      buf.size = t.buffer.size ∧
      buf.toList.take t.sender.packetSize =
        [t.sender.flags.blockSize.startByte, t.sender.packetNum.toUInt8, 255 - t.sender.packetNum.toUInt8] ++
          ((t.source.data.extract t.source.pos
              (t.source.pos + min t.sender.blockBytes (t.source.data.size - t.source.pos))).toList ++
            List.replicate (t.sender.blockBytes - min t.sender.blockBytes (t.source.data.size - t.source.pos))
              255) ++
          t.sender.trailerOf ((t.source.data.extract t.source.pos
              (t.source.pos + min t.sender.blockBytes (t.source.data.size - t.source.pos))).toList ++
            List.replicate (t.sender.blockBytes - min t.sender.blockBytes (t.source.data.size - t.source.pos))
              255) := by
  have hbs : 0 < t.sender.blockBytes := BlockSize.bytes_pos _
  have hread := Source.read_run_unlimited hlim t.sender.blockBytes
  have hg_le : min t.sender.blockBytes (t.source.data.size - t.source.pos) ≤ t.sender.blockBytes :=
    Nat.min_le_left _ _
  have hg_pos : 0 < min t.sender.blockBytes (t.source.data.size - t.source.pos) := by omega
  have hg_end : min t.sender.blockBytes (t.source.data.size - t.source.pos) < t.sender.blockBytes →
      t.source.pos + min t.sender.blockBytes (t.source.data.size - t.source.pos) = t.source.data.size := by
    omega
  have hsize : (t.source.data.extract t.source.pos (t.source.pos +
      min t.sender.blockBytes (t.source.data.size - t.source.pos))).size =
      min t.sender.blockBytes (t.source.data.size - t.source.pos) := by
    rw [Array.size_extract]
    omega
  generalize min t.sender.blockBytes (t.source.data.size - t.source.pos) = g at hread hsize hg_le hg_pos hg_end ⊢
  generalize t.source.data.extract t.source.pos (t.source.pos + g) = data at hread hsize ⊢
  have hsplit : ∀ n, t.buffer.toList = t.buffer.toList.take 3 ++ (t.buffer.toList.drop 3).take n ++
      t.buffer.toList.drop (3 + n) := by
    intro n
    rw [List.append_assoc, ← List.drop_drop, List.take_append_drop, List.take_append_drop]
  have h3 : (t.buffer.toList.take 3).length = 3 := by simp; omega
  obtain ⟨b₁, hf₁, hl₁, hs₁⟩ := fill_segment { t with source := { t.source with pos := t.source.pos + g } }
    3 data (hsplit g) h3 (by simp only [List.length_take, List.length_drop, Array.length_toList]; omega)
  unfold assemble
  rw [run_bind, run_get]
  dsimp only
  rw [run_bind, onSource_run, hread]
  dsimp only
  rw [hsize, if_neg (by omega), run_bind, hf₁]
  dsimp only
  have hrest : ∀ n, n ≤ t.sender.blockBytes → 2 ≤ (t.buffer.toList.drop (3 + n)).length := by
    intro n hn
    simp only [List.length_drop, Array.length_toList]
    omega
  have htake : ∀ {blk rest : List UInt8}, blk.length = t.sender.blockBytes →
      (([t.sender.flags.blockSize.startByte, t.sender.packetNum.toUInt8, 255 - t.sender.packetNum.toUInt8] ++
        blk ++ t.sender.trailerOf blk ++ rest.drop (t.sender.trailerOf blk).length).take
          t.sender.packetSize) =
        [t.sender.flags.blockSize.startByte, t.sender.packetNum.toUInt8, 255 - t.sender.packetNum.toUInt8] ++
          blk ++ t.sender.trailerOf blk := by
    intro blk rest hblk
    apply List.take_left'
    simp only [List.length_append, List.length_cons, List.length_nil, hblk, Sender.trailerOf_length,
      Sender.packetSize]
  by_cases hfull : g < t.sender.blockBytes
  · -- the last block, short: the cursor is at the end, and the rest is padding
    have hlim' : ({ t.source with pos := t.source.pos + g } : Source).readLimit = none := hlim
    have hz : min 1 (t.source.data.size - (t.source.pos + g)) = 0 := by
      rw [hg_end hfull, Nat.sub_self]
      rfl
    rw [if_pos hfull, run_bind, onSource_run, Source.read_run_unlimited hlim' 1]
    dsimp only
    rw [hz, Array.size_extract, if_neg (by omega)]
    obtain ⟨b₂, hf₂, hl₂, hs₂⟩ := fill_segment
      { t with buffer := b₁, source := { t.source with pos := t.source.pos + g } } (3 + g)
      (Array.replicate (t.sender.blockBytes - g) 255)
      (show b₁.toList = (t.buffer.toList.take 3 ++ data.toList) ++
          (t.buffer.toList.drop (3 + g)).take (t.sender.blockBytes - g) ++
          t.buffer.toList.drop (3 + t.sender.blockBytes) by
        have hd : (t.buffer.toList.drop (3 + g)).drop (t.sender.blockBytes - g) =
            t.buffer.toList.drop (3 + t.sender.blockBytes) := by
          rw [List.drop_drop]
          congr 1
          omega
        rw [hl₁, List.append_assoc _ (List.take _ _), ← hd, List.take_append_drop])
      (by simp only [List.length_append, h3, Array.length_toList, hsize])
      (by simp only [List.length_take, List.length_drop, Array.length_toList, Array.size_replicate]; omega)
    rw [Nat.add_zero]
    dsimp only at hf₂
    rw [run_bind, hf₂]
    dsimp only
    obtain ⟨buf, htail, hbs', hl⟩ := assemble_tail_run t.sender
      (u := { t with buffer := b₂, source := { t.source with pos := t.source.pos + g } })
      (show b₂.toList = t.buffer.toList.take 3 ++ (data.toList ++ List.replicate (t.sender.blockBytes - g) 255) ++
          t.buffer.toList.drop (3 + t.sender.blockBytes) by
        rw [hl₂, Array.toList_replicate]
        simp only [List.append_assoc])
      h3 (by simp [hsize]; omega) (hrest _ (Nat.le_refl _))
    refine ⟨buf, htail, hbs'.trans (hs₂.trans hs₁), ?_⟩
    rw [hl]
    exact htake (by simp [hsize]; omega)
  · -- a whole block
    have hg : g = t.sender.blockBytes := by omega
    rw [if_neg hfull]
    obtain ⟨buf, htail, hbs', hl⟩ := assemble_tail_run t.sender
      (u := { t with buffer := b₁, source := { t.source with pos := t.source.pos + g } }) hl₁ h3
      (by simp [hsize, hg]) (hrest _ hg_le)
    refine ⟨buf, htail, hbs'.trans hs₁, ?_⟩
    rw [hl, hg, Nat.sub_self, List.replicate_zero, List.append_nil]
    exact htake (by simp [hsize, hg])

/-- `assemble` past the end of the image: nothing more to send, and nothing changes. -/
theorem assemble_end (hlim : t.source.readLimit = none) (hp : t.source.data.size ≤ t.source.pos) :
    assemble.run t = (.ok false, t) := by
  have hread := Source.read_run_unlimited hlim t.sender.blockBytes
  have hz : min t.sender.blockBytes (t.source.data.size - t.source.pos) = 0 := by omega
  rw [hz, Nat.add_zero] at hread
  unfold assemble
  rw [run_bind, run_get]
  dsimp only
  rw [run_bind, onSource_run, hread]
  dsimp only
  rw [if_pos (by rw [Array.size_extract]; omega)]
  rfl

/-- `assemble` at block `j + 1` of the image: packet `j + 1` in the buffer, and the cursor past
the block. The read is the image's block, the header carries the block number, the trailer the
check. -/
theorem assemble_packet {j : Nat} {c : Check} (hlim : t.source.readLimit = none)
    (hpos : t.source.pos = j * t.sender.blockBytes) (hk : j * t.sender.blockBytes < t.source.data.size)
    (hbuf : 3 + t.sender.blockBytes + 2 ≤ t.buffer.size) (hnum : t.sender.packetNum = UInt32.ofNat (j + 1))
    (hchk : t.sender.check = some c) :
    ∃ buf, assemble.run t = (.ok true, { t with
        buffer := buf
        source := { t.source with pos := min ((j + 1) * t.sender.blockBytes) t.source.data.size } }) ∧
      buf.size = t.buffer.size ∧
      buf.toList.take (packet t.source.data t.sender.flags.blockSize c (j + 1)).length =
        packet t.source.data t.sender.flags.blockSize c (j + 1) := by
  obtain ⟨buf, hrun, hsize, htake⟩ := assemble_block hlim (by omega) hbuf
  have hcur : t.source.pos + min t.sender.blockBytes (t.source.data.size - t.source.pos) =
      min ((j + 1) * t.sender.blockBytes) t.source.data.size := by
    rw [hpos, Nat.add_mul, Nat.one_mul]
    omega
  rw [hcur] at hrun
  refine ⟨buf, hrun, hsize, ?_⟩
  have hblock := read_imageBlock t.source.data t.sender.blockBytes j
  have hlen : (imageBlock t.source.data t.sender.blockBytes (j + 1)).length =
      min t.sender.blockBytes (t.source.data.size - j * t.sender.blockBytes) := by
    rw [← hblock, Array.length_toList, Array.size_extract]
    omega
  rw [← Sender.packetSize_eq hchk, htake, hnum, toUInt8_ofNat, Sender.trailerOf_eq hchk, hpos, hblock, ← hlen]
  rfl

end Assemble


/-! ## The sender against the monitor -/

section Agreement

variable (D : Array UInt8) (fl : Flags)

/-- What no step changes: the flags, the image, and a cursor that hands out all it may. -/
structure Frame (t : Transfer LoggedPort) : Prop where
  flags : t.sender.flags = fl
  data : t.source.data = D
  limit : t.source.readLimit = none

/-- Packet `k` with trailer `c` is in the buffer, and the image's cursor is past its block. -/
def Loaded (t : Transfer LoggedPort) (c : Check) (k : Nat) : Prop :=
  t.buffer.toList.take (packet D fl.blockSize c k).length = packet D fl.blockSize c k ∧
    t.source.pos = min (k * fl.blockSize.bytes) D.size

/-- Where the sender stands, in its phase, when the monitor stands at a state: one constructor for
each way the two go together. A copy in the making carries its attempts left, `tries`, against
the copies the monitor counts. -/
inductive Stage (t : Transfer LoggedPort) : Phase → Wire → Prop where
  /-- Stale input is yet to be discarded. -/
  | flush (hpos : t.source.pos = 0) : Stage t .flush .opening
  /-- The start request is awaited. -/
  | start (hpos : t.source.pos = 0) : Stage t .start .opening
  /-- Packet `k` is to be assembled, its block next at the cursor. -/
  | assemble {c : Check} {k : Nat} (hc : t.sender.check = some c)
      (hnum : t.sender.packetNum = UInt32.ofNat k) (hk : 1 ≤ k ∧ k ≤ packetCount D fl.blockSize.bytes)
      (hpos : t.source.pos = (k - 1) * fl.blockSize.bytes) :
      Stage t .send (.sending c k 1 0)
  /-- The image is through, and EOT is to come. -/
  | exhausted {c : Check} (hpos : D.size ≤ t.source.pos) : Stage t .send (.closing c 1)
  /-- Packet `k` is assembled, its first copy to be written. -/
  | assembled {c : Check} {k : Nat} (hc : t.sender.check = some c)
      (hnum : t.sender.packetNum = UInt32.ofNat k) (hl : Loaded D fl t c k)
      (htries : t.sender.tries = attempts) :
      Stage t .resend (.sending c k 1 0)
  /-- Copy `copy` of packet `k` is written up to `sent`. -/
  | sending {c : Check} {k copy sent : Nat} (hc : t.sender.check = some c)
      (hnum : t.sender.packetNum = UInt32.ofNat k) (hl : Loaded D fl t c k)
      (htries : t.sender.tries + copy = attempts + 1) (hleft : 0 < t.sender.tries)
      (hoff : t.sender.offset = sent) (hsent : sent < (packet D fl.blockSize c k).length) :
      Stage t .sending (.sending c k copy sent)
  /-- Copy `copy` of packet `k` is written, and its ACK awaited. -/
  | waitAck {c : Check} {k copy : Nat} (hc : t.sender.check = some c)
      (hnum : t.sender.packetNum = UInt32.ofNat k) (hl : Loaded D fl t c k)
      (htries : t.sender.tries + copy = attempts + 1) (hleft : 0 < t.sender.tries) :
      Stage t .waitAck (.waiting c k copy)
  /-- Copy `copy` of packet `k` failed, and the next is to be written from its start. -/
  | retry {c : Check} {k copy : Nat} {st : Wire} (hst : st = .waiting c k copy ∨ st = .refused c k copy)
      (hc : t.sender.check = some c) (hnum : t.sender.packetNum = UInt32.ofNat k)
      (hl : Loaded D fl t c k) (htries : t.sender.tries + copy = attempts) (hleft : 0 < t.sender.tries) :
      Stage t .resend st
  /-- The same, the sender ready to write. -/
  | rewrite {c : Check} {k copy : Nat} {st : Wire} (hst : st = .waiting c k copy ∨ st = .refused c k copy)
      (hc : t.sender.check = some c) (hnum : t.sender.packetNum = UInt32.ofNat k)
      (hl : Loaded D fl t c k) (htries : t.sender.tries + copy = attempts) (hleft : 0 < t.sender.tries)
      (hoff : t.sender.offset = 0) :
      Stage t .sending st
  /-- Attempt `n` at EOT is to be made. -/
  | eot {c : Check} {n : Nat} (htries : t.sender.tries + n = attempts + 1) (hleft : 0 < t.sender.tries) :
      Stage t .eof (.closing c n)
  /-- Attempt `n` at EOT failed, and the next is to be made. -/
  | reEot {c : Check} {n : Nat} {st : Wire} (hst : st = .closed c n ∨ st = .closeRefused c n)
      (htries : t.sender.tries + n = attempts) (hleft : 0 < t.sender.tries) :
      Stage t .eof st
  /-- Attempt `n` at EOT is made, and its ACK awaited. -/
  | finalAck {c : Check} {n : Nat} (htries : t.sender.tries + n = attempts + 1)
      (hleft : 0 < t.sender.tries) :
      Stage t .finalAck (.closed c n)
  | success : Stage t .success .done
  | failure : Stage t .failure .aborted

end Agreement

end Transfer

namespace Wire

/-- The monitor after a third failed attempt: CAN CAN is what may come. -/
def Spent : Wire → Prop
  | .waiting _ _ copy | .refused _ _ copy => copy = attempts
  | .closed _ n | .closeRefused _ n => n = attempts
  | _ => False

/-- After the attempts are spent, the monitor takes CAN CAN and ends aborted. -/
theorem Spent.cancel {D : Array UInt8} {fl : Flags} {st : Wire} (h : st.Spent) {n : Nat} (hn : n ≤ 2) :
    step D fl st (.write [can, can] n) = some .aborted := by
  cases st <;> simp only [Spent] at h
  all_goals simp [step, resend, reclose, h, hn]

/-- Reads of 64 bytes that the monitor passes over keep it where it is. -/
theorem foldlM_reads {D : Array UInt8} {fl : Flags} {st : Wire} {calls : List PortCall}
    (hcalls : ∀ c ∈ calls, ∃ got, c = .read 64 got) (hst : ∀ got, step D fl st (.read 64 got) = some st) :
    calls.foldlM (step D fl) st = some st := by
  induction calls with
  | nil => rfl
  | cons c rest ih =>
    obtain ⟨got, rfl⟩ := hcalls c List.mem_cons_self
    rw [List.foldlM_cons, hst got]
    exact ih fun c hc => hcalls c (List.mem_cons_of_mem _ hc)

/-- The trailer a start request asks for: `C` the CRC, NAK the sum unless CRC is forced. -/
def opened (fl : Flags) (b : UInt8) : Option Check :=
  if b = crcRequest then some .crc else if b = nak ∧ fl.forceCrc = false then some .sum else none

/-- The monitor's first byte picks the check, or keeps waiting. -/
theorem step_opening_read (D : Array UInt8) (fl : Flags) (b : UInt8) :
    step D fl .opening (.read 1 [b]) = some ((opened fl b).elim .opening (next D fl · 1)) := by
  show some (if b = crcRequest then next D fl .crc 1
    else if b = nak ∧ fl.forceCrc = false then next D fl .sum 1 else .opening) = _
  by_cases hC : b = crcRequest <;> by_cases hN : b = nak ∧ fl.forceCrc = false <;>
    simp [opened, hC, hN, show nak ≠ crcRequest by decide]

section Writes

variable {D : Array UInt8} {fl : Flags} {c : Check}

/-- The next piece of the copy going out. -/
theorem step_sending_write {k copy sent n : Nat}
    (hn : n ≤ ((packet D fl.blockSize c k).drop sent).length) :
    step D fl (.sending c k copy sent) (.write ((packet D fl.blockSize c k).drop sent) n) =
      some (if sent + n = (packet D fl.blockSize c k).length then .waiting c k copy
        else .sending c k copy (sent + n)) := by
  simpa [step] using hn

/-- The next copy of a packet, from its start. -/
theorem step_retry_write {k copy n : Nat} {st : Wire}
    (hst : st = .waiting c k copy ∨ st = .refused c k copy) (hcopy : copy < attempts)
    (hn : n ≤ (packet D fl.blockSize c k).length) :
    step D fl st (.write (packet D fl.blockSize c k) n) =
      some (if n = (packet D fl.blockSize c k).length then .waiting c k (copy + 1)
        else .sending c k (copy + 1) n) := by
  have h : resend D fl c k copy (packet D fl.blockSize c k) n =
      some (if n = (packet D fl.blockSize c k).length then .waiting c k (copy + 1)
        else .sending c k (copy + 1) n) := by
    rw [resend, if_pos hcopy, if_pos ⟨rfl, hn⟩]
  rcases hst with rfl | rfl <;> simpa only [step] using h

/-- The first attempt at EOT. -/
theorem step_closing_eot {n j : Nat} (hj : j ≤ 1) :
    step D fl (.closing c n) (.write [eot] j) = some (.closed c n) := by
  simp [step, hj]

/-- A later attempt at EOT. -/
theorem step_reclose_eot {n j : Nat} {st : Wire} (hst : st = .closed c n ∨ st = .closeRefused c n)
    (hn : n < attempts) (hj : j ≤ 1) :
    step D fl st (.write [eot] j) = some (.closed c (n + 1)) := by
  have h : reclose c n [eot] j = some (.closed c (n + 1)) := by
    rw [reclose, if_pos hn, if_pos ⟨rfl, hj⟩]
  rcases hst with rfl | rfl <;> simpa only [step] using h

end Writes

end Wire

namespace Transfer

section Agreement

variable (D : Array UInt8) (fl : Flags)

/-- A run of the sender from `t` to `t'`, ending with `r`, that the monitor follows from `st`:
the calls it made pass the monitor; the flags, the image and the buffer's size stay; and the
sender stands where the monitor ends up, or, if it failed, the monitor is spent. -/
def Follows {α : Type} (t : Transfer LoggedPort) (st : Wire) (r : Except Error α)
    (t' : Transfer LoggedPort) : Prop :=
  ∃ calls st', t'.port.log = t.port.log ++ calls ∧ calls.foldlM (Wire.step D fl) st = some st' ∧
    Frame D fl t' ∧ t'.buffer.size = t.buffer.size ∧
    match r with
    | .ok _ => Stage D fl t' t'.sender.phase st'
    | .error _ => st'.Spent

end Agreement


section Steps

variable {D : Array UInt8} {fl : Flags} {t t' : Transfer LoggedPort} {st : Wire} {now : Millis}
  {r : Except Error Step}

/-- The link plays no part in where the sender stands. -/
theorem Stage.withPort {ph : Phase} (h : Stage D fl t ph st) (p : LoggedPort) :
    Stage D fl { t with port := p } ph st := by
  cases h <;> constructor <;> assumption

/-- A stage at the sender's own phase. -/
theorem Stage.at_phase {ph : Phase} (hph : t.sender.phase = ph) (h : Stage D fl t ph st) :
    Stage D fl t t.sender.phase st :=
  hph ▸ h

/-- A step that changes neither the sender, the buffer nor the image, and whose calls the monitor
follows. -/
theorem Follows.still {calls : List PortCall} {st' : Wire} {a : Step} (hf : Frame D fl t)
    (hst : Stage D fl t t.sender.phase st') (hrun : calls.foldlM (Wire.step D fl) st = some st')
    (p : LoggedPort) (hp : p.log = t.port.log ++ calls) : Follows D fl t st (.ok a) { t with port := p } :=
  ⟨calls, st', hp, hrun, ⟨hf.flags, hf.data, hf.limit⟩, rfl, hst.withPort p⟩

/-- Where the sender stands once packet `k` is next, as the monitor's `next` says. -/
theorem stage_next {c : Check} {k : Nat} (hc : t.sender.check = some c)
    (hnum : t.sender.packetNum = UInt32.ofNat k) (hph : t.sender.phase = .send) (hk : 1 ≤ k)
    (hpos : t.source.pos = min ((k - 1) * fl.blockSize.bytes) D.size) :
    Stage D fl t t.sender.phase (Wire.next D fl c k) := by
  obtain ⟨j, rfl⟩ : ∃ j, k = j + 1 := ⟨k - 1, by omega⟩
  rw [Nat.add_sub_cancel] at hpos
  have hcount := succ_le_packetCount_iff (D := D) (BlockSize.bytes_pos fl.blockSize) j
  rw [hph, Wire.next]
  split
  · next hk' => exact .assemble hc hnum ⟨hk, hk'⟩ (by rw [Nat.add_sub_cancel]; omega)
  · next hk' => exact .exhausted (by omega)

/-- A start request, taken as the monitor takes it. -/
theorem acceptStart_run (b : UInt8) (hph : t.sender.phase = .start) :
    (acceptStart b).run t = match Wire.opened t.sender.flags b with
      | some c => (.ok true, { t with sender := { t.sender with check := some c, packetNum := 1, phase := .send } })
      | none => (.ok false, t) := by
  have hnak : nak ≠ crcRequest := by decide
  unfold acceptStart Wire.opened
  simp only [run_bind, run_get, hph]
  by_cases hC : b = crcRequest
  · subst hC
    simp [Ne.symm hnak]
    rfl
  · by_cases hN : b = nak ∧ t.sender.flags.forceCrc = false
    · obtain ⟨rfl, hforce⟩ := hN
      simp [hforce]
      rfl
    · simp [hC, hN]

/-- The monitor follows a step at Flush: the note on what was dropped changes nothing. -/
theorem flush_follows (hf : Frame D fl t) (hph : t.sender.phase = .flush)
    (hst : Stage D fl t .flush st) (h : (step now).run t = (r, t')) : Follows D fl t st r t' := by
  cases hst with
  | flush hpos =>
  obtain ⟨n, q, calls, hrun, hcalls⟩ := LoggedPort.drain_run t.port
  simp only [step, run_bind, run_get, hph, onPort_run, hrun] at h
  split at h <;> simp only [run_bind, say_run, update_run, run_pure, Prod.mk.injEq] at h <;>
    obtain ⟨rfl, rfl⟩ := h <;>
    exact ⟨calls, .opening, rfl, Wire.foldlM_reads hcalls (fun _ => rfl), ⟨hf.flags, hf.data, hf.limit⟩,
      rfl, .start hpos⟩

/-- The monitor follows a step at Start: any byte but a start request is passed over. -/
theorem start_follows (hf : Frame D fl t) (hph : t.sender.phase = .start)
    (hst : Stage D fl t .start st) (h : (step now).run t = (r, t')) : Follows D fl t st r t' := by
  have hstart := hph ▸ hst
  cases hst with
  | start hpos =>
  simp only [step, run_bind, run_get, hph, onPort_run, LoggedPort.readByte_run] at h
  rcases ByteQueue.take_one_cases t.port.rx with hnone | ⟨b, hb⟩
  · -- nothing heard
    simp only [hnone, List.head?_nil, run_pure, Prod.mk.injEq] at h
    obtain ⟨rfl, rfl⟩ := h
    exact Follows.still hf hstart rfl _ rfl
  · simp only [hb, List.head?_cons, run_bind, acceptStart_run, hph, hf.flags] at h
    have hmon := Wire.step_opening_read D fl b
    cases hopen : Wire.opened fl b with
    | none =>
      simp only [hopen] at h
      obtain ⟨rfl, rfl⟩ := h
      exact Follows.still hf hstart (by simp [hmon, hopen]) _ rfl
    | some c =>
      simp only [hopen] at h
      obtain ⟨rfl, rfl⟩ := h
      exact ⟨[.read 1 [b]], Wire.next D fl c 1, rfl, by simp [hmon, hopen], ⟨rfl, hf.data, hf.limit⟩, rfl, stage_next rfl rfl rfl (Nat.le_refl 1) (by simpa using hpos)⟩

/-- The monitor follows a step at Send: the stale input drained, packet `j + 1` waits in the
buffer for its first copy. -/
theorem send_follows (hf : Frame D fl t) (hph : t.sender.phase = .send)
    (hroom : 3 + t.sender.blockBytes + 2 ≤ t.buffer.size)
    (hst : Stage D fl t .send st) (h : (step now).run t = (r, t')) : Follows D fl t st r t' := by
  have hbs : t.sender.blockBytes = fl.blockSize.bytes := by rw [Sender.blockBytes, hf.flags]
  simp only [step, run_bind, run_get, hph] at h
  simp only [update_run] at h
  cases hst with
  | @assemble c k hc hnum hk hpos =>
    obtain ⟨j, rfl⟩ : ∃ j, k = j + 1 := ⟨k - 1, by omega⟩
    have hj : j * t.sender.blockBytes < t.source.data.size := by
      rw [hbs, hf.data, ← succ_le_packetCount_iff (BlockSize.bytes_pos fl.blockSize)]
      exact hk.2
    obtain ⟨buf, hrun, hsize, htake⟩ := assemble_packet (t := { t with sender := { t.sender with tries := attempts } })
      hf.limit (by rw [hpos, ← hbs, Nat.add_sub_cancel]; rfl) hj hroom hnum hc
    dsimp only at hrun hsize htake
    rw [hf.data, hf.flags] at htake
    obtain ⟨n, q, calls, hdrain, hcalls⟩ := LoggedPort.drain_run t.port
    simp only [hrun, Bool.not_true, Bool.false_eq_true, if_false, run_bind, onPort_run, hdrain, update_run,
      run_pure, Prod.mk.injEq] at h
    obtain ⟨rfl, rfl⟩ := h
    refine ⟨calls, .sending c (j + 1) 1 0, rfl, Wire.foldlM_reads hcalls (fun _ => rfl),
      ⟨hf.flags, hf.data, hf.limit⟩, hsize, .assembled hc hnum ⟨htake, ?_⟩ rfl⟩
    show min ((j + 1) * t.sender.blockBytes) t.source.data.size = _
    rw [hbs, hf.data]
  | @exhausted c hpos =>
    have hend := assemble_end (t := { t with sender := { t.sender with tries := attempts } }) hf.limit
      (by rw [hf.data]; exact hpos)
    dsimp only at hend
    simp only [hend, Bool.not_false, if_true, run_bind, update_run, run_pure, Prod.mk.injEq] at h
    obtain ⟨rfl, rfl⟩ := h
    exact ⟨[], .closing c 1, by simp, rfl, ⟨hf.flags, hf.data, hf.limit⟩, rfl,
      .eot rfl (show 0 < attempts by decide)⟩

/-- The monitor follows a step at Resend. -/
theorem resend_follows (hf : Frame D fl t) (hph : t.sender.phase = .resend)
    (hst : Stage D fl t .resend st) (h : (step now).run t = (r, t')) : Follows D fl t st r t' := by
  simp only [step, run_bind, run_get, hph, update_run, run_pure, Prod.mk.injEq] at h
  obtain ⟨rfl, rfl⟩ := h
  refine ⟨[], st, by simp, rfl, ⟨hf.flags, hf.data, hf.limit⟩, rfl, ?_⟩
  cases hst with
  | assembled hc hnum hl htries =>
    exact .sending hc hnum hl (by rw [htries]) (by rw [htries]; decide) rfl (by simp [packet])
  | retry hst hc hnum hl htries hleft => exact .rewrite hst hc hnum hl htries hleft rfl

/-- A failed attempt: one try fewer, then `again`, or `cancelled` once none is left. -/
def FailedAttempt (s : Sender) (again : Phase) (r : Except Error Step) (s' : Sender) : Prop :=
  (s.tries - 1 = 0 ∧ r = .error .cancelled ∧ s' = { s with tries := s.tries - 1 }) ∨
    (s.tries - 1 ≠ 0 ∧ r = .ok .pause ∧ s' = { s with tries := s.tries - 1, phase := again })

/-- The end of a step whose attempt failed: one try fewer, then `again`, or `cancelled` once
none is left. -/
theorem failedAttempt_run (u : Transfer LoggedPort) (n : Nat) (again : Phase) (msg : String) :
    ((do
        update fun s => { s with tries := s.tries - 1 }
        if n - 1 = 0 then
          say .warn msg
          throw .cancelled
        update fun s => { s with phase := again }
        pure .pause : Action (Transfer LoggedPort) Step)).run u =
      if n - 1 = 0 then (.error .cancelled, { u with sender := { u.sender with tries := u.sender.tries - 1 } })
      else (.ok .pause, { u with sender := { u.sender with tries := u.sender.tries - 1, phase := again } }) := by
  by_cases hz : n - 1 = 0
  · rw [if_pos hz]
    simp only [run_bind, update_run, if_pos hz, say_run, run_throw]
  · rw [if_neg hz]
    simp only [run_bind, update_run, if_neg hz, run_pure]

/-- A failed attempt fails the sender after the last try, and otherwise tries again. -/
theorem failedAttempt_of {s : Sender} {buf : Array UInt8} {src : Source} {p : LoggedPort} {again : Phase}
    {r : Except Error Step} {t' : Transfer LoggedPort}
    (h : (if s.tries - 1 = 0 then
        (Except.error Error.cancelled,
          { sender := { s with tries := s.tries - 1 }, buffer := buf, source := src, port := p })
      else (Except.ok Step.pause,
          { sender := { s with tries := s.tries - 1, phase := again }, buffer := buf, source := src,
            port := p })) = (r, t')) :
    ∃ s', FailedAttempt s again r s' ∧ t' = { sender := s', buffer := buf, source := src, port := p } := by
  by_cases hz : s.tries - 1 = 0
  · rw [if_pos hz, Prod.mk.injEq] at h
    obtain ⟨rfl, rfl⟩ := h
    exact ⟨_, .inl ⟨hz, rfl, rfl⟩, rfl⟩
  · rw [if_neg hz, Prod.mk.injEq] at h
    obtain ⟨rfl, rfl⟩ := h
    exact ⟨_, .inr ⟨hz, rfl, rfl⟩, rfl⟩

/-- What a step awaiting a packet's ACK does: one read; after ACK the next packet; silence before
the deadline changes nothing; anything else, or silence after it, is a failed attempt. -/
theorem waitAck_cases (hph : t.sender.phase = .waitAck) (h : (step now).run t = (r, t')) :
    ∃ got p, p.log = t.port.log ++ [.read 1 got] ∧
      ((got = [ack] ∧ r = .ok .pause ∧
          t' = { t with
            sender := { t.sender with packetNum := t.sender.packetNum + 1, phase := .send }
            port := p }) ∨
        (got = [] ∧ r = .ok .pause ∧ t' = { t with port := p }) ∨
        ((got = [] ∨ ∃ b, got = [b] ∧ b ≠ ack) ∧
          ∃ s', FailedAttempt t.sender .resend r s' ∧ t' = { t with sender := s', port := p })) := by
  simp only [step, run_bind, run_get, hph, onPort_run, LoggedPort.readByte_run] at h
  rcases ByteQueue.take_one_cases t.port.rx with hnone | ⟨b, hb⟩
  · simp only [hnone, List.head?_nil] at h
    split at h
    · simp only [run_pure, Prod.mk.injEq] at h
      obtain ⟨rfl, rfl⟩ := h
      exact ⟨[], _, rfl, .inr (.inl ⟨rfl, rfl, rfl⟩)⟩
    · -- timed out
      simp only [run_bind, say_run, ↓failedAttempt_run] at h
      obtain ⟨s', hfail, rfl⟩ := failedAttempt_of h
      exact ⟨[], _, rfl, .inr (.inr ⟨.inl rfl, s', hfail, rfl⟩)⟩
  · simp only [hb, List.head?_cons] at h
    split at h
    · next hack =>
      simp only [say_run, run_bind, update_run, run_pure, Prod.mk.injEq] at h
      obtain ⟨rfl, rfl⟩ := h
      exact ⟨[b], _, rfl, .inl ⟨by rw [hack], rfl, rfl⟩⟩
    · next hack =>
      simp only [run_bind, say_run, ↓failedAttempt_run] at h
      obtain ⟨s', hfail, rfl⟩ := failedAttempt_of h
      exact ⟨[b], _, rfl, .inr (.inr ⟨.inr ⟨b, rfl, hack⟩, s', hfail, rfl⟩)⟩

/-- What a step awaiting the ACK of EOT does, in the same way: after ACK success. -/
theorem finalAck_cases (hph : t.sender.phase = .finalAck) (h : (step now).run t = (r, t')) :
    ∃ got p, p.log = t.port.log ++ [.read 1 got] ∧
      ((got = [ack] ∧ r = .ok .pause ∧
          t' = { t with sender := { t.sender with phase := .success }, port := p }) ∨
        (got = [] ∧ r = .ok .pause ∧ t' = { t with port := p }) ∨
        ((got = [] ∨ ∃ b, got = [b] ∧ b ≠ ack) ∧
          ∃ s', FailedAttempt t.sender .eof r s' ∧ t' = { t with sender := s', port := p })) := by
  simp only [step, run_bind, run_get, hph, onPort_run, LoggedPort.readByte_run] at h
  rcases ByteQueue.take_one_cases t.port.rx with hnone | ⟨b, hb⟩
  · simp only [hnone, List.head?_nil] at h
    split at h
    · simp only [run_pure, Prod.mk.injEq] at h
      obtain ⟨rfl, rfl⟩ := h
      exact ⟨[], _, rfl, .inr (.inl ⟨rfl, rfl, rfl⟩)⟩
    · -- timed out
      simp only [run_bind, say_run, ↓failedAttempt_run] at h
      obtain ⟨s', hfail, rfl⟩ := failedAttempt_of h
      exact ⟨[], _, rfl, .inr (.inr ⟨.inl rfl, s', hfail, rfl⟩)⟩
  · simp only [hb, List.head?_cons] at h
    split at h
    · next hack =>
      simp only [say_run, run_bind, update_run, run_pure, Prod.mk.injEq] at h
      obtain ⟨rfl, rfl⟩ := h
      exact ⟨[b], _, rfl, .inl ⟨by rw [hack], rfl, rfl⟩⟩
    · next hack =>
      simp only [run_bind, say_run, ↓failedAttempt_run] at h
      obtain ⟨s', hfail, rfl⟩ := failedAttempt_of h
      exact ⟨[b], _, rfl, .inr (.inr ⟨.inr ⟨b, rfl, hack⟩, s', hfail, rfl⟩)⟩

/-- A failed attempt at copy `copy` of packet `k`: the next copy, or a spent monitor. -/
theorem retry_follows {c : Check} {k copy : Nat} {st₁ : Wire} {got : List UInt8} {p : LoggedPort}
    {s' : Sender} (hf : Frame D fl t) (hc : t.sender.check = some c)
    (hnum : t.sender.packetNum = UInt32.ofNat k) (hl : Loaded D fl t c k)
    (htries : t.sender.tries + copy = attempts + 1) (hleft : 0 < t.sender.tries)
    (hst₁ : st₁ = .waiting c k copy ∨ st₁ = .refused c k copy)
    (hmon : Wire.step D fl st (.read 1 got) = some st₁) (hp : p.log = t.port.log ++ [.read 1 got])
    (hfail : FailedAttempt t.sender .resend r s') : Follows D fl t st r { t with sender := s', port := p } := by
  rcases hfail with ⟨hz, rfl, rfl⟩ | ⟨hz, rfl, rfl⟩
  · -- the third copy failed
    refine ⟨[.read 1 got], st₁, hp, by simp [hmon], ⟨hf.flags, hf.data, hf.limit⟩, rfl, ?_⟩
    rcases hst₁ with rfl | rfl <;> (show copy = attempts; omega)
  · exact ⟨[.read 1 got], st₁, hp, by simp [hmon], ⟨hf.flags, hf.data, hf.limit⟩, rfl,
      .retry hst₁ hc hnum hl (by dsimp only; omega) (by dsimp only; omega)⟩

/-- A failed attempt at EOT: the next attempt, or a spent monitor. -/
theorem reclose_follows {c : Check} {n : Nat} {st₁ : Wire} {got : List UInt8} {p : LoggedPort}
    {s' : Sender} (hf : Frame D fl t) (htries : t.sender.tries + n = attempts + 1)
    (hleft : 0 < t.sender.tries) (hst₁ : st₁ = .closed c n ∨ st₁ = .closeRefused c n)
    (hmon : Wire.step D fl st (.read 1 got) = some st₁) (hp : p.log = t.port.log ++ [.read 1 got])
    (hfail : FailedAttempt t.sender .eof r s') : Follows D fl t st r { t with sender := s', port := p } := by
  rcases hfail with ⟨hz, rfl, rfl⟩ | ⟨hz, rfl, rfl⟩
  · -- the third attempt failed
    refine ⟨[.read 1 got], st₁, hp, by simp [hmon], ⟨hf.flags, hf.data, hf.limit⟩, rfl, ?_⟩
    rcases hst₁ with rfl | rfl <;> (show n = attempts; omega)
  · exact ⟨[.read 1 got], st₁, hp, by simp [hmon], ⟨hf.flags, hf.data, hf.limit⟩, rfl,
      .reEot hst₁ (by dsimp only; omega) (by dsimp only; omega)⟩

/-- The monitor follows a step at WaitAck. -/
theorem waitAck_follows (hf : Frame D fl t) (hph : t.sender.phase = .waitAck)
    (hst : Stage D fl t .waitAck st) (h : (step now).run t = (r, t')) : Follows D fl t st r t' := by
  cases hst with
  | @waitAck c k copy hc hnum hl htries hleft =>
  obtain ⟨got, p, hp, ⟨rfl, rfl, rfl⟩ | ⟨rfl, rfl, rfl⟩ | ⟨hgot, s', hfail, rfl⟩⟩ := waitAck_cases hph h
  · -- ACK: on to the next packet
    have hmon : Wire.step D fl (.waiting c k copy) (.read 1 [ack]) = some (Wire.next D fl c (k + 1)) := by
      show some (if ack = ack then _ else _) = _
      rw [if_pos rfl]
    refine ⟨[.read 1 [ack]], _, hp, by simp [hmon], ⟨hf.flags, hf.data, hf.limit⟩, rfl,
      stage_next hc ?_ rfl (Nat.le_add_left 1 k) ?_⟩
    · show t.sender.packetNum + 1 = _
      rw [hnum, UInt32.ofNat_add]
      rfl
    · show t.source.pos = _
      rw [hl.2, Nat.add_sub_cancel]
  · -- silence before the deadline
    exact Follows.still hf (hph ▸ .waitAck hc hnum hl htries hleft) rfl p hp
  · -- a failed copy: silence leaves it waiting, anything else refused
    rcases hgot with rfl | ⟨b, rfl, hb⟩
    · exact retry_follows hf hc hnum hl htries hleft (.inl rfl) rfl hp hfail
    · refine retry_follows hf hc hnum hl htries hleft (.inr rfl) ?_ hp hfail
      show some (if b = ack then _ else _) = _
      rw [if_neg hb]

/-- The monitor follows a step at FinalAck. -/
theorem finalAck_follows (hf : Frame D fl t) (hph : t.sender.phase = .finalAck)
    (hst : Stage D fl t .finalAck st) (h : (step now).run t = (r, t')) : Follows D fl t st r t' := by
  cases hst with
  | @finalAck c n htries hleft =>
  obtain ⟨got, p, hp, ⟨rfl, rfl, rfl⟩ | ⟨rfl, rfl, rfl⟩ | ⟨hgot, s', hfail, rfl⟩⟩ := finalAck_cases hph h
  · -- ACK: done
    have hmon : Wire.step D fl (.closed c n) (.read 1 [ack]) = some .done := by
      show some (if ack = ack then _ else _) = _
      rw [if_pos rfl]
    exact ⟨[.read 1 [ack]], _, hp, by simp [hmon], ⟨hf.flags, hf.data, hf.limit⟩, rfl, .success⟩
  · -- silence before the deadline
    exact Follows.still hf (hph ▸ .finalAck htries hleft) rfl p hp
  · -- a failed attempt: silence leaves it waiting, anything else refused
    rcases hgot with rfl | ⟨b, rfl, hb⟩
    · exact reclose_follows (c := c) hf htries hleft (.inl rfl) rfl hp hfail
    · refine reclose_follows (c := c) hf htries hleft (.inr rfl) ?_ hp hfail
      show some (if b = ack then _ else _) = _
      rw [if_neg hb]

/-- The chunk a sender at `offset` writes is the rest of the packet in its buffer. -/
theorem chunk_eq {c : Check} {k : Nat} (hf : Frame D fl t) (hc : t.sender.check = some c)
    (hl : Loaded D fl t c k) :
    (t.buffer.extract t.sender.offset t.sender.packetSize).toList =
      (packet D fl.blockSize c k).drop t.sender.offset := by
  rw [Sender.packetSize_eq hc D k, hf.flags, Array.toList_extract, List.extract_eq_take_drop,
    ← List.drop_take, hl.1]

/-- What a step writing packet `k` does: one write of the packet's rest, of which the link takes
`n` bytes; once the packet is through, its ACK is awaited. -/
theorem sending_cases {c : Check} {k : Nat} (hf : Frame D fl t) (hph : t.sender.phase = .sending)
    (hc : t.sender.check = some c) (hl : Loaded D fl t c k) (h : (step now).run t = (r, t')) :
    ∃ n p, n ≤ ((packet D fl.blockSize c k).drop t.sender.offset).length ∧
      p.log = t.port.log ++ [.write ((packet D fl.blockSize c k).drop t.sender.offset) n] ∧ r = .ok .pause ∧
      ((t.sender.offset + n = (packet D fl.blockSize c k).length ∧
          t' = { t with
            sender := { t.sender with
              offset := t.sender.offset + n
              deadline := Deadline.arm now ackTimeoutMs
              phase := .waitAck }
            port := p }) ∨
        (t.sender.offset + n ≠ (packet D fl.blockSize c k).length ∧
          t' = { t with sender := { t.sender with offset := t.sender.offset + n }, port := p })) := by
  have hsize := Sender.packetSize_eq hc D k
  rw [hf.flags] at hsize
  rw [step, run_bind, run_get] at h
  dsimp only at h
  rw [hph] at h
  simp only [run_bind, run_get, chunk_eq hf hc hl, onPort_run, LoggedPort.write_run, update_run] at h
  split at h
  · next hfull =>
    simp only [run_bind, say_run, update_run, run_pure, Prod.mk.injEq] at h
    obtain ⟨rfl, rfl⟩ := h
    refine ⟨_, _, LoggedPort.taken_le _ _, ?_, rfl, .inl ⟨by rw [← hsize]; exact hfull, rfl⟩⟩
    rfl
  · next hpart =>
    simp only [run_pure, Prod.mk.injEq] at h
    obtain ⟨rfl, rfl⟩ := h
    refine ⟨_, _, LoggedPort.taken_le _ _, ?_, rfl, .inr ⟨by rw [← hsize]; exact hpart, rfl⟩⟩
    rfl

/-- The monitor follows a step at Sending. -/
theorem sending_follows (hf : Frame D fl t) (hph : t.sender.phase = .sending)
    (hst : Stage D fl t .sending st) (h : (step now).run t = (r, t')) : Follows D fl t st r t' := by
  cases hst with
  | @sending c k copy sent hc hnum hl htries hleft hoff hsent =>
    subst hoff
    obtain ⟨n, p, hn, hp, rfl, ⟨hfull, rfl⟩ | ⟨hpart, rfl⟩⟩ := sending_cases hf hph hc hl h
    · -- the copy is through
      exact ⟨_, .waiting c k copy, hp, by simp [Wire.step_sending_write hn, hfull],
        ⟨hf.flags, hf.data, hf.limit⟩, rfl, .waitAck hc hnum hl htries hleft⟩
    · have hlen : t.sender.offset + n < (packet D fl.blockSize c k).length := by
        simp only [List.length_drop] at hn
        omega
      exact ⟨_, .sending c k copy (t.sender.offset + n), hp, by simp [Wire.step_sending_write hn, hpart],
        ⟨hf.flags, hf.data, hf.limit⟩, rfl, Stage.at_phase hph (.sending hc hnum hl htries hleft rfl hlen)⟩
  | @rewrite c k copy st hst hc hnum hl htries hleft hoff =>
    obtain ⟨n, p, hn, hp, rfl, ⟨hfull, rfl⟩ | ⟨hpart, rfl⟩⟩ := sending_cases hf hph hc hl h <;>
      rw [hoff, List.drop_zero] at hn hp
    · -- the next copy is through
      rw [hoff, Nat.zero_add] at hfull
      exact ⟨_, .waiting c k (copy + 1), hp,
        by rw [List.foldlM_cons, Wire.step_retry_write hst (by omega) hn, if_pos hfull]; rfl,
        ⟨hf.flags, hf.data, hf.limit⟩, rfl, .waitAck hc hnum hl (by dsimp only; omega) hleft⟩
    · rw [hoff, Nat.zero_add] at hpart
      exact ⟨_, .sending c k (copy + 1) n, hp,
        by rw [List.foldlM_cons, Wire.step_retry_write hst (by omega) hn, if_neg hpart]; rfl,
        ⟨hf.flags, hf.data, hf.limit⟩, rfl,
        Stage.at_phase hph (.sending hc hnum hl (by dsimp only; omega) hleft (by dsimp only; rw [hoff, Nat.zero_add])
          (by omega))⟩

/-- The monitor follows a step at Eof: whether or not the link took EOT, its ACK is awaited. -/
theorem eof_follows (hf : Frame D fl t) (hph : t.sender.phase = .eof)
    (hst : Stage D fl t .eof st) (h : (step now).run t = (r, t')) : Follows D fl t st r t' := by
  simp only [step, run_bind, run_get, hph, onPort_run, LoggedPort.write_run] at h
  have hj : LoggedPort.taken t.port.writeChunk 1 ≤ 1 := LoggedPort.taken_le _ 1
  split at h <;> simp only [run_bind, say_run, update_run, run_pure, Prod.mk.injEq] at h <;>
    obtain ⟨rfl, rfl⟩ := h <;>
    cases hst with
    | @eot c n htries hleft =>
      exact ⟨_, .closed c n, rfl, by simp [Wire.step_closing_eot hj], ⟨hf.flags, hf.data, hf.limit⟩,
        rfl, .finalAck htries hleft⟩
    | @reEot c n st hst htries hleft =>
      exact ⟨_, .closed c (n + 1), rfl, by simp [Wire.step_reclose_eot hst (by omega) hj],
        ⟨hf.flags, hf.data, hf.limit⟩, rfl, .finalAck (by dsimp only; omega) hleft⟩

/-- The monitor follows every step of a sender. -/
theorem step_follows (hf : Frame D fl t) (hroom : 3 + t.sender.blockBytes + 2 ≤ t.buffer.size)
    (hst : Stage D fl t t.sender.phase st) (h : (step now).run t = (r, t')) : Follows D fl t st r t' := by
  cases hph : t.sender.phase <;> rw [hph] at hst
  case flush => exact flush_follows hf hph hst h
  case start => exact start_follows hf hph hst h
  case send => exact send_follows hf hph hroom hst h
  case resend => exact resend_follows hf hph hst h
  case sending => exact sending_follows hf hph hst h
  case waitAck => exact waitAck_follows hf hph hst h
  case eof => exact eof_follows hf hph hst h
  case finalAck => exact finalAck_follows hf hph hst h
  all_goals
    simp only [step, run_bind, run_get, hph, run_pure, Prod.mk.injEq] at h
    obtain ⟨rfl, rfl⟩ := h
    exact ⟨[], st, by simp, rfl, hf, rfl, Stage.at_phase hph hst⟩

/-- A run that the monitor follows, then one more. -/
theorem Follows.trans {α β : Type} {a : α} {t₁ : Transfer LoggedPort} {r' : Except Error β}
    (h₁ : Follows D fl t st (.ok a) t₁)
    (h₂ : ∀ st₁, Frame D fl t₁ → Stage D fl t₁ t₁.sender.phase st₁ → Follows D fl t₁ st₁ r' t') :
    Follows D fl t st r' t' := by
  obtain ⟨calls₁, st₁, hlog₁, hrun₁, hf₁, hsize₁, hst₁⟩ := h₁
  obtain ⟨calls₂, st₂, hlog₂, hrun₂, hf₂, hsize₂, hend⟩ := h₂ st₁ hf₁ hst₁
  refine ⟨calls₁ ++ calls₂, st₂, by rw [hlog₂, hlog₁, List.append_assoc], ?_, hf₂, hsize₂.trans hsize₁, hend⟩
  rw [List.foldlM_append, hrun₁]
  exact hrun₂

/-- The steps of one tick, however many run. -/
theorem steps_follows (hf : Frame D fl t) (hroom : 3 + t.sender.blockBytes + 2 ≤ t.buffer.size)
    (hst : Stage D fl t t.sender.phase st) {fuel : Nat} {r : Except Error Status}
    (h : (steps now fuel).run t = (r, t')) : Follows D fl t st r t' := by
  induction fuel generalizing t st with
  | zero =>
    simp only [steps, run_pure, Prod.mk.injEq] at h
    obtain ⟨rfl, rfl⟩ := h
    exact ⟨[], st, by simp, rfl, hf, rfl, hst⟩
  | succ fuel ih =>
    rw [steps, run_bind] at h
    rcases hstep : (step now).run t with ⟨r₁, t₁⟩
    have h₁ := step_follows hf hroom hst hstep
    rw [hstep] at h
    rcases r₁ with e | (_ | _)
    · -- the step failed, and so does the tick
      obtain ⟨rfl, rfl⟩ := Prod.mk.inj h
      exact h₁
    · -- on to the next step
      refine h₁.trans fun st₁ hf₁ hst₁ => ih hf₁ ?_ hst₁ h
      obtain ⟨_, _, _, _, _, hsize, _⟩ := h₁
      rw [Sender.blockBytes, hf₁.flags, hsize, ← hf.flags]
      exact hroom
    · -- the step yields
      simp only [run_bind, run_get, run_pure, Prod.mk.injEq] at h
      obtain ⟨rfl, rfl⟩ := h
      exact h₁

/-- A tick against the monitor: however it ends, the calls it made pass the monitor, and the
sender stands where the monitor does; a tick that fails has spent the third attempt and sent
CAN CAN. -/
theorem tick_follows (hf : Frame D fl t) (hst : Stage D fl t t.sender.phase st) {r : Except Error Status}
    (h : (tick now).run t = (r, t')) :
    ∃ calls st', t'.port.log = t.port.log ++ calls ∧ calls.foldlM (Wire.step D fl) st = some st' ∧
      Frame D fl t' ∧ Stage D fl t' t'.sender.phase st' := by
  simp only [tick, run_bind, run_get] at h
  split at h
  · -- done already
    simp only [run_pure, Prod.mk.injEq] at h
    obtain ⟨rfl, rfl⟩ := h
    exact ⟨[], st, by simp, rfl, hf, hst⟩
  · -- failed already
    simp only [run_bind, run_throw, Prod.mk.injEq] at h
    obtain ⟨rfl, rfl⟩ := h
    exact ⟨[], st, by simp, rfl, hf, hst⟩
  · split at h
    · -- no room for a packet
      simp only [run_bind, run_throw, Prod.mk.injEq] at h
      obtain ⟨rfl, rfl⟩ := h
      exact ⟨[], st, by simp, rfl, hf, hst⟩
    · next hroom =>
      rw [run_tryCatch] at h
      rcases hsteps : (steps now 6).run t with ⟨r₁, t₁⟩
      obtain ⟨calls, st₁, hlog, hrun, hf₁, -, hend⟩ := steps_follows hf (by omega) hst hsteps
      rw [hsteps] at h
      rcases r₁ with e | a
      · -- the sender gives up: CAN CAN
        simp only [abort, run_bind, update_run, run_tryCatch, onPort_run, LoggedPort.write_run,
          run_pure, run_throw, Prod.mk.injEq] at h
        obtain ⟨rfl, rfl⟩ := h
        have hj : LoggedPort.taken t₁.port.writeChunk 2 ≤ 2 := LoggedPort.taken_le _ 2
        refine ⟨calls ++ [.write [can, can] (LoggedPort.taken t₁.port.writeChunk 2)], .aborted,
          by simp [hlog], ?_, ⟨hf₁.flags, hf₁.data, hf₁.limit⟩, .failure⟩
        rw [List.foldlM_append, hrun]
        simp [Wire.Spent.cancel hend hj]
      · simp only [Prod.mk.injEq] at h
        obtain ⟨rfl, rfl⟩ := h
        exact ⟨calls, st₁, hlog, hrun, hf₁, hend⟩

end Steps


/-! ## Runs -/

section Runs

variable {D : Array UInt8} {fl : Flags} {t t₀ : Transfer LoggedPort} {ph : Phase} {st : Wire}

/-- Only a finished sender stands where the monitor has seen EOT acknowledged. -/
theorem Stage.success_iff (h : Stage D fl t ph st) : ph = .success ↔ st = .done := by
  cases h <;> grind

/-- Only a failed sender stands where the monitor has seen CAN CAN. -/
theorem Stage.failure_iff (h : Stage D fl t ph st) : ph = .failure ↔ st = .aborted := by
  cases h <;> grind

/-- A tick at the link's clock. -/
def advance (t : Transfer LoggedPort) : Transfer LoggedPort := ((tick t.port.now).run t).2

/-- The transfer once its surroundings changed: what was received, the clock, the link's limits. -/
def meetPort (w : Surroundings) (t : Transfer LoggedPort) : Transfer LoggedPort :=
  { t with port := t.port.meet w }

/-- The transfers reached from `t₀` by ticks, between which anything may arrive, the clock may
move and the link may limit its writes. -/
abbrev Reachable (t₀ t : Transfer LoggedPort) : Prop := Reaches advance meetPort t₀ t

variable (D fl) in
/-- The monitor follows the whole log and stands where the sender does. -/
def Tracks (t : Transfer LoggedPort) : Prop :=
  ∃ st, wire D fl t.port.log = some st ∧ Frame D fl t ∧ Stage D fl t t.sender.phase st

/-- A tick keeps the monitor tracking the sender. -/
theorem Tracks.advance (h : Tracks D fl t) : Tracks D fl (advance t) := by
  obtain ⟨st, hw, hf, hst⟩ := h
  obtain ⟨calls, st', hlog, hrun, hf', hst'⟩ := tick_follows hf hst
    (show (tick t.port.now).run t = (((tick t.port.now).run t).1, Transfer.advance t) from rfl)
  refine ⟨st', ?_, hf', hst'⟩
  rw [hlog, wire, List.foldlM_append, ← wire, hw]
  exact hrun

/-- A change of surroundings keeps the monitor tracking the sender. -/
theorem Tracks.meetPort (w : Surroundings) (h : Tracks D fl t) : Tracks D fl (meetPort w t) := by
  obtain ⟨st, hw, hf, hst⟩ := h
  exact ⟨st, hw, ⟨hf.flags, hf.data, hf.limit⟩, hst.withPort _⟩

/-- Every state reached keeps the monitor tracking the sender. -/
theorem reachable_tracks (h₀ : Tracks D fl t₀) (h : Reachable t₀ t) : Tracks D fl t :=
  Reaches.induct_on (Tracks D fl) h₀ (fun _ _ => Tracks.advance) (fun w _ _ => Tracks.meetPort w) h

/-- A send starts with nothing logged, at the start of the image, waiting for the start request
or flushing first. -/
theorem tracks_start (hsender : t₀.sender = Sender.new fl ∨ t₀.sender = (Sender.new fl).withFlush)
    (hpos : t₀.source.pos = 0) (hlim : t₀.source.readLimit = none) (hlog : t₀.port.log = []) :
    Tracks t₀.source.data fl t₀ := by
  refine ⟨.opening, by rw [hlog]; rfl, ⟨?_, rfl, hlim⟩, ?_⟩
  · rcases hsender with h | h <;> rw [h] <;> rfl
  · rcases hsender with h | h <;> rw [h]
    · exact .start hpos
    · exact .flush hpos

/-- An XMODEM send of an image held whole, from its start: in every run, whatever the receiver
sends, however the clock moves and however much each write takes, the calls on the link pass the
monitor `Wire`; so the bytes written are the image's packets, each one to three times, then
EOTs, then at most CAN CAN; and the sender is through, or failed, exactly when the monitor says
so. -/
theorem send_follows_wire {fl : Flags} {t : Transfer LoggedPort}
    (hsender : t₀.sender = Sender.new fl ∨ t₀.sender = (Sender.new fl).withFlush)
    (hpos : t₀.source.pos = 0) (hlim : t₀.source.readLimit = none) (hlog : t₀.port.log = [])
    (h : Reachable t₀ t) :
    ∃ st, wire t₀.source.data fl t.port.log = some st ∧
      Wire.Written t₀.source.data fl st (sentBytes t.port.log) ∧
      (t.sender.phase = .success ↔ st = .done) ∧ (t.sender.phase = .failure ↔ st = .aborted) := by
  obtain ⟨st, hw, -, hst⟩ := reachable_tracks (tracks_start hsender hpos hlim hlog) h
  exact ⟨st, hw, Wire.written_of_wire hw, hst.success_iff, hst.failure_iff⟩

/-- A 200-byte image offered with CRC forced, before the receiver has asked for anything. -/
def crcStart : Transfer LoggedPort where
  sender := Sender.new { forceCrc := true }
  buffer := Array.replicate maxPacketSize 0
  source := Source.ofBytes (Array.replicate 200 0x5A)
  port := { rx := default }

/-- The receiver asks for CRC, and the tick that follows sends the first packet. -/
def crcRequested : Surroundings := ⟨ByteQueue.push [crcRequest] default, 0, 4096, none, []⟩

/-- A CRC sender asked to start follows the monitor on every run. -/
theorem crcStart_follows_wire :
    crcStart.sender = Sender.new { forceCrc := true } ∧ crcStart.source.pos = 0 ∧
      crcStart.source.readLimit = none ∧ crcStart.port.log = [] ∧
      Reachable crcStart (advance (meetPort crcRequested crcStart)) ∧
      ∃ st, wire crcStart.source.data { forceCrc := true }
          (advance (meetPort crcRequested crcStart)).port.log = some st ∧
        Wire.Written crcStart.source.data { forceCrc := true } st
          (sentBytes (advance (meetPort crcRequested crcStart)).port.log) ∧
        ((advance (meetPort crcRequested crcStart)).sender.phase = .success ↔ st = .done) ∧
        ((advance (meetPort crcRequested crcStart)).sender.phase = .failure ↔ st = .aborted) :=
  ⟨rfl, rfl, rfl, rfl, (Reaches.start.meet crcRequested).tick,
    send_follows_wire (.inl rfl) rfl rfl rfl (Reaches.start.meet crcRequested).tick⟩

end Runs

end Transfer

end Xmodem

end RadioFlash

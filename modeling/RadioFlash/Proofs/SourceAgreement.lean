import RadioFlash.Proofs.SessionFrame
/-!
# An image in memory and a stream over it read alike

A reader sees a firmware image through seeks and reads of a `Source`. An image held in memory
and a seekable stream over the same bytes differ in one place only: a seek past the end, which
the held image refuses and the stream takes. Every script of calls whose seeks stay inside the
image therefore gets the same answers and leaves the cursor in the same place on both, whatever
the read limit (`script_reach`).

What such a script reads is the image itself. A field read in full from a cursor inside the
image is the bytes there when the image holds them, and otherwise a validation error that leaves
the cursor at the end, however few bytes each read hands out (`readFull_inside`). Words are read
big-endian (`readU16_value`, `readU32_value`). Past the end the two sources part
(`seek_past_end`). `held_and_stream_agree` puts these together.
-/

namespace RadioFlash

namespace Source

/-- One call a reader makes on a source. -/
inductive Op where
  | seek (offset : UInt32)
  | read (n : Nat)
  | readFull (n : Nat)
  | readU8
  | readU16
  | readU32
deriving DecidableEq, Repr

/-- What a call answers: that the cursor moved, the bytes read, or the number read. -/
inductive Answer where
  | moved
  | bytes (b : Array UInt8)
  | value (v : Nat)
deriving DecidableEq, Repr

/-- The call as an action on the source. -/
def Op.run : Op → Action Source Answer
  | .seek o => (fun _ => Answer.moved) <$> Source.seek o
  | .read n => Answer.bytes <$> Source.read n
  | .readFull n => Answer.bytes <$> Source.readFull n
  | .readU8 => (fun v => Answer.value v.toNat) <$> Source.readU8
  | .readU16 => (fun v => Answer.value v.toNat) <$> Source.readU16
  | .readU32 => (fun v => Answer.value v.toNat) <$> Source.readU32

/-- A call that stays inside an image of `size` bytes: a seek goes no further than its end. -/
def Op.Within (size : Nat) : Op → Prop
  | .seek o => o.toNat ≤ size
  | _ => True

/-- Whether a call stays inside the image can be decided. -/
instance (size : Nat) : DecidablePred (Op.Within size) := fun op =>
  match op with
  | .seek o => inferInstanceAs (Decidable (o.toNat ≤ size))
  | .read _ | .readFull _ | .readU8 | .readU16 | .readU32 => inferInstanceAs (Decidable True)

/-- The answer and the cursor after each call of a script. A failed call stops nothing: the
reader sees the error and goes on from the state the call left. -/
def script : List Op → Source → List (Except Error Answer × Nat)
  | [], _ => []
  | op :: ops, s => ((op.run.run s).1, (op.run.run s).2.pos) :: script ops (op.run.run s).2

/-! ### Reads never look at the reach -/

/-- An action that runs the same on a held image and on a stream: only the reach it carries
along differs. -/
def Blind {α : Type} (m : Action Source α) : Prop :=
  ∀ s r, m.run { s with reach := r } = ((m.run s).1, { (m.run s).2 with reach := r })

namespace Blind

variable {α β : Type}

/-- Answering a value does not read the image. -/
theorem pure (a : α) : Blind (pure a : Action Source α) := fun _ _ => rfl

/-- A sequence of blind actions is blind. -/
theorem bind {m : Action Source α} {f : α → Action Source β} (hm : Blind m)
    (hf : ∀ a, Blind (f a)) : Blind (m >>= f) := by
  intro s r
  rw [Action.run_bind, Action.run_bind, hm s r]
  rcases m.run s with ⟨_ | a, s'⟩
  · rfl
  · exact hf a s' r

/-- Mapping the answer of a blind action keeps it blind. -/
theorem map {m : Action Source α} (f : α → β) (hm : Blind m) : Blind (f <$> m) := by
  intro s r
  rw [Action.run_map, Action.run_map, hm s r]

end Blind

/-- A read runs alike on a held image and on a stream. -/
theorem read_blind (n : Nat) : Blind (read n) := fun _ _ => rfl

/-- Reading a full piece runs alike on a held image and on a stream. -/
theorem readFull_blind (n : Nat) : Blind (readFull n) := by
  intro s r
  have hsame : ({ s with reach := r } : Source).available = s.available := rfl
  rw [readFull_run, readFull_run, hsame]
  split <;> rfl

/-- Reading a byte runs alike on a held image and on a stream. -/
theorem readU8_blind : Blind readU8 := (readFull_blind 1).bind fun _ => Blind.pure _

/-- Reading a word runs alike on a held image and on a stream. -/
theorem readU16_blind : Blind readU16 := (readFull_blind 2).bind fun _ => Blind.pure _

/-- Reading a double word runs alike on a held image and on a stream. -/
theorem readU32_blind : Blind readU32 := (readFull_blind 4).bind fun _ => Blind.pure _

/-- A call inside the image runs the same whatever the reach: a seek there is taken by both
sources, and the reads never look. -/
theorem Op.run_reach {op : Op} {s : Source} (r : Reach) (h : op.Within s.data.size) :
    op.run.run { s with reach := r } =
      ((op.run.run s).1, { (op.run.run s).2 with reach := r }) := by
  cases op with
  | seek o =>
    have h' : o.toNat ≤ s.data.size := h
    simp only [Op.run, Action.run_map]
    rw [seek_run_of_le h', seek_run_of_le (s := { s with reach := r }) h']
  | read n => exact Blind.map _ (read_blind n) s r
  | readFull n => exact Blind.map _ (readFull_blind n) s r
  | readU8 => exact Blind.map _ readU8_blind s r
  | readU16 => exact Blind.map _ readU16_blind s r
  | readU32 => exact Blind.map _ readU32_blind s r

/-- No call changes the image or the read limit. -/
theorem Op.run_keeps (op : Op) : Action.Keeps frame op.run := by
  cases op with
  | seek o => exact (seek_keeps o).map _
  | read n => exact (read_keeps n).map _
  | readFull n => exact (readFull_keeps n).map _
  | readU8 => exact readU8_keeps.map _
  | readU16 => exact readU16_keeps.map _
  | readU32 => exact readU32_keeps.map _

/-- A script whose seeks stay inside the image answers the same whatever the reach. The
induction runs over the script; `Op.run_keeps` keeps every later seek inside the same image. -/
theorem script_reach (r : Reach) :
    ∀ (ops : List Op) (s : Source), (∀ op ∈ ops, op.Within s.data.size) →
      script ops { s with reach := r } = script ops s
  | [], _, _ => rfl
  | op :: ops, s, h => by
    have hop : op.Within s.data.size := h op List.mem_cons_self
    have hrest : ∀ op' ∈ ops, op'.Within (op.run.run s).2.data.size := by
      rw [(Action.keeps_iff.mp op.run_keeps s).1]
      exact fun op' hop' => h op' (List.mem_cons_of_mem op hop')
    simp only [script, Op.run_reach r hop]
    rw [script_reach r ops _ hrest]

/-! ### What a reader sees inside the image -/

/-- A field read from a cursor inside the image: its bytes when the image holds them, otherwise
a validation error naming the bytes missing, with the cursor left at the end. -/
theorem readFull_inside {s : Source} (n : Nat) (hy : s.readLimit ≠ some 0)
    (hp : s.pos ≤ s.data.size) :
    (s.pos + n ≤ s.data.size →
      (readFull n).run s = (.ok (s.data.extract s.pos (s.pos + n)), { s with pos := s.pos + n })) ∧
    (s.data.size < s.pos + n →
      (readFull n).run s =
        (.error (.validation
          s!"image ends {s.pos + n - s.data.size} bytes short of a {n}-byte field"),
          { s with pos := s.data.size })) := by
  have havail : s.available = s.data.size - s.pos := by simp [available, hy, remaining]
  refine ⟨fun hn => readFull_run_of_covers ⟨Nat.le_refl _, hy⟩ hn, fun hn => ?_⟩
  have hmin : min n s.available = s.data.size - s.pos := by omega
  rw [readFull_run, hmin, if_pos (by omega),
    show n - (s.data.size - s.pos) = s.pos + n - s.data.size by omega,
    show s.pos + (s.data.size - s.pos) = s.data.size by omega]

/-- A word is read big-endian: the byte at the cursor is the high one. -/
theorem readU16_value {s : Source} (hy : s.readLimit ≠ some 0) (hn : s.pos + 2 ≤ s.data.size) :
    ∃ v : UInt16, readU16.run s = (.ok v, { s with pos := s.pos + 2 }) ∧
      v.toNat = (s.data.getD s.pos 0).toNat * 256 + (s.data.getD (s.pos + 1) 0).toNat :=
  ⟨_, readU16_run_of_covers ⟨Nat.le_refl _, hy⟩ hn, bytePair_toNat _ _⟩

/-- A long word is read big-endian: the four bytes at the cursor, high byte first. -/
theorem readU32_value {s : Source} (hy : s.readLimit ≠ some 0) (hn : s.pos + 4 ≤ s.data.size) :
    ∃ v : UInt32, readU32.run s = (.ok v, { s with pos := s.pos + 4 }) ∧
      v.toNat = (((s.data.getD s.pos 0).toNat * 256 + (s.data.getD (s.pos + 1) 0).toNat) * 256 +
        (s.data.getD (s.pos + 2) 0).toNat) * 256 + (s.data.getD (s.pos + 3) 0).toNat := by
  refine ⟨_, readU32_run_of_covers ⟨Nat.le_refl _, hy⟩ hn, ?_⟩
  rw [wordPair_toNat, wordAt, wordAt, bytePair_toNat, bytePair_toNat,
    show s.pos + 2 + 1 = s.pos + 3 by omega]
  omega

/-! ### Past the end -/

/-- Past the end the two sources part: the held image refuses the seek and keeps its cursor; the
stream moves there, and every read there hands out nothing and leaves it where it is. -/
theorem seek_past_end {s : Source} {o : UInt32} (ho : s.data.size < o.toNat) :
    (s.reach = .held →
      (seek o).run s =
        (.error (.invalidState s!"seek to {o.toNat} past end of {s.data.size}-byte image"), s)) ∧
    (s.reach = .stream →
      (seek o).run s = (.ok (), { s with pos := o.toNat }) ∧
        ∀ n, (read n).run { s with pos := o.toNat } = (.ok #[], { s with pos := o.toNat })) := by
  refine ⟨fun hr => by simp [seek, Action.run_bind, hr, ho], fun hr => ⟨?_, fun n => ?_⟩⟩
  · simp [seek, Action.run_bind, hr]
  · have hk : ({ s with pos := o.toNat } : Source).grant n = 0 := by
      simp only [grant, remaining]
      omega
    have hnone : s.data.extract o.toNat o.toNat = #[] := by
      rw [Array.extract_eq_empty_iff]
      omega
    rw [read_run, hk, Nat.add_zero, hnone]

/-! ### The two sources together -/

/-- A held image and a stream over the same bytes answer every script whose seeks stay inside
the image alike, under any read limit. Inside the image a field read in full is the bytes at the
cursor or a validation error that leaves the cursor at the end, and words are read big-endian.
Past the end the held image refuses a seek that the stream takes, and the stream reads nothing
there. -/
theorem held_and_stream_agree :
    (∀ (s : Source) (ops : List Op), (∀ op ∈ ops, op.Within s.data.size) →
      script ops { s with reach := .held } = script ops { s with reach := .stream }) ∧
    (∀ (s : Source) (n : Nat), s.readLimit ≠ some 0 → s.pos ≤ s.data.size →
      (s.pos + n ≤ s.data.size →
        (readFull n).run s = (.ok (s.data.extract s.pos (s.pos + n)), { s with pos := s.pos + n })) ∧
      (s.data.size < s.pos + n →
        (readFull n).run s =
          (.error (.validation
            s!"image ends {s.pos + n - s.data.size} bytes short of a {n}-byte field"),
            { s with pos := s.data.size }))) ∧
    (∀ s : Source, s.readLimit ≠ some 0 →
      (s.pos + 2 ≤ s.data.size →
        ∃ v : UInt16, readU16.run s = (.ok v, { s with pos := s.pos + 2 }) ∧
          v.toNat = (s.data.getD s.pos 0).toNat * 256 + (s.data.getD (s.pos + 1) 0).toNat) ∧
      (s.pos + 4 ≤ s.data.size →
        ∃ v : UInt32, readU32.run s = (.ok v, { s with pos := s.pos + 4 }) ∧
          v.toNat = (((s.data.getD s.pos 0).toNat * 256 + (s.data.getD (s.pos + 1) 0).toNat) * 256 +
            (s.data.getD (s.pos + 2) 0).toNat) * 256 + (s.data.getD (s.pos + 3) 0).toNat)) ∧
    (∀ (s : Source) (o : UInt32), s.data.size < o.toNat →
      (s.reach = .held →
        (seek o).run s =
          (.error (.invalidState s!"seek to {o.toNat} past end of {s.data.size}-byte image"), s)) ∧
      (s.reach = .stream →
        (seek o).run s = (.ok (), { s with pos := o.toNat }) ∧
          ∀ n, (read n).run { s with pos := o.toNat } = (.ok #[], { s with pos := o.toNat }))) :=
  ⟨fun s ops h => (script_reach .held ops s h).trans (script_reach .stream ops s h).symm,
    fun _ n hy hp => readFull_inside n hy hp,
    fun _ hy => ⟨readU16_value hy, readU32_value hy⟩,
    fun _ _ ho => seek_past_end ho⟩

/-- Five bytes handed out one at a time: a script that seeks, reads a long word and a byte and
seeks to the end answers alike on both sources, a field that runs one byte over the end fails,
the long word is big-endian, and a seek one byte past the end is refused by the held image. -/
theorem trickled_image_reads :
    script [.seek 1, .readU32, .readFull 1, .seek 5]
        { data := #[0x12, 0x34, 0x56, 0x78, 0x9A], reach := .held, readLimit := some 1 } =
      script [.seek 1, .readU32, .readFull 1, .seek 5]
        { data := #[0x12, 0x34, 0x56, 0x78, 0x9A], reach := .stream, readLimit := some 1 } ∧
    (readFull 2).run { data := #[0x12, 0x34, 0x56, 0x78, 0x9A], pos := 4, readLimit := some 1 } =
      (.error (.validation "image ends 1 bytes short of a 2-byte field"),
        { data := #[0x12, 0x34, 0x56, 0x78, 0x9A], pos := 5, readLimit := some 1 }) ∧
    (∃ v : UInt32,
      readU32.run { data := #[0x12, 0x34, 0x56, 0x78, 0x9A], pos := 1, readLimit := some 1 } =
        (.ok v, { data := #[0x12, 0x34, 0x56, 0x78, 0x9A], pos := 5, readLimit := some 1 }) ∧
      v.toNat = 0x3456789A) ∧
    (seek 6).run { data := #[0x12, 0x34, 0x56, 0x78, 0x9A], readLimit := some 1 } =
      (.error (.invalidState "seek to 6 past end of 5-byte image"),
        { data := #[0x12, 0x34, 0x56, 0x78, 0x9A], readLimit := some 1 }) := by
  obtain ⟨hscript, hfull, hword, hpast⟩ := held_and_stream_agree
  refine ⟨hscript { data := #[0x12, 0x34, 0x56, 0x78, 0x9A], readLimit := some 1 }
    [.seek 1, .readU32, .readFull 1, .seek 5] (by decide), (hfull _ 2 (by decide) (by decide)).2 (by decide), ?_,
    (hpast _ 6 (by decide)).1 rfl⟩
  obtain ⟨v, hv, hval⟩ :=
    (hword { data := #[0x12, 0x34, 0x56, 0x78, 0x9A], pos := 1, readLimit := some 1 }
      (by decide)).2 (by decide)
  exact ⟨v, hv, by rw [hval]; rfl⟩

end Source

end RadioFlash

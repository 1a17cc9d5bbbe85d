import RadioFlash.Proofs.ImageRefusal
/-!
# What the image checks accept

`verify` and `countBlocks` are the two checks an `.oem` image passes before anything is sent.
This module says exactly what each accepts, in terms of the image bytes alone.

`verify` accepts an image with the header `hdr` exactly when the image holds a 16-byte header
that parses to `hdr`, whose magic word and length pass `check`, and whose declared length of bytes
is there and sums to zero word by word (`ImageSound`). It streams the image through the scratch
buffer in pieces of its even part, and a word sum splits at any even point (`wordSum_append`),
so the pieces add up to the sum of the whole (`sumChunks_run`): what `verify` answers depends
neither on the scratch buffer, given room for a word, nor on how much one read of the source
hands out.

`countBlocks` walks the chain of length words from the header length. Word `i` sits at
`chainOffset`, each one followed by its block. The walk returns `k` blocks exactly when the first
`k` words are non-zero, their blocks end within the declared length and every word read is in
the image, and word `k` is zero (`ChainEnds`). A walk fails otherwise, with a validation error,
except where an image held in memory is asked to seek past its end. The walk computes in `Nat`;
every offset it reaches stays small enough that 32-bit arithmetic would give the same numbers
(`chainOffset_lt_of_reaches`).
-/

namespace RadioFlash

open Source

/-! ## What `verify` checks -/

/-- What `verify` checks of an image's first 16 bytes: they are there, and the header they hold
has the magic word and an even length within 32..=131072. -/
structure HeaderSound (data : Array UInt8) (hdr : OemHeader) : Prop where
  size : 16 ≤ data.size
  parse : OemHeader.parse (data.extract 0 16) = .ok hdr
  magic : hdr.magic = 0x93FD
  even : hdr.imageLen.toNat % 2 = 0
  min_le : 32 ≤ hdr.imageLen.toNat
  le_max : hdr.imageLen.toNat ≤ 131072

/-- An image `verify` accepts with the header `hdr`: a sound header, and the declared length of
bytes, which sum to zero word by word. -/
structure ImageSound (data : Array UInt8) (hdr : OemHeader) : Prop extends HeaderSound data hdr where
  whole : hdr.imageLen.toNat ≤ data.size
  sum : wordSum (data.extract 0 hdr.imageLen.toNat).toList = 0

section Sum

/-- A word sum splits where an even number of bytes has been summed. An even list that is not two
bytes and more is empty. -/
theorem wordSum_append (a b : List UInt8) (ha : a.length % 2 = 0) :
    wordSum (a ++ b) = wordSum a + wordSum b := by
  induction a using wordSum.induct with
  | case1 hi lo rest ih =>
    simp only [List.length_cons] at ha
    simp only [List.cons_append, wordSum, ih (by omega), UInt16.add_assoc]
  | case2 t ht =>
    rcases t with _ | ⟨x, _ | ⟨y, rest⟩⟩
    · simp [wordSum]
    · simp at ha
    · exact absurd rfl (ht x y rest)

/-- Consecutive slices of an array make up the slice over both. -/
theorem extract_toList_append (D : Array UInt8) {p q r : Nat} (hpq : p ≤ q) (hqr : q ≤ r) :
    (D.extract p q).toList ++ (D.extract q r).toList = (D.extract p r).toList := by
  simp only [Array.toList_extract, List.extract_eq_take_drop]
  rw [show D.toList.drop q = (D.toList.drop p).drop (q - p) by rw [List.drop_drop]; congr 1; omega,
    show r - p = (q - p) + (r - q) by omega, List.take_add]

/-- Summing `rem` bytes of the image in pieces of an even `chunk` gives the word sum of those
bytes at once: every piece but the last has an even length. Strong induction on the bytes left, as
`sumChunks` recurses on fewer of them. The piece read and the bytes after it make up the bytes
summed. -/
theorem sumChunks_run {chunk : Nat} (hc : 0 < chunk) (heven : chunk % 2 = 0) (rem : Nat)
    (sum : UInt16) (src : Source) (scr : Array UInt8) (hy : src.readLimit ≠ some 0)
    (hfit : src.pos + rem ≤ src.data.size) :
    ∃ scr', (sumChunks chunk hc rem sum).run (src, scr) =
      (.ok (sum + wordSum (src.data.extract src.pos (src.pos + rem)).toList),
        ({ src with pos := src.pos + rem }, scr')) := by
  induction rem using Nat.strongRecOn generalizing sum src scr with
  | _ rem ih =>
  rw [sumChunks]
  split
  · next h0 =>
    subst h0
    exact ⟨scr, by simp [wordSum]⟩
  · next h0 =>
    have hcov : src.Covers src.data.size := ⟨Nat.le_refl _, hy⟩
    simp only [Action.run_bind, Action.run_focus, Action.run_modify,
      readFull_run_of_covers hcov (by omega : src.pos + min rem chunk ≤ src.data.size)]
    obtain ⟨scr', hrun⟩ := ih (rem - min rem chunk) (by omega) _
      { src with pos := src.pos + min rem chunk } _ hy (by simp only; omega)
    refine ⟨scr', hrun.trans ?_⟩
    have hpos : src.pos + min rem chunk + (rem - min rem chunk) = src.pos + rem := by omega
    have hsum : wordSum (src.data.extract src.pos (src.pos + min rem chunk)).toList +
        wordSum (src.data.extract (src.pos + min rem chunk) (src.pos + rem)).toList =
        wordSum (src.data.extract src.pos (src.pos + rem)).toList := by
      rw [← extract_toList_append src.data (r := src.pos + rem) (Nat.le_add_right src.pos (min rem chunk))
        (by omega)]
      by_cases hlast : rem ≤ chunk
      · -- the last piece: nothing is left after it
        rw [show src.pos + min rem chunk = src.pos + rem by omega]
        simp [wordSum]
      · -- a whole piece has an even length
        have hpiece : (src.data.extract src.pos (src.pos + min rem chunk)).toList.length % 2 = 0 := by
          simp only [Array.length_toList, Array.size_extract]
          omega
        exact (wordSum_append _ _ hpiece).symm
    simp only [hpos, UInt16.add_assoc, hsum]

end Sum

section Header

/-- The header check passes exactly for the magic word and an even length within
32..=131072. -/
theorem OemHeader.check_eq_ok_iff (hdr : OemHeader) :
    hdr.check = .ok () ↔ hdr.magic = 0x93FD ∧ hdr.imageLen.toNat % 2 = 0 ∧
      32 ≤ hdr.imageLen.toNat ∧ hdr.imageLen.toNat ≤ 131072 := by
  have hmod : hdr.imageLen % 2 = 0 ↔ hdr.imageLen.toNat % 2 = 0 := by
    rw [← UInt32.toNat_inj, UInt32.toNat_mod]
    rfl
  unfold OemHeader.check
  by_cases hm : hdr.magic = 0x93FD
  · by_cases hl : hdr.imageLen.toNat < minImageLen ∨ hdr.imageLen.toNat > maxImageLen ∨
        hdr.imageLen % 2 ≠ 0
    · rw [if_neg (by simpa [oemMagic] using hm), if_pos hl]
      simp only [minImageLen, maxImageLen, ne_eq, hmod] at hl
      simp only [reduceCtorEq, false_iff]
      rintro ⟨-, he, hlo, hhi⟩
      omega
    · rw [if_neg (by simpa [oemMagic] using hm), if_neg hl]
      simp only [minImageLen, maxImageLen, ne_eq, hmod] at hl
      exact iff_of_true rfl ⟨hm, by omega, by omega, by omega⟩
  · rw [if_pos (by simpa [oemMagic] using hm)]
    simp [hm]

/-- Sixteen bytes always parse to a header. -/
theorem OemHeader.parse_ok_of_size {bytes : Array UInt8} (h : 16 ≤ bytes.size) :
    ∃ hdr, OemHeader.parse bytes = .ok hdr :=
  ⟨_, by rw [OemHeader.parse, if_neg (by omega)]⟩

variable {src : Source}

/-- A source that hands out the first 16 bytes of the image reads the header they hold. -/
theorem readFrom_run_of_parse (hy : src.readLimit ≠ some 0) (h16 : 16 ≤ src.data.size)
    {hdr : OemHeader} (hp : OemHeader.parse (src.data.extract 0 16) = .ok hdr) :
    OemHeader.readFrom.run src = (.ok hdr, { src with pos := 16 }) := by
  have hseek := seek_run_of_le (s := src) (o := 0) (Nat.zero_le _)
  have hcov : ({ src with pos := (0 : UInt32).toNat } : Source).Covers src.data.size :=
    ⟨Nat.le_refl _, hy⟩
  simp only [OemHeader.readFrom, Action.run_bind, hseek]
  rw [readFull_run_of_covers hcov (by simpa using h16)]
  simp [hp]

/-- A header that passes `readFrom` and `check` is a sound one. -/
theorem headerSound_of_read {src' : Source} {hdr : OemHeader}
    (hr : OemHeader.readFrom.run src = (.ok hdr, src')) (hc : hdr.check = .ok ()) :
    HeaderSound src.data hdr := by
  obtain ⟨-, h16, hp, -⟩ := readFrom_ok hr
  obtain ⟨hm, he, hlo, hhi⟩ := (OemHeader.check_eq_ok_iff hdr).mp hc
  exact ⟨h16, hp, hm, he, hlo, hhi⟩

/-- Everything `verify` can answer, on a source that hands bytes out: a validation error for an
unsound header; for a sound one, an invalid state without room for a word in the scratch buffer,
and otherwise the header exactly when the image is sound, else a validation error. -/
theorem verify_cases (hy : src.readLimit ≠ some 0) {scr : Array UInt8} {r : Except Error OemHeader}
    {p : Source × Array UInt8} (h : verify.run (src, scr) = (r, p)) :
    ((¬ ∃ hdr, HeaderSound src.data hdr) ∧ ∃ d, r = .error (.validation d)) ∨
      ∃ hdr, HeaderSound src.data hdr ∧
        ((scr.size < 2 ∧ ∃ d, r = .error (.invalidState d)) ∨
          (2 ≤ scr.size ∧ ¬ ImageSound src.data hdr ∧ ∃ d, r = .error (.validation d)) ∨
          (2 ≤ scr.size ∧ ImageSound src.data hdr ∧ r = .ok hdr)) := by
  simp only [verify, Action.run_bind, Action.run_focus] at h
  rcases hr : OemHeader.readFrom.run src with ⟨_ | a, src₁⟩
  · -- no header: the image is too short for one, or hands nothing out
    rw [hr] at h
    obtain ⟨rfl, -⟩ := Prod.mk.inj h
    obtain ⟨d, rfl⟩ := readFrom_error hr
    refine .inl ⟨?_, d, rfl⟩
    rintro ⟨hdr, hs⟩
    rw [readFrom_run_of_parse hy hs.size hs.parse] at hr
    cases hr
  rw [hr] at h
  obtain ⟨-, -, hparse, rfl⟩ := readFrom_ok hr
  dsimp only at h
  rcases hc : a.check with e | ⟨⟩
  · -- a header that fails its check
    rw [hc] at h
    simp only at h
    obtain ⟨rfl, -⟩ := Prod.mk.inj h
    obtain ⟨d, rfl⟩ := OemHeader.check_error hc
    refine .inl ⟨?_, d, rfl⟩
    rintro ⟨hdr, hs⟩
    obtain rfl : hdr = a := Except.ok.inj (hs.parse.symm.trans hparse)
    have := (OemHeader.check_eq_ok_iff hdr).mpr ⟨hs.magic, hs.even, hs.min_le, hs.le_max⟩
    rw [hc] at this
    cases this
  have hsound := headerSound_of_read hr hc
  rw [hc] at h
  simp only [Action.run_bind, Action.run_get] at h
  refine .inr ⟨a, hsound, ?_⟩
  split at h
  · -- no room for a word in the scratch buffer
    next hz =>
    obtain ⟨rfl, -⟩ := Prod.mk.inj h
    exact .inl ⟨by omega, _, rfl⟩
  next hz =>
  have hseek := seek_run_of_le (s := { src with pos := 16 }) (o := 0) (Nat.zero_le _)
  simp only [Action.run_bind, Action.run_focus, hseek] at h
  by_cases hw : a.imageLen.toNat ≤ src.data.size
  · -- the whole image is there: the pieces sum to the word sum of the image
    obtain ⟨scr', hs⟩ := sumChunks_run (Nat.pos_of_ne_zero hz) (by omega) a.imageLen.toNat 0
      { src with pos := (0 : UInt32).toNat } scr hy (by simpa using hw)
    rw [hs] at h
    simp only [UInt32.toNat_zero, Nat.zero_add, UInt16.zero_add] at h
    split at h
    · next hsum =>
      rw [Action.run_bind_error _ (Action.run_throw _ _)] at h
      obtain ⟨rfl, -⟩ := Prod.mk.inj h
      exact .inr (.inl ⟨by omega, fun hi => hsum hi.sum, _, rfl⟩)
    · next hsum =>
      obtain ⟨rfl, -⟩ := Prod.mk.inj h
      exact .inr (.inr ⟨by omega, ⟨hsound, hw, Decidable.of_not_not hsum⟩, rfl⟩)
  · -- the image is shorter than it says: a piece fails to read
    rcases hs : (sumChunks (scr.size / 2 * 2) (Nat.pos_of_ne_zero hz) a.imageLen.toNat 0).run
      ({ src with pos := (0 : UInt32).toNat }, scr) with ⟨_ | sum, p₁⟩
    · rw [hs] at h
      obtain ⟨rfl, -⟩ := Prod.mk.inj h
      obtain ⟨d, rfl⟩ := sumChunks_error hs
      exact .inr (.inl ⟨by omega, fun hi => hw hi.whole, d, rfl⟩)
    · obtain ⟨hcover, -⟩ := sumChunks_ok hs
      exfalso
      rcases hcover with h0 | ⟨-, hle⟩
      · have := hsound.min_le
        omega
      · simp only [UInt32.toNat_zero, Nat.zero_add] at hle
        exact hw hle

/-- A header is sound for at most one reading of the image's first bytes. -/
theorem HeaderSound.unique {data : Array UInt8} {a b : OemHeader} (ha : HeaderSound data a)
    (hb : HeaderSound data b) : a = b :=
  Except.ok.inj (ha.parse.symm.trans hb.parse)

/-- With room for a word in the scratch buffer, `verify` answers a header exactly for a sound
image, and that header. -/
theorem verify_ok_iff (hy : src.readLimit ≠ some 0) {scr : Array UInt8} (hs : 2 ≤ scr.size)
    (hdr : OemHeader) : (verify.run (src, scr)).1 = .ok hdr ↔ ImageSound src.data hdr := by
  rcases verify_cases hy (show verify.run (src, scr) = ((verify.run (src, scr)).1, (verify.run (src, scr)).2)
    from rfl) with ⟨hn, d, hd⟩ | ⟨a, ha, ⟨hlt, -⟩ | ⟨-, hni, d, hd⟩ | ⟨-, hi, hok⟩⟩
  · -- an unsound header: neither side holds
    rw [hd]
    exact iff_of_false (by simp) fun hi => hn ⟨hdr, hi.toHeaderSound⟩
  · omega
  · -- a sound header over an unsound image: neither side holds
    rw [hd]
    refine iff_of_false (by simp) fun hi => hni ?_
    rwa [ha.unique hi.toHeaderSound]
  · -- a sound image: its header, and no other
    rw [hok]
    constructor
    · rintro ⟨⟩
      exact hi
    · intro hi'
      rw [ha.unique hi'.toHeaderSound]

end Header

/-! ## What `verify` answers -/

/-- What `verify` answers, for every image and every source that hands bytes out, whatever its
read size. With room for a word in the scratch buffer: the header `hdr` exactly when the image is
sound with that header, and otherwise a validation error, so that the answer depends neither on
the scratch buffer nor on the read size. Without that room: an invalid state once the header is
sound, and a validation error before. -/
theorem verify_spec (src : Source) (scr : Array UInt8) (hy : src.readLimit ≠ some 0) :
    (2 ≤ scr.size →
      (∀ hdr, (∃ p, verify.run (src, scr) = (.ok hdr, p)) ↔ ImageSound src.data hdr) ∧
      (∀ e p, verify.run (src, scr) = (.error e, p) → ∃ d, e = .validation d) ∧
      ∀ (src' : Source) (scr' : Array UInt8), src'.data = src.data → src'.readLimit ≠ some 0 →
        2 ≤ scr'.size → ∀ hdr,
          (verify.run (src, scr)).1 = .ok hdr ↔ (verify.run (src', scr')).1 = .ok hdr) ∧
    (scr.size < 2 → ∀ r p, verify.run (src, scr) = (r, p) →
      ((∃ d, r = .error (.invalidState d)) ↔ ∃ hdr, HeaderSound src.data hdr) ∧
      ((∃ d, r = .error (.invalidState d)) ∨ ∃ d, r = .error (.validation d))) := by
  refine ⟨fun hs => ⟨fun hdr => ?_, fun e p h => verify_error hs h, ?_⟩, fun hs r p h => ?_⟩
  · rw [← verify_ok_iff hy hs hdr]
    exact ⟨fun ⟨p, h⟩ => by rw [h], fun h => ⟨_, Prod.ext h rfl⟩⟩
  · -- both answers are the header of a sound image, which only the image bytes decide
    intro src' scr' hdata hy' hs' hdr
    rw [verify_ok_iff hy hs hdr, verify_ok_iff hy' hs' hdr, hdata]
  · rcases verify_cases hy h with
      ⟨hn, d, rfl⟩ | ⟨a, ha, ⟨-, d, rfl⟩ | ⟨hs', -⟩ | ⟨hs', -⟩⟩
    · exact ⟨iff_of_false (by simp) hn, .inr ⟨d, rfl⟩⟩
    · exact ⟨iff_of_true ⟨d, rfl⟩ ⟨a, ha⟩, .inl ⟨d, rfl⟩⟩
    · omega
    · omega

/-- A sound 32-byte image held in memory: a 2-byte block after the 16-byte header, then a zero
length, all summing to zero word by word. -/
def oneBlockImage : Source :=
  Source.ofBytes #[0x93, 0xFD, 0x3B, 0xB3, 0x00, 0x00, 0x00, 0x20, 0x00, 0x10, 0x18, 0x02,
    0x38, 0x30, 0x34, 0x32, 0x00, 0x02, 0xAA, 0xBB, 0x00, 0x00, 0x00, 0xFF, 0x00, 0x00, 0x00, 0x00,
    0x00, 0x00, 0x00, 0x00]

/-- The one-block image meets the check's specification: it is accepted exactly with a sound header.
-/
theorem oneBlock_verify_spec :
    oneBlockImage.readLimit ≠ some 0 ∧
    (2 ≤ (Array.replicate 64 (0 : UInt8)).size →
      (∀ hdr, (∃ p, verify.run (oneBlockImage, Array.replicate 64 0) = (.ok hdr, p)) ↔
        ImageSound oneBlockImage.data hdr) ∧
      (∀ e p, verify.run (oneBlockImage, Array.replicate 64 0) = (.error e, p) →
        ∃ d, e = .validation d) ∧
      ∀ (src' : Source) (scr' : Array UInt8), src'.data = oneBlockImage.data →
        src'.readLimit ≠ some 0 →
        2 ≤ scr'.size → ∀ hdr, (verify.run (oneBlockImage, Array.replicate 64 0)).1 = .ok hdr ↔
          (verify.run (src', scr')).1 = .ok hdr) ∧
    ((Array.replicate 64 (0 : UInt8)).size < 2 → ∀ r p,
      verify.run (oneBlockImage, Array.replicate 64 0) = (r, p) →
      ((∃ d, r = .error (.invalidState d)) ↔ ∃ hdr, HeaderSound oneBlockImage.data hdr) ∧
      ((∃ d, r = .error (.invalidState d)) ∨ ∃ d, r = .error (.validation d))) :=
  ⟨by decide, verify_spec oneBlockImage (Array.replicate 64 0) (by decide)⟩

/-! ## The block chain, said by its offsets -/

/-- Offset of length word `i` of the chain from `o`: every word is followed by as many payload
bytes as it says. -/
def chainOffset (data : Array UInt8) (o : Nat) : Nat → Nat
  | 0 => o
  | i + 1 => chainOffset data (o + 2 + (wordAt data o).toNat) i

/-- Length word `i` of the chain from `o`. -/
def chainLength (data : Array UInt8) (o i : Nat) : Nat :=
  (wordAt data (chainOffset data o i)).toNat

/-- Payload bytes of the first `k` blocks of the chain from `o`. -/
def chainPayload (data : Array UInt8) (o : Nat) : Nat → Nat
  | 0 => 0
  | k + 1 => (wordAt data o).toNat + chainPayload data (o + 2 + (wordAt data o).toNat) k

/-- Block `i` of the chain from `o` lets a walk go on: its word is in the image, it is not
empty, and it ends within `imageLen`. -/
structure ChainStep (data : Array UInt8) (imageLen o i : Nat) : Prop where
  read : chainOffset data o i + 2 ≤ data.size
  nonzero : 0 < chainLength data o i
  fits : chainOffset data o i + 2 + chainLength data o i ≤ imageLen

/-- A walk from `o` gets to word `i`: it went on past every block before it. -/
def ChainReaches (data : Array UInt8) (imageLen o i : Nat) : Prop :=
  ∀ j < i, ChainStep data imageLen o j

/-- The chain from `o` has `k` blocks within `imageLen` bytes: a walk gets to word `k`, which is
zero, in the image and within `imageLen`. -/
structure ChainEnds (data : Array UInt8) (imageLen o k : Nat) : Prop where
  reaches : ChainReaches data imageLen o k
  room : chainOffset data o k + 2 ≤ imageLen
  read : chainOffset data o k + 2 ≤ data.size
  zero : chainLength data o k = 0

section Chain

variable {data : Array UInt8} {fl o : Nat}

/-- The chain's first length word is at its start. -/
@[simp] theorem chainOffset_zero : chainOffset data o 0 = o := rfl

/-- The chain's first length is the word at its start. -/
@[simp] theorem chainLength_zero : chainLength data o 0 = (wordAt data o).toNat := rfl

/-- Each word is followed by its block, then the next word. -/
theorem chainOffset_succ (i : Nat) :
    chainOffset data o (i + 1) = chainOffset data o i + 2 + chainLength data o i := by
  induction i generalizing o with
  | zero => rfl
  | succ i ih => exact ih

/-- The payload of `k + 1` blocks is that of `k` blocks and block `k`. -/
theorem chainPayload_succ (k : Nat) :
    chainPayload data o (k + 1) = chainPayload data o k + chainLength data o k := by
  induction k generalizing o with
  | zero => simp [chainPayload]
  | succ k ih =>
    rw [chainPayload, ih, chainPayload]
    simp only [chainLength, chainOffset]
    omega

/-- Every walk gets to the chain's first word. -/
theorem chainReaches_zero : ChainReaches data fl o 0 := fun _ h => absurd h (Nat.not_lt_zero _)

/-- Block `i + 1` of the chain from `o` is block `i` of the chain after the first block. -/
theorem chainStep_succ_iff (i : Nat) :
    ChainStep data fl o (i + 1) ↔ ChainStep data fl (o + 2 + (wordAt data o).toNat) i :=
  ⟨fun ⟨hr, hn, hf⟩ => ⟨hr, hn, hf⟩, fun ⟨hr, hn, hf⟩ => ⟨hr, hn, hf⟩⟩

/-- A walk gets to word `i + 1` when it goes past the first block and then gets to word `i` of
the chain that follows it. -/
theorem chainReaches_succ_iff (i : Nat) :
    ChainReaches data fl o (i + 1) ↔
      ChainStep data fl o 0 ∧ ChainReaches data fl (o + 2 + (wordAt data o).toNat) i := by
  constructor
  · intro h
    exact ⟨h 0 (Nat.succ_pos i), fun j hj => (chainStep_succ_iff j).mp (h (j + 1) (by omega))⟩
  · rintro ⟨h0, h⟩ j hj
    cases j with
    | zero => exact h0
    | succ j => exact (chainStep_succ_iff j).mpr (h j (by omega))

/-- The chain ends after `k + 1` blocks when its first block lets a walk go on and the chain
after it ends after `k`. -/
theorem chainEnds_succ_iff (k : Nat) :
    ChainEnds data fl o (k + 1) ↔
      ChainStep data fl o 0 ∧ ChainEnds data fl (o + 2 + (wordAt data o).toNat) k := by
  constructor
  · rintro ⟨hr, hroom, hread, hzero⟩
    exact ⟨((chainReaches_succ_iff k).mp hr).1, ((chainReaches_succ_iff k).mp hr).2, hroom, hread, hzero⟩
  · rintro ⟨h0, hr, hroom, hread, hzero⟩
    exact ⟨(chainReaches_succ_iff k).mpr ⟨h0, hr⟩, hroom, hread, hzero⟩

/-- Past its first word, the chain's words lie at most one block beyond the image, since a walk
reads each word before it moves past its block. -/
theorem chainOffset_le_of_reaches {i : Nat} (h : ChainReaches data fl o (i + 1)) :
    chainOffset data o (i + 1) ≤ data.size + 65535 := by
  have hstep := h i (Nat.lt_succ_self i)
  have hlen : chainLength data o i < 65536 := (wordAt data (chainOffset data o i)).toNat_lt
  rw [chainOffset_succ]
  have := hstep.read
  omega

/-- Every offset a walk gets to, from a 16-bit start over an image below 2^32 - 2^17 bytes,
leaves room for a length word and the largest block below 2^32. -/
theorem chainOffset_lt_of_reaches {i : Nat} (ho : o < 65536) (hD : data.size < 4294836224)
    (h : ChainReaches data fl o i) : chainOffset data o i + 2 + 65535 < 4294967296 := by
  cases i with
  | zero =>
    rw [chainOffset_zero]
    omega
  | succ i =>
    have := chainOffset_le_of_reaches h
    omega

end Chain

/-! ## One step of the walk -/

section Walk

variable {s : Source} {fl o : Nat} {chain : BlockChain}

/-- A seek moves the cursor, refused only past the end of a held image. -/
theorem seek_run (s : Source) (o : UInt32) :
    (seek o).run s =
      if s.reach = .held ∧ o.toNat > s.data.size then
        (.error (.invalidState s!"seek to {o.toNat} past end of {s.data.size}-byte image"), s)
      else (.ok (), { s with pos := o.toNat }) := by
  simp only [seek, Action.run_bind, Action.run_get]
  split <;> simp

/-- The first words of a walk: the offset is a 32-bit value once a word fits below the length. -/
theorem toNat_ofNat_of_fits (hfit : o + 2 ≤ fl) (hfl : fl < 4294967296) :
    (UInt32.ofNat o).toNat = o :=
  UInt32.toNat_ofNat_of_lt' (show o < 4294967296 by omega)

/-- A word that does not fit below the length ends the walk with a validation error. -/
theorem walkBlocks_run_past (s : Source) (chain : BlockChain) (h : fl < o + 2) :
    ∃ d, (walkBlocks fl o chain).run s = (.error (.validation d), s) := by
  rw [walkBlocks, if_pos h]
  exact ⟨_, rfl⟩

/-- An image held in memory refuses to seek to a word past its end. -/
theorem walkBlocks_run_seek_past (chain : BlockChain) (hfl : fl < 4294967296) (hfit : o + 2 ≤ fl)
    (hheld : s.reach = .held) (hpast : s.data.size < o) :
    ∃ d, (walkBlocks fl o chain).run s = (.error (.invalidState d), s) := by
  rw [walkBlocks, if_neg (by omega), Action.run_bind, seek_run, toNat_ofNat_of_fits hfit hfl,
    if_pos ⟨hheld, hpast⟩]
  exact ⟨_, rfl⟩

/-- Where the seek is taken, a word that is not all in the image fails to read. -/
theorem walkBlocks_run_short (chain : BlockChain) (hfl : fl < 4294967296) (hfit : o + 2 ≤ fl)
    (hseek : ¬ (s.reach = .held ∧ s.data.size < o)) (hshort : s.data.size < o + 2) :
    ∃ d s', (walkBlocks fl o chain).run s = (.error (.validation d), s') := by
  rw [walkBlocks, if_neg (by omega), Action.run_bind, seek_run, toNat_ofNat_of_fits hfit hfl,
    if_neg hseek]
  dsimp only
  rw [Action.run_bind]
  rcases hr : readU16.run { s with pos := o } with ⟨_ | w, s₁⟩
  · obtain ⟨d, rfl⟩ := readU16_error hr
    exact ⟨d, s₁, rfl⟩
  · -- a read of the word succeeds only where both of its bytes are in the image
    exfalso
    simp only [readU16, Action.run_bind] at hr
    rcases hf : (readFull 2).run { s with pos := o } with ⟨_ | b, s₂⟩
    · rw [hf] at hr
      cases hr
    · obtain ⟨hin | ⟨-, hle⟩, -⟩ := readFull_ok hf
      · cases hin
      · simp only at hle
        omega

/-- A word in the image reads as the image's word there. -/
theorem readU16_run_at (hy : s.readLimit ≠ some 0) (hin : o + 2 ≤ s.data.size) :
    readU16.run { s with pos := o } = (.ok (wordAt s.data o), { s with pos := o + 2 }) :=
  readU16_run_of_covers ((⟨Nat.le_refl _, hy⟩ : s.Covers s.data.size).setPos o) hin

/-- A walk at a word in the image: what follows depends on the word. -/
theorem walkBlocks_run_read (hy : s.readLimit ≠ some 0) (hfl : fl < 4294967296)
    (hfit : o + 2 ≤ fl) (hin : o + 2 ≤ s.data.size) :
    (walkBlocks fl o chain).run s =
      (if (wordAt s.data o).toNat = 0 then pure chain
       else if _ : o + 2 + (wordAt s.data o).toNat > fl then
         throw (.validation
           s!"{(wordAt s.data o).toNat}-byte block at offset {o} overruns the {fl}-byte image")
       else walkBlocks fl (o + 2 + (wordAt s.data o).toNat)
         { blocks := chain.blocks + 1, payloadBytes := chain.payloadBytes + (wordAt s.data o).toNat }).run
        { s with pos := o + 2 } := by
  rw [walkBlocks, if_neg (by omega), Action.run_bind, seek_run, toNat_ofNat_of_fits hfit hfl,
    if_neg (by omega)]
  dsimp only
  rw [Action.run_bind, readU16_run_at hy hin]

/-- A zero word in the image ends the walk with the blocks counted so far. -/
theorem walkBlocks_run_zero (hy : s.readLimit ≠ some 0) (hfl : fl < 4294967296)
    (hfit : o + 2 ≤ fl) (hin : o + 2 ≤ s.data.size) (hz : (wordAt s.data o).toNat = 0) :
    (walkBlocks fl o chain).run s = (.ok chain, { s with pos := o + 2 }) := by
  rw [walkBlocks_run_read hy hfl hfit hin, if_pos hz]
  rfl

/-- A block that runs past the length ends the walk with a validation error. -/
theorem walkBlocks_run_overrun (chain : BlockChain) (hy : s.readLimit ≠ some 0) (hfl : fl < 4294967296)
    (hfit : o + 2 ≤ fl) (hin : o + 2 ≤ s.data.size) (hnz : 0 < (wordAt s.data o).toNat)
    (hover : fl < o + 2 + (wordAt s.data o).toNat) :
    ∃ d, (walkBlocks fl o chain).run s = (.error (.validation d), { s with pos := o + 2 }) := by
  rw [walkBlocks_run_read hy hfl hfit hin, if_neg (by omega), dif_pos hover]
  exact ⟨_, rfl⟩

/-- A non-empty block within the length moves the walk on to the word after it. -/
theorem walkBlocks_run_next (hy : s.readLimit ≠ some 0) (hfl : fl < 4294967296)
    (hin : o + 2 ≤ s.data.size) (hnz : 0 < (wordAt s.data o).toNat)
    (hnext : o + 2 + (wordAt s.data o).toNat ≤ fl) :
    (walkBlocks fl o chain).run s =
      (walkBlocks fl (o + 2 + (wordAt s.data o).toNat)
        { blocks := chain.blocks + 1, payloadBytes := chain.payloadBytes + (wordAt s.data o).toNat }).run
        { s with pos := o + 2 } := by
  rw [walkBlocks_run_read hy hfl (by omega) hin, if_neg (by omega), dif_neg (by omega)]

/-- Everything one step of a walk can do, on a source that hands bytes out: refuse a word that
does not fit or cannot be read, refuse to seek past the end of an image held in memory, stop at a
zero word, refuse a block that overruns, or go on past a block. -/
theorem walkBlocks_cases (hy : s.readLimit ≠ some 0) (hfl : fl < 4294967296)
    {r : Except Error BlockChain} {s' : Source} (h : (walkBlocks fl o chain).run s = (r, s')) :
    ((fl < o + 2 ∨ ¬ (s.reach = .held ∧ s.data.size < o) ∧ s.data.size < o + 2) ∧
        ∃ d, r = .error (.validation d)) ∨
      (o + 2 ≤ fl ∧ s.reach = .held ∧ s.data.size < o ∧ ∃ d, r = .error (.invalidState d)) ∨
      (o + 2 ≤ fl ∧ o + 2 ≤ s.data.size ∧ (wordAt s.data o).toNat = 0 ∧ r = .ok chain) ∨
      (o + 2 ≤ fl ∧ o + 2 ≤ s.data.size ∧ 0 < (wordAt s.data o).toNat ∧
        fl < o + 2 + (wordAt s.data o).toNat ∧ ∃ d, r = .error (.validation d)) ∨
      (ChainStep s.data fl o 0 ∧
        (walkBlocks fl (o + 2 + (wordAt s.data o).toNat)
          { blocks := chain.blocks + 1, payloadBytes := chain.payloadBytes + (wordAt s.data o).toNat }).run
          { s with pos := o + 2 } = (r, s')) := by
  by_cases hpast : fl < o + 2
  · obtain ⟨d, hd⟩ := walkBlocks_run_past s chain hpast
    obtain ⟨rfl, -⟩ := Prod.mk.inj (hd.symm.trans h)
    exact .inl ⟨.inl hpast, d, rfl⟩
  have hfit : o + 2 ≤ fl := by omega
  by_cases hseek : s.reach = .held ∧ s.data.size < o
  · obtain ⟨d, hd⟩ := walkBlocks_run_seek_past chain hfl hfit hseek.1 hseek.2
    obtain ⟨rfl, -⟩ := Prod.mk.inj (hd.symm.trans h)
    exact .inr (.inl ⟨hfit, hseek.1, hseek.2, d, rfl⟩)
  by_cases hshort : s.data.size < o + 2
  · obtain ⟨d, s₁, hd⟩ := walkBlocks_run_short chain hfl hfit hseek hshort
    obtain ⟨rfl, -⟩ := Prod.mk.inj (hd.symm.trans h)
    exact .inl ⟨.inr ⟨hseek, hshort⟩, d, rfl⟩
  have hin : o + 2 ≤ s.data.size := by omega
  by_cases hz : (wordAt s.data o).toNat = 0
  · rw [walkBlocks_run_zero hy hfl hfit hin hz] at h
    obtain ⟨rfl, -⟩ := Prod.mk.inj h
    exact .inr (.inr (.inl ⟨hfit, hin, hz, rfl⟩))
  by_cases hover : fl < o + 2 + (wordAt s.data o).toNat
  · obtain ⟨d, hd⟩ := walkBlocks_run_overrun chain hy hfl hfit hin (by omega) hover
    obtain ⟨rfl, -⟩ := Prod.mk.inj (hd.symm.trans h)
    exact .inr (.inr (.inr (.inl ⟨hfit, hin, by omega, hover, d, rfl⟩)))
  · rw [walkBlocks_run_next hy hfl hin (by omega) (by omega)] at h
    exact .inr (.inr (.inr (.inr ⟨⟨hin, by simp; omega, by simp; omega⟩, h⟩)))

end Walk

/-! ## What a walk returns -/

section Result

variable {s : Source} {fl : Nat}

/-- A chain that ends after `k` blocks is walked to its end: the walk adds its blocks and their
payload to the count, and leaves the cursor past the zero word. The count of the rest, with the
first block's added in front. -/
theorem walkBlocks_run_of_ends (hy : s.readLimit ≠ some 0) (hfl : fl < 4294967296) {o k : Nat}
    {chain : BlockChain} (h : ChainEnds s.data fl o k) :
    (walkBlocks fl o chain).run s =
      (.ok { blocks := chain.blocks + k, payloadBytes := chain.payloadBytes + chainPayload s.data o k },
        { s with pos := chainOffset s.data o k + 2 }) := by
  induction k generalizing o chain s with
  | zero =>
    have hroom : o + 2 ≤ fl := h.room
    have hread : o + 2 ≤ s.data.size := h.read
    rw [walkBlocks_run_zero hy hfl hroom hread h.zero]
    rfl
  | succ k ih =>
    obtain ⟨h0, hrest⟩ := (chainEnds_succ_iff k).mp h
    have hread : o + 2 ≤ s.data.size := h0.read
    rw [walkBlocks_run_next hy hfl hread h0.nonzero h0.fits, ih (s := { s with pos := o + 2 }) hy hrest]
    simp only [chainPayload, chainOffset, BlockChain.mk.injEq, Prod.mk.injEq, Except.ok.injEq, and_true]
    omega

/-- A walk that succeeds walked a chain that ends, and counted its blocks and their payload. Strong
induction on the room left, as `walkBlocks` recurses. -/
theorem walkBlocks_ends_of_ok (hy : s.readLimit ≠ some 0) (hfl : fl < 4294967296) {o : Nat}
    {chain c : BlockChain} {s' : Source} (h : (walkBlocks fl o chain).run s = (.ok c, s')) :
    ∃ k, ChainEnds s.data fl o k ∧
      c = { blocks := chain.blocks + k, payloadBytes := chain.payloadBytes + chainPayload s.data o k } := by
  induction hm : fl - o using Nat.strongRecOn generalizing o chain s with
  | _ m ih =>
  rcases walkBlocks_cases hy hfl h with
    ⟨-, d, hd⟩ | ⟨-, -, -, d, hd⟩ | ⟨hfit, hin, hz, hc⟩ | ⟨-, -, -, -, d, hd⟩ | ⟨h0, hnext⟩
  · cases hd
  · cases hd
  · -- the zero word ends the chain here
    cases hc
    exact ⟨0, ⟨chainReaches_zero, hfit, hin, hz⟩, by simp [chainPayload]⟩
  · cases hd
  · -- past the first block, the rest of the chain
    have hfits := h0.fits
    simp only [chainOffset_zero, chainLength_zero] at hfits
    obtain ⟨k, hk, rfl⟩ := ih _ (by omega) (s := { s with pos := o + 2 }) hy hnext rfl
    refine ⟨k + 1, (chainEnds_succ_iff k).mpr ⟨h0, hk⟩, ?_⟩
    simp only [chainPayload, BlockChain.mk.injEq]
    omega

/-- A walk fails with a validation error, or with an invalid state where an image held in memory
is asked to seek to a word past its end that the walk got to. Strong induction on the room left, as
`walkBlocks` recurses. -/
theorem walkBlocks_error_cases (hy : s.readLimit ≠ some 0) (hfl : fl < 4294967296) {o : Nat}
    {chain : BlockChain} {e : Error} {s' : Source}
    (h : (walkBlocks fl o chain).run s = (.error e, s')) :
    (∃ d, e = .validation d) ∨
      (∃ d, e = .invalidState d) ∧ s.reach = .held ∧
        ∃ i, ChainReaches s.data fl o i ∧ chainOffset s.data o i + 2 ≤ fl ∧
          s.data.size < chainOffset s.data o i := by
  induction hm : fl - o using Nat.strongRecOn generalizing o chain s with
  | _ m ih =>
  rcases walkBlocks_cases hy hfl h with
    ⟨-, d, hd⟩ | ⟨hfit, hheld, hpast, d, hd⟩ | ⟨-, -, -, hc⟩ | ⟨-, -, -, -, d, hd⟩ | ⟨h0, hnext⟩
  · exact .inl ⟨d, Except.error.inj hd⟩
  · -- the seek to the first word
    exact .inr ⟨⟨d, Except.error.inj hd⟩, hheld, 0, chainReaches_zero, hfit, hpast⟩
  · cases hc
  · exact .inl ⟨d, Except.error.inj hd⟩
  · -- past the first block, the rest of the walk
    have hfits := h0.fits
    simp only [chainOffset_zero, chainLength_zero] at hfits
    rcases ih _ (by omega) (s := { s with pos := o + 2 }) hy hnext rfl with
      hv | ⟨hi, hheld, i, hr, hfit, hpast⟩
    · exact .inl hv
    · exact .inr ⟨hi, hheld, i + 1, (chainReaches_succ_iff i).mpr ⟨h0, hr⟩, hfit, hpast⟩

/-- An image held in memory makes a walk fail with an invalid state once the walk gets to a word
past its end. -/
theorem walkBlocks_invalidState_of_seek_past (hy : s.readLimit ≠ some 0) (hfl : fl < 4294967296)
    (hheld : s.reach = .held) {i o : Nat} {chain : BlockChain} (hr : ChainReaches s.data fl o i)
    (hfit : chainOffset s.data o i + 2 ≤ fl) (hpast : s.data.size < chainOffset s.data o i) :
    ∃ d s', (walkBlocks fl o chain).run s = (.error (.invalidState d), s') := by
  induction i generalizing o chain s with
  | zero =>
    obtain ⟨d, hd⟩ := walkBlocks_run_seek_past chain hfl hfit hheld hpast
    exact ⟨d, s, hd⟩
  | succ i ih =>
    obtain ⟨h0, hrest⟩ := (chainReaches_succ_iff i).mp hr
    have hread : o + 2 ≤ s.data.size := h0.read
    rw [walkBlocks_run_next hy hfl hread h0.nonzero h0.fits]
    exact ih (s := { s with pos := o + 2 }) hy hheld hrest hfit hpast

end Result

/-! ## Counting the blocks of an image -/

/-- What `countBlocks` answers, for every header and every source that hands bytes out, over an
image below 2^32 - 2^17 bytes: `k` blocks of `p` payload bytes exactly when the chain from the
header length ends after `k` blocks of `p` bytes; otherwise a validation error, or an invalid
state exactly where an image held in memory is asked to seek to a word past its end; and every
offset the walk gets to leaves room for a word and a block below 2^32, so that none of its sums
wraps in 32 bits. -/
theorem countBlocks_spec (hdr : OemHeader) (src : Source) (hy : src.readLimit ≠ some 0)
    (hD : src.data.size < 4294836224) :
    (∀ k p, (∃ s', (countBlocks hdr).run src = (.ok { blocks := k, payloadBytes := p }, s')) ↔
        ChainEnds src.data hdr.imageLen.toNat hdr.headerLen.toNat k ∧
          p = chainPayload src.data hdr.headerLen.toNat k) ∧
      (∀ e s', (countBlocks hdr).run src = (.error e, s') →
        (∃ d, e = .validation d) ∨ ∃ d, e = .invalidState d) ∧
      ((∃ d s', (countBlocks hdr).run src = (.error (.invalidState d), s')) ↔
        src.reach = .held ∧ ∃ i, ChainReaches src.data hdr.imageLen.toNat hdr.headerLen.toNat i ∧
          chainOffset src.data hdr.headerLen.toNat i + 2 ≤ hdr.imageLen.toNat ∧
          src.data.size < chainOffset src.data hdr.headerLen.toNat i) ∧
      ∀ i, ChainReaches src.data hdr.imageLen.toNat hdr.headerLen.toNat i →
        chainOffset src.data hdr.headerLen.toNat i + 2 + 65535 < 4294967296 := by
  have hfl : hdr.imageLen.toNat < 4294967296 := hdr.imageLen.toNat_lt
  have hstart : hdr.headerLen.toNat < 65536 := hdr.headerLen.toNat_lt
  refine ⟨fun k p => ⟨?_, ?_⟩, ?_, ⟨?_, ?_⟩, fun i hi => chainOffset_lt_of_reaches hstart hD hi⟩
  · -- a count is that of the chain the walk went through
    rintro ⟨s', h⟩
    obtain ⟨k', hk, hc⟩ := walkBlocks_ends_of_ok hy hfl h
    simp only [BlockChain.mk.injEq] at hc
    obtain ⟨rfl, rfl⟩ := hc
    exact ⟨by simpa using hk, by simp⟩
  · rintro ⟨hk, rfl⟩
    exact ⟨_, (walkBlocks_run_of_ends hy hfl hk).trans (Prod.ext (by simp) rfl)⟩
  · intro e s' h
    rcases walkBlocks_error_cases hy hfl h with hv | ⟨hi, -⟩
    · exact .inl hv
    · exact .inr hi
  · rintro ⟨d, s', h⟩
    rcases walkBlocks_error_cases hy hfl h with ⟨d', hd'⟩ | ⟨-, hheld, hseek⟩
    · cases hd'
    · exact ⟨hheld, hseek⟩
  · rintro ⟨hheld, i, hr, hfit, hpast⟩
    exact walkBlocks_invalidState_of_seek_past hy hfl hheld hr hfit hpast

/-- The header of `oneBlockImage`. -/
def oneBlockHeader : OemHeader where
  magic := 0x93FD
  checksum := 0x3BB3
  imageLen := 32
  headerLen := 16
  moduleId := 0x18
  softwareId := 0x02
  version := #v[0x38, 0x30, 0x34, 0x32]

/-- The count's specification holds of the one-block image and its header. -/
theorem oneBlock_count_spec :
    oneBlockImage.readLimit ≠ some 0 ∧ oneBlockImage.data.size < 4294836224 ∧
    (∀ k p, (∃ s', (countBlocks oneBlockHeader).run oneBlockImage =
          (.ok { blocks := k, payloadBytes := p }, s')) ↔
        ChainEnds oneBlockImage.data oneBlockHeader.imageLen.toNat oneBlockHeader.headerLen.toNat k ∧
          p = chainPayload oneBlockImage.data oneBlockHeader.headerLen.toNat k) ∧
      (∀ e s', (countBlocks oneBlockHeader).run oneBlockImage = (.error e, s') →
        (∃ d, e = .validation d) ∨ ∃ d, e = .invalidState d) ∧
      ((∃ d s', (countBlocks oneBlockHeader).run oneBlockImage = (.error (.invalidState d), s')) ↔
        oneBlockImage.reach = .held ∧
          ∃ i, ChainReaches oneBlockImage.data oneBlockHeader.imageLen.toNat oneBlockHeader.headerLen.toNat i ∧
            chainOffset oneBlockImage.data oneBlockHeader.headerLen.toNat i + 2 ≤ oneBlockHeader.imageLen.toNat ∧
            oneBlockImage.data.size < chainOffset oneBlockImage.data oneBlockHeader.headerLen.toNat i) ∧
      ∀ i, ChainReaches oneBlockImage.data oneBlockHeader.imageLen.toNat oneBlockHeader.headerLen.toNat i →
        chainOffset oneBlockImage.data oneBlockHeader.headerLen.toNat i + 2 + 65535 < 4294967296 :=
  ⟨by decide, by decide, countBlocks_spec _ _ (by decide) (by decide)⟩

end RadioFlash

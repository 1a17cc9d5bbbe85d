import Mathlib
import RadioFlash.Target.Reply
/-!
# Reading the module's numbers, and writing the unlock code

The module answers `ATHV`, `AT%C` and `ATSL` with a number in hexadecimal, and `hexWord` reads
it: the bytes before the first one below `'0'`, at most four. When those bytes are hexadecimal
digits, in either case, `hexWord` gives their value, read most significant digit first
(`hexWord_eq_ofDigits`); four digits always fit a word, so nothing is lost to the shifts.

The unlock command carries the code for the serial number's low word as four upper-case digits,
zero-padded on the left (`hexUpper_four`), so that reading them back with `hexWord`
gives the code again.

Values of digit strings are Mathlib's `Nat.ofDigits` of the digits, least significant first.
-/

namespace RadioFlash

/-- The value of a hexadecimal digit, in either case. -/
def hexDigitValue? (b : UInt8) : Option Nat :=
  if 48 ≤ b.toNat ∧ b.toNat ≤ 57 then some (b.toNat - 48)
  else if 65 ≤ b.toNat ∧ b.toNat ≤ 70 then some (b.toNat - 55)
  else if 97 ≤ b.toNat ∧ b.toNat ≤ 102 then some (b.toNat - 87)
  else none

/-- An upper-case hexadecimal digit: `0`–`9` or `A`–`F`. -/
def isUpperHexDigit (b : UInt8) : Bool :=
  (48 ≤ b && b ≤ 57) || (65 ≤ b && b ≤ 70)

section Digits

variable {b : UInt8} {d : Nat}

/-- A hex digit's value is below sixteen. -/
theorem hexDigitValue?_lt (h : hexDigitValue? b = some d) : d < 16 := by
  unfold hexDigitValue? at h
  split_ifs at h <;> simp only [Option.some.injEq] at h <;> omega

/-- A digit is no byte below `'0'`, so the reading goes on over it. -/
theorem le_of_hexDigitValue? (h : hexDigitValue? b = some d) : 48 ≤ b := by
  unfold hexDigitValue? at h
  rw [UInt8.le_iff_toNat_le]
  split_ifs at h <;> simp only [Option.some.injEq] at h <;> simp only [UInt8.reduceToNat] <;> omega

/-- Upper-casing and taking letters from `'A'` on as ten gives a digit its value. -/
theorem replyDigit_toNat (h : hexDigitValue? b = some d) : (replyDigit b).toNat = d := by
  unfold hexDigitValue? at h
  simp only [replyDigit]
  split_ifs at h ⊢ <;> simp only [Option.some.injEq] at h <;> subst h <;>
    simp only [UInt8.le_iff_toNat_le, UInt8.toNat_sub, ge_iff_le] at * <;> simp at * <;> omega

end Digits

/-- Shifting a word by a digit: the word's value times sixteen and the digit, modulo 2^16. The
shifted word has its low four bits clear, so the digit is added. -/
theorem shiftDigit_toNat (v : UInt16) {x : UInt8} (hx : x.toNat < 16) :
    (v <<< 4 ||| x.toUInt16).toNat = (v.toNat * 16 + x.toNat) % 65536 := by
  rw [UInt16.toNat_or, UInt16.toNat_shiftLeft, UInt8.toNat_toUInt16,
    show (4 : UInt16).toNat % 16 = 4 from rfl]
  have hlow : v.toNat <<< 4 % 2 ^ 16 = (v.toNat % 4096) <<< 4 := by
    simp only [Nat.shiftLeft_eq]
    omega
  rw [hlow, ← Nat.shiftLeft_add_eq_or_of_lt (by omega : x.toNat < 2 ^ 4), Nat.shiftLeft_eq]
  omega

/-- The reading loop over digits `l` spelling `vs`, from the word `v`: the value of `v` followed by
the digits, modulo 2^16. Reducing modulo 2^16 before the remaining shifts changes nothing modulo
2^16. -/
theorem foldl_shiftDigit_toNat (l : List UInt8) (vs : List Nat)
    (hl : l.map hexDigitValue? = vs.map some) (v : UInt16) :
    (l.foldl (fun (value : UInt16) b => value <<< 4 ||| (replyDigit b).toUInt16) v).toNat =
      (v.toNat * 16 ^ l.length + Nat.ofDigits 16 vs.reverse) % 65536 := by
  induction l generalizing vs v with
  | nil =>
    rw [List.map_nil, eq_comm, List.map_eq_nil_iff] at hl
    subst hl
    simp [Nat.mod_eq_of_lt v.toNat_lt]
  | cons b rest ih =>
    obtain ⟨d, ds, rfl⟩ : ∃ d ds, vs = d :: ds := List.exists_cons_of_ne_nil (by
      rintro rfl
      simp at hl)
    simp only [List.map_cons, List.cons.injEq] at hl
    have hd := replyDigit_toNat hl.1
    have hlt := hexDigitValue?_lt hl.1
    have hlen : ds.length = rest.length := by simpa using congrArg List.length hl.2.symm
    rw [List.foldl_cons, ih ds hl.2, shiftDigit_toNat v (by omega), hd, List.length_cons,
      Nat.ofDigits_reverse_cons, hlen]
    rw [Nat.add_mod, Nat.mul_mod, Nat.mod_mod, ← Nat.mul_mod, ← Nat.add_mod, pow_succ]
    congr 1
    ring

/-- A reply's leading digits, at most four and up to the first byte below `'0'`, read as their
value whenever they are hexadecimal digits in either case. -/
theorem hexWord_eq_ofDigits (t : List UInt8) (vs : List Nat)
    (h : ((t.take 4).takeWhile (· ≥ 48)).map hexDigitValue? = vs.map some) :
    (hexWord t).toNat = Nat.ofDigits 16 vs.reverse := by
  have hlen : vs.length ≤ 4 := by
    rw [← List.length_map (f := some), ← h, List.length_map]
    exact (List.takeWhile_sublist _).length_le.trans (List.length_take_le _ _)
  have hvs : ∀ d ∈ vs.reverse, d < 16 := by
    intro d hd
    obtain ⟨b, hb, hbd⟩ : ∃ b ∈ (t.take 4).takeWhile (· ≥ 48), hexDigitValue? b = some d := by
      have : some d ∈ vs.map some := List.mem_map_of_mem (List.mem_reverse.mp hd)
      rw [← h] at this
      simpa using this
    exact hexDigitValue?_lt hbd
  have hbound : Nat.ofDigits 16 vs.reverse < 65536 :=
    calc Nat.ofDigits 16 vs.reverse < 16 ^ vs.reverse.length :=
          Nat.ofDigits_lt_base_pow_length (by norm_num) hvs
      _ ≤ 16 ^ 4 := Nat.pow_le_pow_right (by norm_num) (by simpa using hlen)
      _ = 65536 := by norm_num
  rw [hexWord, foldl_shiftDigit_toNat _ vs h 0]
  simpa using Nat.mod_eq_of_lt hbound

/-- The digits `hexUpper` writes are Mathlib's base-16 digits, most significant first. -/
theorem hexDigits_eq_reverse_digits (n : Nat) : Text.hexDigits n = (Nat.digits 16 n).reverse := by
  induction n using Nat.strong_induction_on with
  | _ n ih =>
    rw [Text.hexDigits]
    split
    · subst n; rfl
    · rename_i hn
      rw [ih (n / 16) (by omega), Nat.digits_def' (by norm_num : 1 < 16) (Nat.pos_of_ne_zero hn),
        List.reverse_cons]

/-- Each upper-case digit names its value. -/
theorem upperDigit_spec : ∀ d ∈ List.range 16,
    hexDigitValue? (Text.hexDigit true d).toUInt8 = some d ∧
      isUpperHexDigit (Text.hexDigit true d).toUInt8 = true := by
  decide

/-- `n` below 2^16 in upper-case hexadecimal with four digits: four upper-case digits whose value
is `n`. -/
theorem hexUpper_four {n : Nat} (hn : n < 65536) :
    ∃ (ds : List UInt8) (vs : List Nat), (Text.hexUpper 4 n).toList.map Char.toUInt8 = ds ∧ ds.length = 4 ∧
      (∀ b ∈ ds, isUpperHexDigit b = true) ∧ ds.map hexDigitValue? = vs.map some ∧
      Nat.ofDigits 16 vs.reverse = n := by
  have hlen : (Nat.digits 16 n).length ≤ 4 :=
    (Nat.digits_length_le_iff (by norm_num) n).mpr (by norm_num; omega)
  have hdig : ∀ d ∈ Nat.digits 16 n, d ∈ List.range 16 :=
    fun d hd => List.mem_range.mpr (Nat.digits_lt_base (by norm_num) hd)
  let k := 4 - (Nat.digits 16 n).length
  refine ⟨List.replicate k 48 ++ (Nat.digits 16 n).reverse.map fun d => (Text.hexDigit true d).toUInt8,
    List.replicate k 0 ++ (Nat.digits 16 n).reverse, ?_, ?_, ?_, ?_, ?_⟩
  · simp [Text.hexUpper, Text.hexPadded, hexDigits_eq_reverse_digits, k]
    rfl
  · simp only [List.length_append, List.length_replicate, List.length_map, List.length_reverse, k]
    omega
  · intro b hb
    simp only [List.mem_append, List.mem_replicate, List.mem_map, List.mem_reverse] at hb
    rcases hb with ⟨-, rfl⟩ | ⟨d, hd, rfl⟩
    · rfl
    · exact (upperDigit_spec d (hdig d hd)).2
  · simp only [List.map_append, List.map_replicate, List.map_map]
    congr 1
    exact List.map_congr_left fun d hd => (upperDigit_spec d (hdig d (List.mem_reverse.mp hd))).1
  · rw [List.reverse_append, List.reverse_reverse, List.reverse_replicate,
      Nat.ofDigits_append_replicate_zero, Nat.ofDigits_digits]

/-- The unlock code is the serial number's low word plus `0xDB8A`, wrapping, with its two top bits
cleared.-/
theorem unlockCode_toNat (s : UInt16) :
    (unlockCode s).toNat = (s.toNat + 0xDB8A) % 0x10000 &&& 0x3FFF := by
  simp [unlockCode, UInt16.toNat_and, UInt16.toNat_add]

/-- The numbers in the module's replies, and the unlock code: the leading digits of a reply, in
either case, read as their value; the unlock command is `%P` and the four upper-case digits of the
code, `(serial + 0xDB8A) mod 2^16` with the top two bits cleared; and reading those digits back
gives the code. All four digits are read back, since none is below '0'. -/
theorem reply_digits_and_unlock :
    (∀ (t : List UInt8) (vs : List Nat),
      ((t.take 4).takeWhile (· ≥ 48)).map hexDigitValue? = vs.map some →
        (hexWord t).toNat = Nat.ofDigits 16 vs.reverse) ∧
    (∀ s : UInt16,
      (unlockCode s).toNat = (s.toNat + 0xDB8A) % 0x10000 &&& 0x3FFF ∧
      (∃ (ds : List UInt8) (vs : List Nat), unlockCommand s = 37 :: 80 :: ds ∧ ds.length = 4 ∧
        (∀ b ∈ ds, isUpperHexDigit b = true) ∧ ds.map hexDigitValue? = vs.map some ∧
        Nat.ofDigits 16 vs.reverse = (unlockCode s).toNat) ∧
      hexWord ((unlockCommand s).drop 2) = unlockCode s) := by
  refine ⟨hexWord_eq_ofDigits, fun s => ?_⟩
  obtain ⟨ds, vs, hds, hlen, hup, hvs, hval⟩ := hexUpper_four (unlockCode s).toNat_lt
  have hcmd : unlockCommand s = 37 :: 80 :: ds := by
    rw [unlockCommand, String.toList_append, List.map_append, hds]
    rfl
  refine ⟨unlockCode_toNat s, ⟨ds, vs, hcmd, hlen, hup, hvs, hval⟩, ?_⟩
  have hlead : (ds.take 4).takeWhile (· ≥ 48) = ds := by
    rw [List.take_of_length_le (by omega), List.takeWhile_eq_self_iff]
    intro b hb
    obtain ⟨d, -, hd⟩ : ∃ d ∈ vs, hexDigitValue? b = some d := by
      have : hexDigitValue? b ∈ vs.map some := hvs ▸ List.mem_map_of_mem hb
      simpa [eq_comm] using this
    simpa using le_of_hexDigitValue? hd
  apply UInt16.toNat_inj.mp
  rw [hcmd, List.drop_succ_cons, List.drop_succ_cons, List.drop_zero,
    hexWord_eq_ofDigits ds vs (by rw [hlead]; exact hvs), hval]

/-- A reply `fF0` and its carriage return reads as `0xFF0`, lower-case digit included. -/
theorem mixedCase_reply_read :
    ((([102, 70, 48, 13] : List UInt8).take 4).takeWhile (· ≥ 48)).map hexDigitValue? =
        [15, 15, 0].map some ∧
      (hexWord [102, 70, 48, 13]).toNat = Nat.ofDigits 16 [15, 15, 0].reverse :=
  ⟨by decide, reply_digits_and_unlock.1 [102, 70, 48, 13] [15, 15, 0] (by decide)⟩

end RadioFlash

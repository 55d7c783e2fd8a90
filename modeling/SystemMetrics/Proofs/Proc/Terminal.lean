import Mathlib.Logic.ExistsUnique
import SystemMetrics.Proc.Terminal
import SystemMetrics.Proofs.Text.Numerals

/-!
# Terminals and their devices

The word of a device has the minor number on both sides of the major number. Taking the word apart
gives both numbers back, so a terminal is called after its device, and every positive `tty_nr` is
the word of exactly one device.
-/

namespace SystemMetrics.Proc.Terminal

/-- A device whose word has no sign bit. -/
@[ext]
structure Device where
  major : Nat
  minor : Nat
  major_lt : major < 0x1000
  minor_lt : minor < 0x80000
  deriving DecidableEq, Repr

/-- What the terminal of a device is called. Pseudo terminals are counted through eight major
numbers, 256 for each. -/
inductive Called : Nat → Nat → String → Prop
  | console {n : Nat} (h : n < 64) : Called 4 n ("tty" ++ toString n)
  | serial (n : Nat) : Called 4 (64 + n) ("ttyS" ++ toString n)
  | pseudo {block : Nat} (h : block < 8) (minor : Nat) :
      Called (136 + block) minor ("pts/" ++ toString (block * 256 + minor))
  | other {major : Nat} (hne : major ≠ 4) (h : major < 136 ∨ 143 < major) (minor : Nat) :
      Called major minor (toString major ++ ":" ++ toString minor)

/-! ## The name of a pair of numbers -/

theorem called_nameOf (major minor : Nat) : Called major minor (nameOf major minor) := by
  unfold nameOf
  by_cases hfour : major = 4
  · subst hfour
    rw [if_pos rfl]
    by_cases hconsole : minor < 64
    · rw [if_pos hconsole]
      exact .console hconsole
    · obtain ⟨n, rfl⟩ := Nat.exists_eq_add_of_le (Nat.le_of_not_lt hconsole)
      rw [if_neg hconsole, Nat.add_sub_cancel_left]
      exact .serial n
  · rw [if_neg hfour]
    by_cases hpseudo : 136 ≤ major ∧ major ≤ 143
    · obtain ⟨block, rfl⟩ := Nat.exists_eq_add_of_le hpseudo.1
      rw [if_pos hpseudo, Nat.add_sub_cancel_left]
      exact .pseudo (by omega) minor
    · rw [if_neg hpseudo]
      exact .other hfour (by omega) minor

theorem Called.eq_nameOf {major minor : Nat} {name : String} (h : Called major minor name) :
    name = nameOf major minor := by
  cases h with
  | console h => rw [nameOf, if_pos rfl, if_pos h]
  | serial n => rw [nameOf, if_pos rfl, if_neg (by omega), Nat.add_sub_cancel_left]
  | pseudo h => rw [nameOf, if_neg (by omega), if_pos (by omega), Nat.add_sub_cancel_left]
  | other hne h => rw [nameOf, if_neg hne, if_neg (by omega)]

theorem called_iff {major minor : Nat} {name : String} :
    Called major minor name ↔ name = nameOf major minor := by
  constructor
  · exact Called.eq_nameOf
  · rintro rfl
    exact called_nameOf major minor

/-! ## Cutting a word -/

theorem toNat_and_low (minor : BitVec 32) : (minor &&& 0xff#32).toNat = minor.toNat % 0x100 := by
  rw [BitVec.toNat_and]
  exact Nat.and_two_pow_sub_one_eq_mod minor.toNat 8

/-- Clearing eight bits and shifting by twelve is one shift by twenty of what is above the bits. -/
theorem and_not_low_shiftLeft (minor : BitVec 32) :
    (minor &&& ~~~0xff#32) <<< 12 = minor >>> 8 <<< 20 := by
  rw [show ~~~0xff#32 = BitVec.allOnes 32 <<< 8 by decide, ← BitVec.shiftLeft_ushiftRight,
    ← BitVec.shiftLeft_add]

namespace Device

/-! ## The word of a device -/

/-- The word in which the kernel keeps a device: the low eight bits of the minor number, then the
major number, then the rest of the minor number. -/
def word (d : Device) : BitVec 32 :=
  let minor := BitVec.ofNat 32 d.minor
  (minor &&& 0xff#32) ||| (BitVec.ofNat 32 d.major <<< 8) ||| ((minor &&& ~~~0xff#32) <<< 12)

/-- The word as the column `tty_nr` shows it. -/
def ttyNr (d : Device) : Int := d.word.toInt

variable {d : Device}

theorem toNat_word (d : Device) :
    d.word.toNat = d.minor % 0x100 + d.major * 0x100 + d.minor / 0x100 * 0x100000 := by
  have hmajor := d.major_lt
  have hminor := d.minor_lt
  have hlow : (BitVec.ofNat 32 d.minor &&& 0xff#32).toNat = d.minor % 0x100 := by
    rw [toNat_and_low, BitVec.toNat_ofNat]
    omega
  have hmiddle : (BitVec.ofNat 32 d.major <<< 8).toNat = d.major <<< 8 := by
    rw [BitVec.toNat_shiftLeft, BitVec.toNat_ofNat, Nat.shiftLeft_eq, Nat.shiftLeft_eq]
    omega
  have hhigh : ((BitVec.ofNat 32 d.minor &&& ~~~0xff#32) <<< 12).toNat =
      (d.minor / 0x100) <<< 20 := by
    rw [and_not_low_shiftLeft, BitVec.toNat_shiftLeft, BitVec.toNat_ushiftRight, BitVec.toNat_ofNat,
      Nat.shiftRight_eq_div_pow, Nat.shiftLeft_eq, Nat.shiftLeft_eq]
    omega
  -- The three parts share no bit, so joining them is adding them.
  have hjoin : d.minor % 0x100 ||| d.major <<< 8 = d.major <<< 8 + d.minor % 0x100 := by
    rw [Nat.or_comm, Nat.shiftLeft_add_eq_or_of_lt (Nat.mod_lt _ (by decide))]
  have hbelow : d.major <<< 8 + d.minor % 0x100 < 2 ^ 20 := by
    rw [Nat.shiftLeft_eq]
    omega
  rw [word, BitVec.toNat_or, BitVec.toNat_or, hlow, hmiddle, hhigh, hjoin, Nat.or_comm,
    ← Nat.shiftLeft_add_eq_or_of_lt hbelow, Nat.shiftLeft_eq, Nat.shiftLeft_eq]
  omega

theorem ttyNr_eq (d : Device) :
    d.ttyNr = (d.minor % 0x100 + d.major * 0x100 + d.minor / 0x100 * 0x100000 : Nat) := by
  have hmajor := d.major_lt
  have hminor := d.minor_lt
  have hsign : 2 * d.word.toNat < 2 ^ 32 := by
    rw [toNat_word]
    omega
  rw [ttyNr, BitVec.toInt_eq_toNat_of_lt hsign, toNat_word]

theorem ttyNr_pos_iff : 0 < d.ttyNr ↔ d.major ≠ 0 ∨ d.minor ≠ 0 := by
  rw [ttyNr_eq]
  omega

/-! ## Taking the word apart -/

theorem major_ttyNr (d : Device) : Terminal.major d.ttyNr.toNat = d.major := by
  have hmajor := d.major_lt
  rw [ttyNr_eq, Int.toNat_natCast, Terminal.major]
  omega

theorem minor_ttyNr (d : Device) : Terminal.minor d.ttyNr.toNat = d.minor := by
  have hmajor := d.major_lt
  rw [ttyNr_eq, Int.toNat_natCast, Terminal.minor]
  omega

/-- The device of a word without sign bit. -/
def ofNat (n : Nat) (h : n < 0x80000000) : Device where
  major := Terminal.major n
  minor := Terminal.minor n
  major_lt := Nat.mod_lt _ (by decide)
  minor_lt := by
    rw [Terminal.minor]
    omega

theorem ttyNr_ofNat {n : Nat} (h : n < 0x80000000) : (ofNat n h).ttyNr = n := by
  simp only [ttyNr_eq, ofNat, Terminal.major, Terminal.minor]
  omega

theorem eq_ofNat {n : Nat} (h : n < 0x80000000) (hn : d.ttyNr = n) : d = ofNat n h := by
  obtain rfl : d.ttyNr.toNat = n := by rw [hn, Int.toNat_natCast]
  exact Device.ext (major_ttyNr d).symm (minor_ttyNr d).symm

end Device

/-! ## Names -/

theorem name?_of_pos {n : Int} (h : 0 < n) :
    name? n = some (nameOf (major n.toNat) (minor n.toNat)) :=
  if_neg (Int.not_le.mpr h)

/-- The terminal of every device but the one with both numbers zero has the one name that the device
is called by. Every positive number that `tty_nr` can hold is the word of one device, so no other
numbers have names: zero and what is below it have none. -/
theorem named_by_device :
    (∀ d : Device, d.major ≠ 0 ∨ d.minor ≠ 0 →
      ∃ name, name? d.ttyNr = some name ∧ ∀ other, Called d.major d.minor other ↔ other = name) ∧
    (∀ n : Int, 0 < n → Text.IntType.int32.Holds n → ∃! d : Device, d.ttyNr = n) ∧
    ∀ n : Int, n ≤ 0 → name? n = none := by
  refine ⟨fun d hd => ?_, fun n hpos hholds => ?_, fun n hn => if_pos hn⟩
  · refine ⟨nameOf d.major d.minor, ?_, fun other => called_iff⟩
    rw [name?_of_pos (Device.ttyNr_pos_iff.mpr hd), Device.major_ttyNr, Device.minor_ttyNr]
  · obtain ⟨m, rfl⟩ := Int.eq_ofNat_of_zero_le (Int.le_of_lt hpos)
    have hlt : m < 0x80000000 := Int.ofNat_lt.mp hholds.2
    exact ⟨Device.ofNat m hlt, Device.ttyNr_ofNat hlt, fun d hd => Device.eq_ofNat hlt hd⟩

/-- A pseudo terminal whose minor number lies on both sides of the major number. -/
theorem named_by_device_split :
    let d : Device := ⟨137, 300, by decide, by decide⟩
    ((d.major ≠ 0 ∨ d.minor ≠ 0) ∧ d.ttyNr = 0x10892c ∧ name? d.ttyNr = some "pts/556") ∧
      (Text.IntType.int32.Holds 0x7fffffff ∧ ∃! d : Device, d.ttyNr = 0x7fffffff) ∧
      name? (-0x80000000) = none := by
  intro d
  obtain ⟨hnamed, hwords, hnone⟩ := named_by_device
  have hnonzero : d.major ≠ 0 ∨ d.minor ≠ 0 := .inl (by decide)
  have hholds : Text.IntType.int32.Holds 0x7fffffff := by decide
  obtain ⟨name, hname, hcalled⟩ := hnamed d hnonzero
  have hpseudo : "pts/556" = name := (hcalled _).mp (@Called.pseudo 1 (by decide) 300)
  refine ⟨⟨hnonzero, by decide, ?_⟩, ⟨hholds, hwords _ (by decide) hholds⟩, hnone _ (by decide)⟩
  rw [hname, hpseudo]

end SystemMetrics.Proc.Terminal

import Mathlib.Tactic.Cases
import SystemMetrics.Text.Numeral

/-!
# What a numeral stands for

A numeral is read exactly if its integer fits the wanted range, and what is read is that integer.
The decimal spelling of a natural number is a numeral of it.
-/

namespace SystemMetrics.Text

/-- A run of digits, after a sign or not, and the integer that it stands for. A minus sign needs a
signed reading, even before a zero. -/
inductive Numeral (signed : Bool) : List Char → Int → Prop
  | plain {ds : List Char} (hne : ds ≠ []) (h : ∀ c ∈ ds, c.isDigit = true) :
      Numeral signed ds (Nat.ofDigitChars 10 ds 0)
  | plus {ds : List Char} (hne : ds ≠ []) (h : ∀ c ∈ ds, c.isDigit = true) :
      Numeral signed ('+' :: ds) (Nat.ofDigitChars 10 ds 0)
  | minus {ds : List Char} (hsigned : signed = true) (hne : ds ≠ [])
      (h : ∀ c ∈ ds, c.isDigit = true) :
      Numeral signed ('-' :: ds) (-(Nat.ofDigitChars 10 ds 0 : Nat))

section Reading

variable {bound value n : Nat} {cs ds : List Char}

/-! ## Digits -/

theorem digit?_eq (c : Char) :
    digit? c = if c.isDigit = true then some (c.toNat - '0'.toNat) else none := by
  have hiff : ('0' ≤ c ∧ c ≤ '9') ↔ c.isDigit = true := by
    simp only [Char.isDigit, Bool.and_eq_true, decide_eq_true_eq]
    exact Iff.rfl
  simp only [digit?, hiff]

theorem le_ofDigitChars (cs : List Char) (value : Nat) : value ≤ Nat.ofDigitChars 10 cs value := by
  rw [Nat.ofDigitChars_eq_ofDigitChars_zero]
  have hpow : 0 < 10 ^ cs.length := Nat.pow_pos (by decide)
  calc value ≤ 10 ^ cs.length * value := Nat.le_mul_of_pos_left value hpow
    _ ≤ _ := Nat.le_add_right _ _

theorem digitsValue?_eq_some_iff (h : value < bound) :
    digitsValue? bound value cs = some n ↔
      (∀ c ∈ cs, c.isDigit = true) ∧ Nat.ofDigitChars 10 cs value = n ∧ n < bound := by
  induction cs generalizing value with
  | nil =>
    simp only [digitsValue?, Option.some.injEq, List.not_mem_nil, false_implies, implies_true,
      Nat.ofDigitChars_nil, true_and]
    constructor
    · rintro rfl
      exact ⟨rfl, h⟩
    · exact And.left
  | cons c cs ih =>
    rw [digitsValue?, digit?_eq, Nat.ofDigitChars_cons, List.forall_mem_cons]
    by_cases hdigit : c.isDigit = true
    · simp only [hdigit, true_and, if_true]
      by_cases hnext : 10 * value + (c.toNat - '0'.toNat) < bound
      · rw [if_pos hnext, ih hnext]
      · rw [if_neg hnext]
        constructor
        · exact nofun
        · rintro ⟨-, rfl, hlt⟩
          exact absurd (Nat.lt_of_le_of_lt (le_ofDigitChars cs _) hlt) hnext
    · simp [hdigit]

theorem digits?_eq_some_iff (h : 0 < bound) :
    digits? bound ds = some n ↔
      ds ≠ [] ∧ (∀ c ∈ ds, c.isDigit = true) ∧ Nat.ofDigitChars 10 ds 0 = n ∧ n < bound := by
  cases ds with
  | nil => simp [digits?]
  | cons c cs =>
    rw [and_iff_right (List.cons_ne_nil c cs)]
    exact digitsValue?_eq_some_iff h

theorem not_isDigit_sign {sign : Char} (h : sign = '+' ∨ sign = '-') : ¬ sign.isDigit = true := by
  rcases h with rfl | rfl <;> decide

/-! ## Numerals -/

/-- A numeral stands for one integer, however it is read. -/
theorem Numeral.unique {signed signed' : Bool} {n m : Int} (h : Numeral signed cs n)
    (h' : Numeral signed' cs m) : n = m := by
  have hsign {sign : Char} {ds : List Char} (hs : sign = '+' ∨ sign = '-')
      (hdigits : ∀ c ∈ sign :: ds, c.isDigit = true) : False :=
    not_isDigit_sign hs (hdigits sign List.mem_cons_self)
  cases h with
  | plain _ hdigits =>
    cases h' with
    | plain => rfl
    | plus => exact (hsign (.inl rfl) hdigits).elim
    | minus => exact (hsign (.inr rfl) hdigits).elim
  | plus =>
    cases h' with
    | plain _ hdigits => exact (hsign (.inl rfl) hdigits).elim
    | plus => rfl
  | minus =>
    cases h' with
    | plain _ hdigits => exact (hsign (.inr rfl) hdigits).elim
    | minus => rfl

theorem Numeral.ne_nil {signed : Bool} {n : Int} (h : Numeral signed cs n) : cs ≠ [] := by
  cases h with
  | plain hne => exact hne
  | plus => exact List.cons_ne_nil _ _
  | minus => exact List.cons_ne_nil _ _

theorem Numeral.mem {signed : Bool} {n : Int} (h : Numeral signed cs n) {c : Char} (hc : c ∈ cs) :
    c.isDigit = true ∨ c = '+' ∨ c = '-' := by
  cases h with
  | plain _ hdigits => exact .inl (hdigits c hc)
  | plus _ hdigits =>
    rcases List.mem_cons.mp hc with rfl | hc
    · exact .inr (.inl rfl)
    · exact .inl (hdigits c hc)
  | minus _ _ hdigits =>
    rcases List.mem_cons.mp hc with rfl | hc
    · exact .inr (.inr rfl)
    · exact .inl (hdigits c hc)

theorem natural?_eq_some_iff (h : 0 < bound) :
    natural? bound cs = some n ↔ Numeral false cs n ∧ n < bound := by
  constructor
  · intro hread
    unfold natural? at hread
    split at hread
    · obtain ⟨hne, hdigits, rfl, hlt⟩ := (digits?_eq_some_iff h).mp hread
      exact ⟨.plus hne hdigits, hlt⟩
    · obtain ⟨hne, hdigits, rfl, hlt⟩ := (digits?_eq_some_iff h).mp hread
      exact ⟨.plain hne hdigits, hlt⟩
  · rintro ⟨hnumeral, hlt⟩
    generalize hvalue : (n : Int) = value at hnumeral
    cases hnumeral with
    | plain hne hdigits =>
      obtain rfl := Int.ofNat_inj.mp hvalue
      unfold natural?
      split
      · exact absurd (hdigits '+' List.mem_cons_self) (not_isDigit_sign (.inl rfl))
      · exact (digits?_eq_some_iff h).mpr ⟨hne, hdigits, rfl, hlt⟩
    | plus hne hdigits =>
      obtain rfl := Int.ofNat_inj.mp hvalue
      exact (digits?_eq_some_iff h).mpr ⟨hne, hdigits, rfl, hlt⟩
    | minus hsigned => cases hsigned

theorem natural64?_eq_some_iff : natural64? cs = some n ↔ Numeral false cs n ∧ n < word64 :=
  natural?_eq_some_iff (by decide)

theorem map_cast (m? : Option Nat) (f : Int → Int) :
    (m?.bind fun m => some (m : Int)).map f = m?.map fun m : Nat => f m := by
  cases m? <;> rfl

theorem integer?_minus (half : Nat) (rest : List Char) :
    integer? half ('-' :: rest) = (digits? (half + 1) rest).map fun m : Nat => -(m : Int) :=
  map_cast (digits? (half + 1) rest) fun m => -m

theorem integer?_plus (half : Nat) (rest : List Char) :
    integer? half ('+' :: rest) = (digits? half rest).map fun m : Nat => (m : Int) :=
  map_cast (digits? half rest) fun m => m

theorem integer?_plain (half : Nat) (h : ∀ rest, cs ≠ '-' :: rest ∧ cs ≠ '+' :: rest) :
    integer? half cs = (digits? half cs).map fun m : Nat => (m : Int) := by
  unfold integer?
  split
  · exact absurd rfl (h _).1
  · exact absurd rfl (h _).2
  · exact map_cast (digits? half cs) fun m => m

theorem integer?_eq_some_iff {half : Nat} {n : Int} (h : 0 < half) :
    integer? half cs = some n ↔ Numeral true cs n ∧ -(half : Int) ≤ n ∧ n < half := by
  constructor
  · intro hread
    by_cases hminus : ∃ rest, cs = '-' :: rest
    · obtain ⟨rest, rfl⟩ := hminus
      rw [integer?_minus] at hread
      obtain ⟨m, hm, rfl⟩ := Option.map_eq_some_iff.mp hread
      -- One more value fits below zero than above.
      obtain ⟨hne, hdigits, rfl, hlt⟩ := (digits?_eq_some_iff (Nat.succ_pos half)).mp hm
      exact ⟨.minus rfl hne hdigits, by omega, by omega⟩
    by_cases hplus : ∃ rest, cs = '+' :: rest
    · obtain ⟨rest, rfl⟩ := hplus
      rw [integer?_plus] at hread
      obtain ⟨m, hm, rfl⟩ := Option.map_eq_some_iff.mp hread
      obtain ⟨hne, hdigits, rfl, hlt⟩ := (digits?_eq_some_iff h).mp hm
      exact ⟨.plus hne hdigits, by omega, by omega⟩
    · rw [integer?_plain half fun rest => ⟨mt (⟨rest, ·⟩) hminus, mt (⟨rest, ·⟩) hplus⟩] at hread
      obtain ⟨m, hm, rfl⟩ := Option.map_eq_some_iff.mp hread
      obtain ⟨hne, hdigits, rfl, hlt⟩ := (digits?_eq_some_iff h).mp hm
      exact ⟨.plain hne hdigits, by omega, by omega⟩
  · rintro ⟨hnumeral, hle, hlt⟩
    cases hnumeral with
    | plain hne hdigits =>
      have hsign {sign : Char} (hs : sign = '+' ∨ sign = '-') (rest : List Char) :
          cs ≠ sign :: rest := by
        rintro rfl
        exact not_isDigit_sign hs (hdigits sign List.mem_cons_self)
      rw [integer?_plain half fun rest => ⟨hsign (.inr rfl) rest, hsign (.inl rfl) rest⟩,
        (digits?_eq_some_iff h).mpr ⟨hne, hdigits, rfl, by omega⟩]
      rfl
    | plus hne hdigits =>
      rw [integer?_plus, (digits?_eq_some_iff h).mpr ⟨hne, hdigits, rfl, by omega⟩]
      rfl
    | minus _ hne hdigits =>
      rw [integer?_minus,
        (digits?_eq_some_iff (Nat.succ_pos half)).mpr ⟨hne, hdigits, rfl, by omega⟩]
      rfl

theorem toList_toString (n : Nat) : (toString n).toList = Nat.toDigits 10 n := by
  rw [Nat.toString_eq_ofList_toDigits, String.toList_ofList]

/-- The decimal spelling of an integer is a numeral of it. -/
theorem numeral_toString (n : Int) {signed : Bool} (h : 0 ≤ n ∨ signed = true) :
    Numeral signed (toString n).toList n := by
  have hdigits (m : Nat) : ∀ c ∈ Nat.toDigits 10 m, c.isDigit = true :=
    fun c => Nat.isDigit_of_mem_toDigits (by decide) (by decide)
  have hvalue (m : Nat) : Nat.ofDigitChars 10 (Nat.toDigits 10 m) 0 = m :=
    Nat.ofDigitChars_ten_toDigits
  cases n with
  | ofNat m =>
    have hplain : Numeral signed _ _ := .plain Nat.toDigits_ne_nil (hdigits m)
    rw [hvalue, ← toList_toString] at hplain
    exact hplain
  | negSucc m =>
    have hsigned : signed = true := h.resolve_left (Int.not_le.mpr (Int.negSucc_lt_zero m))
    have hminus := Numeral.minus hsigned Nat.toDigits_ne_nil (hdigits (m + 1))
    have htext : (toString (Int.negSucc m)).toList = '-' :: Nat.toDigits 10 (m + 1) := by
      rw [← toList_toString]
      exact String.toList_append
    rw [hvalue] at hminus
    rw [htext]
    exact hminus

end Reading

/-! ## Integer types -/

inductive IntType where
  | nat32
  | int32
  | nat64
  | int64
  deriving DecidableEq, Repr

namespace IntType

def signed : IntType → Bool
  | .nat32 | .nat64 => false
  | .int32 | .int64 => true

def least : IntType → Int
  | .nat32 | .nat64 => 0
  | .int32 => -0x80000000
  | .int64 => -0x8000000000000000

def bound : IntType → Int
  | .nat32 => 0x100000000
  | .int32 => 0x80000000
  | .nat64 => 0x10000000000000000
  | .int64 => 0x8000000000000000

def Holds (t : IntType) (n : Int) : Prop := t.least ≤ n ∧ n < t.bound

instance (t : IntType) (n : Int) : Decidable (t.Holds n) := inferInstanceAs (Decidable (_ ∧ _))

/-- The integer of the type that differs from `n` by a multiple of the size of the type. -/
def wrap (t : IntType) (n : Int) : Int := t.least + (n - t.least) % (t.bound - t.least)

/-- Reads a numeral whose integer the type can hold. -/
def read? : IntType → List Char → Option Int
  | .nat32, cs => (natural? word32 cs).map fun n : Nat => (n : Int)
  | .int32, cs => integer? (word32 / 2) cs
  | .nat64, cs => (natural64? cs).map fun n : Nat => (n : Int)
  | .int64, cs => integer64? cs

variable {t : IntType} {n : Int} {cs : List Char}

theorem holds_wrap (t : IntType) (n : Int) : t.Holds (t.wrap n) := by
  have hsize : 0 < t.bound - t.least := by cases t <;> decide
  have hnonneg := Int.emod_nonneg (n - t.least) (Int.ne_of_gt hsize)
  have hlt := Int.emod_lt_of_pos (n - t.least) hsize
  exact ⟨by rw [wrap]; omega, by rw [wrap]; omega⟩

theorem holds_nat32 {n : Nat} (h : n < word32) : nat32.Holds n :=
  ⟨Int.natCast_nonneg n, Int.ofNat_lt.mpr h⟩

theorem holds_nat64 {n : Nat} (h : n < word64) : nat64.Holds n :=
  ⟨Int.natCast_nonneg n, Int.ofNat_lt.mpr h⟩

/-- Wrapping keeps the integers of the type and alters all others. -/
theorem wrap_eq_iff : t.wrap n = n ↔ t.Holds n := by
  constructor
  · intro h
    rw [← h]
    exact holds_wrap t n
  · rintro ⟨hle, hlt⟩
    rw [wrap, Int.emod_eq_of_lt (by omega) (by omega)]
    omega

theorem natural?_cast_eq_some_iff {bound : Nat} (h : 0 < bound) :
    (natural? bound cs).map (fun m : Nat => (m : Int)) = some n ↔
      Numeral false cs n ∧ 0 ≤ n ∧ n < bound := by
  rw [Option.map_eq_some_iff]
  constructor
  · rintro ⟨m, hm, rfl⟩
    obtain ⟨hnumeral, hlt⟩ := (natural?_eq_some_iff h).mp hm
    exact ⟨hnumeral, by omega, by omega⟩
  · rintro ⟨hnumeral, hle, hlt⟩
    obtain ⟨m, rfl⟩ := Int.eq_ofNat_of_zero_le hle
    exact ⟨m, (natural?_eq_some_iff h).mpr ⟨hnumeral, by omega⟩, rfl⟩

theorem read?_eq_some_iff : t.read? cs = some n ↔ Numeral t.signed cs n ∧ t.Holds n := by
  cases t with
  | nat32 => exact natural?_cast_eq_some_iff (by decide)
  | int32 => exact integer?_eq_some_iff (by decide)
  | nat64 => exact natural?_cast_eq_some_iff (by decide)
  | int64 => exact integer?_eq_some_iff (by decide)

end IntType

end SystemMetrics.Text

import SystemMetrics.Text.Utf8

/-!
# Well-formed UTF-8

The pieces of bytes are read off from a state on. The bytes of a character are read as that
character, whatever comes after them.
-/

namespace SystemMetrics.Text.Utf8

/-! ## Pieces from a state on -/

/-- The pieces that bytes complete from a state on; an open character is broken by the end. -/
def readFrom : State → List UInt8 → List (Option Char)
  | s, [] => if s = .idle then [] else [none]
  | s, b :: rest => (s.feed b).2 ++ readFrom (s.feed b).1 rest

/-- What the pieces of a byte sequence are collected with, the last piece first. -/
def scan (read : State × List (Option Char)) (b : UInt8) : State × List (Option Char) :=
  ((read.1.feed b).1, (read.1.feed b).2.foldl (fun found p => p :: found) read.2)

theorem scan_collects (bytes : List UInt8) (read : State × List (Option Char)) :
    (bytes.foldl scan read).2.reverse ++ readFrom (bytes.foldl scan read).1 [] =
      read.2.reverse ++ readFrom read.1 bytes := by
  induction bytes generalizing read with
  | nil => rfl
  | cons b rest ih =>
    rw [List.foldl_cons, ih, scan, readFrom, List.foldl_flip_cons_eq_append', List.reverse_append,
      List.reverse_reverse, List.append_assoc]

theorem pieces_eq (bytes : List UInt8) : pieces bytes = readFrom .idle bytes := by
  have hcollects := scan_collects bytes (.idle, [])
  unfold pieces
  split
  next last found hscan =>
    change bytes.foldl scan _ = _ at hscan
    rw [hscan] at hcollects
    refine Eq.trans ?_ hcollects
    cases last <;> simp [readFrom]

variable {s next : State} {b : UInt8}

theorem readFrom_silent (h : s.feed b = (next, [])) (rest : List UInt8) :
    readFrom s (b :: rest) = readFrom next rest := by
  rw [readFrom, h, List.nil_append]

theorem readFrom_piece {p : Option Char} (h : s.feed b = (next, [p])) (rest : List UInt8) :
    readFrom s (b :: rest) = p :: readFrom next rest := by
  rw [readFrom, h, List.singleton_append]

/-! ## One byte -/

theorem toNat_ofNat {n : Nat} (h : n < 256) : (UInt8.ofNat n).toNat = n := by
  rw [UInt8.toNat_ofNat', Nat.mod_eq_of_lt h]

theorem feed_one : ∀ n < 128, State.idle.feed (UInt8.ofNat n) = (.idle, [some (Char.ofNat n)]) := by
  decide +kernel

theorem feed_two : ∀ k < 32, 2 ≤ k →
    State.idle.feed (UInt8.ofNat (k + 192)) = (.inside 0 0x80 0xBF k, []) := by
  decide +kernel

theorem feed_three : ∀ k < 16, State.idle.feed (UInt8.ofNat (k + 224)) =
    (.inside 1 (if k = 0 then 0xA0 else 0x80) (if k = 13 then 0x9F else 0xBF) k, []) := by
  decide +kernel

theorem feed_four : ∀ k < 5, State.idle.feed (UInt8.ofNat (k + 240)) =
    (.inside 2 (if k = 0 then 0x90 else 0x80) (if k = 4 then 0x8F else 0xBF) k, []) := by
  decide +kernel

theorem feed_stray : ∀ n < 194, 128 ≤ n →
    State.idle.feed (UInt8.ofNat n) = (.idle, [none]) := by
  decide +kernel

theorem feed_beyond : ∀ k < 11, State.idle.feed (UInt8.ofNat (k + 245)) = (.idle, [none]) := by
  decide +kernel

theorem feed_within (missing code : Nat) {low high : UInt8} (hlow : low ≤ b) (hhigh : b ≤ high) :
    (State.inside missing low high code).feed b =
      match missing with
      | 0 => (.idle, [some (Char.ofNat (code * 64 + (b.toNat - 0x80)))])
      | m + 1 => (.inside m 0x80 0xBF (code * 64 + (b.toNat - 0x80)), []) := by
  cases missing <;> simp only [State.feed, if_pos (And.intro hlow hhigh)]

theorem feed_inside (low high : UInt8) (missing code : Nat) {n : Nat} (h : n < 256)
    (hlow : low.toNat ≤ n) (hhigh : n ≤ high.toNat) :
    (State.inside missing low high code).feed (UInt8.ofNat n) =
      match missing with
      | 0 => (.idle, [some (Char.ofNat (code * 64 + (n - 0x80)))])
      | m + 1 => (.inside m 0x80 0xBF (code * 64 + (n - 0x80)), []) := by
  have hn : (UInt8.ofNat n).toNat = n := toNat_ofNat h
  rw [feed_within missing code (by rw [UInt8.le_iff_toNat_le, hn]; exact hlow)
    (by rw [UInt8.le_iff_toNat_le, hn]; exact hhigh), hn]

/-- A byte that continues a character holds six bits. -/
theorem feed_continuation (n missing code : Nat) :
    (State.inside missing 0x80 0xBF code).feed (UInt8.ofNat (n % 64 + 128)) =
      match missing with
      | 0 => (.idle, [some (Char.ofNat (code * 64 + n % 64))])
      | m + 1 => (.inside m 0x80 0xBF (code * 64 + n % 64), []) := by
  rw [feed_inside _ _ _ _ (by omega) (by show 128 ≤ _; omega) (by show _ ≤ 191; omega),
    Nat.add_sub_cancel]

/-! ## One character -/

theorem readFrom_encodeChar (c : Char) (rest : List UInt8) :
    readFrom .idle (String.utf8EncodeChar c ++ rest) = some c :: readFrom .idle rest := by
  have hvalid : c.val.toNat < 0xD800 ∨ 0xDFFF < c.val.toNat ∧ c.val.toNat < 0x110000 := c.valid
  have hchar (n : Nat) (h : n = c.val.toNat) : Char.ofNat n = c := h ▸ Char.ofNat_toNat c
  fun_cases String.utf8EncodeChar c with
  | case1 v h =>
    rw [List.singleton_append, readFrom_piece (feed_one v (by omega)), hchar v rfl]
  | case2 v _ h =>
    have hlead := feed_two (v / 64 % 32) (by omega) (by omega)
    rw [List.cons_append, readFrom_silent hlead, List.singleton_append,
      readFrom_piece (feed_continuation v 0 _), hchar _ (by omega)]
  | case3 v _ _ h =>
    have hlead := feed_three (v / 4096 % 16) (by omega)
    -- The bounds of the second byte leave out what has a shorter form, and the surrogates.
    have hsecond := feed_inside (if v / 4096 % 16 = 0 then 0xA0 else 0x80)
      (if v / 4096 % 16 = 13 then 0x9F else 0xBF) 1 (v / 4096 % 16) (n := v / 64 % 64 + 128)
      (by omega) (by split <;> simp only [UInt8.reduceToNat] <;> omega)
      (by split <;> simp only [UInt8.reduceToNat] <;> omega)
    rw [List.cons_append, readFrom_silent hlead, List.cons_append, readFrom_silent hsecond,
      List.singleton_append, readFrom_piece (feed_continuation v 0 _), hchar _ (by omega)]
  | case4 v _ _ h =>
    have hlead := feed_four (v / 262144 % 8) (by omega)
    have hsecond := feed_inside (if v / 262144 % 8 = 0 then 0x90 else 0x80)
      (if v / 262144 % 8 = 4 then 0x8F else 0xBF) 2 (v / 262144 % 8) (n := v / 4096 % 64 + 128)
      (by omega) (by split <;> simp only [UInt8.reduceToNat] <;> omega)
      (by split <;> simp only [UInt8.reduceToNat] <;> omega)
    rw [List.cons_append, readFrom_silent hlead, List.cons_append, readFrom_silent hsecond,
      List.cons_append, readFrom_silent (feed_continuation (v / 64) 1 _), List.singleton_append,
      readFrom_piece (feed_continuation v 0 _), hchar _ (by omega)]

/-! ## The zero byte -/

theorem zero_ne_ofNat {n : Nat} (hpos : 0 < n) (hlt : n < 256) : 0 ≠ UInt8.ofNat n := by
  intro h
  have hzero : 0 = n := (congrArg UInt8.toNat h).trans (toNat_ofNat hlt)
  omega

theorem zero_notMem_map_ofNat (ns : List Nat) (h : ∀ n ∈ ns, 0 < n ∧ n < 256) :
    0 ∉ ns.map UInt8.ofNat := by
  intro hmem
  obtain ⟨n, hn, hzero⟩ := List.mem_map.mp hmem
  exact zero_ne_ofNat (h n hn).1 (h n hn).2 hzero.symm

theorem zero_mem_encodeChar (c : Char) : 0 ∈ String.utf8EncodeChar c ↔ c = '\x00' := by
  rw [← Char.toNat_inj]
  change _ ↔ c.val.toNat = 0
  fun_cases String.utf8EncodeChar c with
  | case1 v hv =>
    rw [List.mem_singleton]
    constructor
    · intro h
      exact Nat.eq_zero_of_not_pos fun hpos => zero_ne_ofNat hpos (by omega) h
    · intro h
      rw [show v = 0 from h]
      rfl
  -- Every byte of a character that takes more than one has its upper bit set.
  | case2 v =>
    exact iff_of_false (zero_notMem_map_ofNat [v / 64 % 32 + 192, v % 64 + 128] (by simp; omega))
      (by omega)
  | case3 v =>
    exact iff_of_false (zero_notMem_map_ofNat
      [v / 4096 % 16 + 224, v / 64 % 64 + 128, v % 64 + 128] (by simp; omega)) (by omega)
  | case4 v =>
    exact iff_of_false (zero_notMem_map_ofNat [v / 262144 % 8 + 240, v / 4096 % 64 + 128,
      v / 64 % 64 + 128, v % 64 + 128] (by simp; omega)) (by omega)

theorem zero_mem_encode (cs : List Char) : 0 ∈ encode cs ↔ '\x00' ∈ cs := by
  simp [encode, List.mem_flatMap, zero_mem_encodeChar]

theorem encode_eq_nil (cs : List Char) : encode cs = [] ↔ cs = [] := by
  cases cs with
  | nil => exact iff_of_true rfl rfl
  | cons c cs => simp [encode, String.utf8EncodeChar_ne_nil]

end SystemMetrics.Text.Utf8

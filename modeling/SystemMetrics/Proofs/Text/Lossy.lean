import SystemMetrics.Proofs.Text.Utf8

/-!
# Broken UTF-8

Lossy decoding exchanges what is broken, and nothing else. Where no character stands, the bytes up
to the last one that still begins a character are one broken piece, or a single byte if it begins
none. The machine finds these pieces: while a character is open, it knows what completes it.
-/

namespace SystemMetrics.Text.Utf8

/-- Bytes that begin a character, or are one. -/
def Begins (w : List UInt8) : Prop := ∃ c, w <+: String.utf8EncodeChar c

/-- The characters that bytes stand for, with U+FFFD for what is broken. A broken piece begins where
no character stands, and reaches as far as it still begins one. -/
inductive Lossy : List UInt8 → List Char → Prop
  | nil : Lossy [] []
  | char (c : Char) {rest : List UInt8} {cs : List Char} (h : Lossy rest cs) :
      Lossy (String.utf8EncodeChar c ++ rest) (c :: cs)
  | broken {piece rest : List UInt8} {cs : List Char} (hne : piece ≠ [])
      (hnone : ∀ c, ¬ String.utf8EncodeChar c <+: piece ++ rest)
      (hpiece : Begins piece ∨ piece.length = 1)
      (hmax : ∀ b ∈ rest.head?, ¬ Begins (piece ++ [b])) (h : Lossy rest cs) :
      Lossy (piece ++ rest) ('\uFFFD' :: cs)

variable {bytes w rest : List UInt8} {cs cs' : List Char} {missing code : Nat} {low high b : UInt8}

theorem Begins.of_prefix {v : List UInt8} (h : Begins v) (hw : w <+: v) : Begins w := by
  obtain ⟨c, hc⟩ := h
  exact ⟨c, hw.trans hc⟩

/-! ## What bytes stand for is unique -/

variable {piece piece' rest' : List UInt8}

/-- A broken piece reaches at least as far as any other that begins at the same place. -/
theorem prefix_of_maximal (h : piece ++ rest = piece' ++ rest') (hne : piece ≠ [])
    (hmax : ∀ b ∈ rest.head?, ¬ Begins (piece ++ [b]))
    (hpiece' : Begins piece' ∨ piece'.length = 1) :
    piece' <+: piece := by
  rcases List.append_eq_append_iff.mp h with ⟨more, hpiece, hrest⟩ | ⟨more, hpiece, -⟩
  · cases more with
    | nil =>
      rw [List.append_nil] at hpiece
      exact hpiece ▸ List.prefix_refl piece
    | cons b more =>
      exfalso
      rcases hpiece' with hbegins | hone
      · rw [hpiece, List.append_cons] at hbegins
        exact hmax b (by rw [hrest]; rfl) (hbegins.of_prefix (List.prefix_append _ _))
      · rw [hpiece, List.length_append, List.length_cons] at hone
        have hpos := List.length_pos_iff.mpr hne
        omega
  · exact ⟨more, hpiece.symm⟩

theorem Lossy.unique (h : Lossy bytes cs) (h' : Lossy bytes cs') : cs = cs' := by
  induction h generalizing cs' with
  | nil =>
    generalize hbytes : [] = bytes at h'
    cases h' with
    | nil => rfl
    | char c => exact absurd (List.append_eq_nil_iff.mp hbytes.symm).1 String.utf8EncodeChar_ne_nil
    | broken hne => exact absurd (List.append_eq_nil_iff.mp hbytes.symm).1 hne
  | @char c rest cs _ ih =>
    generalize hbytes : String.utf8EncodeChar c ++ rest = bytes at h'
    cases h' with
    | nil => exact absurd (List.append_eq_nil_iff.mp hbytes).1 String.utf8EncodeChar_ne_nil
    | char c' h' =>
      have hread := congrArg (readFrom .idle) hbytes
      rw [readFrom_encodeChar, readFrom_encodeChar] at hread
      obtain rfl : c = c' := Option.some.inj (List.cons.inj hread).1
      rw [ih (List.append_cancel_left hbytes ▸ h')]
    | broken hne hnone => exact absurd ⟨rest, hbytes⟩ (hnone c)
  | @broken piece rest cs hne hnone hpiece hmax _ ih =>
    generalize hbytes : piece ++ rest = bytes at h'
    cases h' with
    | nil => exact absurd (List.append_eq_nil_iff.mp hbytes).1 hne
    | char c h' => exact absurd ⟨_, hbytes.symm⟩ (hnone c)
    | broken hne' hnone' hpiece' hmax' h' =>
      have hle := prefix_of_maximal hbytes hne hmax hpiece'
      have hge := prefix_of_maximal hbytes.symm hne' hmax' hpiece
      have heq := hle.eq_of_length_le hge.length_le
      subst heq
      rw [ih (List.append_cancel_left hbytes ▸ h')]

/-! ## An open character -/

/-- The bytes that complete an open character, and its number. -/
inductive Completes : (missing : Nat) → (low high : UInt8) → (code : Nat) → List UInt8 → Nat → Prop
  | last {low high b : UInt8} {code : Nat} (hlow : low ≤ b) (hhigh : b ≤ high) :
      Completes 0 low high code [b] (code * 64 + (b.toNat - 0x80))
  | more {low high b : UInt8} {missing code v : Nat} {rest : List UInt8} (hlow : low ≤ b)
      (hhigh : b ≤ high)
      (h : Completes missing 0x80 0xBF (code * 64 + (b.toNat - 0x80)) rest v) :
      Completes (missing + 1) low high code (b :: rest) v

theorem exists_completes (hbetween : low ≤ high) :
    ∃ rest v, Completes missing low high code rest v := by
  induction missing generalizing low high code with
  | zero => exact ⟨_, _, .last (UInt8.le_refl low) hbetween⟩
  | succ missing ih =>
    obtain ⟨rest, v, h⟩ := ih (by decide : (0x80 : UInt8) ≤ 0xBF)
    exact ⟨_, v, .more (UInt8.le_refl low) hbetween h⟩

/-- The open character that bytes have begun. -/
structure Opened (w : List UInt8) (missing : Nat) (low high : UInt8) (code : Nat) : Prop where
  read : ∀ rest, readFrom .idle (w ++ rest) = readFrom (.inside missing low high code) rest
  completed : ∀ rest v, Completes missing low high code rest v →
    w ++ rest = String.utf8EncodeChar (Char.ofNat v)
  between : low ≤ high

theorem Opened.begins (h : Opened w missing low high code) : Begins w := by
  obtain ⟨rest, v, hcompletes⟩ := exists_completes h.between
  exact ⟨Char.ofNat v, rest, h.completed rest v hcompletes⟩

theorem Opened.ne_nil (h : Opened w missing low high code) : w ≠ [] := by
  rintro rfl
  have hread := h.read []
  simp [readFrom] at hread

theorem Opened.last (h : Opened w 0 low high code) (hlow : low ≤ b) (hhigh : b ≤ high) :
    w ++ [b] = String.utf8EncodeChar (Char.ofNat (code * 64 + (b.toNat - 0x80))) :=
  h.completed [b] _ (.last hlow hhigh)

theorem Opened.more (h : Opened w (missing + 1) low high code) (hlow : low ≤ b)
    (hhigh : b ≤ high) : Opened (w ++ [b]) missing 0x80 0xBF (code * 64 + (b.toNat - 0x80)) where
  read rest := by
    rw [List.append_assoc, h.read]
    exact readFrom_silent (feed_within _ _ hlow hhigh) rest
  completed rest v hrest := by
    rw [List.append_assoc]
    exact h.completed _ v (.more hlow hhigh hrest)
  between := by decide

/-! ## The first byte of a character -/

theorem toNat_val_ofNat {v : Nat} (h : v.isValidChar) : (Char.ofNat v).val.toNat = v := by
  rw [Char.ofNat, dif_pos h]
  rfl

theorem encodeChar_two {k i : Nat} (hk : k < 32) (hshort : 2 ≤ k) (hi : i < 64) :
    String.utf8EncodeChar (Char.ofNat (k * 64 + i)) =
      [UInt8.ofNat (k + 192), UInt8.ofNat (i + 128)] := by
  have hv := toNat_val_ofNat (v := k * 64 + i) (.inl (by omega))
  rw [String.utf8EncodeChar, hv, if_neg (by omega), if_pos (by omega)]
  congr 3 <;> omega

theorem encodeChar_three {k i j : Nat} (hk : k < 16) (hshort : k = 0 → 32 ≤ i)
    (hsurrogate : k = 13 → i < 32) (hi : i < 64) (hj : j < 64) :
    String.utf8EncodeChar (Char.ofNat ((k * 64 + i) * 64 + j)) =
      [UInt8.ofNat (k + 224), UInt8.ofNat (i + 128), UInt8.ofNat (j + 128)] := by
  have hv := toNat_val_ofNat (v := (k * 64 + i) * 64 + j) (by rw [Nat.isValidChar]; omega)
  rw [String.utf8EncodeChar, hv, if_neg (by omega), if_neg (by omega), if_pos (by omega)]
  congr 4 <;> omega

theorem encodeChar_four {k i j l : Nat} (hk : k < 5) (hshort : k = 0 → 16 ≤ i)
    (hlarge : k = 4 → i < 16) (hi : i < 64) (hj : j < 64) (hl : l < 64) :
    String.utf8EncodeChar (Char.ofNat (((k * 64 + i) * 64 + j) * 64 + l)) =
      [UInt8.ofNat (k + 240), UInt8.ofNat (i + 128), UInt8.ofNat (j + 128),
        UInt8.ofNat (l + 128)] := by
  have hv := toNat_val_ofNat (v := ((k * 64 + i) * 64 + j) * 64 + l)
    (by rw [Nat.isValidChar]; omega)
  rw [String.utf8EncodeChar, hv, if_neg (by omega), if_neg (by omega), if_neg (by omega)]
  congr 5 <;> omega

theorem exists_bits (hlow : low ≤ b) (hhigh : b ≤ high)
    (h : 128 ≤ low.toNat) (h' : high.toNat ≤ 191) : ∃ i < 64, b = UInt8.ofNat (i + 128) ∧
      b.toNat - 0x80 = i ∧ low.toNat ≤ i + 128 ∧ i + 128 ≤ high.toNat := by
  rw [UInt8.le_iff_toNat_le] at hlow hhigh
  refine ⟨b.toNat - 128, by omega, ?_, rfl, by omega, by omega⟩
  rw [Nat.sub_add_cancel (by omega), UInt8.ofNat_toNat]

theorem second_of_three : ∀ k < 16, (if k = 0 then 0xA0 else 0x80 : UInt8) ≤
    if k = 13 then 0x9F else 0xBF := by
  decide

theorem second_of_four : ∀ k < 5, (if k = 0 then 0x90 else 0x80 : UInt8) ≤
    if k = 4 then 0x8F else 0xBF := by
  decide

theorem opened_two {k : Nat} (hk : k < 32) (hshort : 2 ≤ k) :
    Opened [UInt8.ofNat (k + 192)] 0 0x80 0xBF k := by
  refine ⟨readFrom_silent (feed_two k hk hshort), ?_, by decide⟩
  rintro _ _ (⟨hlow, hhigh⟩)
  obtain ⟨i, hi, rfl, hbits, -⟩ := exists_bits hlow hhigh (by decide) (by decide)
  rw [hbits, encodeChar_two hk hshort hi]
  rfl

theorem opened_three {k : Nat} (hk : k < 16) : Opened [UInt8.ofNat (k + 224)] 1
    (if k = 0 then 0xA0 else 0x80) (if k = 13 then 0x9F else 0xBF) k := by
  refine ⟨readFrom_silent (feed_three k hk), ?_, second_of_three k hk⟩
  rintro _ _ (_ | ⟨hlow, hhigh, ⟨hlow', hhigh'⟩⟩)
  obtain ⟨i, hi, rfl, hbits, hleast, hgreatest⟩ := exists_bits hlow hhigh
    (by split <;> decide) (by split <;> decide)
  obtain ⟨j, hj, rfl, hbits', -⟩ := exists_bits hlow' hhigh' (by decide) (by decide)
  rw [hbits, hbits', encodeChar_three hk _ _ hi hj]
  · rfl
  · rintro rfl
    simpa using hleast
  · rintro rfl
    exact Nat.lt_succ_of_le (by simpa using hgreatest)

theorem opened_four {k : Nat} (hk : k < 5) : Opened [UInt8.ofNat (k + 240)] 2
    (if k = 0 then 0x90 else 0x80) (if k = 4 then 0x8F else 0xBF) k := by
  refine ⟨readFrom_silent (feed_four k hk), ?_, second_of_four k hk⟩
  rintro _ _ (_ | ⟨hlow, hhigh, (_ | ⟨hlow', hhigh', ⟨hlow'', hhigh''⟩⟩)⟩)
  obtain ⟨i, hi, rfl, hbits, hleast, hgreatest⟩ := exists_bits hlow hhigh
    (by split <;> decide) (by split <;> decide)
  obtain ⟨j, hj, rfl, hbits', -⟩ := exists_bits hlow' hhigh' (by decide) (by decide)
  obtain ⟨l, hl, rfl, hbits'', -⟩ := exists_bits hlow'' hhigh'' (by decide) (by decide)
  rw [hbits, hbits', hbits'', encodeChar_four hk _ _ hi hj hl]
  · rfl
  · rintro rfl
    simpa using hleast
  · rintro rfl
    exact Nat.lt_succ_of_le (by simpa using hgreatest)

/-- How the first byte of a character is read, or one that begins none. -/
inductive Begun (b : UInt8) : Prop
  | complete (c : Char) (hread : State.idle.feed b = (.idle, [some c]))
      (h : [b] = String.utf8EncodeChar c)
  | opened {missing code : Nat} {low high : UInt8}
      (hread : State.idle.feed b = (.inside missing low high code, []))
      (h : Opened [b] missing low high code)
  | stray (hread : State.idle.feed b = (.idle, [none]))

theorem begun (b : UInt8) : Begun b := by
  generalize hn : b.toNat = n
  obtain rfl : b = UInt8.ofNat n := hn ▸ UInt8.ofNat_toNat.symm
  have hlt : n < 256 := hn ▸ UInt8.toNat_lt _
  rcases Nat.lt_or_ge n 128 with hone | hone
  · refine .complete _ (feed_one n hone) ?_
    rw [String.utf8EncodeChar, toNat_val_ofNat (.inl (by omega)), if_pos (by omega)]
  rcases Nat.lt_or_ge n 194 with hstray | hstray
  · exact .stray (feed_stray n hstray hone)
  rcases Nat.lt_or_ge n 224 with htwo | htwo
  · obtain ⟨k, rfl⟩ := Nat.exists_eq_add_of_le' (show 192 ≤ n by omega)
    exact .opened (feed_two k (by omega) (by omega)) (opened_two (by omega) (by omega))
  rcases Nat.lt_or_ge n 240 with hthree | hthree
  · obtain ⟨k, rfl⟩ := Nat.exists_eq_add_of_le' htwo
    exact .opened (feed_three k (by omega)) (opened_three (by omega))
  rcases Nat.lt_or_ge n 245 with hfour | hfour
  · obtain ⟨k, rfl⟩ := Nat.exists_eq_add_of_le' hthree
    exact .opened (feed_four k (by omega)) (opened_four (by omega))
  · obtain ⟨k, rfl⟩ := Nat.exists_eq_add_of_le' hfour
    exact .stray (feed_beyond k (by omega))

/-! ## What the machine reads -/

/-- A byte that cannot come next breaks the open character, and is read afresh. -/
theorem readFrom_outside (h : ¬ (low ≤ b ∧ b ≤ high)) (rest : List UInt8) :
    readFrom (.inside missing low high code) (b :: rest) = none :: readFrom .idle (b :: rest) := by
  simp only [readFrom, State.feed, if_neg h, List.cons_append]

/-- No character stands where the first piece is broken. -/
theorem not_prefix_of_broken {ps : List (Option Char)}
    (h : readFrom .idle bytes = none :: ps) (c : Char) : ¬ String.utf8EncodeChar c <+: bytes := by
  rintro ⟨rest, rfl⟩
  rw [readFrom_encodeChar] at h
  cases h

theorem not_begins_of_broken
    (h : ∀ rest, ∃ ps, readFrom .idle (bytes ++ rest) = none :: ps) : ¬ Begins bytes := by
  rintro ⟨c, rest, hc⟩
  obtain ⟨ps, hread⟩ := h rest
  rw [hc] at hread
  exact not_prefix_of_broken hread c (List.prefix_refl _)

/-- Each broken piece exchanged. -/
def exchange (ps : List (Option Char)) : List Char := ps.map fun p => p.getD '\uFFFD'

@[simp] theorem exchange_some (c : Char) (ps : List (Option Char)) :
    exchange (some c :: ps) = c :: exchange ps := rfl

@[simp] theorem exchange_none (ps : List (Option Char)) :
    exchange (none :: ps) = '\uFFFD' :: exchange ps := rfl

theorem Opened.lossy_nil (h : Opened w missing low high code) : Lossy w ['\uFFFD'] := by
  have hread : readFrom .idle (w ++ []) = [none] := (h.read []).trans (if_neg nofun)
  have hlossy := Lossy.broken h.ne_nil (not_prefix_of_broken hread) (.inl h.begins) nofun .nil
  rwa [List.append_nil] at hlossy

theorem Opened.lossy_outside (h : Opened w missing low high code)
    (hb : ¬ (low ≤ b ∧ b ≤ high)) (hrest : Lossy (b :: rest) cs) :
    Lossy (w ++ b :: rest) ('\uFFFD' :: cs) := by
  have hread (more : List UInt8) :
      readFrom .idle (w ++ b :: more) = none :: readFrom .idle (b :: more) :=
    (h.read _).trans (readFrom_outside hb more)
  refine .broken h.ne_nil (not_prefix_of_broken (hread rest)) (.inl h.begins) ?_ hrest
  rintro _ ⟨⟩
  refine not_begins_of_broken fun more => ⟨readFrom .idle (b :: more), ?_⟩
  rw [List.append_assoc]
  exact hread more

theorem lossy_stray (hb : State.idle.feed b = (.idle, [none]))
    (h : Lossy rest cs) : Lossy (b :: rest) ('\uFFFD' :: cs) := by
  refine Lossy.broken (List.cons_ne_nil b []) (not_prefix_of_broken (readFrom_piece hb rest))
    (.inr rfl) (fun next _ => ?_) h
  exact not_begins_of_broken fun more => ⟨_, readFrom_piece hb (next :: more)⟩

/-- From a state with an open character on, the bytes that began it count as well. -/
theorem lossy_readFrom (bytes : List UInt8) : Lossy bytes (exchange (readFrom .idle bytes)) ∧
    ∀ {w missing low high code}, Opened w missing low high code →
      Lossy (w ++ bytes) (exchange (readFrom (.inside missing low high code) bytes)) := by
  induction bytes with
  | nil =>
    refine ⟨.nil, fun {w} _ _ _ _ h => ?_⟩
    rw [List.append_nil]
    exact h.lossy_nil
  | cons b rest ih =>
    have hidle : Lossy (b :: rest) (exchange (readFrom .idle (b :: rest))) := by
      cases begun b with
      | complete c hread hb =>
        rw [readFrom_piece hread, ← List.singleton_append, hb, exchange_some]
        exact .char c ih.1
      | stray hread =>
        rw [readFrom_piece hread, exchange_none]
        exact lossy_stray hread ih.1
      | opened hread h =>
        rw [readFrom_silent hread]
        exact ih.2 h
    refine ⟨hidle, ?_⟩
    intro w missing low high code h
    -- Outside the bounds the open character is broken before `b`, which then stands as above.
    by_cases hb : low ≤ b ∧ b ≤ high
    · have hread := feed_within missing code hb.1 hb.2
      cases missing with
      | zero =>
        rw [readFrom_piece hread, List.append_cons, h.last hb.1 hb.2, exchange_some]
        exact .char _ ih.1
      | succ missing =>
        rw [readFrom_silent hread, List.append_cons]
        exact ih.2 (h.more hb.1 hb.2)
    · rw [readFrom_outside hb, exchange_none]
      exact h.lossy_outside hb hidle

theorem lossy_iff : Lossy bytes cs ↔ decodeLossy bytes = cs := by
  have h : Lossy bytes (decodeLossy bytes) := by
    rw [decodeLossy, pieces_eq]
    exact (lossy_readFrom bytes).1
  exact ⟨h.unique, fun hcs => hcs ▸ h⟩

theorem lossy_encode (cs : List Char) : Lossy (encode cs) cs := by
  induction cs with
  | nil => exact .nil
  | cons c cs ih => exact .char c ih

theorem decodeLossy_encode (cs : List Char) : decodeLossy (encode cs) = cs :=
  lossy_iff.mp (lossy_encode cs)

end SystemMetrics.Text.Utf8

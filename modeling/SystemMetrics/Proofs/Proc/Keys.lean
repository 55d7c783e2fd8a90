import SystemMetrics.Proc.Io
import SystemMetrics.Proofs.Text.Numerals

/-!
# Keys and values

Where lines give values to keys, the last line of a key decides. In `io` that line may hold a value
that is no number, or there may be no such line: either one is read as zero.
-/

namespace SystemMetrics.Proc

/-- A field that every line overwrites or keeps is what the last line that writes it says. -/
theorem foldl_last {σ α β γ : Type} (get : σ → γ) {step : σ → α → σ} {write : α → Option β}
    {f : β → γ} (h : ∀ s a, get (step s a) = ((write a).map f).getD (get s)) (l : List α) (s : σ) :
    get (l.foldl step s) = ((l.filterMap write).getLast?.map f).getD (get s) := by
  induction l generalizing s with
  | nil => rfl
  | cons a l ih =>
    rw [List.foldl_cons, ih, h]
    cases hwrite : write a with
    | none =>
      rw [List.filterMap_cons_none hwrite]
      rfl
    | some b =>
      rw [List.filterMap_cons_some hwrite, List.getLast?_cons]
      cases (l.filterMap write).getLast? <;> rfl

section

/-- What the last of some lines gives, of those that give anything. -/
def LastGives {β : Type} (gives : List Char → β → Prop) (ls : List (List Char)) (v : β) : Prop :=
  ∃ before line after, ls = before ++ line :: after ∧ gives line v ∧
    ∀ later ∈ after, ∀ w, ¬ gives later w

def NoneGives {β : Type} (gives : List Char → β → Prop) (ls : List (List Char)) : Prop :=
  ∀ line ∈ ls, ∀ v, ¬ gives line v

variable {β : Type} {f : List Char → Option β} {gives : List Char → β → Prop} {v : β}
  {ls : List (List Char)}

theorem getLast?_eq_some_iff_lastGives (h : ∀ line v, f line = some v ↔ gives line v) :
    (ls.filterMap f).getLast? = some v ↔ LastGives gives ls v := by
  have hnone (line : List Char) : f line = none ↔ ∀ w, ¬ gives line w := by
    simp only [Option.eq_none_iff_forall_ne_some, ne_eq, h]
  rw [List.getLast?_filterMap, List.findSome?_eq_some_iff]
  simp only [h, hnone]
  constructor
  · rintro ⟨after, line, before, hlines, hgives, hafter⟩
    refine ⟨before.reverse, line, after.reverse, ?_, hgives, ?_⟩
    · simpa using congrArg List.reverse hlines
    · simpa using hafter
  · rintro ⟨before, line, after, rfl, hgives, hafter⟩
    exact ⟨after.reverse, line, before.reverse, by simp, hgives, by simpa using hafter⟩

theorem getLast?_eq_none_iff_noneGives (h : ∀ line v, f line = some v ↔ gives line v) :
    (ls.filterMap f).getLast? = none ↔ NoneGives gives ls := by
  rw [List.getLast?_eq_none_iff, List.filterMap_eq_nil_iff]
  simp only [NoneGives, ← h, Option.eq_none_iff_forall_ne_some, ne_eq]

end

namespace Io

open Text

/-- The value on a line, if the part before its first colon is a key. -/
def valueOn? (key line : List Char) : Option (List Char) :=
  match cut ':' line with
  | some (before, after) => if trim before = key then some (trim after) else none
  | none => none

/-- The value on the last line of a key. -/
def lastValue? (key content : String) : Option (List Char) :=
  ((lines content.toList).filterMap (valueOn? key.toList)).getLast?

/-- The number that a value counts as. -/
def number (value : List Char) : Nat := (natural64? value).getD 0

theorem addLine_eq (io : Io) (line : List Char) :
    io.addLine line =
      ⟨((valueOn? "syscr".toList line).map number).getD io.readCalls,
        ((valueOn? "syscw".toList line).map number).getD io.writeCalls⟩ := by
  have hkeys : "syscr".toList ≠ "syscw".toList := by decide
  rw [addLine, valueOn?, valueOn?]
  cases cut ':' line with
  | none => rfl
  | some parts =>
    obtain ⟨before, after⟩ := parts
    by_cases hread : trim before = "syscr".toList
    · have hwrite : trim before ≠ "syscw".toList := hread ▸ hkeys
      simp only [setKey, if_pos hread, if_neg hwrite]
      rfl
    · by_cases hwrite : trim before = "syscw".toList
      · simp only [setKey, if_neg hread, if_pos hwrite]
        rfl
      · simp only [setKey, if_neg hread, if_neg hwrite]
        rfl

/-- What the counter of a key is read as. -/
def counter (key content : String) : Nat := ((lastValue? key content).map number).getD 0

theorem parse_eq (content : String) :
    parse content = ⟨counter "syscr" content, counter "syscw" content⟩ := by
  have hread := foldl_last readCalls (fun io line => congrArg readCalls (addLine_eq io line))
    (lines content.toList) {}
  have hwrite := foldl_last writeCalls (fun io line => congrArg writeCalls (addLine_eq io line))
    (lines content.toList) {}
  exact congr (congrArg mk hread) hwrite

/-- The last line of a key has a numeral of `n`, and `n` fits 64 bits. -/
def Tells (content key : String) (n : Nat) : Prop :=
  ∃ value, lastValue? key content = some value ∧ Numeral false value n ∧ n < word64

theorem counter_eq_getD (key content : String) :
    counter key content = ((lastValue? key content).bind natural64?).getD 0 := by
  rw [counter]
  cases lastValue? key content <;> rfl

theorem tells_iff {content key : String} {n : Nat} :
    Tells content key n ↔ (lastValue? key content).bind natural64? = some n := by
  simp only [Tells, Option.bind_eq_some_iff, natural64?_eq_some_iff]

theorem counter_spec (content key : String) :
    Tells content key (counter key content) ∨
      (∀ n, ¬ Tells content key n) ∧ counter key content = 0 := by
  simp only [tells_iff, counter_eq_getD]
  cases (lastValue? key content).bind natural64? with
  | none => exact .inr ⟨fun n => nofun, rfl⟩
  | some n => exact .inl rfl

end Io

end SystemMetrics.Proc

import Mathlib.Data.List.TakeWhile
import Mathlib.Logic.ExistsUnique
import SystemMetrics.Proc.Cmdline
import SystemMetrics.Proofs.Text.Lossy
import SystemMetrics.Proofs.Text.Words

/-!
# Argument vectors

Which arguments a vector of bytes holds is said by its segments alone: the bytes are segments with a
zero byte between any two, and the arguments are the first segment and the segments after it up to
the first empty one. Every vector holds exactly one list of arguments, and `parse` returns it unless
a cap is exceeded. A list of texts is read back from the vector that terminates each of them.
-/

namespace SystemMetrics.Proc.Cmdline

/-- The arguments end before these segments: there are none, or the first one is empty. -/
def Ends (dropped : List (List UInt8)) : Prop := ∀ segment ∈ dropped.head?, segment = []

/-- The arguments that a vector holds. -/
inductive Holds : List UInt8 → List (List UInt8) → Prop
  | empty : Holds [] []
  | segments {bytes first : List UInt8} {run dropped : List (List UInt8)} (hbytes : bytes ≠ [])
      (hzero : ∀ segment ∈ first :: (run ++ dropped), 0 ∉ segment)
      (hjoined : [0].intercalate (first :: (run ++ dropped)) = bytes)
      (hrun : ∀ segment ∈ run, segment ≠ []) (hend : Ends dropped) :
      Holds bytes (first :: run)

variable {bytes first : List UInt8} {args run dropped : List (List UInt8)}
variable {maxArguments maxBytes taken : Nat}

/-! ## Every vector holds one list of arguments -/

theorem ends_dropWhile (segments : List (List UInt8)) : Ends (segments.dropWhile (· ≠ [])) := by
  intro segment h
  have hhead := List.head?_dropWhile_not (· ≠ []) segments
  rw [h] at hhead
  simpa using hhead

/-- Where the arguments end is said by the segments. -/
theorem takeWhile_append (hrun : ∀ segment ∈ run, segment ≠ []) (hend : Ends dropped) :
    (run ++ dropped).takeWhile (· ≠ []) = run := by
  rw [List.takeWhile_append_of_pos (by simpa using hrun)]
  cases dropped with
  | nil => simp
  | cons segment rest => simp [hend segment rfl]

theorem splitOn_joined (hzero : ∀ segment ∈ first :: (run ++ dropped), 0 ∉ segment)
    (hjoined : [0].intercalate (first :: (run ++ dropped)) = bytes) :
    bytes.splitOn 0 = first :: (run ++ dropped) := by
  rw [← hjoined, List.splitOn_intercalate 0 hzero (List.cons_ne_nil _ _)]

theorem existsUnique_holds (bytes : List UInt8) : ∃! args, Holds bytes args := by
  by_cases hbytes : bytes = []
  · refine ⟨[], hbytes ▸ .empty, fun args h => ?_⟩
    cases h with
    | empty => rfl
    | segments hne => exact absurd hbytes hne
  · obtain ⟨first, rest, hsplit⟩ := List.exists_cons_of_ne_nil (List.splitOn_ne_nil 0 bytes)
    refine ⟨first :: rest.takeWhile (· ≠ []), ?_, fun args h => ?_⟩
    · have hcut : rest.takeWhile (· ≠ []) ++ rest.dropWhile (· ≠ []) = rest :=
        List.takeWhile_append_dropWhile
      apply Holds.segments hbytes
      · rw [hcut, ← hsplit]
        exact Text.notMem_splitOn 0 bytes
      · rw [hcut, ← hsplit, List.intercalate_splitOn]
      · intro segment h
        simpa using List.mem_takeWhile_imp h
      · exact ends_dropWhile rest
    · cases h with
      | empty => exact absurd rfl hbytes
      | segments _ hzero hjoined hrun hend =>
        rw [splitOn_joined hzero hjoined] at hsplit
        cases hsplit
        rw [takeWhile_append hrun hend]

/-! ## The loop -/

theorem lossy_iff_text (segment : List UInt8) (cs : List Char) :
    Text.Utf8.Lossy segment cs ↔ (text segment).toList = cs := by
  rw [text, String.toList_ofList, Text.Utf8.lossy_iff]

/-- One round of the loop. -/
theorem take_cons {segment : List UInt8} (h : segment ≠ [] ∨ taken = 0)
    (rest : List (List UInt8)) :
    take maxArguments taken (segment :: rest) =
      if taken = maxArguments then .error (.exhausted "argument count" maxArguments)
      else (take maxArguments (taken + 1) rest).map (text segment :: ·) := by
  have hgoes : ¬ (segment.isEmpty && decide (taken > 0)) = true := by
    rcases h with h | h <;> simp [h]
  rw [take, if_neg hgoes]
  split
  · rfl
  · cases take maxArguments (taken + 1) rest <;> rfl

theorem take_of_ends (hend : Ends dropped) (hpos : 0 < taken) :
    take maxArguments taken dropped = .ok [] := by
  cases dropped with
  | nil => rfl
  | cons segment rest =>
    rw [hend segment rfl, take, if_pos (by simpa using hpos)]
    rfl

/-- A run of arguments is taken as a whole, or refused at the first one over the cap. -/
theorem take_run (hfirst : first ≠ [] ∨ taken = 0) (hrun : ∀ segment ∈ run, segment ≠ [])
    (hend : Ends dropped) (hle : taken ≤ maxArguments) :
    take maxArguments taken (first :: (run ++ dropped)) =
      if maxArguments < taken + (first :: run).length then
        .error (.exhausted "argument count" maxArguments)
      else .ok ((first :: run).map text) := by
  induction run generalizing first taken with
  | nil =>
    rw [take_cons hfirst, List.nil_append, take_of_ends hend (Nat.succ_pos _)]
    split
    · rw [if_pos (by simp; omega)]
    · rw [if_neg (by simp; omega)]
      rfl
  | cons segment run ih =>
    obtain ⟨hne, hrun⟩ := List.forall_mem_cons.mp hrun
    have hcount : taken + (first :: segment :: run).length =
        taken + 1 + (segment :: run).length := by
      rw [List.length_cons, Nat.add_comm _ 1, Nat.add_assoc]
    rw [take_cons hfirst, hcount]
    by_cases hcap : taken = maxArguments
    · rw [if_pos hcap, if_pos (by omega)]
    · rw [if_neg hcap, List.cons_append, ih (.inl hne) hrun (by omega)]
      split <;> rfl

theorem parse_of_long (h : maxBytes < bytes.length) :
    parse maxArguments maxBytes bytes =
      .error (.exhausted "argument vector bytes" maxBytes) :=
  if_pos h

theorem parse_of_holds (h : Holds bytes args) (hle : bytes.length ≤ maxBytes) :
    parse maxArguments maxBytes bytes =
      if maxArguments < args.length then .error (.exhausted "argument count" maxArguments)
      else .ok (args.map text) := by
  rw [parse, if_neg (by omega)]
  cases h with
  | empty => rfl
  | segments hbytes hzero hjoined hrun hend =>
    rw [if_neg (by simpa using hbytes), ← List.splitOn_eq_splitOnP, splitOn_joined hzero hjoined,
      take_run (.inr rfl) hrun hend (Nat.zero_le _), Nat.zero_add]

theorem bytes_exhausted_iff (h : Holds bytes args) :
    parse maxArguments maxBytes bytes = .error (.exhausted "argument vector bytes" maxBytes) ↔
      maxBytes < bytes.length := by
  constructor
  · intro hrefused
    by_contra hle
    rw [parse_of_holds h (by omega)] at hrefused
    split at hrefused <;> simp at hrefused
  · exact parse_of_long

theorem count_exhausted_iff (h : Holds bytes args) (hle : bytes.length ≤ maxBytes) :
    parse maxArguments maxBytes bytes = .error (.exhausted "argument count" maxArguments) ↔
      maxArguments < args.length := by
  rw [parse_of_holds h hle]
  split <;> simp_all

theorem parse_of_le (h : Holds bytes args) (hle : bytes.length ≤ maxBytes)
    (hcount : args.length ≤ maxArguments) :
    parse maxArguments maxBytes bytes = .ok (args.map text) := by
  rw [parse_of_holds h hle, if_neg (by omega)]

/-- A vector over either cap is refused. -/
theorem exists_parse_error (h : Holds bytes args)
    (hover : maxBytes < bytes.length ∨ maxArguments < args.length) :
    ∃ fault, parse maxArguments maxBytes bytes = .error fault := by
  by_cases hbytes : maxBytes < bytes.length
  · exact ⟨_, parse_of_long hbytes⟩
  · have hcount := hover.resolve_left hbytes
    exact ⟨_, (count_exhausted_iff h (by omega)).mpr hcount⟩

/-! ## Texts are read back -/

variable {texts : List String}

def encoded (a : String) : List UInt8 := Text.Utf8.encode a.toList

/-- Arguments as the kernel lays them out: each is terminated by a zero byte. -/
def vector (texts : List String) : List UInt8 := texts.flatMap fun a => encoded a ++ [0]

theorem text_encoded (a : String) : text (encoded a) = a := by
  rw [text, encoded, Text.Utf8.decodeLossy_encode, String.ofList_toList]

theorem zero_notMem_encoded {a : String} (h : '\x00' ∉ a.toList) : 0 ∉ encoded a := by
  rw [encoded, Text.Utf8.zero_mem_encode]
  exact h

theorem encoded_ne_nil {a : String} (h : a ≠ "") : encoded a ≠ [] := by
  rw [encoded, Ne, Text.Utf8.encode_eq_nil, String.toList_eq_nil_iff]
  exact h

/-- Terminated segments are joined by zero bytes, with an empty segment after the last one. -/
theorem joined_terminated (segments : List (List UInt8)) :
    [0].intercalate (segments ++ [[]]) = segments.flatMap (· ++ [0]) := by
  induction segments with
  | nil => rfl
  | cons segment rest ih =>
    obtain ⟨next, more, hnext⟩ : ∃ next more, rest ++ [[]] = next :: more :=
      List.exists_cons_of_ne_nil (by simp)
    rw [List.cons_append, hnext, List.intercalate_cons_cons, ← hnext, ih, List.flatMap_cons]

theorem holds_vector (hzero : ∀ a ∈ texts, '\x00' ∉ a.toList) (htail : ∀ a ∈ texts.tail, a ≠ "") :
    Holds (vector texts) (texts.map encoded) := by
  cases texts with
  | nil => exact .empty
  | cons a rest =>
    have hsegments : encoded a :: (rest.map encoded ++ [[]]) =
        (a :: rest).map encoded ++ [[]] := rfl
    have hend : Ends [[]] := by simp [Ends]
    refine .segments (by simp [vector]) ?_ ?_ ?_ hend
    · rw [hsegments]
      intro segment hmem
      rcases List.mem_append.mp hmem with hmem | hmem
      · obtain ⟨b, hb, rfl⟩ := List.mem_map.mp hmem
        exact zero_notMem_encoded (hzero b hb)
      · rw [List.mem_singleton.mp hmem]
        exact List.not_mem_nil
    · rw [hsegments, joined_terminated, List.flatMap_map]
      rfl
    · intro segment hmem
      obtain ⟨b, hb, rfl⟩ := List.mem_map.mp hmem
      exact encoded_ne_nil (htail b hb)

theorem parse_vector (hzero : ∀ a ∈ texts, '\x00' ∉ a.toList) (htail : ∀ a ∈ texts.tail, a ≠ "")
    (hcount : texts.length ≤ maxArguments) (hbytes : (vector texts).length ≤ maxBytes) :
    parse maxArguments maxBytes (vector texts) = .ok texts := by
  have htexts : (texts.map encoded).map text = texts := by
    rw [List.map_map]
    exact List.map_id'' text_encoded texts
  rw [parse_of_le (holds_vector hzero htail) hbytes (by simpa using hcount), htexts]

end SystemMetrics.Proc.Cmdline

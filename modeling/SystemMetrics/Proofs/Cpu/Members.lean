import SystemMetrics.Cpu.Processors
import SystemMetrics.Proofs.Cpu.Histories

/-!
# The members of a set of processors

The numbers of the members count up from zero. Under this invariant the highest number is always
found where a set has to shrink, so that reconciling cuts the list of members or goes on with fresh
ones; and a row can only go to the one member with its number.
-/

namespace SystemMetrics.Processors

variable {ps : Processors}

/-! ## Numbers -/

/-- The members have the numbers from zero on, in order. -/
def Numbered (ps : Processors) : Prop := ps.members.map (·.number) = List.range ps.size

theorem numbered_new (cadence : Cadence) : (new cadence).Numbered := rfl

theorem Numbered.number_eq (h : ps.Numbered) {i : Nat} {p : Processor}
    (hp : ps.members[i]? = some p) : p.number = i := by
  have hnumber : (ps.members.map (·.number))[i]? = some p.number := by
    rw [List.getElem?_map, hp]
    rfl
  rw [h, List.getElem?_eq_some_iff] at hnumber
  obtain ⟨_, hrange⟩ := hnumber
  rw [List.getElem_range] at hrange
  exact hrange.symm

theorem Numbered.findIdx? (h : ps.Numbered) {number : Nat} (hlt : number < ps.size) :
    (ps.members.findIdx? fun p => p.number == number) = some number := by
  rw [List.findIdx?_eq_some_iff_getElem]
  refine ⟨hlt, ?_, fun j hj => ?_⟩
  · exact beq_iff_eq.mpr (h.number_eq (List.getElem?_eq_getElem hlt))
  · have hnumber := h.number_eq (List.getElem?_eq_getElem (Nat.lt_trans hj hlt))
    rw [hnumber, beq_iff_eq]
    omega

theorem Numbered.nodup (h : ps.Numbered) : (ps.members.map (·.number)).Nodup := by
  rw [h]
  exact List.nodup_range

theorem Numbered.take (h : ps.Numbered) (count : Nat) :
    ({ ps with members := ps.members.take count } : Processors).Numbered := by
  show (ps.members.take count).map (·.number) = List.range (ps.members.take count).length
  rw [List.map_take, h, List.take_range, List.length_take]
  rfl

theorem Numbered.map (h : ps.Numbered) {f : Processor → Processor}
    (hf : ∀ p, (f p).number = p.number) (total : Processor) :
    ({ ps with total, members := ps.members.map f } : Processors).Numbered := by
  have hnumbers : (ps.members.map f).map (·.number) = ps.members.map (·.number) := by
    rw [List.map_map]
    exact List.map_congr_left fun p _ => hf p
  show (ps.members.map f).map (·.number) = List.range (ps.members.map f).length
  rw [hnumbers, h, List.length_map]
  rfl

/-! ## Reconciling -/

/-- The members that a set gets at the indices from its size on, below `count`. -/
def fresh (count : Nat) (ps : Processors) : List Processor :=
  (List.range' ps.size (count - ps.size)).map fun n => .new n ps.cadence.history

theorem fresh_of_le {count : Nat} (h : count ≤ ps.size) : ps.fresh count = [] := by
  rw [fresh, Nat.sub_eq_zero_of_le h]
  rfl

theorem length_fresh (count : Nat) (ps : Processors) :
    (ps.fresh count).length = count - ps.size := by
  rw [fresh, List.length_map, List.length_range']

theorem getElem?_fresh {count i : Nat} {p : Processor} (h : (ps.fresh count)[i]? = some p) :
    p = .new (ps.size + i) ps.cadence.history := by
  rw [fresh, List.getElem?_map, Option.map_eq_some_iff] at h
  obtain ⟨n, hn, rfl⟩ := h
  obtain ⟨_, hrange⟩ := List.getElem?_eq_some_iff.mp hn
  rw [List.getElem_range', Nat.one_mul] at hrange
  rw [hrange]

/-- A numbered set shrinks from its end, and never fails to. -/
theorem shrink_eq (h : ps.Numbered) {excess : Nat} (hle : excess ≤ ps.size) :
    shrink excess ps = (.ok (), { ps with members := ps.members.take (ps.size - excess) }) := by
  induction excess generalizing ps with
  | zero =>
    rw [shrink, Nat.sub_zero, size, List.take_length]
  | succ n ih =>
    have hfound := h.findIdx? (show ps.size - 1 < ps.size by omega)
    have hcut : ps.members.eraseIdx (ps.size - 1) = ps.members.take (ps.size - 1) := by
      rw [size, List.eraseIdx_length_sub_one, List.dropLast_eq_take]
    have hsize : ({ ps with members := ps.members.take (ps.size - 1) } : Processors).size =
        ps.size - 1 := by
      show (ps.members.take (ps.size - 1)).length = ps.size - 1
      rw [List.length_take, ← size]
      omega
    simp only [shrink, hfound, hcut]
    rw [ih (h.take (ps.size - 1)) (by omega), hsize]
    show (_, { ps with members := (ps.members.take (ps.size - 1)).take (ps.size - 1 - n) }) = _
    rw [List.take_take, Nat.min_eq_left (by omega), Nat.sub_sub, Nat.add_comm 1 n]

/-- A numbered set keeps the members below the number of processors and gets fresh ones up to
it. -/
theorem reconcile_eq (h : ps.Numbered) (count : Nat) :
    ps.reconcile count =
      (.ok (), { ps with members := ps.members.take count ++ ps.fresh count }) := by
  have hgrow : ps.grow count = { ps with members := ps.members ++ ps.fresh count } := rfl
  rw [reconcile, hgrow]
  by_cases hle : count ≤ ps.size
  · rw [fresh_of_le hle, List.append_nil, List.append_nil, shrink_eq h (Nat.sub_le _ _)]
    rw [Nat.sub_sub_self hle]
  · have hlt : ps.size ≤ count := by omega
    rw [Nat.sub_eq_zero_of_le hlt, shrink, List.take_of_length_le hlt]

theorem Numbered.reconcile (h : ps.Numbered) (count : Nat) : (ps.reconcile count).2.Numbered := by
  rw [reconcile_eq h]
  show (ps.members.take count ++ ps.fresh count).map (·.number) =
    List.range (ps.members.take count ++ ps.fresh count).length
  have hnumbers : (ps.fresh count).map (·.number) = List.range' ps.size (count - ps.size) := by
    rw [fresh, List.map_map]
    exact List.map_id _
  rw [List.map_append, List.map_take, h, hnumbers, List.take_range, List.length_append,
    List.length_take, length_fresh, ← size]
  by_cases hle : count ≤ ps.size
  · rw [Nat.sub_eq_zero_of_le hle, Nat.add_zero]
    exact List.append_nil _
  · rw [Nat.min_eq_right (by omega), List.range_eq_range', List.range_eq_range']
    rw [show List.range' ps.size (count - ps.size) = List.range' (0 + ps.size) (count - ps.size) by
      rw [Nat.zero_add], List.range'_append_1]

theorem size_reconcile (h : ps.Numbered) (count : Nat) : (ps.reconcile count).2.size = count := by
  rw [reconcile_eq h]
  show (ps.members.take count ++ ps.fresh count).length = count
  rw [List.length_append, List.length_take, length_fresh, ← size]
  omega

theorem getElem?_reconcile_of_lt (h : ps.Numbered) {count i : Nat} (hi : i < min ps.size count) :
    (ps.reconcile count).2.members[i]? = ps.members[i]? := by
  rw [reconcile_eq h]
  show (ps.members.take count ++ ps.fresh count)[i]? = ps.members[i]?
  have hlength : i < (ps.members.take count).length := by
    rw [List.length_take, ← size]
    omega
  rw [List.getElem?_append_left hlength, List.getElem?_take_of_lt (by omega)]

/-- A member from the old size on is fresh, whatever had its number before. -/
theorem eq_new_of_getElem?_reconcile (h : ps.Numbered) {count i : Nat} {p : Processor}
    (hi : ps.size ≤ i) (hp : (ps.reconcile count).2.members[i]? = some p) :
    p = .new i ps.cadence.history := by
  rw [reconcile_eq h] at hp
  have hlength : (ps.members.take count).length = min count ps.size := List.length_take
  rw [List.getElem?_append_right (by omega), hlength] at hp
  by_cases hle : count ≤ ps.size
  · rw [fresh_of_le hle] at hp
    cases hp
  · have hindex := getElem?_fresh hp
    rw [Nat.min_eq_right (by omega), Nat.add_sub_cancel' hi] at hindex
    exact hindex

/-! ## Recording -/

/-- The counters on a line, if it is a good row for `target`. -/
def rowOf? (target : Proc.CpuRow) (line : List Char) : Option Proc.TickRow :=
  match Proc.CpuRow.parseChars? line with
  | some (.ok (found, row)) => if found = target then some row else none
  | _ => none

/-- The good rows for `target` among lines, in order. -/
def rowsOf (target : Proc.CpuRow) (lines : List (List Char)) : List Proc.TickRow :=
  lines.filterMap (rowOf? target)

/-- Gives every processor the rows that are for it. -/
def deal (takenAt : Nat) (lines : List (List Char)) (ps : Processors) : Processors :=
  { ps with
    total := ps.total.recordAll (rowsOf .total lines) takenAt
    members := ps.members.map fun p => p.recordAll (rowsOf (.cpu p.number) lines) takenAt }

theorem Numbered.deal (h : ps.Numbered) (takenAt : Nat) (lines : List (List Char)) :
    (ps.deal takenAt lines).Numbered :=
  h.map (fun p => p.number_recordAll _ takenAt) _

theorem deal_nil (takenAt : Nat) (ps : Processors) : ps.deal takenAt [] = ps := by
  have hid : (fun p : Processor => p.recordAll (rowsOf (.cpu p.number) []) takenAt) = id := rfl
  rw [Processors.deal, hid, List.map_id]
  rfl

theorem deal_append (takenAt : Nat) (lines more : List (List Char)) (ps : Processors) :
    ps.deal takenAt (lines ++ more) = (ps.deal takenAt lines).deal takenAt more := by
  simp only [Processors.deal, rowsOf, List.filterMap_append, Processor.recordAll_append,
    List.map_map, Function.comp_def, Processor.number_recordAll]

/-- A row for the processor `number` changes that one only. -/
def recordOwn (number : Nat) (row : Proc.TickRow) (takenAt : Nat) (p : Processor) : Processor :=
  if p.number = number then p.record row takenAt else p

theorem map_recordOwn_of_notMem {number : Nat} {members : List Processor}
    (h : number ∉ members.map (·.number)) (row : Proc.TickRow) (takenAt : Nat) :
    members.map (recordOwn number row takenAt) = members := by
  refine (List.map_congr_left fun p hp => if_neg fun hnumber => ?_).trans (List.map_id' members)
  exact h (List.mem_map.mpr ⟨p, hp, hnumber⟩)

/-- Where no two members have one number, the first member with a number is the only one. -/
theorem recordMember_eq (number : Nat) (row : Proc.TickRow) (takenAt : Nat)
    {members : List Processor} (h : (members.map (·.number)).Nodup) :
    recordMember number row takenAt members =
      if number ∈ members.map (·.number) then some (members.map (recordOwn number row takenAt))
      else none := by
  induction members with
  | nil => rfl
  | cons p rest ih =>
    rw [List.map_cons, List.nodup_cons] at h
    obtain ⟨hnotMem, hrest⟩ := h
    rw [recordMember, List.map_cons, List.map_cons, recordOwn]
    by_cases hp : p.number = number
    · rw [hp] at hnotMem
      rw [if_pos hp, if_pos hp, if_pos (hp ▸ List.mem_cons_self),
        map_recordOwn_of_notMem hnotMem]
    · rw [if_neg hp, if_neg hp, ih hrest]
      have hmem : number ∈ p.number :: rest.map (·.number) ↔ number ∈ rest.map (·.number) := by
        rw [List.mem_cons]
        exact or_iff_right fun h => hp h.symm
      by_cases hthere : number ∈ rest.map (·.number)
      · rw [if_pos hthere, if_pos (hmem.mpr hthere)]
        rfl
      · rw [if_neg hthere, if_neg fun h => hthere (hmem.mp h)]
        rfl

theorem rowsOf_singleton (target : Proc.CpuRow) (line : List Char) :
    rowsOf target [line] = (rowOf? target line).toList := by
  rw [rowsOf, List.filterMap_cons]
  cases rowOf? target line <;> rfl

theorem recordLine_eq (h : ps.Numbered) (takenAt : Nat) (line : List Char) :
    (ps.recordLine takenAt line).1 = ps.deal takenAt [line] := by
  have hsame (total : Processor) : ({ ps with total } : Processors) =
      { ps with total, members := ps.members.map fun p => p } := by
    rw [List.map_id']
  simp only [Processors.deal, rowsOf_singleton, rowOf?, recordLine]
  cases Proc.CpuRow.parseChars? line with
  | none => exact hsame ps.total
  | some result =>
    cases result with
    | error e => exact hsame ps.total
    | ok found =>
      obtain ⟨target, row⟩ := found
      cases target with
      | total =>
        simp only [if_pos, reduceCtorEq, if_false]
        exact hsame _
      | cpu number =>
        have hgiven : (fun p : Processor =>
            p.recordAll (if number = p.number then some row else none).toList takenAt) =
            recordOwn number row takenAt := by
          funext p
          by_cases hp : p.number = number
          · rw [recordOwn, if_pos hp, if_pos hp.symm]
            rfl
          · rw [recordOwn, if_neg hp, if_neg fun heq => hp heq.symm]
            rfl
        simp only [recordMember_eq number row takenAt h.nodup, reduceCtorEq, if_false,
          Proc.CpuRow.cpu.injEq, hgiven]
        by_cases hmem : number ∈ ps.members.map (·.number)
        · rw [if_pos hmem]
          rfl
        · rw [if_neg hmem, map_recordOwn_of_notMem hmem]
          rfl

theorem recordLines_eq (h : ps.Numbered) (takenAt : Nat) (lines : List (List Char)) :
    (recordLines takenAt lines ps).1 = ps.deal takenAt lines := by
  induction lines generalizing ps with
  | nil => exact (deal_nil takenAt ps).symm
  | cons line rest ih =>
    have hline := recordLine_eq h takenAt line
    show (recordLines takenAt rest (ps.recordLine takenAt line).1).1 = _
    rw [hline, ih (h.deal takenAt [line]), ← deal_append]
    rfl

theorem record_eq (h : ps.Numbered) (reading : Reading) :
    (ps.record reading).1 = ps.deal reading.takenAt (Text.lines reading.content.toList) :=
  recordLines_eq h _ _

/-- The processor that a row is for. -/
def at? (target : Proc.CpuRow) (ps : Processors) : Option Processor :=
  match target with
  | .total => some ps.total
  | .cpu number => ps.members[number]?

theorem at?_deal (h : ps.Numbered) (takenAt : Nat) (lines : List (List Char))
    (target : Proc.CpuRow) :
    at? target (ps.deal takenAt lines) =
      (at? target ps).map fun p => p.recordAll (rowsOf target lines) takenAt := by
  cases target with
  | total => rfl
  | cpu number =>
    show (List.map _ ps.members)[number]? = ps.members[number]?.map _
    rw [List.getElem?_map]
    cases hp : ps.members[number]? with
    | none => rfl
    | some p => rw [Option.map_some, Option.map_some, h.number_eq hp]

theorem at?_record (h : ps.Numbered) (reading : Reading) (target : Proc.CpuRow) :
    at? target (ps.record reading).1 = (at? target ps).map fun p =>
      p.recordAll (rowsOf target (Text.lines reading.content.toList)) reading.takenAt := by
  rw [record_eq h]
  exact at?_deal h _ _ target

end SystemMetrics.Processors

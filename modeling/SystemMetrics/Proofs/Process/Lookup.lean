import SystemMetrics.Process.Table

/-!
# The table of processes as a map

A list of processes is seen through `lookup`. Every change to it has one equation that says what is
found under each number, and keeps the numbers strictly ascending. In an ascending list a process is
found under its own number, so that nothing hides behind another one.
-/

namespace SystemMetrics.ProcessTable

variable {p q : ProcessEntry} {ps : List ProcessEntry} {pid : Nat}

/-! ## What is found -/

@[simp] theorem lookup_nil (pid : Nat) : lookup pid [] = none := rfl

theorem lookup_cons (pid : Nat) (p : ProcessEntry) (ps : List ProcessEntry) :
    lookup pid (p :: ps) = if p.pid = pid then some p else lookup pid ps := by
  by_cases h : p.pid = pid <;> simp [lookup, h]

theorem pid_of_lookup (h : lookup pid ps = some p) : p.pid = pid := by
  simpa using List.find?_some h

theorem mem_of_lookup (h : lookup pid ps = some p) : p ∈ ps := List.mem_of_find?_eq_some h

theorem lookup_insert (pid : Nat) (p : ProcessEntry) (ps : List ProcessEntry) :
    lookup pid (insert p ps) = if p.pid = pid then some p else lookup pid ps := by
  induction ps with
  | nil => rw [insert, lookup_cons]
  | cons q rest ih =>
    rw [insert]
    split
    · rw [lookup_cons]
    · split
      · rename_i heq
        rw [lookup_cons, lookup_cons, heq]
        split <;> rfl
      · rename_i hne
        rw [lookup_cons, lookup_cons, ih]
        by_cases hq : q.pid = pid
        · rw [if_pos hq, if_neg (by omega), if_pos hq]
        · rw [if_neg hq, if_neg hq]

theorem lookup_filter (pid : Nat) (keep : Nat → Bool) (ps : List ProcessEntry) :
    lookup pid (ps.filter fun p => keep p.pid) = if keep pid then lookup pid ps else none := by
  induction ps with
  | nil => simp
  | cons q rest ih =>
    by_cases hq : q.pid = pid
    · subst hq
      by_cases hk : keep q.pid = true <;> simp [hk, lookup_cons, ih]
    · by_cases hk : keep q.pid = true <;> simp [hk, hq, lookup_cons, ih]

theorem lookup_erase (pid other : Nat) (ps : List ProcessEntry) :
    lookup pid (erase other ps) = if pid = other then none else lookup pid ps := by
  rw [erase, lookup_filter pid (fun n => n != other)]
  by_cases h : pid = other <;> simp [h]

/-- Settling a number changes what is found under that number and nothing else. -/
theorem lookup_put (pid other : Nat) {settled : Option ProcessEntry}
    (h : ∀ p, settled = some p → p.pid = other) (ps : List ProcessEntry) :
    lookup pid (put other settled ps) = if pid = other then settled else lookup pid ps := by
  cases settled with
  | none => exact lookup_erase pid other ps
  | some p =>
    rw [put, lookup_insert, h p rfl]
    simp only [eq_comm]

theorem lookup_map (pid : Nat) {f : ProcessEntry → ProcessEntry} (h : ∀ p, (f p).pid = p.pid)
    (ps : List ProcessEntry) : lookup pid (ps.map f) = (lookup pid ps).map f := by
  induction ps with
  | nil => rfl
  | cons p rest ih =>
    rw [List.map_cons, lookup_cons, lookup_cons, h, ih]
    split <;> rfl

/-! ## Ascending numbers -/

/-- The numbers of the processes are strictly ascending. -/
def Ascending (ps : List ProcessEntry) : Prop := ps.Pairwise fun p q => p.pid < q.pid

theorem Ascending.filter (h : Ascending ps) (keep : ProcessEntry → Bool) :
    Ascending (ps.filter keep) :=
  List.Pairwise.filter keep h

theorem Ascending.map {f : ProcessEntry → ProcessEntry} (h : Ascending ps)
    (hf : ∀ p, (f p).pid = p.pid) : Ascending (ps.map f) := by
  refine List.Pairwise.map f (fun p q hpq => ?_) h
  rw [hf, hf]
  exact hpq

theorem mem_insert (h : q ∈ insert p ps) : q = p ∨ q ∈ ps := by
  induction ps with
  | nil => simpa [insert] using h
  | cons r rest ih =>
    rw [insert] at h
    split at h
    · simpa using h
    · split at h
      · rcases List.mem_cons.mp h with h | h
        · exact Or.inl h
        · exact Or.inr (List.mem_cons_of_mem _ h)
      · rcases List.mem_cons.mp h with rfl | h
        · exact Or.inr List.mem_cons_self
        · exact (ih h).imp_right (List.mem_cons_of_mem _)

theorem Ascending.insert (h : Ascending ps) (p : ProcessEntry) :
    Ascending (ProcessTable.insert p ps) := by
  induction ps with
  | nil => exact List.pairwise_singleton _ _
  | cons q rest ih =>
    obtain ⟨hq, hrest⟩ := List.pairwise_cons.mp h
    rw [ProcessTable.insert]
    split
    · rename_i hlt
      refine List.pairwise_cons.mpr ⟨fun r hr => ?_, h⟩
      rcases List.mem_cons.mp hr with rfl | hr
      · exact hlt
      · exact Nat.lt_trans hlt (hq r hr)
    · split
      · rename_i heq
        refine List.pairwise_cons.mpr ⟨fun r hr => ?_, hrest⟩
        rw [heq]
        exact hq r hr
      · refine List.pairwise_cons.mpr ⟨fun r hr => ?_, ih hrest⟩
        rcases mem_insert hr with rfl | hr
        · omega
        · exact hq r hr

theorem Ascending.put (h : Ascending ps) (pid : Nat) (settled : Option ProcessEntry) :
    Ascending (ProcessTable.put pid settled ps) := by
  cases settled with
  | none => exact h.filter _
  | some p => exact h.insert p

/-- In an ascending list every process is found under its number. -/
theorem Ascending.lookup_of_mem (h : Ascending ps) (hp : p ∈ ps) : lookup p.pid ps = some p := by
  induction ps with
  | nil => cases hp
  | cons q rest ih =>
    obtain ⟨hq, hrest⟩ := List.pairwise_cons.mp h
    rw [lookup_cons]
    rcases List.mem_cons.mp hp with rfl | hp
    · rw [if_pos rfl]
    · rw [if_neg (Nat.ne_of_lt (hq p hp)), ih hrest hp]

theorem Ascending.insert_of_mem (h : Ascending ps) (hp : p ∈ ps) :
    ProcessTable.insert p ps = ps := by
  induction ps with
  | nil => cases hp
  | cons q rest ih =>
    obtain ⟨hq, hrest⟩ := List.pairwise_cons.mp h
    rw [ProcessTable.insert]
    cases hp with
    | head => rw [if_neg (Nat.lt_irrefl p.pid), if_pos rfl]
    | tail _ hp =>
      have hlt : q.pid < p.pid := hq p hp
      rw [if_neg (by omega), if_neg (by omega), ih hrest hp]

/-- Putting back what is found under a number changes nothing. -/
theorem Ascending.put_lookup (h : Ascending ps) (pid : Nat) :
    ProcessTable.put pid (lookup pid ps) ps = ps := by
  cases hfound : lookup pid ps with
  | none =>
    refine List.filter_eq_self.mpr fun p hp => ?_
    simpa using List.find?_eq_none.mp hfound p hp
  | some p => exact h.insert_of_mem (mem_of_lookup hfound)

end SystemMetrics.ProcessTable

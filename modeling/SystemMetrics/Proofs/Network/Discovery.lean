import SystemMetrics.Network.Table
import SystemMetrics.Proofs.Steady

/-!
# Discoveries

A discovery registers and selects interfaces row by row. Where the attributes of a name stay the
same for as long as it lasts, it comes to the same to register all rows first and then to select:
a row that is not registered when its turn comes will not be registered by a later row of its name.
-/

namespace SystemMetrics

/-! ## Registering -/

/-- One of some interfaces has the name and is up or running. -/
def SeenIn (listed : List Interface) (name : String) : Prop :=
  ∃ i ∈ listed, i.name = name ∧ (i.up = some true ∨ i.running = some true)

theorem seenIn_cons (i : Interface) (rest : List Interface) (name : String) :
    SeenIn (i :: rest) name ↔
      (i.name = name ∧ (i.up = some true ∨ i.running = some true)) ∨ SeenIn rest name := by
  simp [SeenIn]

theorem Interface.isUpOrRunning_iff (i : Interface) :
    i.isUpOrRunning = true ↔ i.up = some true ∨ i.running = some true := by
  simp [isUpOrRunning]

namespace Registry

theorem contains_register (i : Interface) (r : Registry) (name : String) :
    (i.register r).contains name = true ↔
      r.contains name = true ∨ (i.name = name ∧ (i.up = some true ∨ i.running = some true)) := by
  rw [← i.isUpOrRunning_iff, Interface.register]
  by_cases hup : i.isUpOrRunning = true
  · rw [if_pos hup, contains_mark, Bool.or_eq_true, beq_iff_eq]
    simp only [hup, and_true, eq_comm]
  · rw [if_neg hup]
    exact ⟨Or.inl, fun h => h.elim id fun hseen => absurd hseen.2 hup⟩

/-- The registry after some interfaces have been seen, one after the other. -/
def registerAll (listed : List Interface) (r : Registry) : Registry :=
  listed.foldl (fun r i => i.register r) r

theorem contains_registerAll (listed : List Interface) (r : Registry) (name : String) :
    (r.registerAll listed).contains name = true ↔ r.contains name = true ∨ SeenIn listed name := by
  induction listed generalizing r with
  | nil => simp [registerAll, SeenIn]
  | cons i rest ih =>
    have hrest := ih (i.register r)
    rw [contains_register] at hrest
    rw [seenIn_cons, ← or_assoc]
    exact hrest

theorem nodup_mark {r : Registry} (h : r.names.Nodup) (name : String) :
    (r.mark name).2.names.Nodup := by
  unfold mark
  split
  · exact h
  · rename_i hnew
    have hnotMem : name ∉ r.names := by
      simpa [contains] using hnew
    show (r.names ++ [name]).Nodup
    rw [List.nodup_append]
    refine ⟨h, by simp, fun other hother found hfound heq => ?_⟩
    rw [List.mem_singleton] at hfound
    rw [heq, hfound] at hother
    exact hnotMem hother

theorem nodup_registerAll {r : Registry} (h : r.names.Nodup) (listed : List Interface) :
    (r.registerAll listed).names.Nodup := by
  induction listed generalizing r with
  | nil => exact h
  | cons i rest ih =>
    refine ih ?_
    show (Interface.register i r).names.Nodup
    rw [Interface.register]
    split
    · exact nodup_mark h i.name
    · exact h

end Registry

/-! ## One discovery -/

namespace Interface

open Registry

variable {σ : Type} {probe : Probe (Observing σ)} {r : Registry} {s : σ}
  {attributes : String → InterfaceAttributes}

/-- The interfaces of some rows. -/
def ofRows (attributes : String → InterfaceAttributes) (rows : List Proc.NetDev) :
    List Interface :=
  rows.map fun row => ofRow row (attributes row.interface)

/-- Whether a row makes its name seen depends on the name alone. -/
theorem seenIn_ofRows {rows : List Proc.NetDev} {name : String}
    (h : SeenIn (ofRows attributes rows) name) :
    (attributes name).up = some true ∨ (attributes name).running = some true := by
  obtain ⟨i, hi, hname, hup⟩ := h
  obtain ⟨row, -, rfl⟩ := List.mem_map.mp hi
  cases hname
  exact hup

theorem discoverRows_eq {still : σ → Prop}
    (hfixed : ∀ name, Gives still (probe.interfaceAttributes name) (attributes name))
    (rows : List Proc.NetDev) (r : Registry) {s : σ} (hs : still s) :
    (discoverRows probe rows r s).1 =
      ((ofRows attributes rows).filter fun i =>
          (r.registerAll (ofRows attributes rows)).contains i.name,
        r.registerAll (ofRows attributes rows)) := by
  induction rows generalizing r s with
  | nil => rfl
  | cons row rest ih =>
    obtain ⟨hanswer, hstill⟩ := hfixed row.interface s hs
    have hname : (ofRow row (attributes row.interface)).name = row.interface := rfl
    have hup : (ofRow row (attributes row.interface)).up = (attributes row.interface).up := rfl
    have hrunning : (ofRow row (attributes row.interface)).running =
      (attributes row.interface).running := rfl
    have hlisted : ofRows attributes (row :: rest) =
        ofRow row (attributes row.interface) :: ofRows attributes rest := rfl
    simp only [discoverRows, Observing.bind_run, Observing.pure_run, hanswer, hlisted]
    generalize ofRow row (attributes row.interface) = i at hname hup hrunning
    have hselected : (i.register r).contains i.name =
        ((i.register r).registerAll (ofRows attributes rest)).contains i.name := by
      rw [Bool.eq_iff_iff, contains_registerAll, contains_register]
      refine ⟨Or.inl, fun h => h.elim id fun hseen => Or.inr ⟨rfl, ?_⟩⟩
      rw [hup, hrunning, ← hname]
      exact seenIn_ofRows hseen
    have hall : r.registerAll (i :: ofRows attributes rest) =
        (i.register r).registerAll (ofRows attributes rest) := rfl
    rw [ih (i.register r) hstill, hselected, hall, List.filter_cons]

theorem discover_error {fault : Fault} (h : (probe.netDev s).1 = .error fault) :
    (discover probe r s).1 = (.error fault, r) := by
  simp only [discover, Observing.bind_run, h]
  rfl

theorem discover_ok {content : String} (h : (probe.netDev s).1 = .ok content) {still : σ → Prop}
    (hstill : still (probe.netDev s).2.1)
    (hfixed : ∀ name, Gives still (probe.interfaceAttributes name) (attributes name)) :
    (discover probe r s).1 =
      (.ok ((ofRows attributes (Proc.NetDev.parse content)).filter fun i =>
          (r.registerAll (ofRows attributes (Proc.NetDev.parse content))).contains i.name),
        r.registerAll (ofRows attributes (Proc.NetDev.parse content))) := by
  have hrows := discoverRows_eq hfixed (Proc.NetDev.parse content) r hstill
  have hselected : (discover probe r s).1 =
      (.ok (discoverRows probe (Proc.NetDev.parse content) r (probe.netDev s).2.1).1.1,
        (discoverRows probe (Proc.NetDev.parse content) r (probe.netDev s).2.1).1.2) := by
    simp only [discover, Observing.bind_run, h]
    rfl
  rw [hselected, hrows]

end Interface

end SystemMetrics

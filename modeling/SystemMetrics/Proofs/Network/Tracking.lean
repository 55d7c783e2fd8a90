import Mathlib.Data.String.Basic
import SystemMetrics.Network.Table
import SystemMetrics.Simulation.World

/-!
# The tracked interfaces over a run

A list of interfaces is seen through `lookup`, by name. Sorting what was discovered keeps the last
row of every name and puts the names in strictly ascending order. So reconciling a table whose names
are distinct loses no interface that is discovered, tracks none twice and never moves one before
another, and refreshing it leaves the names alone.
-/

namespace SystemMetrics.InterfaceTable

variable {i j : Interface} {l found : List Interface} {name : String} {t : InterfaceTable}

/-! ## Interfaces by name -/

def names (l : List Interface) : List String := l.map (·.name)

def lookup (name : String) (l : List Interface) : Option Interface :=
  l.find? fun i => i.name == name

def lookupLast (name : String) (l : List Interface) : Option Interface := lookup name l.reverse

@[simp] theorem lookup_nil (name : String) : lookup name [] = none := rfl

theorem lookup_cons (name : String) (i : Interface) (l : List Interface) :
    lookup name (i :: l) = if i.name = name then some i else lookup name l := by
  by_cases h : i.name = name <;> simp [lookup, h]

theorem lookup_append (name : String) (l l' : List Interface) :
    lookup name (l ++ l') = (lookup name l).or (lookup name l') := List.find?_append

theorem name_of_lookup (h : lookup name l = some i) : i.name = name := by
  simpa using List.find?_some h

theorem mem_of_lookup (h : lookup name l = some i) : i ∈ l := List.mem_of_find?_eq_some h

theorem isSome_lookup : (lookup name l).isSome = true ↔ name ∈ names l := by
  simp [lookup, names]

theorem isSome_lookupLast : (lookupLast name l).isSome = true ↔ name ∈ names l := by
  rw [lookupLast, isSome_lookup, names, List.map_reverse, List.mem_reverse, names]

theorem lookup_of_mem (h : (names l).Nodup) (hi : i ∈ l) : lookup i.name l = some i := by
  induction l with
  | nil => cases hi
  | cons j rest ih =>
    obtain ⟨hj, hrest⟩ := List.nodup_cons.mp h
    rw [lookup_cons]
    rcases List.mem_cons.mp hi with rfl | hi
    · rw [if_pos rfl]
    · have hne : j.name ≠ i.name := fun heq => hj (List.mem_map.mpr ⟨i, hi, heq.symm⟩)
      rw [if_neg hne, ih hrest hi]

theorem lookup_map (name : String) {f : Interface → Interface} (h : ∀ i, (f i).name = i.name)
    (l : List Interface) : lookup name (l.map f) = (lookup name l).map f := by
  induction l with
  | nil => rfl
  | cons i rest ih =>
    rw [List.map_cons, lookup_cons, lookup_cons, h, ih]
    split <;> rfl

/-! ## What was discovered, by name -/

def Ascending (l : List Interface) : Prop := l.Pairwise fun i j => i.name < j.name

theorem lookup_insert (name : String) (i : Interface) (l : List Interface) :
    lookup name (insert i l) = if i.name = name then some i else lookup name l := by
  induction l with
  | nil => rw [insert, lookup_cons]
  | cons j rest ih =>
    rw [insert]
    split
    · rw [lookup_cons]
    · split
      · rename_i heq
        rw [lookup_cons, lookup_cons, heq]
        split <;> rfl
      · rename_i hne
        rw [lookup_cons, lookup_cons, ih]
        by_cases hj : j.name = name
        · rw [if_pos hj, if_neg (fun hi => hne (hi.trans hj.symm)), if_pos hj]
        · rw [if_neg hj, if_neg hj]

theorem mem_insert (h : j ∈ insert i l) : j = i ∨ j ∈ l := by
  induction l with
  | nil => simpa [insert] using h
  | cons k rest ih =>
    rw [insert] at h
    split at h
    · simpa using h
    · split at h
      · exact (List.mem_cons.mp h).imp_right (List.mem_cons_of_mem _)
      · rcases List.mem_cons.mp h with rfl | h
        · exact Or.inr List.mem_cons_self
        · exact (ih h).imp_right (List.mem_cons_of_mem _)

theorem Ascending.insert (h : Ascending l) (i : Interface) :
    Ascending (InterfaceTable.insert i l) := by
  induction l with
  | nil => exact List.pairwise_singleton _ _
  | cons j rest ih =>
    obtain ⟨hj, hrest⟩ := List.pairwise_cons.mp h
    rw [InterfaceTable.insert]
    split
    · rename_i hlt
      refine List.pairwise_cons.mpr ⟨fun k hk => ?_, h⟩
      rcases List.mem_cons.mp hk with rfl | hk
      · exact hlt
      · exact hlt.trans (hj k hk)
    · rename_i hge
      split
      · rename_i heq
        refine List.pairwise_cons.mpr ⟨fun k hk => ?_, hrest⟩
        rw [heq]
        exact hj k hk
      · rename_i hne
        refine List.pairwise_cons.mpr ⟨fun k hk => ?_, ih hrest⟩
        rcases mem_insert hk with rfl | hk
        · exact lt_of_le_of_ne (not_lt.mp hge) (Ne.symm hne)
        · exact hj k hk

theorem lookup_sort (name : String) (found sorted : List Interface) :
    lookup name (found.foldl (fun sorted i => insert i sorted) sorted) =
      (lookupLast name found).or (lookup name sorted) := by
  induction found generalizing sorted with
  | nil => rfl
  | cons i rest ih =>
    -- The first row is inserted first, so that any other row with its name replaces it.
    rw [List.foldl_cons, ih, lookup_insert, lookupLast, lookupLast, List.reverse_cons,
      lookup_append, Option.or_assoc, lookup_cons]
    split <;> rfl

theorem lookup_byName (name : String) (found : List Interface) :
    lookup name (byName found) = lookupLast name found := by
  rw [byName, lookup_sort, lookup_nil, Option.or_none]

theorem ascending_byName (found : List Interface) : Ascending (byName found) := by
  suffices h : ∀ sorted, Ascending sorted →
      Ascending (found.foldl (fun sorted i => insert i sorted) sorted) from h [] List.Pairwise.nil
  induction found with
  | nil => exact fun _ h => h
  | cons i rest ih => exact fun sorted h => ih _ (h.insert i)

theorem Ascending.names (h : Ascending l) : (InterfaceTable.names l).Pairwise (· < ·) :=
  List.Pairwise.map _ (fun _ _ hlt => hlt) h

theorem Ascending.nodup (h : Ascending l) : (InterfaceTable.names l).Nodup :=
  h.names.imp ne_of_lt

/-! ## Reconciling -/

/-- The tracked interfaces that are discovered, with their latest values. -/
def survivors (latest : List Interface) (t : InterfaceTable) : List Interface :=
  t.interfaces.filterMap fun i => lookup i.name latest

/-- The discovered interfaces that were not tracked and are worth it. -/
def added (latest : List Interface) (t : InterfaceTable) : List Interface :=
  (latest.filter fun j => !(t.interfaces.any fun i => i.name == j.name)).filter isTrackable

theorem interfaces_reconciled (latest : List Interface) (t : InterfaceTable) :
    (t.reconciled latest).interfaces = t.survivors latest ++ t.added latest := rfl

theorem names_survivors (latest : List Interface) (t : InterfaceTable) :
    names (t.survivors latest) =
      (names t.interfaces).filter fun name => (lookup name latest).isSome := by
  rw [survivors, names, names]
  induction t.interfaces with
  | nil => rfl
  | cons i rest ih =>
    rw [List.filterMap_cons, List.map_cons, List.filter_cons]
    cases h : lookup i.name latest with
    | none => exact ih
    | some j => simpa [name_of_lookup h] using ih

theorem isTrackable_iff (i : Interface) : isTrackable i = true ↔
    i.up ≠ none ∧ i.running ≠ none ∧ ∀ d, i.address ≠ some ⟨127, 0, 0, d⟩ := by
  have hloopback : i.isLoopback = true ↔ ∃ d, i.address = some ⟨127, 0, 0, d⟩ := by
    rw [Interface.isLoopback]
    cases i.address with
    | none => simp
    | some ip => obtain ⟨a, b, c, d⟩ := ip; simp [Ipv4.isLoopback, and_assoc]
  rw [isTrackable, Bool.and_eq_true, Bool.not_eq_true', ← Bool.not_eq_true, hloopback]
  simp [Interface.isStateKnown, Option.isSome_iff_ne_none, and_assoc]

theorem mem_added {latest : List Interface} : j ∈ t.added latest ↔
    j ∈ latest ∧ j.name ∉ names t.interfaces ∧ isTrackable j = true := by
  rw [added, List.mem_filter, List.mem_filter, and_assoc]
  simp [names]

theorem Ascending.added {latest : List Interface} (h : Ascending latest) (t : InterfaceTable) :
    Ascending (t.added latest) :=
  (List.Pairwise.filter _ h).filter _

/-- What reconciling with discovered interfaces makes of a table. -/
structure Reconciles (found : List Interface) (before after : InterfaceTable) : Prop where
  /-- The names that were tracked and are discovered keep their order, and the new ones follow in
  ascending order. Of a new name the last row decides. -/
  names_eq : ∃ new, names after.interfaces =
      ((names before.interfaces).filter fun name => name ∈ names found) ++ new ∧
    new.Pairwise (· < ·) ∧
    ∀ name, name ∈ new ↔ name ∉ names before.interfaces ∧
      ∃ i, lookupLast name found = some i ∧ i.up ≠ none ∧ i.running ≠ none ∧
        ∀ d, i.address ≠ some ⟨127, 0, 0, d⟩
  /-- Every interface has the values of the last row of its name. -/
  values_eq : ∀ i ∈ after.interfaces, lookupLast i.name found = some i

theorem reconciles (found : List Interface) (t : InterfaceTable) :
    Reconciles found t (t.reconciled (byName found)) := by
  have hascending := ascending_byName found
  have hlast {i : Interface} (hi : i ∈ byName found) : lookupLast i.name found = some i := by
    rw [← lookup_byName]
    exact lookup_of_mem hascending.nodup hi
  constructor
  · refine ⟨names (t.added (byName found)), ?_, (hascending.added t).names, fun name => ?_⟩
    -- A survivor is looked up by its own name, so that the names only have to be filtered.
    · rw [interfaces_reconciled, names, List.map_append, ← names, names_survivors]
      refine congrArg (· ++ _) (List.filter_congr fun name _ => ?_)
      rw [lookup_byName, Bool.eq_iff_iff, isSome_lookupLast, decide_eq_true_iff]
    · constructor
      · intro hname
        obtain ⟨i, hi, rfl⟩ := List.mem_map.mp hname
        obtain ⟨hfound, hnew, htrackable⟩ := mem_added.mp hi
        exact ⟨hnew, i, hlast hfound, (isTrackable_iff i).mp htrackable⟩
      · rintro ⟨hnew, i, hi, htrackable⟩
        rw [← lookup_byName] at hi
        obtain rfl := name_of_lookup hi
        exact List.mem_map_of_mem
          (mem_added.mpr ⟨mem_of_lookup hi, hnew, (isTrackable_iff i).mpr htrackable⟩)
  · intro i hi
    rw [interfaces_reconciled] at hi
    rcases List.mem_append.mp hi with hi | hi
    · obtain ⟨_, _, hlookup⟩ := List.mem_filterMap.mp hi
      exact hlast (mem_of_lookup hlookup)
    · exact hlast (mem_added.mp hi).1

theorem Reconciles.nodup {before after : InterfaceTable} (h : Reconciles found before after)
    (hbefore : (names before.interfaces).Nodup) : (names after.interfaces).Nodup := by
  obtain ⟨new, hnames, hascending, hnew⟩ := h.names_eq
  rw [hnames, List.nodup_append]
  refine ⟨hbefore.filter _, hascending.imp ne_of_lt, fun name hkept other hother heq => ?_⟩
  exact ((hnew other).mp hother).1 (heq ▸ List.mem_of_mem_filter hkept)

/-! ## Refreshing -/

/-- What refreshing with discovered interfaces makes of a table. -/
structure Refreshes (found : List Interface) (before after : InterfaceTable) : Prop where
  names_eq : names after.interfaces = names before.interfaces
  /-- A tracked interface gets the values of the last row of its name, if there is one. -/
  values_eq : ∀ name i, before.find? name = some i →
    after.find? name = some ((lookupLast name found).getD i)

theorem refreshes (found : List Interface) (t : InterfaceTable) :
    Refreshes found t (t.refreshed (byName found)) := by
  have hname (i : Interface) : ((lookup i.name (byName found)).getD i).name = i.name := by
    cases h : lookup i.name (byName found) with
    | none => rfl
    | some j => exact name_of_lookup h
  constructor
  · show names (t.interfaces.map fun i => (lookup i.name (byName found)).getD i) = _
    rw [names, List.map_map]
    exact List.map_congr_left fun i _ => hname i
  · intro name i hi
    show lookup name (t.interfaces.map fun i => (lookup i.name (byName found)).getD i) = _
    rw [lookup_map name hname, show lookup name t.interfaces = some i from hi, ← lookup_byName]
    obtain rfl := name_of_lookup hi
    rfl

/-! ## Updates -/

section Updates

variable {σ : Type} {probe : Probe (Observing σ)} {s : σ} {r final : Registry}

theorem update_error {fault : Fault} (h : (Interface.discover probe r s).1 = (.error fault, final))
    (trackedOnly : Bool) (t : InterfaceTable) :
    (t.update probe trackedOnly r s).1 = (.error fault, t, final) := by
  simp only [update, Observing.bind_run, h]
  rfl

theorem update_ok (h : (Interface.discover probe r s).1 = (.ok found, final))
    (trackedOnly : Bool) (t : InterfaceTable) :
    (t.update probe trackedOnly r s).1 = (.ok (), if trackedOnly then t.refreshed (byName found)
      else t.reconciled (byName found), final) := by
  simp only [update, Observing.bind_run, h]
  rfl

end Updates

/-! ## Runs -/

inductive Task where
  | start
  | update (trackedOnly : Bool)
  deriving DecidableEq, Repr

/-- A pass, with the system that it meets and the registry as it finds it. -/
structure Pass (σ : Type) where
  task : Task
  probe : Probe (Observing σ)
  system : σ
  registry : Registry

namespace Pass

variable {σ : Type}

def run (pass : Pass σ) (t : InterfaceTable) : Except Fault Unit × InterfaceTable × Registry :=
  match pass.task with
  | .start => (t.start pass.probe pass.registry pass.system).1
  | .update trackedOnly => (t.update pass.probe trackedOnly pass.registry pass.system).1

def discovered (pass : Pass σ) : Except Fault (List Interface) × Registry :=
  (Interface.discover pass.probe pass.registry pass.system).1

theorem run_error {pass : Pass σ} {fault : Fault} (h : pass.discovered.1 = .error fault)
    (t : InterfaceTable) : pass.run t = (.error fault, t, pass.discovered.2) := by
  obtain ⟨task, probe, s, r⟩ := pass
  have hupdate := update_error (Prod.ext h rfl : (Interface.discover probe r s).1 = (_, _))
  cases task with
  | start =>
    simp only [run, InterfaceTable.start, Observing.bind_run, hupdate]
    rfl
  | update trackedOnly => exact hupdate trackedOnly t

theorem run_ok {pass : Pass σ} (h : pass.discovered.1 = .ok found) (t : InterfaceTable) :
    pass.run t = (.ok (), if pass.task = .update true then t.refreshed (byName found)
      else t.reconciled (byName found), pass.discovered.2) := by
  obtain ⟨task, probe, s, r⟩ := pass
  have hupdate := update_ok (Prod.ext h rfl : (Interface.discover probe r s).1 = (_, _))
  cases task with
  | start =>
    simp only [run, InterfaceTable.start, Observing.bind_run, hupdate]
    rfl
  | update trackedOnly =>
    refine (hupdate trackedOnly t).trans ?_
    cases trackedOnly <;> rfl

end Pass

/-- The tables that passes lead to. Others share the registry, so each pass finds it as it may
be. -/
inductive Run : InterfaceTable → Prop
  | new : Run {}
  | pass {σ : Type} {t : InterfaceTable} (h : Run t) (pass : Pass σ) : Run (pass.run t).2.1

theorem Run.nodup (h : Run t) : (names t.interfaces).Nodup := by
  -- Each pass keeps the names, or filters them and puts others behind them that are not among them.
  induction h with
  | new => exact List.nodup_nil
  | @pass σ t _ pass ih =>
    cases hfound : pass.discovered.1 with
    | error fault =>
      rw [Pass.run_error hfound]
      exact ih
    | ok found =>
      rw [Pass.run_ok hfound]
      dsimp only
      split
      · rw [(refreshes found t).names_eq]
        exact ih
      · exact (reconciles found t).nodup ih

/-- After every run the tracked names are distinct. A pass whose discovery fails leaves the table
alone; any other succeeds, and refreshes the tracked interfaces or reconciles them with what it has
discovered. -/
theorem Run.tracked_exactly (h : Run t) :
    (names t.interfaces).Nodup ∧
    ∀ {σ : Type} (pass : Pass σ),
      (∀ fault, pass.discovered.1 = .error fault →
        (pass.run t).1 = .error fault ∧ (pass.run t).2.1 = t) ∧
      ∀ found, pass.discovered.1 = .ok found →
        (pass.run t).1 = .ok () ∧
        (pass.task = .update true → Refreshes found t (pass.run t).2.1) ∧
        (pass.task ≠ .update true → Reconciles found t (pass.run t).2.1) := by
  refine ⟨h.nodup, fun pass => ⟨fun fault hfault => ?_, fun found hfound => ?_⟩⟩
  · rw [Pass.run_error hfault]
    exact ⟨rfl, rfl⟩
  · rw [Pass.run_ok hfound]
    refine ⟨rfl, fun htask => ?_, fun htask => ?_⟩
    · rw [if_pos htask]
      exact refreshes found t
    · rw [if_neg htask]
      exact reconciles found t

/-! ## A table that changes -/

/-- A machine whose `net/dev` has a row for each of these names, with the bytes received. -/
def listing (rows : List (String × Nat)) : World :=
  let text := rows.map fun (name, bytes) =>
    name ++ ":" ++ toString bytes ++ " 0 0 0 0 0 0 0 0 0 0 0 0 0\n"
  { storage := .memory (({} : MemoryTree).addFile (.ofText "/proc/net/dev")
      ("1\n2\n" ++ String.join text))
    interfaces := [
      ("eth0", { up := some true, running := some true }),
      ("eth1", { up := some true, running := some false }),
      ("lo", { address := some ⟨127, 0, 0, 1⟩, up := some true, running := some true }),
      ("wlan0", { up := some true, running := some true })] }

def listingPass (task : Task) (rows : List (String × Nat)) : Pass World where
  task
  probe := World.machine.probe "/proc"
  system := listing rows
  registry := {}

theorem discovered_listingPass (task : Task) (rows : List (String × Nat)) :
    (listingPass task rows).discovered = (listingPass .start rows).discovered := rfl

def listed (rows : List (String × Nat)) : List Interface :=
  rows.map fun (name, bytes) =>
    .ofRow ⟨name, bytes, 0, 0, 0, 0, 0, 0⟩ ((listing []).attributes name)

def wirelessFirst : InterfaceTable :=
  ((listingPass (.update false) [("wlan0", 2), ("eth1", 1)]).run
    ((listingPass .start [("wlan0", 1)]).run {}).2.1).2.1

def wiredRows : List (String × Nat) := [("eth1", 10), ("lo", 3), ("eth0", 8), ("eth1", 11)]

def received (t : InterfaceTable) : List (String × Option Nat) :=
  t.interfaces.map fun i => (i.name, i.bytesReceived)

/-- Reconciling drops the wireless interface and adds a wired one, and refreshing does neither; both
take the last row of the repeated name. -/
theorem tracked_exactly_repeated :
    Run wirelessFirst ∧ wirelessFirst.received = [("wlan0", some 2), ("eth1", some 1)] ∧
    let reconciled := ((listingPass (.update false) wiredRows).run wirelessFirst).2.1
    let refreshed := ((listingPass (.update true) wiredRows).run wirelessFirst).2.1
    Reconciles (listed wiredRows) wirelessFirst reconciled ∧
      reconciled.received = [("eth1", some 11), ("eth0", some 8)] ∧
    Refreshes (listed wiredRows) wirelessFirst refreshed ∧
      refreshed.received = [("wlan0", some 2), ("eth1", some 11)] := by
  have hrun : Run wirelessFirst := (Run.new.pass _).pass _
  have htracked : wirelessFirst = ⟨listed [("wlan0", 2), ("eth1", 1)]⟩ := by
    decide +kernel
  have hfound : (listingPass .start wiredRows).discovered.1 = .ok (listed wiredRows) := by
    decide +kernel
  have hdiscovered (task : Task) :
      (listingPass task wiredRows).discovered.1 = .ok (listed wiredRows) := by
    rw [discovered_listingPass, hfound]
  obtain ⟨-, hpass⟩ := Run.tracked_exactly hrun
  have hreconciled := ((hpass (listingPass (.update false) wiredRows)).2 _ (hdiscovered _)).2.2
  have hrefreshed := ((hpass (listingPass (.update true) wiredRows)).2 _ (hdiscovered _)).2.1
  refine ⟨hrun, ?_, hreconciled (by decide), ?_, hrefreshed rfl, ?_⟩
  · rw [htracked]
    rfl
  · rw [Pass.run_ok (hdiscovered _), htracked]
    decide +kernel
  · rw [Pass.run_ok (hdiscovered _), htracked]
    decide +kernel

end SystemMetrics.InterfaceTable

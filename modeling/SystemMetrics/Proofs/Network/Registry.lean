import SystemMetrics.Proofs.Network.Discovery
import SystemMetrics.Simulation.World

/-!
# The registry over a run

Everyone who discovers interfaces shares one registry: tables, single interfaces, and whoever only
lists what there is. After any sequence of discoveries it holds the names that were marked and the
names that were seen up or running, and no others. So an interface stays visible once it goes down,
and one that was never up or running is never found.
-/

namespace SystemMetrics

variable {σ : Type}

/-! ## Discoveries of all kinds -/

inductive Discoverer where
  | lister
  | tableStart (t : InterfaceTable)
  | tableUpdate (t : InterfaceTable) (trackedOnly : Bool)
  | interface (i : Interface)
  deriving DecidableEq, Repr

inductive Discovered where
  | list (result : Except Fault (List Interface))
  | table (result : Except Fault Unit) (t : InterfaceTable)
  | interface (result : Except Fault Unit) (i : Interface)

/-- What the discoverer makes of the interfaces that it finds. -/
def Discoverer.use : Discoverer → Except Fault (List Interface) → Discovered
  | .lister, result => .list result
  | .tableStart t, .error fault => .table (.error fault) t
  | .tableStart t, .ok found => .table (.ok ()) (t.reconciled (InterfaceTable.byName found))
  | .tableUpdate t _, .error fault => .table (.error fault) t
  | .tableUpdate t true, .ok found => .table (.ok ()) (t.refreshed (InterfaceTable.byName found))
  | .tableUpdate t false, .ok found => .table (.ok ()) (t.reconciled (InterfaceTable.byName found))
  | .interface i, .error fault => .interface (.error fault) i
  | .interface i, .ok found =>
    .interface (.ok ()) ((found.find? fun other => other.name == i.name).getD i)

/-- A discovery, with the system that it meets. -/
structure Discovery (σ : Type) where
  discoverer : Discoverer
  probe : Probe (Observing σ)
  system : σ

namespace Discovery

def run (d : Discovery σ) (r : Registry) : Discovered × Registry :=
  match d.discoverer with
  | .lister =>
    let (result, r) := (Interface.discover d.probe r d.system).1
    (.list result, r)
  | .tableStart t =>
    let (result, t, r) := (t.start d.probe r d.system).1
    (.table result t, r)
  | .tableUpdate t trackedOnly =>
    let (result, t, r) := (t.update d.probe trackedOnly r d.system).1
    (.table result t, r)
  | .interface i =>
    let (result, i, r) := (i.refresh d.probe r d.system).1
    (.interface result i, r)

/-- Whoever discovers, the registry is left by one discovery, and its result is all that is used. -/
theorem run_eq (d : Discovery σ) (r : Registry) :
    d.run r = (d.discoverer.use (Interface.discover d.probe r d.system).1.1,
      (Interface.discover d.probe r d.system).1.2) := by
  obtain ⟨discoverer, probe, s⟩ := d
  cases discoverer with
  | lister => rfl
  | tableStart t =>
    simp only [run, InterfaceTable.start, InterfaceTable.update, Observing.bind_run]
    generalize Interface.discover probe r s = answer
    obtain ⟨⟨_ | _, _⟩, _, _⟩ := answer <;> rfl
  | tableUpdate t trackedOnly =>
    simp only [run, InterfaceTable.update, Observing.bind_run]
    generalize Interface.discover probe r s = answer
    obtain ⟨⟨_ | _, _⟩, _, _⟩ := answer <;> cases trackedOnly <;> rfl
  | interface i =>
    simp only [run, Interface.refresh, Observing.bind_run]
    generalize Interface.discover probe r s = answer
    obtain ⟨⟨_ | _, _⟩, _, _⟩ := answer <;> rfl

def text (d : Discovery σ) : Except Fault String := (d.probe.netDev d.system).1

/-- For as long as the discovery lasts, every name has the attributes given here. -/
def HasFixed (d : Discovery σ) (attributes : String → InterfaceAttributes) : Prop :=
  ∃ still : σ → Prop, still (d.probe.netDev d.system).2.1 ∧
    ∀ name, Gives still (d.probe.interfaceAttributes name) (attributes name)

/-- The interfaces that the text lists, with their attributes. -/
def listing (content : String) (attributes : String → InterfaceAttributes) : List Interface :=
  Interface.ofRows attributes (Proc.NetDev.parse content)

theorem run_unread {d : Discovery σ} {fault : Fault} (h : d.text = .error fault) (r : Registry) :
    d.run r = (d.discoverer.use (.error fault), r) := by
  rw [run_eq, Interface.discover_error h]

theorem run_read {d : Discovery σ} {content : String} (h : d.text = .ok content)
    {attributes : String → InterfaceAttributes} (hfixed : d.HasFixed attributes) (r : Registry) :
    d.run r = (d.discoverer.use (.ok ((listing content attributes).filter fun i =>
        (r.registerAll (listing content attributes)).contains i.name)),
      r.registerAll (listing content attributes)) := by
  obtain ⟨still, hstill, hfixed⟩ := hfixed
  rw [run_eq, Interface.discover_ok h hstill hfixed]
  rfl

end Discovery

/-! ## Runs -/

namespace Registry

/-- The registries that discoveries and marks lead to in any order, with the names that were marked
and what every discovery listed that could read `net/dev`, the latest first. -/
inductive Run : List String → List (List Interface) → Registry → Prop
  | new : Run [] [] {}
  | mark {marked : List String} {listings : List (List Interface)} {r : Registry}
      (h : Run marked listings r) (name : String) : Run (name :: marked) listings (r.mark name).2
  | unread {σ : Type} {marked : List String} {listings : List (List Interface)} {r : Registry}
      (h : Run marked listings r) (d : Discovery σ) {fault : Fault} (hread : d.text = .error fault) :
      Run marked listings (d.run r).2
  | read {σ : Type} {marked : List String} {listings : List (List Interface)} {r : Registry}
      (h : Run marked listings r) (d : Discovery σ) {content : String} (hread : d.text = .ok content)
      {attributes : String → InterfaceAttributes} (hfixed : d.HasFixed attributes) :
      Run marked (Discovery.listing content attributes :: listings) (d.run r).2

variable {marked : List String} {listings : List (List Interface)} {r : Registry}

theorem Run.nodup (h : Run marked listings r) : r.names.Nodup := by
  induction h with
  | new => exact List.nodup_nil
  | mark _ name ih => exact nodup_mark ih name
  | unread _ d hread ih =>
    rw [Discovery.run_unread hread]
    exact ih
  | read _ d hread hfixed ih =>
    rw [Discovery.run_read hread hfixed]
    exact nodup_registerAll ih _

theorem Run.contains_iff (h : Run marked listings r) (name : String) :
    r.contains name = true ↔ name ∈ marked ∨ ∃ listed ∈ listings, SeenIn listed name := by
  induction h with
  | new => simp [contains]
  | mark _ other ih =>
    rw [contains_mark, Bool.or_eq_true, beq_iff_eq, ih, List.mem_cons, or_comm, ← or_assoc]
  | unread _ d hread ih =>
    rw [Discovery.run_unread hread]
    exact ih
  | read _ d hread hfixed ih =>
    rw [Discovery.run_read hread hfixed, contains_registerAll, ih]
    simp only [List.mem_cons, exists_eq_or_imp, or_assoc]
    exact or_congr_right or_comm

/-- The registry is exact over every run. It holds, each once, the names that were marked and those
that some discovery saw up or running. A discovery that cannot read `net/dev` leaves it alone and
finds nothing; any other adds the names that it sees, and finds, in the order of the file, the
listed interfaces whose names are then registered: all that were so before, and none that were
neither marked nor ever seen up or running. -/
theorem Run.found_exactly (h : Run marked listings r) :
    (r.names.Nodup ∧ ∀ name, r.contains name = true ↔
      name ∈ marked ∨ ∃ listed ∈ listings, SeenIn listed name) ∧
    ∀ {σ : Type} (d : Discovery σ),
      (∀ fault, d.text = .error fault → d.run r = (d.discoverer.use (.error fault), r)) ∧
      ∀ content attributes, d.text = .ok content → d.HasFixed attributes →
        ∃ found after, d.run r = (d.discoverer.use (.ok found), after) ∧
          (∀ name, after.contains name = true ↔
            r.contains name = true ∨ SeenIn (Discovery.listing content attributes) name) ∧
          found = (Discovery.listing content attributes).filter
            (fun i => after.contains i.name) ∧
          (∀ i ∈ Discovery.listing content attributes, r.contains i.name = true → i ∈ found) ∧
          ∀ i ∈ found, i.name ∈ marked ∨
            ∃ listed ∈ Discovery.listing content attributes :: listings, SeenIn listed i.name := by
  refine ⟨⟨h.nodup, h.contains_iff⟩, fun {σ} d => ⟨fun fault hread => Discovery.run_unread hread r,
    fun content attributes hread hfixed => ?_⟩⟩
  have hafter := h.read d hread hfixed
  rw [Discovery.run_read hread hfixed] at hafter ⊢
  refine ⟨_, _, rfl, contains_registerAll _ r, rfl, fun i hi hbefore => ?_, fun i hi => ?_⟩
  · exact List.mem_filter.mpr ⟨hi, (contains_registerAll _ r i.name).mpr (Or.inl hbefore)⟩
  · exact (hafter.contains_iff i.name).mp (List.mem_filter.mp hi).2

end Registry

/-! ## A cable that is pulled -/

/-- Asking a machine for attributes changes nothing, so they are fixed once the text has been read. -/
theorem Discovery.machine_hasFixed (discoverer : Discoverer) (procPath : String) (w : World) :
    (⟨discoverer, World.machine.probe procPath, w⟩ : Discovery World).HasFixed
      ((World.machine.probe procPath).netDev w).2.1.attributes := by
  refine ⟨(· = _), rfl, fun name s hs => ?_⟩
  rw [hs]
  exact ⟨rfl, rfl⟩

/-- Two interfaces, of which the first is up or down and nothing is known of the second. -/
def cableText : String :=
  "1\n2\n eth0: 9 8 0 0 0 0 0 0 7 6 0 0 0 0 0 0\nwlan0:5 4 0 0 0 0 0 0 3 2 0 0 0 0 0 0\n"

def cable (up : Bool) : Discovery World where
  discoverer := .lister
  probe := World.machine.probe "/proc"
  system := {
    storage := .memory (({} : MemoryTree).addFile (.ofText "/proc/net/dev") cableText)
    interfaces := [("eth0", { up := some up, running := some up })] }

/-- What a list of interfaces says about who is up. -/
def Discovered.states : Discovered → List (String × Option Bool)
  | .list (.ok found) => found.map fun i => (i.name, i.up)
  | _ => []

/-- The first interface is found again although it went down, the second one never. -/
theorem Registry.found_exactly_down : ∃ listings listed found after,
    Registry.Run [] listings ((cable true).run {}).2 ∧
    (cable false).run ((cable true).run {}).2 = (.list (.ok found), after) ∧
    found.map (fun i => (i.name, i.up)) = [("eth0", some false)] ∧
    (∀ i ∈ listed, ((cable true).run {}).2.contains i.name = true → i ∈ found) ∧
    ∀ i ∈ found, i.name ∈ [] ∨ ∃ seen ∈ listed :: listings, SeenIn seen i.name := by
  have hread (up : Bool) : (cable up).text = .ok cableText := by
    cases up <;> rfl
  have hup := Registry.Run.new.read (cable true) (hread true) (Discovery.machine_hasFixed _ _ _)
  obtain ⟨-, hnext⟩ := Registry.Run.found_exactly hup
  obtain ⟨found, after, hrun, -, -, hkept, hseen⟩ :=
    (hnext (cable false)).2 _ _ (hread false) (Discovery.machine_hasFixed _ _ _)
  have hstates : ((cable false).run ((cable true).run {}).2).1.states =
      [("eth0", some false)] := by
    decide +kernel
  rw [hrun] at hstates
  exact ⟨_, _, found, after, hup, hrun, hstates, hkept, hseen⟩

end SystemMetrics

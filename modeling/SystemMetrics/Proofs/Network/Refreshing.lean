import SystemMetrics.Proofs.Network.Registry
import SystemMetrics.Proofs.Network.Tracking

/-!
# Two ways to refresh an interface

An interface is refreshed with the table that tracks it, or on its own. The table sorts what was
discovered by name, so that of a repeated name the last row counts; an interface on its own takes
the first row of its name. So the two agree where these rows have the same counters, and nowhere
else.
-/

namespace SystemMetrics

/-! ## Tracked interfaces are registered -/

namespace Registry

/-- The names of the first registry are all in the second. -/
def Within (r r' : Registry) : Prop := ∀ name, r.contains name = true → r'.contains name = true

theorem Within.refl (r : Registry) : Within r r := fun _ h => h

theorem Within.trans {r r' r'' : Registry} (h : Within r r') (h' : Within r' r'') :
    Within r r'' := fun name hname => h' name (h name hname)

theorem within_register (i : Interface) (r : Registry) : Within r (i.register r) :=
  fun name h => (contains_register i r name).mpr (Or.inl h)

end Registry

namespace Interface

open Registry

variable {σ : Type}

/-- Whatever the attributes of a name are when they are asked for, a discovery only adds to the
registry, and what it finds is registered in the end. -/
theorem discoverRows_registered (probe : Probe (Observing σ)) (rows : List Proc.NetDev)
    (r : Registry) (s : σ) :
    Within r (discoverRows probe rows r s).1.2 ∧
      ∀ i ∈ (discoverRows probe rows r s).1.1,
        (discoverRows probe rows r s).1.2.contains i.name = true := by
  induction rows generalizing r s with
  | nil => exact ⟨Within.refl r, fun _ hi => absurd hi List.not_mem_nil⟩
  | cons row rest ih =>
    simp only [discoverRows, Observing.bind_run, Observing.pure_run]
    generalize ofRow row (probe.interfaceAttributes row.interface s).1 = i
    obtain ⟨hgrown, hfound⟩ := ih (i.register r) (probe.interfaceAttributes row.interface s).2.1
    refine ⟨(within_register i r).trans hgrown, fun j hj => ?_⟩
    split at hj
    · rename_i hregistered
      rcases List.mem_cons.mp hj with rfl | hj
      · exact hgrown _ hregistered
      · exact hfound j hj
    · exact hfound j hj

theorem discover_registered (probe : Probe (Observing σ)) (r : Registry) (s : σ) :
    Within r (discover probe r s).1.2 ∧
      ∀ found, (discover probe r s).1.1 = .ok found →
        ∀ i ∈ found, (discover probe r s).1.2.contains i.name = true := by
  cases h : (probe.netDev s).1 with
  | error fault =>
    rw [discover_error h]
    exact ⟨Within.refl r, nofun⟩
  | ok content =>
    obtain ⟨hgrown, hfound⟩ :=
      discoverRows_registered probe (Proc.NetDev.parse content) r (probe.netDev s).2.1
    simp only [discover, Observing.bind_run, h]
    refine ⟨hgrown, fun found hf => ?_⟩
    cases hf
    exact hfound

end Interface

namespace InterfaceTable

open Registry

variable {σ : Type} {t : InterfaceTable} {r : Registry} {i : Interface}

/-- The tables that passes lead to, with the registry that they share with others. In the meantime
others add to it. -/
inductive Reached : InterfaceTable → Registry → Prop
  | new (r : Registry) : Reached {} r
  | pass {t : InterfaceTable} {r : Registry} (h : Reached t r) {σ : Type} (task : Task)
      (probe : Probe (Observing σ)) (s : σ) :
      Reached ((⟨task, probe, s, r⟩ : Pass σ).run t).2.1 ((⟨task, probe, s, r⟩ : Pass σ).run t).2.2
  | shared {t : InterfaceTable} {r r' : Registry} (h : Reached t r) (hr : Within r r') :
      Reached t r'

theorem Reached.run (h : Reached t r) : Run t := by
  induction h with
  | new => exact Run.new
  | pass _ task probe s ih => exact ih.pass _
  | shared _ _ ih => exact ih

theorem Reached.registered (h : Reached t r) :
    ∀ name ∈ names t.interfaces, r.contains name = true := by
  induction h with
  | new => exact nofun
  | shared _ hr ih => exact fun name hname => hr name (ih name hname)
  | @pass t r _ σ task probe s ih =>
    obtain ⟨hgrown, hfound⟩ := Interface.discover_registered probe r s
    intro name hname
    cases hdiscovered : (⟨task, probe, s, r⟩ : Pass σ).discovered.1 with
    | error fault =>
      rw [Pass.run_error hdiscovered] at hname ⊢
      exact hgrown name (ih name hname)
    | ok found =>
      rw [Pass.run_ok hdiscovered] at hname ⊢
      dsimp only at hname ⊢
      split at hname
      · rw [(refreshes found t).names_eq] at hname
        exact hgrown name (ih name hname)
      · obtain ⟨i, hi, rfl⟩ := List.mem_map.mp hname
        have hlast := (reconciles found t).values_eq i hi
        exact hfound found hdiscovered i (List.mem_reverse.mp (mem_of_lookup hlast))

/-! ## The rows of a name -/

def firstRow (name : String) (rows : List Proc.NetDev) : Option Proc.NetDev :=
  rows.find? fun row => row.interface == name

def lastRow (name : String) (rows : List Proc.NetDev) : Option Proc.NetDev :=
  firstRow name rows.reverse

theorem firstRow_cons (name : String) (row : Proc.NetDev) (rest : List Proc.NetDev) :
    firstRow name (row :: rest) =
      if row.interface = name then some row else firstRow name rest := by
  by_cases h : row.interface = name <;> simp [firstRow, h]

theorem isSome_firstRow (name : String) (rows : List Proc.NetDev) :
    (firstRow name rows).isSome = true ↔ ∃ row ∈ rows, row.interface = name := by
  simp [firstRow]

theorem isSome_lastRow (name : String) (rows : List Proc.NetDev) :
    (lastRow name rows).isSome = (firstRow name rows).isSome := by
  rw [Bool.eq_iff_iff, lastRow, isSome_firstRow, isSome_firstRow]
  simp only [List.mem_reverse]

theorem lookup_ofRows (name : String) (attributes : String → InterfaceAttributes)
    (rows : List Proc.NetDev) :
    lookup name (Interface.ofRows attributes rows) =
      (firstRow name rows).map fun row => .ofRow row (attributes name) := by
  induction rows with
  | nil => rfl
  | cons row rest ih =>
    show lookup name (Interface.ofRow row (attributes row.interface) ::
      Interface.ofRows attributes rest) = _
    rw [lookup_cons, firstRow_cons, ih]
    show (if row.interface = name then _ else _) = _
    split
    · rename_i hname
      rw [hname]
      rfl
    · rfl

theorem lookupLast_ofRows (name : String) (attributes : String → InterfaceAttributes)
    (rows : List Proc.NetDev) :
    lookupLast name (Interface.ofRows attributes rows) =
      (lastRow name rows).map fun row => .ofRow row (attributes name) := by
  rw [lookupLast, lastRow, ← lookup_ofRows, Interface.ofRows, Interface.ofRows, List.map_reverse]

theorem lookup_filter_registered {name : String} (h : r.contains name = true)
    (l : List Interface) : lookup name (l.filter fun i => r.contains i.name) = lookup name l := by
  rw [lookup, List.find?_filter]
  refine congrFun (congrArg _ (funext fun i => ?_)) l
  by_cases hname : i.name = name
  · simp [hname, h]
  · simp [hname]

theorem ofRow_injective {row row' : Proc.NetDev} {a : InterfaceAttributes}
    (h : Interface.ofRow row a = Interface.ofRow row' a) : row = row' := by
  obtain ⟨⟩ := row
  obtain ⟨⟩ := row'
  simp only [Interface.ofRow, Interface.mk.injEq, Option.some.injEq] at h
  simp only [Proc.NetDev.mk.injEq]
  tauto

/-! ## The two ways -/

section Refresh

variable {probe : Probe (Observing σ)} {s : σ} {final : Registry}

theorem refresh_error {fault : Fault} (h : (Interface.discover probe r s).1 = (.error fault, final))
    (i : Interface) : (i.refresh probe r s).1 = (.error fault, i, final) := by
  simp only [Interface.refresh, Observing.bind_run, h]
  rfl

theorem refresh_ok {found : List Interface}
    (h : (Interface.discover probe r s).1 = (.ok found, final)) (i : Interface) :
    (i.refresh probe r s).1 = (.ok (), (lookup i.name found).getD i, final) := by
  simp only [Interface.refresh, Observing.bind_run, h]
  rfl

end Refresh

/-- A discovery finds the first and the last row of a registered name. -/
theorem discover_rows {name content : String} (hregistered : r.contains name = true)
    {probe : Probe (Observing σ)} {still : σ → Prop} {attributes : String → InterfaceAttributes}
    {s : σ} (htext : (probe.netDev s).1 = .ok content) (hstill : still (probe.netDev s).2.1)
    (hattributes : ∀ name, Gives still (probe.interfaceAttributes name) (attributes name)) :
    ∃ found final, (Interface.discover probe r s).1 = (.ok found, final) ∧
      lookup name found = (firstRow name (Proc.NetDev.parse content)).map
        (Interface.ofRow · (attributes name)) ∧
      lookupLast name found = (lastRow name (Proc.NetDev.parse content)).map
        (Interface.ofRow · (attributes name)) := by
  have hfinal : (r.registerAll (Interface.ofRows attributes (Proc.NetDev.parse content))).contains
      name = true := (contains_registerAll _ r name).mpr (Or.inl hregistered)
  refine ⟨_, _, Interface.discover_ok htext hstill hattributes, ?_, ?_⟩
  · rw [lookup_filter_registered hfinal, lookup_ofRows]
  · rw [lookupLast, ← List.filter_reverse, lookup_filter_registered hfinal, ← lookupLast,
      lookupLast_ofRows]

theorem taken_eq_iff {i : Interface} {a : InterfaceAttributes} {row row' : Option Proc.NetDev}
    (h : row.isSome = row'.isSome) :
    (row.map (Interface.ofRow · a)).getD i = (row'.map (Interface.ofRow · a)).getD i ↔
      row = row' := by
  cases row with
  | none =>
    cases row' with
    | none => simp
    | some row' => cases h
  | some row =>
    cases row' with
    | none => cases h
    | some row' => exact ⟨fun heq => congrArg some (ofRow_injective heq), fun heq => by rw [heq]⟩

/-- Two ways to refresh a tracked interface, with its table or on its own, while the system answers
the same. Where `net/dev` cannot be read, both report it and both leave the interface as it was.
Otherwise both succeed; the table takes the counters of the last row with the name of the interface
and the interface on its own those of the first, or keeps its values if there is no such row. So the
two agree exactly if the first row and the last one are equal. -/
theorem Reached.refreshes_agree_iff {r₀ r r' : Registry} (h : Reached t r₀)
    (hi : i ∈ t.interfaces) (hr : Within r₀ r) (hr' : Within r₀ r') {probe : Probe (Observing σ)}
    {still : σ → Prop} {answer : Except Fault String} {attributes : String → InterfaceAttributes}
    (htext : Gives still probe.netDev answer)
    (hattributes : ∀ name, Gives still (probe.interfaceAttributes name) (attributes name))
    {s s' : σ} (hs : still s) (hs' : still s') :
    let updated := (t.update probe true r s).1
    let refreshed := (i.refresh probe r' s').1
    (∀ fault, answer = .error fault →
      updated.1 = .error fault ∧ refreshed.1 = .error fault ∧
      updated.2.1.find? i.name = some i ∧ refreshed.2.1 = i) ∧
    ∀ content, answer = .ok content →
      let taken (row : Option Proc.NetDev) : Interface :=
        (row.map (Interface.ofRow · (attributes i.name))).getD i
      updated.1 = .ok () ∧ refreshed.1 = .ok () ∧
      updated.2.1.find? i.name = some (taken (lastRow i.name (Proc.NetDev.parse content))) ∧
      refreshed.2.1 = taken (firstRow i.name (Proc.NetDev.parse content)) ∧
      (updated.2.1.find? i.name = some refreshed.2.1 ↔
        firstRow i.name (Proc.NetDev.parse content) =
          lastRow i.name (Proc.NetDev.parse content)) := by
  intro updated refreshed
  have htracked : t.find? i.name = some i := lookup_of_mem h.run.nodup hi
  have hregistered : r₀.contains i.name = true := h.registered _ (List.mem_map_of_mem hi)
  obtain ⟨hanswer, hnext⟩ := htext s hs
  obtain ⟨hanswer', hnext'⟩ := htext s' hs'
  constructor
  · rintro fault rfl
    have hupdated : updated = _ := update_error (Interface.discover_error hanswer) true t
    have hrefreshed : refreshed = _ := refresh_error (Interface.discover_error hanswer') i
    rw [hupdated, hrefreshed]
    exact ⟨rfl, rfl, htracked, rfl⟩
  · rintro content rfl taken
    obtain ⟨found, final, hdiscover, -, hlast⟩ :=
      discover_rows (hr _ hregistered) hanswer hnext hattributes
    obtain ⟨found', final', hdiscover', hfirst, -⟩ :=
      discover_rows (hr' _ hregistered) hanswer' hnext' hattributes
    have hupdated : updated = _ := update_ok hdiscover true t
    have hrefreshed : refreshed = _ := refresh_ok hdiscover' i
    have htable : updated.2.1.find? i.name =
        some (taken (lastRow i.name (Proc.NetDev.parse content))) := by
      rw [hupdated]
      refine ((refreshes found t).values_eq i.name i htracked).trans ?_
      rw [hlast]
    have halone : refreshed.2.1 = taken (firstRow i.name (Proc.NetDev.parse content)) := by
      rw [hrefreshed]
      show (lookup i.name found').getD i = _
      rw [hfirst]
    refine ⟨by rw [hupdated], by rw [hrefreshed], htable, halone, ?_⟩
    rw [htable, halone, Option.some_inj, taken_eq_iff (isSome_lastRow _ _), eq_comm]

/-- A table that tracks one interface. -/
def wired : InterfaceTable := ((listingPass .start [("eth0", 5)]).run {}).2.1

/-- The row of an interface and then the row of an alias of it. -/
def aliasText : String :=
  "1\n2\neth0:9 0 0 0 0 0 0 0 0 0 0 0 0 0\neth0:1:7 0 0 0 0 0 0 0 0 0 0 0 0 0\n"

def aliased : World := listing [("eth0", 9), ("eth0:1", 7)]

/-- The row of an alias counts as one more row of its interface, since a name ends at the first
colon, and the rest of it is a column that is no number. -/
theorem refreshes_disagree_alias :
    let probe := World.machine.probe "/proc"
    ∃ r, Reached wired r ∧ wired.received = [("eth0", some 5)] ∧
    ∀ i ∈ wired.interfaces,
      (wired.update probe true r aliased).1.2.1.find? i.name ≠
        some (i.refresh probe r aliased).1.2.1 ∧
      ((wired.update probe true r aliased).1.2.1.find? i.name).map (·.bytesReceived) =
        some (some 0) ∧
      (i.refresh probe r aliased).1.2.1.bytesReceived = some 9 := by
  intro probe
  have hreached : Reached wired _ :=
    (Reached.new {}).pass .start (World.machine.probe "/proc") (listing [("eth0", 5)])
  have hwired : wired = ⟨listed [("eth0", 5)]⟩ := by decide +kernel
  refine ⟨_, hreached, by rw [hwired]; rfl, fun i hi => ?_⟩
  have htext : Gives (· = aliased) probe.netDev (.ok aliasText) := by
    rintro _ rfl
    exact ⟨by decide +kernel, rfl⟩
  have hattributes (name : String) :
      Gives (· = aliased) (probe.interfaceAttributes name) (aliased.attributes name) := by
    rintro _ rfl
    exact ⟨rfl, rfl⟩
  obtain ⟨-, hread⟩ := Reached.refreshes_agree_iff hreached hi (Within.refl _) (Within.refl _)
    htext hattributes rfl rfl
  obtain ⟨-, -, htable, halone, hagree⟩ := hread _ rfl
  rw [hwired, listed, List.map_singleton, List.mem_singleton] at hi
  have hfirst : firstRow i.name (Proc.NetDev.parse aliasText) =
      some ⟨"eth0", 9, 0, 0, 0, 0, 0, 0⟩ := by
    rw [hi]
    decide +kernel
  have hlast : lastRow i.name (Proc.NetDev.parse aliasText) =
      some ⟨"eth0", 0, 0, 0, 0, 0, 0, 0⟩ := by
    rw [hi]
    decide +kernel
  rw [hfirst, hlast] at hagree
  refine ⟨fun heq => absurd (hagree.mp heq) (by decide), ?_, ?_⟩
  · rw [htable, hlast]
    rfl
  · rw [halone, hfirst]
    rfl

end InterfaceTable

end SystemMetrics

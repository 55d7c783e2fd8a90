import SystemMetrics.Proofs.Tree.Paths
import SystemMetrics.Simulation.World

/-!
# A tree in memory is consistent

Whether a path is in a tree, and whether it is a directory, is said by the changes that the tree
went through: one that adds it, and none after that which removes it or a path above it. So every
path above a path in the tree is a directory, a directory lists what is right below it once each,
and removing a path takes away what is at or below it by its parts, and nothing else.
-/

namespace SystemMetrics

/-! ## What a change adds and removes -/

namespace Change

/-- What a change makes of a tree in memory. -/
def onTree : Change → MemoryTree → MemoryTree
  | .addFile path text, t => t.addFile (.ofText path) text
  | .addBytes path bytes, t => t.addContent (.ofText path) (.bytes bytes)
  | .addDirectory path, t => t.addDirectory (.ofText path)
  | .addLink path target, t => t.addLink (.ofText path) (.ofText target)
  | .setOwner path uid gid, t => t.setOwner (.ofText path) (uid, gid)
  | .deny path, t => t.deny (.ofText path)
  | .allow path, t => t.allow (.ofText path)
  | .remove path, t => t.remove (.ofText path)
  | .addProcess pid stat statm io cmdline, t => t.addProcess pid stat statm io cmdline
  | _, t => t

/-- The single changes that a change consists of. -/
def steps : Change → List Change
  | .addProcess pid stat statm io cmdline =>
    let base := "/proc/" ++ toString pid
    let file (name text : String) := addFile (Path.joinText base name) text
    [.addDirectory base, file "stat" stat, file "statm" statm] ++
      (if io.isEmpty then [] else [file "io" io]) ++ [file "cmdline" cmdline]
  | c => [c]

/-- The path that a change of the tree is given. -/
def path? : Change → Option String
  | .addFile path _ | .addBytes path _ | .addDirectory path | .addLink path _
  | .setOwner path _ _ | .deny path | .allow path | .remove path => some path
  | _ => none

/-- A change that is given no path, or an absolute one. -/
def Absolute (c : Change) : Prop := ∀ path ∈ c.path?, path.toList.head? = some '/'

/-- A single change that puts something at a path or below it. -/
def Adds : Change → Path → Prop
  | .addFile path _, q | .addBytes path _, q | .addLink path _, q | .addDirectory path, q =>
    (Path.ofText path).same q = true ∨ q.IsAbove (.ofText path)
  | _, _ => False

/-- A single change that makes a path a directory. -/
def AddsDirectory : Change → Path → Prop
  | .addFile path _, q | .addBytes path _, q | .addLink path _, q => q.IsAbove (.ofText path)
  | .addDirectory path, q => (Path.ofText path).same q = true ∨ q.IsAbove (.ofText path)
  | _, _ => False

/-- A change that removes a path or one above it. -/
def Removes : Change → Path → Prop
  | .remove path, q => (Path.ofText path).parts <+: q.parts
  | _, _ => False

variable {c step : Change} {p q d : Path}

theorem onTree_eq_foldl (c : Change) (t : MemoryTree) :
    c.onTree t = c.steps.foldl (fun t step => step.onTree t) t := by
  cases c with
  | addProcess pid stat statm io cmdline =>
    simp only [onTree, steps, MemoryTree.addProcess]
    split <;> rfl
  | _ => rfl

/-- A single change, with an absolute path if it has one. -/
structure IsStep (c : Change) : Prop where
  steps_eq : c.steps = [c]
  absolute : c.Absolute

theorem IsStep.path (h : c.IsStep) {path : String} (hpath : path ∈ c.path?) :
    (Path.ofText path).Absolute := .ofText (h.absolute path hpath)

theorem not_isStep_addProcess {pid : Nat} {stat statm io cmdline : String} :
    ¬ (addProcess pid stat statm io cmdline).IsStep := by
  rintro ⟨hsteps, -⟩
  simp [steps] at hsteps

theorem Absolute.isStep (h : c.Absolute) (hstep : step ∈ c.steps) : step.IsStep := by
  cases c with
  | addProcess pid stat statm io cmdline =>
    have hbase : ("/proc/" ++ toString pid).toList.head? = some '/' := by simp
    have hfile (name text : String) :
        (addFile (Path.joinText ("/proc/" ++ toString pid) name) text).Absolute := by
      rintro path ⟨⟩
      exact Path.head?_joinText hbase name
    simp only [steps, List.mem_append, List.mem_cons, List.mem_ite_nil_left, List.not_mem_nil,
      or_false] at hstep
    rcases hstep with ((rfl | rfl | rfl) | ⟨-, rfl⟩) | rfl
    · refine ⟨rfl, ?_⟩
      rintro path ⟨⟩
      exact hbase
    all_goals exact ⟨rfl, hfile _ _⟩
  | _ =>
    obtain rfl := List.mem_singleton.mp hstep
    exact ⟨rfl, h⟩

theorem Adds.addsDirectory (h : c.Adds q) (hd : d.IsAbove q) : c.AddsDirectory d := by
  have habove {path : String} (h : (Path.ofText path).same q = true ∨ q.IsAbove (.ofText path)) :
      d.IsAbove (.ofText path) := h.elim hd.of_same hd.trans
  cases c with
  | addFile path text => exact habove h
  | addBytes path bytes => exact habove h
  | addLink path target => exact habove h
  | addDirectory path => exact .inr (habove h)
  | _ => exact h

theorem Removes.of_isAbove (h : c.Removes d) (hd : d.IsAbove q) : c.Removes q := by
  cases c with
  | remove path => exact List.IsPrefix.trans h hd.le
  | _ => exact h

end Change

/-- One of the changes adds a path, and none after that removes it. -/
def Remains (adds : Change → Path → Prop) (changes : List Change) (q : Path) : Prop :=
  ∃ before c after, changes = before ++ c :: after ∧ adds c q ∧ ∀ later ∈ after, ¬ later.Removes q

theorem not_remains_nil {adds : Change → Path → Prop} {q : Path} : ¬ Remains adds [] q := by
  rintro ⟨before, c, after, heq, -⟩
  exact List.append_ne_nil_of_right_ne_nil before (List.cons_ne_nil c after) heq.symm

theorem remains_concat {adds : Change → Path → Prop} {changes : List Change} {c : Change}
    {q : Path} : Remains adds (changes ++ [c]) q ↔
      adds c q ∨ Remains adds changes q ∧ ¬ c.Removes q := by
  constructor
  · rintro ⟨before, made, after, heq, hadds, hkept⟩
    rcases List.eq_nil_or_concat after with rfl | ⟨after, last, rfl⟩
    · obtain ⟨-, hlast⟩ := List.append_inj' heq rfl
      cases hlast
      exact .inl hadds
    · rw [List.concat_eq_append] at heq hkept
      rw [← List.cons_append, ← List.append_assoc] at heq
      obtain ⟨rfl, hlast⟩ := List.append_inj' heq rfl
      cases hlast
      rw [List.forall_mem_append] at hkept
      exact .inr ⟨⟨before, made, after, rfl, hadds, hkept.1⟩, hkept.2 c List.mem_cons_self⟩
  · rintro (hadds | ⟨⟨before, made, after, rfl, hadds, hkept⟩, hlast⟩)
    · exact ⟨changes, c, [], rfl, hadds, fun _ h => absurd h List.not_mem_nil⟩
    · refine ⟨before, made, after ++ [c], by simp, hadds, ?_⟩
      simpa [or_imp, forall_and] using ⟨hkept, hlast⟩

theorem Remains.addsDirectory {changes : List Change} {q d : Path}
    (h : Remains Change.Adds changes q) (hd : d.IsAbove q) :
    Remains Change.AddsDirectory changes d := by
  obtain ⟨before, c, after, heq, hadds, hkept⟩ := h
  exact ⟨before, c, after, heq, hadds.addsDirectory hd,
    fun later hlater hremoves => hkept later hlater (hremoves.of_isAbove hd)⟩

namespace MemoryTree

variable {α : Type} {t : MemoryTree} {p q d : Path}

/-! ## Tables -/

theorem isSome_find? (table : List (Path × α)) (p : Path) :
    (find? table p).isSome = holds (table.map (·.1)) p := by
  rw [Bool.eq_iff_iff]
  simp [find?, holds]

theorem isSome_find?_put (p q : Path) (value : α) (table : List (Path × α)) :
    (find? (put p value table) q).isSome = (p.same q || (find? table q).isSome) := by
  rw [find?_put]
  cases p.same q <;> rfl

theorem forall_put {P : Path → Prop} {table : List (Path × α)} (hp : P p)
    (h : ∀ entry ∈ table, P entry.1) (value : α) : ∀ entry ∈ put p value table, P entry.1 := by
  induction table with
  | nil => exact List.forall_mem_singleton.mpr hp
  | cons entry table ih =>
    rw [List.forall_mem_cons] at h
    unfold put
    split
    · exact List.forall_mem_cons.mpr h
    · exact List.forall_mem_cons.mpr ⟨h.1, ih h.2⟩

theorem forall_insertPath {P : Path → Prop} {found : List Path} (hp : P p)
    (h : ∀ q ∈ found, P q) : ∀ q ∈ insertPath p found, P q := by
  unfold insertPath
  split
  · exact h
  · exact List.forall_mem_append.mpr ⟨h, List.forall_mem_singleton.mpr hp⟩

/-- The paths of the tree, by their parts. -/
theorem contains_eq (t : MemoryTree) (p : Path) : t.contains p = holds t.paths p := by
  simp only [contains, isSome_find?, isDirectory, paths, holds, List.any_append]
  cases (t.directories.any (·.same p)) <;> simp

theorem holds_iff {l : List Path} : holds l q = true ↔ ∃ r ∈ l, r.same q = true := List.any_eq_true

theorem holds_foldl_insertPath (l found : List Path) (q : Path) :
    holds (l.foldl (fun found p => insertPath p found) found) q = (holds found q || holds l q) := by
  induction l generalizing found with
  | nil => exact (Bool.or_false _).symm
  | cons p l ih => rw [List.foldl_cons, ih, holds_insertPath, Bool.or_assoc]; rfl

theorem pairwise_insertPath {found : List Path} (h : found.Pairwise fun p q => p.same q = false)
    (p : Path) : (insertPath p found).Pairwise fun p q => p.same q = false := by
  unfold insertPath
  split
  · exact h
  · rename_i hnew
    have hnew : ∀ q ∈ found, q.same p = false := by simpa [holds] using hnew
    exact List.pairwise_append.mpr ⟨h, List.pairwise_singleton _ _,
      fun q hq r hr => List.mem_singleton.mp hr ▸ hnew q hq⟩

section

variable {keep : Path → Bool} (hkeep : ∀ q, q.same p = true → keep q = keep p)
include hkeep

theorem keep_and_same (q : Path) : (keep q && q.same p) = (keep p && q.same p) := by
  cases hsame : q.same p with
  | false => rw [Bool.and_false, Bool.and_false]
  | true => rw [hkeep q hsame]

/-- A table without some of the places, which are kept or dropped in all of their spellings. -/
theorem find?_filter (table : List (Path × α)) :
    find? (table.filter fun (q, _) => keep q) p = if keep p then find? table p else none := by
  have hpoint : (fun a : Path × α => decide (keep a.1 = true ∧ a.1.same p = true)) =
      fun a => keep p && a.1.same p := by
    funext a
    rw [Bool.decide_and, Bool.decide_eq_true, Bool.decide_eq_true, keep_and_same hkeep]
  rw [find?, List.find?_filter, hpoint]
  cases keep p <;> simp [find?]

theorem holds_filter (paths : List Path) :
    holds (paths.filter keep) p = (keep p && holds paths p) := by
  simp only [holds, List.any_filter, keep_and_same hkeep]
  cases keep p <;> simp

end

/-! ## Entries -/

/-- What a tree has at a path, apart from what is denied. -/
structure Entry where
  content : Option Content := none
  directory : Bool := false
  target : Option Path := none
  owner : Option (Nat × Nat) := none
  deriving DecidableEq

def entry (t : MemoryTree) (p : Path) : Entry :=
  ⟨find? t.files p, t.isDirectory p, find? t.links p, find? t.owners p⟩

theorem contains_eq_entry (t : MemoryTree) (q : Path) : t.contains q =
    ((t.entry q).content.isSome || (t.entry q).directory || (t.entry q).target.isSome) := rfl

theorem isDirectory_addParents (hp : p.Absolute) :
    (t.addParents p).isDirectory q = true ↔ q.IsAbove p ∨ t.isDirectory q = true := by
  rw [isDirectory, addParents, holds_foldl_insertPath, Bool.or_eq_true, ← hp.exists_ancestor_iff,
    or_comm]
  simp [isDirectory, holds]

theorem contains_addContent (hp : p.Absolute) (content : Content) :
    (t.addContent p content).contains q = true ↔
      (p.same q = true ∨ q.IsAbove p) ∨ t.contains q = true := by
  have hdirectory : (t.addContent p content).isDirectory q = (t.addParents p).isDirectory q := rfl
  have hfiles : (t.addContent p content).files = put p content t.files := rfl
  have hlinks : (t.addContent p content).links = t.links := rfl
  simp only [contains, hdirectory, hfiles, hlinks, isSome_find?_put, Bool.or_eq_true,
    isDirectory_addParents hp]
  tauto

theorem contains_addLink (hp : p.Absolute) (target : Path) :
    (t.addLink p target).contains q = true ↔
      (p.same q = true ∨ q.IsAbove p) ∨ t.contains q = true := by
  have hdirectory : (t.addLink p target).isDirectory q = (t.addParents p).isDirectory q := rfl
  have hfiles : (t.addLink p target).files = t.files := rfl
  have hlinks : (t.addLink p target).links = put p target t.links := rfl
  simp only [contains, hdirectory, hfiles, hlinks, isSome_find?_put, Bool.or_eq_true,
    isDirectory_addParents hp]
  tauto

theorem isDirectory_addDirectory (hp : p.Absolute) :
    (t.addDirectory p).isDirectory q = true ↔
      (p.same q = true ∨ q.IsAbove p) ∨ t.isDirectory q = true := by
  have hdirectory : (t.addDirectory p).isDirectory q =
      ((t.addParents p).isDirectory q || p.same q) := holds_insertPath p q _
  rw [hdirectory, Bool.or_eq_true, isDirectory_addParents hp]
  tauto

theorem contains_addDirectory (hp : p.Absolute) :
    (t.addDirectory p).contains q = true ↔
      (p.same q = true ∨ q.IsAbove p) ∨ t.contains q = true := by
  have hfiles : (t.addDirectory p).files = t.files := rfl
  have hlinks : (t.addDirectory p).links = t.links := rfl
  simp only [contains, hfiles, hlinks, Bool.or_eq_true, isDirectory_addDirectory hp]
  tauto

/-- Removing a path leaves nothing at and below it, and leaves everything else alone. -/
theorem entry_remove (t : MemoryTree) (p q : Path) :
    (t.remove p).entry q = if q.isBelow p then {} else t.entry q := by
  have hkeep : ∀ r : Path, r.same q = true → (!r.isBelow p) = (!q.isBelow p) := by
    intro r hr
    rw [Path.isBelow, Path.isBelow, beq_iff_eq.mp hr]
  have hdirectory : (t.remove p).isDirectory q = (!q.isBelow p && t.isDirectory q) :=
    holds_filter hkeep t.directories
  have hfiles := find?_filter hkeep t.files
  have hlinks := find?_filter hkeep t.links
  have howners := find?_filter hkeep t.owners
  rw [entry, hdirectory]
  simp only [remove, hfiles, hlinks, howners]
  cases q.isBelow p <;> rfl

theorem isBelow_iff : q.isBelow p = true ↔ p.parts <+: q.parts := List.isPrefixOf_iff_prefix

/-! ## One change -/

theorem isDirectory_onTree {c : Change} (hc : c.IsStep) :
    (c.onTree t).isDirectory q = true ↔
      c.AddsDirectory q ∨ t.isDirectory q = true ∧ ¬ c.Removes q := by
  have hkeeps {X Y : Prop} : X ∨ Y ↔ X ∨ Y ∧ ¬ False := by tauto
  have hidle {X : Prop} : X ↔ False ∨ X ∧ ¬ False := by tauto
  cases c with
  | addFile path text => exact (isDirectory_addParents (hc.path rfl)).trans hkeeps
  | addBytes path bytes => exact (isDirectory_addParents (hc.path rfl)).trans hkeeps
  | addLink path target => exact (isDirectory_addParents (hc.path rfl)).trans hkeeps
  | addDirectory path => exact (isDirectory_addDirectory (hc.path rfl)).trans hkeeps
  | remove path =>
    have hremove : (t.remove (.ofText path)).isDirectory q = _ :=
      congrArg Entry.directory (entry_remove t (.ofText path) q)
    rw [Change.onTree, hremove]
    simp only [Change.AddsDirectory, Change.Removes, ← isBelow_iff]
    cases q.isBelow (.ofText path) <;> simp [entry]
  | addProcess pid stat statm io cmdline => exact absurd hc Change.not_isStep_addProcess
  | _ => exact hidle

theorem contains_onTree {c : Change} (hc : c.IsStep) :
    (c.onTree t).contains q = true ↔
      c.Adds q ∨ t.contains q = true ∧ ¬ c.Removes q := by
  have hkeeps {X Y : Prop} : X ∨ Y ↔ X ∨ Y ∧ ¬ False := by tauto
  have hidle {X : Prop} : X ↔ False ∨ X ∧ ¬ False := by tauto
  cases c with
  | addFile path text => exact (contains_addContent (hc.path rfl) _).trans hkeeps
  | addBytes path bytes => exact (contains_addContent (hc.path rfl) _).trans hkeeps
  | addLink path target => exact (contains_addLink (hc.path rfl) _).trans hkeeps
  | addDirectory path => exact (contains_addDirectory (hc.path rfl)).trans hkeeps
  | remove path =>
    rw [Change.onTree, contains_eq_entry, contains_eq_entry, entry_remove]
    simp only [Change.Adds, Change.Removes, ← isBelow_iff]
    cases q.isBelow (.ofText path) <;> simp
  | addProcess pid stat statm io cmdline => exact absurd hc Change.not_isStep_addProcess
  | _ => exact hidle

/-- All paths in the tree are absolute. -/
structure Rooted (t : MemoryTree) : Prop where
  files : ∀ entry ∈ t.files, entry.1.Absolute
  links : ∀ entry ∈ t.links, entry.1.Absolute
  directories : ∀ p ∈ t.directories, p.Absolute

theorem Rooted.of_mem_paths (h : t.Rooted) (hp : p ∈ t.paths) : p.Absolute := by
  simp only [paths, List.mem_append, List.mem_map] at hp
  rcases hp with (⟨entry, hentry, rfl⟩ | ⟨entry, hentry, rfl⟩) | hdirectory
  · exact h.files entry hentry
  · exact h.links entry hentry
  · exact h.directories p hdirectory

theorem Rooted.addParents (h : t.Rooted) (hp : p.Absolute) : (t.addParents p).Rooted where
  files := h.files
  links := h.links
  directories := by
    refine List.foldlRecOn (motive := fun ds : List Path => ∀ d ∈ ds, d.Absolute) p.ancestors _
      h.directories fun ds hds d hd => ?_
    exact forall_insertPath (hp.of_mem_ancestors hd) hds

theorem Rooted.addContent (h : t.Rooted) (hp : p.Absolute) (content : Content) :
    (t.addContent p content).Rooted :=
  { h.addParents hp with files := forall_put hp h.files content }

theorem rooted_onTree {c : Change} (hc : c.IsStep) (h : t.Rooted) :
    (c.onTree t).Rooted := by
  cases c with
  | addFile path text => exact h.addContent (hc.path rfl) _
  | addBytes path bytes => exact h.addContent (hc.path rfl) _
  | addLink path target =>
    have hp := hc.path rfl
    exact { h.addParents hp with links := forall_put hp h.links _ }
  | addDirectory path =>
    have hp := hc.path rfl
    have hparents := h.addParents hp
    exact { hparents with directories := forall_insertPath hp hparents.directories }
  | remove path =>
    exact ⟨fun entry hentry => h.files entry (List.mem_of_mem_filter hentry),
      fun entry hentry => h.links entry (List.mem_of_mem_filter hentry),
      fun p hp => h.directories p (List.mem_of_mem_filter hp)⟩
  | addProcess pid stat statm io cmdline => exact absurd hc Change.not_isStep_addProcess
  | _ => exact ⟨h.files, h.links, h.directories⟩

/-! ## Directories -/

theorem isChildOf_iff (hd : d.parts ≠ []) (hq : q.Absolute) :
    isChildOf d q = true ↔ ∃ part, q.parts = d.parts ++ [part] := by
  rcases hq.parent?_cases with ⟨hparts, hparent⟩ | ⟨r, part, -, hparts, hparent⟩
  · simp only [isChildOf, hparent, hparts, Bool.and_false, Bool.false_eq_true, false_iff]
    rintro ⟨part, hroot⟩
    exact hd (List.append_eq_singleton_iff.mp hroot.symm |>.resolve_right (by simp)).1
  · have hsame : r.same d = true ↔ r.parts = d.parts := beq_iff_eq
    simp only [isChildOf, hparent, Bool.and_eq_true, Bool.not_eq_true', hsame]
    constructor
    · rintro ⟨-, heq⟩
      exact ⟨part, heq ▸ hparts⟩
    · rintro ⟨part', hchild⟩
      have heq := (List.append_inj' (hparts.symm.trans hchild) rfl).1
      refine ⟨beq_eq_false_iff_ne.mpr fun hself => ?_, heq⟩
      rw [hchild] at hself
      exact List.cons_ne_nil _ _ (List.self_eq_append_right.mp hself.symm)

theorem Rooted.parts_ne_nil (h : t.Rooted) (hd : t.isDirectory d = true) : d.parts ≠ [] := by
  obtain ⟨r, hr, hsame⟩ := holds_iff.mp hd
  rw [← beq_iff_eq.mp hsame]
  exact (h.directories r hr).parts_ne_nil

/-- What a directory lists: what is right below it by its parts, in one spelling each. -/
theorem Rooted.children_spec (h : t.Rooted) {found : List Path}
    (hfound : t.children d = .ok found) :
    found.Pairwise (fun p q => p.same q = false) ∧
      ∀ q : Path, (∃ r ∈ found, r.same q = true) ↔
        t.contains q = true ∧ ∃ part, q.parts = d.parts ++ [part] := by
  rw [children] at hfound
  split at hfound
  · rename_i hdirectory
    obtain rfl := Except.ok.inj hfound
    have hd := h.parts_ne_nil hdirectory
    refine ⟨List.foldlRecOn (motive := List.Pairwise fun p q : Path => p.same q = false) _ _ .nil
      fun found hfound p _ => pairwise_insertPath hfound p, fun q => ?_⟩
    have hlisted : holds ((t.paths.filter (isChildOf d)).foldl (fun ps p => insertPath p ps) []) q =
        holds (t.paths.filter (isChildOf d)) q :=
      (holds_foldl_insertPath _ [] q).trans (Bool.false_or _)
    rw [← holds_iff, hlisted, contains_eq, holds_iff, holds_iff]
    constructor
    · rintro ⟨r, hr, hsame⟩
      obtain ⟨hpath, hchild⟩ := List.mem_filter.mp hr
      have hparts := (isChildOf_iff hd (h.of_mem_paths hpath)).mp hchild
      rw [beq_iff_eq.mp hsame] at hparts
      exact ⟨⟨r, hpath, hsame⟩, hparts⟩
    · rintro ⟨⟨r, hpath, hsame⟩, hparts⟩
      rw [← beq_iff_eq.mp hsame] at hparts
      have hchild := (isChildOf_iff hd (h.of_mem_paths hpath)).mpr hparts
      exact ⟨r, List.mem_filter.mpr ⟨hpath, hchild⟩, hsame⟩
  · cases hfound

theorem exists_children_iff : (∃ found, t.children d = .ok found) ↔ t.isDirectory d = true := by
  rw [children]
  split <;> simp [*]

/-! ## Runs of changes -/

/-- The tree that changes make of an empty one. -/
def after (changes : List Change) : MemoryTree := changes.foldl (fun t c => c.onTree t) {}

/-- What single changes make of an empty tree. -/
theorem after_single {changes : List Change} (h : ∀ c ∈ changes, c.IsStep) :
    (after changes).Rooted ∧
      (∀ q, (after changes).isDirectory q = true ↔ Remains Change.AddsDirectory changes q) ∧
      ∀ q, (after changes).contains q = true ↔ Remains Change.Adds changes q := by
  induction changes using List.reverseRecOn with
  | nil =>
    have hrooted : (after []).Rooted := ⟨nofun, nofun, nofun⟩
    exact ⟨hrooted, fun q => iff_of_false Bool.false_ne_true not_remains_nil,
      fun q => iff_of_false Bool.false_ne_true not_remains_nil⟩
  | append_singleton changes c ih =>
    rw [List.forall_mem_append, List.forall_mem_singleton] at h
    obtain ⟨hchanges, hc⟩ := h
    obtain ⟨hrooted, hdirectory, hcontains⟩ := ih hchanges
    have hafter : after (changes ++ [c]) = c.onTree (after changes) := List.foldl_concat ..
    rw [hafter]
    refine ⟨rooted_onTree hc hrooted, fun q => ?_, fun q => ?_⟩
    · rw [isDirectory_onTree hc, hdirectory, remains_concat]
    · rw [contains_onTree hc, hcontains, remains_concat]

/-- A change is the same as its single changes. -/
theorem after_flatMap_steps (changes : List Change) :
    after (changes.flatMap Change.steps) = after changes := by
  rw [after, List.foldl_flatMap, after]
  congr 1
  funext t c
  exact (c.onTree_eq_foldl t).symm

/-- The answers for a path are said by its entry and by what is denied. -/
theorem answers_congr {t' : MemoryTree} (hdenied : t'.denied = t.denied)
    (hentry : t'.entry q = t.entry q) :
    t'.contains q = t.contains q ∧ t'.readContent q = t.readContent q ∧
      t'.readLink q = t.readLink q ∧ t'.owner q = t.owner q := by
  have hcontent : find? t'.files q = find? t.files q := congrArg Entry.content hentry
  have hdirectory : t'.isDirectory q = t.isDirectory q := congrArg Entry.directory hentry
  have htarget : find? t'.links q = find? t.links q := congrArg Entry.target hentry
  have howner : find? t'.owners q = find? t.owners q := congrArg Entry.owner hentry
  refine ⟨?_, ?_, ?_, ?_⟩
  · rw [contains_eq_entry, contains_eq_entry, hentry]
  · rw [readContent, readContent, checkAccess, checkAccess, hdenied, hcontent]
  · rw [readLink, readLink, checkAccess, checkAccess, hdenied, htarget]
  · rw [owner, owner, hcontent, hdirectory, howner]

end MemoryTree

theorem World.storage_apply {w : World} {t : MemoryTree} (hw : w.storage = .memory t) (c : Change) :
    (w.apply c).storage = .memory (c.onTree t) := by
  cases c <;>
    simp only [World.apply, Storage.onMemory, Storage.addContent, Storage.addDirectory,
      Storage.addLink, Storage.remove, Storage.addProcess, hw, Change.onTree, MemoryTree.addFile]

/-- Trees of worlds are made by changes in the same way. -/
theorem World.storage_applyAll {w : World} {t : MemoryTree} (hw : w.storage = .memory t)
    (changes : List Change) : (w.applyAll changes).storage =
      .memory (changes.foldl (fun t c => c.onTree t) t) := by
  induction changes generalizing w t with
  | nil => exact hw
  | cons c changes ih => exact ih (World.storage_apply hw c)

namespace MemoryTree

/-- After changes with absolute paths, those that no later change removed are there. Every path
above one that is there is a directory. Directories, and nothing else, list what is right below
them, once each. Removing a path forgets all that is at or below it, by its parts, and leaves all
else as it was. -/
theorem after_consistent {changes : List Change} (hchanges : ∀ c ∈ changes, c.Absolute) :
    let t := after changes
    (∀ w : World, w.storage = .memory {} → (w.applyAll changes).storage = .memory t) ∧
    (∀ q, t.contains q = true ↔ Remains Change.Adds (changes.flatMap Change.steps) q) ∧
    (∀ d, t.isDirectory d = true ↔
      Remains Change.AddsDirectory (changes.flatMap Change.steps) d) ∧
    (∀ q d : Path, t.contains q = true → d.IsAbove q → t.isDirectory d = true) ∧
    (∀ d, (∃ found, t.children d = .ok found) ↔ t.isDirectory d = true) ∧
    (∀ d found, t.children d = .ok found →
      found.Pairwise (fun p q => p.same q = false) ∧
      ∀ q : Path, (∃ r ∈ found, r.same q = true) ↔
        t.contains q = true ∧ ∃ part, q.parts = d.parts ++ [part]) ∧
    ∀ p q : Path,
      (p.parts <+: q.parts →
        (t.remove p).contains q = false ∧ (t.remove p).entry q = {}) ∧
      (¬ p.parts <+: q.parts → (t.remove p).entry q = t.entry q ∧
        (t.remove p).contains q = t.contains q ∧ (t.remove p).readContent q = t.readContent q ∧
        (t.remove p).readLink q = t.readLink q ∧ (t.remove p).owner q = t.owner q) := by
  have hsteps : ∀ step ∈ changes.flatMap Change.steps, step.IsStep := by
    intro step hstep
    obtain ⟨c, hc, hstep⟩ := List.mem_flatMap.mp hstep
    exact (hchanges c hc).isStep hstep
  obtain ⟨hrooted, hdirectory, hcontains⟩ := after_single hsteps
  rw [after_flatMap_steps] at hrooted hdirectory hcontains
  refine ⟨fun w hw => World.storage_applyAll hw changes, hcontains, hdirectory, ?_,
    fun d => exists_children_iff, fun d found hfound => hrooted.children_spec hfound, ?_⟩
  · intro q d hq hd
    exact (hdirectory d).mpr (((hcontains q).mp hq).addsDirectory hd)
  · intro p q
    have hentry := entry_remove (after changes) p q
    constructor
    · intro hbelow
      rw [if_pos (isBelow_iff.mpr hbelow)] at hentry
      exact ⟨by rw [contains_eq_entry, hentry]; rfl, hentry⟩
    · intro hbeside
      rw [if_neg (mt isBelow_iff.mp hbeside)] at hentry
      exact ⟨hentry, answers_congr rfl hentry⟩

/-- A process whose directory is also a link, one whose number goes on with the same digit, and a
file in a spelling of its own. -/
def neighbours : List Change :=
  [.addProcess 1 "1 (a) S" "9" "" "a\x00", .addLink "/proc/1" "/self",
    .addFile "/proc/10/stat" "10", .addFile "//proc/./1/fd/" "", .setOwner "/proc/1/stat" 5 6,
    .setOwner "/proc/10/stat" 7 8, .deny "/proc/1/stat", .remove "/proc/1/statm"]

theorem after_consistent_neighbours :
    let t := after neighbours
    let removed := t.remove (.ofText "/proc/1")
    t.isDirectory (.ofText "/proc") = true ∧
    (∃ found, t.children (.ofText "/proc/1") = .ok found ∧
      (∃ r ∈ found, r.same (.ofText "/proc/1/fd") = true) ∧
      ¬ ∃ r ∈ found, r.same (.ofText "/proc/10/stat") = true) ∧
    removed.contains (.ofText "/proc/1/stat") = false ∧
    removed.entry (.ofText "/proc/1/stat") = {} ∧
    removed.entry (.ofText "/proc/10/stat") = ⟨some (.text "10"), false, none, some (7, 8)⟩ := by
  have habsolute : ∀ c ∈ neighbours, c.Absolute := by
    simp [neighbours, Change.Absolute, Change.path?]
  obtain ⟨-, -, -, habove, hlisted, hchildren, hremove⟩ := after_consistent habsolute
  have hproc : (Path.ofText "/proc").IsAbove (.ofText "/proc/10/stat") :=
    ⟨by decide +kernel, by decide +kernel, by decide +kernel⟩
  obtain ⟨found, hfound⟩ := (hlisted (.ofText "/proc/1")).mpr (by decide +kernel)
  obtain ⟨-, hmem⟩ := hchildren _ found hfound
  have hfd : ∃ r ∈ found, r.same (.ofText "/proc/1/fd") = true :=
    (hmem _).mpr ⟨by decide +kernel, .name "fd", by decide +kernel⟩
  have hten : ¬ ∃ r ∈ found, r.same (.ofText "/proc/10/stat") = true := by
    rw [hmem]
    rintro ⟨-, part, hparts⟩
    have habove := congrArg List.dropLast hparts
    rw [List.dropLast_concat] at habove
    exact absurd habove (by decide +kernel)
  obtain ⟨hbelow, hforgotten⟩ :=
    (hremove (.ofText "/proc/1") (.ofText "/proc/1/stat")).1 (by decide +kernel)
  obtain ⟨hkept, -⟩ := (hremove (.ofText "/proc/1") (.ofText "/proc/10/stat")).2 (by decide +kernel)
  refine ⟨habove _ _ (by decide +kernel) hproc, ⟨found, hfound, hfd, hten⟩, hbelow, hforgotten,
    hkept.trans (by decide +kernel)⟩

end MemoryTree

end SystemMetrics

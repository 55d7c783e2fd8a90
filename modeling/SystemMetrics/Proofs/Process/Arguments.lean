import SystemMetrics.Proofs.Proc.Cmdline
import SystemMetrics.Proofs.Process.Run

/-!
# The arguments of a process

The arguments that a process lists are those its vector holds, or its command name in brackets where
the vector exceeds a cap.
-/

namespace SystemMetrics.ProcessEntry

open Proc

variable {σ : Type} {probe : Probe (Observing σ)} {p : ProcessEntry} {s : σ} {bytes : List UInt8}

theorem arguments?_of_ok {texts : List String}
    (hread : (probe.processBytes p.pid "cmdline" s).1 = .ok bytes)
    (hparse : Cmdline.parse maxArguments maxArgumentBytes bytes = .ok texts) :
    (p.arguments? probe s).1 = some texts := by
  simp only [arguments?, Observing.bind_run, hread, hparse, Observing.pure_run]

theorem arguments?_of_error {fault : Fault}
    (hread : (probe.processBytes p.pid "cmdline" s).1 = .ok bytes)
    (hparse : Cmdline.parse maxArguments maxArgumentBytes bytes = .error fault) :
    (p.arguments? probe s).1 = some ["[" ++ p.stat.comm ++ "]"] := by
  simp only [arguments?, Observing.bind_run, hread, hparse, Observing.pure_run]

/-- A vector is refused for its bytes exactly if they are too many. Otherwise it is refused for its
arguments exactly if these are too many, and else returned as texts, with what is broken exchanged.
So a process lists the texts whose terminated encodings are its vector, and a name in brackets for a
vector over a cap. -/
theorem arguments_listed :
    (∀ bytes, ∃! args, Cmdline.Holds bytes args) ∧
    (∀ segment cs, Text.Utf8.Lossy segment cs ↔ (Cmdline.text segment).toList = cs) ∧
    (∀ maxArguments maxBytes bytes args, Cmdline.Holds bytes args →
      (Cmdline.parse maxArguments maxBytes bytes =
        .error (.exhausted "argument vector bytes" maxBytes) ↔ maxBytes < bytes.length) ∧
      (bytes.length ≤ maxBytes →
        (Cmdline.parse maxArguments maxBytes bytes =
          .error (.exhausted "argument count" maxArguments) ↔ maxArguments < args.length) ∧
        (args.length ≤ maxArguments →
          Cmdline.parse maxArguments maxBytes bytes = .ok (args.map Cmdline.text)))) ∧
    ∀ {σ : Type} (probe : Probe (Observing σ)) (s : σ) (p : ProcessEntry),
      (∀ texts : List String, texts.length ≤ 256 → (∀ a ∈ texts, '\x00' ∉ a.toList) →
        (∀ a ∈ texts.tail, a ≠ "") → (Cmdline.vector texts).length ≤ 1024 * 1024 →
        (probe.processBytes p.pid "cmdline" s).1 = .ok (Cmdline.vector texts) →
        (p.arguments? probe s).1 = some texts) ∧
      ∀ bytes args, Cmdline.Holds bytes args →
        1024 * 1024 < bytes.length ∨ 256 < args.length →
        (probe.processBytes p.pid "cmdline" s).1 = .ok bytes →
        (p.arguments? probe s).1 = some ["[" ++ p.stat.comm ++ "]"] := by
  refine ⟨Cmdline.existsUnique_holds, Cmdline.lossy_iff_text, fun _ _ _ _ h => ?_,
    fun probe s p => ⟨?_, ?_⟩⟩
  · exact ⟨Cmdline.bytes_exhausted_iff h, fun hle =>
      ⟨Cmdline.count_exhausted_iff h hle, Cmdline.parse_of_le h hle⟩⟩
  · intro texts hcount hzero htail hbytes hread
    exact arguments?_of_ok hread (Cmdline.parse_vector hzero htail hcount hbytes)
  · intro bytes args h hover hread
    obtain ⟨fault, hparse⟩ := Cmdline.exists_parse_error h hover
    exact arguments?_of_error hread hparse

/-- A system in which every process was started with the given arguments. -/
def startedWith (texts : List String) : Probe (Observing Unit) :=
  { ProcessTable.filesOnly [7] fun _ => ProcessTable.shellFile 100 with
    processBytes := fun _ _ => return .ok (Cmdline.vector texts) }

def namedShell : ProcessEntry :=
  let p := (new (startedWith []) 7 1000 2 ()).1
  (p.refresh (startedWith []) true ()).1.2

/-- An empty first argument is listed, and a vector is exchanged for the name at its 257th. -/
theorem arguments_listed_shell :
    (namedShell.arguments? (startedWith ["", "-l", "über"]) ()).1 = some ["", "-l", "über"] ∧
    (namedShell.arguments? (startedWith (List.replicate 257 "x")) ()).1 = some ["[sh]"] ∧
    Cmdline.parse 2 6 (Cmdline.vector ["a", "b", "c"]) = .error (.exhausted "argument count" 2) ∧
    Cmdline.parse 3 6 (Cmdline.vector ["a", "b", "c"]) = .ok ["a", "b", "c"] := by
  obtain ⟨-, -, hparse, hlisted⟩ := arguments_listed
  have hletters : Cmdline.Holds (Cmdline.vector ["a", "b", "c"]) _ :=
    Cmdline.holds_vector (by decide) (by decide)
  have hmany (n : Nat) : Cmdline.Holds (Cmdline.vector (List.replicate n "x")) _ :=
    Cmdline.holds_vector (by simp) (by simp)
  have hname : "[" ++ namedShell.stat.comm ++ "]" = "[sh]" := by decide +kernel
  refine ⟨?_, ?_, ?_, ?_⟩
  · exact (hlisted (startedWith _) () namedShell).1 _ (by decide) (by decide) (by decide)
      (by decide +kernel) rfl
  · rw [← hname]
    refine (hlisted (startedWith _) () namedShell).2 _ _ (hmany 257) (.inr ?_) rfl
    rw [List.length_map, List.length_replicate]
    decide
  · exact ((hparse 2 6 _ _ hletters).2 (by decide +kernel)).1.mpr (by decide)
  · rw [((hparse 3 6 _ _ hletters).2 (by decide +kernel)).2 (by decide)]
    decide +kernel

end SystemMetrics.ProcessEntry

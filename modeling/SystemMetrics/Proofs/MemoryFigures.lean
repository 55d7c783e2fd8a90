import SystemMetrics.Proofs.Failures
import SystemMetrics.Proofs.Proc.Keys
import SystemMetrics.Proofs.Text.Words

/-!
# Memory figures

An update takes its figures from the last line of each key that has a number. They are rounded down
one by one, so what is available and what is used add up to the total but for a single MB. A warning
names the mandatory keys that have no number.
-/

namespace SystemMetrics

namespace Proc.Meminfo

open Text

variable {content : String} {line : List Char} {n : Nat}

/-! ## What a text says -/

inductive Key where
  | memTotal
  | memFree
  | buffers
  | cached
  | swapTotal
  | swapFree
  deriving DecidableEq, Repr

namespace Key

def name : Key → String
  | memTotal => "MemTotal"
  | memFree => "MemFree"
  | buffers => "Buffers"
  | cached => "Cached"
  | swapTotal => "SwapTotal"
  | swapFree => "SwapFree"

/-- The word that stands before the number. -/
def word (k : Key) : List Char := (k.name ++ ":").toList

def mandatory : List Key := [memTotal, memFree, swapTotal, swapFree]

/-- The figure of a key. Those that are not mandatory are never absent. -/
def get (info : Meminfo) : Key → Option Nat
  | memTotal => info.memTotal
  | memFree => info.memFree
  | buffers => some info.buffers
  | cached => some info.cached
  | swapTotal => info.swapTotal
  | swapFree => info.swapFree

end Key

variable {k : Key}

/-- A line gives a key a number: its first word is the one of the key, and its second word is a
numeral of the number, which fits 64 bits. -/
def Gives (line : List Char) (k : Key) (n : Nat) : Prop :=
  (words line).head? = some k.word ∧ NumberAt (words line) 1 n

def numberOn? (k : Key) (line : List Char) : Option Nat :=
  if (words line).head? = some k.word then (words line)[1]?.bind natural64? else none

/-- The number of a key, from the last line that gives it one. -/
def number? (k : Key) (content : String) : Option Nat :=
  ((lines content.toList).filterMap (numberOn? k)).getLast?

/-- What a key counts as in kB. -/
def kilobytes (k : Key) (content : String) : Nat := (number? k content).getD 0

theorem numberOn?_eq_some_iff : numberOn? k line = some n ↔ Gives line k n := by
  unfold numberOn? Gives
  rw [numberAt_iff]
  split <;> simp [*]

theorem number?_eq_some_iff :
    number? k content = some n ↔ LastGives (Gives · k ·) (lines content.toList) n :=
  getLast?_eq_some_iff_lastGives fun _ _ => numberOn?_eq_some_iff

/-- What a key counts as has 64 bits. -/
theorem kilobytes_lt (k : Key) (content : String) : kilobytes k content < word64 := by
  unfold kilobytes
  cases hnumber : number? k content with
  | none => decide
  | some n =>
    obtain ⟨-, line, -, -, ⟨-, -, -, -, hlt⟩, -⟩ := number?_eq_some_iff.mp hnumber
    exact hlt

/-! ## Parsing by keys -/

theorem get_setKey (info : Meminfo) (k : Key) (first : List Char) (n : Nat) :
    k.get (info.setKey first n) = if first = k.word then some n else k.get info := by
  by_cases hkey : ∃ k' : Key, first = k'.word
  · obtain ⟨k', rfl⟩ := hkey
    cases k <;> cases k' <;> rfl
  · have hne (k' : Key) : first ≠ k'.word := fun h => hkey ⟨k', h⟩
    have hkept : info.setKey first n = info :=
      (if_neg (hne .memTotal)).trans <| (if_neg (hne .memFree)).trans <|
      (if_neg (hne .buffers)).trans <| (if_neg (hne .cached)).trans <|
      (if_neg (hne .swapTotal)).trans (if_neg (hne .swapFree))
    rw [hkept, if_neg (hne k)]

theorem get_addLine (k : Key) (info : Meminfo) (line : List Char) :
    k.get (info.addLine line) = ((numberOn? k line).map some).getD (k.get info) := by
  unfold addLine numberOn?
  rcases words line with _ | ⟨first, _ | ⟨value, rest⟩⟩
  · rfl
  · simp
  · cases hvalue : natural64? value with
    | none => simp [hvalue]
    | some n =>
      by_cases hfirst : first = k.word
      · simp [hvalue, get_setKey, hfirst]
      · simp [hvalue, get_setKey, hfirst]

theorem get_parse (k : Key) (content : String) :
    k.get (parse content) = ((number? k content).map some).getD (k.get {}) :=
  foldl_last k.get (get_addLine k) _ _

/-- Every key counts as what the text says of it. -/
theorem getD_get_parse (k : Key) (content : String) :
    (k.get (parse content)).getD 0 = kilobytes k content := by
  rw [get_parse, kilobytes]
  cases number? k content with
  | none => cases k <;> rfl
  | some n => rfl

/-- The mandatory keys that no line gives a number. -/
def missing (content : String) : List Key :=
  Key.mandatory.filter fun k => (number? k content).isNone

theorem missingKeys_eq (info : Meminfo) :
    info.missingKeys = (Key.mandatory.filter fun k => (k.get info).isNone).map Key.name := by
  obtain ⟨_ | memTotal, _ | memFree, buffers, cached, _ | swapTotal, _ | swapFree⟩ := info <;> rfl

theorem missingKeys_parse (content : String) :
    (parse content).missingKeys = (missing content).map Key.name := by
  have habsent : ∀ k ∈ Key.mandatory, k.get {} = none := by decide
  rw [missingKeys_eq, missing]
  refine congrArg _ (List.filter_congr fun k hk => ?_)
  rw [get_parse, habsent k hk]
  cases number? k content <;> rfl

end Proc.Meminfo

/-- Figures in MB for a total and for what of it is available, both in kB. Where more is available
than there is, nothing is used. -/
structure MemorySnapshot.Accounts (total available totalMb availableMb usedMb : Nat) : Prop where
  total_eq : totalMb = total / 1024
  available_eq : availableMb = available / 1024
  covered : available ≤ total →
    availableMb + usedMb ≤ totalMb ∧ totalMb ≤ availableMb + usedMb + 1
  exceeded : total < available → usedMb = 0

theorem MemorySnapshot.Accounts.rounded (total available : Nat) :
    Accounts total available (total / 1024) (available / 1024) ((total - available) / 1024) where
  total_eq := rfl
  available_eq := rfl
  covered h := by omega
  exceeded h := by rw [Nat.sub_eq_zero_of_le h.le]

namespace Memory

open Proc.Meminfo Text

variable {σ : Type} {probe : Probe (Observing σ)} {s : σ} {content : String}

theorem update_events (hlog : probe.log = Observing.log) (mem : Memory)
    (h : (probe.memInfo s).1 = .ok content) :
    (mem.update probe s).2.2 = (probe.memInfo s).2.2 ++
      if missing content = [] then [] else [.keysMissing ((missing content).map Key.name)] := by
  simp only [update, Observing.bind_run, h, missingKeys_parse, hlog]
  cases missing content <;> rfl

/-- An update takes all figures from the text of `meminfo`. If what is available adds up in 64 bits,
as every single figure does, then physical memory and swap are both accounted for up to rounding. A
warning is logged exactly if mandatory keys are missing, and names these. -/
theorem update_accounts (hlog : probe.log = Observing.log) (mem : Memory)
    (hcontent : (probe.memInfo s).1 = .ok content)
    (hfits : kilobytes .memFree content + kilobytes .buffers content + kilobytes .cached content <
      word64) :
    let outcome := mem.update probe s
    let snapshot := outcome.1.2.snapshot
    let available : UInt64 := .ofNat (kilobytes .memFree content) +
      .ofNat (kilobytes .buffers content) + .ofNat (kilobytes .cached content)
    let warning : Event := .keysMissing ((missing content).map Key.name)
    outcome.1.1 = .ok () ∧ outcome.1.2.paging = mem.paging ∧
    (∀ k, kilobytes k content < word64) ∧
    available.toNat = kilobytes .memFree content + kilobytes .buffers content +
      kilobytes .cached content ∧
    MemorySnapshot.Accounts (kilobytes .memTotal content) available.toNat
      snapshot.totalPhysical snapshot.available snapshot.used ∧
    MemorySnapshot.Accounts (kilobytes .swapTotal content) (kilobytes .swapFree content)
      snapshot.totalSwap snapshot.availableSwap snapshot.usedSwap ∧
    warning.level = .warn ∧
    outcome.2.2 = (probe.memInfo s).2.2 ++ if missing content = [] then [] else [warning] := by
  have havailable : (UInt64.ofNat (kilobytes .memFree content) +
      .ofNat (kilobytes .buffers content) + .ofNat (kilobytes .cached content)).toNat =
      kilobytes .memFree content + kilobytes .buffers content + kilobytes .cached content := by
    unfold word64 at hfits
    simp only [UInt64.toNat_add, UInt64.toNat_ofNat']
    omega
  dsimp only
  rw [havailable, update_ok hcontent]
  refine ⟨rfl, rfl, fun k => kilobytes_lt k content, rfl, ?_, ?_, rfl,
    update_events hlog mem hcontent⟩
  · rw [← Nat.mod_eq_of_lt hfits]
    simp only [← getD_get_parse]
    exact .rounded _ _
  · simp only [← getD_get_parse]
    exact .rounded _ _

/-- A system with the text of `meminfo` and nothing else. -/
def meminfoOnly (content : String) : Probe (Observing Unit) :=
  { ProcessTable.filesOnly [] fun _ _ => .error .notText with
    memInfo := return .ok content
    log := Observing.log }

/-- No line has a number for the free memory, one of the totals is told twice, and more swap is free
than there is. -/
def inconsistentInfo : String :=
  "MemTotal: 3072 kB\nMemFree: x\nBuffers: 1030\nCached: 17\n" ++
    "SwapTotal: 9\nSwapTotal: 2048\nSwapTotal:\nSwapFree: 4096\n"

theorem update_accounts_inconsistent :
    let outcome := (Memory.new ⟨.ofSeconds 10, 2⟩).update (meminfoOnly inconsistentInfo) ()
    outcome.1.2.snapshot = ⟨3, 1, 1, 2, 4, 0⟩ ∧ MemorySnapshot.Accounts 3072 1047 3 1 1 ∧
    MemorySnapshot.Accounts 2048 4096 2 4 0 ∧ outcome.2.2 = [.keysMissing ["MemFree"]] := by
  have havailable : kilobytes .memFree inconsistentInfo + kilobytes .buffers inconsistentInfo +
    kilobytes .cached inconsistentInfo = 1047 := by decide +kernel
  have htotal : kilobytes .memTotal inconsistentInfo = 3072 := by decide +kernel
  have hswapTotal : kilobytes .swapTotal inconsistentInfo = 2048 := by decide +kernel
  have hswapFree : kilobytes .swapFree inconsistentInfo = 4096 := by decide +kernel
  have hmissing : missing inconsistentInfo = [.memFree] := by decide +kernel
  have hsnapshot : ((Memory.new ⟨.ofSeconds 10, 2⟩).update
      (meminfoOnly inconsistentInfo) ()).1.2.snapshot = ⟨3, 1, 1, 2, 4, 0⟩ := by decide +kernel
  have hcontent : ((meminfoOnly inconsistentInfo).memInfo ()).1 = .ok inconsistentInfo := rfl
  obtain ⟨-, -, -, hsum, hphysical, hswap, -, hevents⟩ :=
    update_accounts rfl (Memory.new ⟨.ofSeconds 10, 2⟩) hcontent (by rw [havailable]; decide)
  rw [hsum, havailable, htotal, hsnapshot] at hphysical
  rw [hswapTotal, hswapFree, hsnapshot] at hswap
  rw [hmissing] at hevents
  exact ⟨hsnapshot, hphysical, hswap, hevents⟩

end Memory

end SystemMetrics

/-!
# UTF-8

`Utf8.pieces` reads bytes as a sequence of characters and broken pieces, where a broken piece is a
maximal run of bytes that begins a character without completing it, or a single byte that can begin
none. `decode?` accepts bytes without broken pieces; `decodeLossy` puts U+FFFD for each of them.
-/

namespace SystemMetrics.Text.Utf8

/-- What the bytes read so far have left open. -/
inductive State where
  /-- Every character that was begun is complete. -/
  | idle
  /-- A character lacks `missing + 1` bytes; the next has to lie between `low` and `high`. -/
  | inside (missing : Nat) (low high : UInt8) (code : Nat)
  deriving DecidableEq, Repr

/-- Reads a byte that does not continue a character. -/
def State.begin (b : UInt8) : State × List (Option Char) :=
  let code := b.toNat
  if b < 0x80 then (.idle, [some (Char.ofNat code)])
  else if b < 0xC2 then (.idle, [none])
  else if b < 0xE0 then (.inside 0 0x80 0xBF (code - 0xC0), [])
  else if b = 0xE0 then (.inside 1 0xA0 0xBF 0, [])
  else if b = 0xED then (.inside 1 0x80 0x9F (code - 0xE0), [])
  else if b < 0xF0 then (.inside 1 0x80 0xBF (code - 0xE0), [])
  else if b = 0xF0 then (.inside 2 0x90 0xBF 0, [])
  else if b < 0xF4 then (.inside 2 0x80 0xBF (code - 0xF0), [])
  else if b = 0xF4 then (.inside 2 0x80 0x8F (code - 0xF0), [])
  else (.idle, [none])

/-- Reads one byte: the state after it and the pieces that it completes (`none` is a broken one). -/
def State.feed (s : State) (b : UInt8) : State × List (Option Char) :=
  match s with
  | .idle => State.begin b
  | .inside missing low high code =>
    if low ≤ b ∧ b ≤ high then
      let code := code * 64 + (b.toNat - 0x80)
      match missing with
      | 0 => (.idle, [some (Char.ofNat code)])
      | m + 1 => (.inside m 0x80 0xBF code, [])
    else
      let (next, pieces) := State.begin b
      (next, none :: pieces)

/-- The characters and broken pieces of a byte sequence, in order. -/
def pieces (bytes : List UInt8) : List (Option Char) :=
  let (last, found) := bytes.foldl
    (fun (s, found) b =>
      let (next, more) := s.feed b
      (next, more.foldl (fun found p => p :: found) found))
    (State.idle, [])
  match last with
  | .idle => found.reverse
  | .inside .. => (none :: found).reverse

/-- The text that the bytes encode, if they are well formed. -/
def decode? (bytes : List UInt8) : Option (List Char) := (pieces bytes).mapM id

/-- The text that the bytes encode, with U+FFFD for each broken piece. -/
def decodeLossy (bytes : List UInt8) : List Char :=
  (pieces bytes).map fun p => p.getD '\uFFFD'

def encode (cs : List Char) : List UInt8 := cs.flatMap String.utf8EncodeChar

end SystemMetrics.Text.Utf8

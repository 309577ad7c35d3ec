import DocSearch.Token.Bytes
/-!
# ChaCha20

* `ChaCha20.block` — 64 bytes out of a key, a counter and a nonce.
* `ChaCha20.keystream` — the blocks from counter 1 on.
* `ChaCha20.cipher` — a message combined with the keystream byte by byte; doing it twice gives the
  message back.
-/

namespace DocSearch.ChaCha20

/-- The sixteen words of the state. -/
abbrev State := Vector UInt32 16

/-- Rotation to the left. -/
def rotate (x : UInt32) (n : UInt32) : UInt32 := (x <<< n) ||| (x >>> (32 - n))

/-- Mixes four words of the state. -/
def quarterRound (s : State) (a b c d : Fin 16) : State :=
  let s := s.set a (s[a] + s[b])
  let s := s.set d (rotate (s[d] ^^^ s[a]) 16)
  let s := s.set c (s[c] + s[d])
  let s := s.set b (rotate (s[b] ^^^ s[c]) 12)
  let s := s.set a (s[a] + s[b])
  let s := s.set d (rotate (s[d] ^^^ s[a]) 8)
  let s := s.set c (s[c] + s[d])
  s.set b (rotate (s[b] ^^^ s[c]) 7)

/-- Mixes the columns of the state, then its diagonals. -/
def doubleRound (s : State) : State :=
  let s := quarterRound s 0 4 8 12
  let s := quarterRound s 1 5 9 13
  let s := quarterRound s 2 6 10 14
  let s := quarterRound s 3 7 11 15
  let s := quarterRound s 0 5 10 15
  let s := quarterRound s 1 6 11 12
  let s := quarterRound s 2 7 8 13
  quarterRound s 3 4 9 14

/-- The words of the text `expand 32-byte k`. -/
def constants : List UInt32 := [0x61707865, 0x3320646E, 0x79622D32, 0x6B206574]

/-- The words of some bytes, the lowest byte of each first. -/
def words (bs : List UInt8) : List UInt32 :=
  (Bytes.chunks 4 bs).map fun ws => UInt32.ofNat (Bytes.ofLittle ws)

/-- The state at the start: constants, key, counter and nonce. -/
def initial (key : List UInt8) (counter : Nat) (nonce : List UInt8) : State :=
  let ws := constants ++ words key ++ [UInt32.ofNat counter] ++ words nonce
  Vector.ofFn fun i => ws.getD i 0

/-- One block of the keystream. -/
def block (key : List UInt8) (nonce : List UInt8) (counter : Nat) : List UInt8 :=
  let s := initial key counter nonce
  let t := (List.range 10).foldl (fun t _ => doubleRound t) s
  (List.range 16).flatMap fun i => Bytes.little 4 (s.getD i 0 + t.getD i 0).toNat

/-- The first `n` bytes of the blocks from counter 1 on. -/
def keystream (key nonce : List UInt8) (n : Nat) : List UInt8 :=
  ((List.range ((n + 63) / 64)).flatMap fun i => block key nonce (i + 1)).take n

/-- The message combined with the keystream. -/
def cipher (key nonce message : List UInt8) : List UInt8 :=
  List.zipWith (· ^^^ ·) message (keystream key nonce message.length)

end DocSearch.ChaCha20

import Mathlib.Algebra.Group.Nat.Defs
import Mathlib.Data.List.Basic

/-!
# SHA-256 and HMAC

The hash function of FIPS 180-4 on lists of bytes, and the keyed hash built on
it. Words are natural numbers below `2 ^ 32`. Every word is computed before it
is passed on (`force`), so that digests of concrete texts can be evaluated by the
kernel.
-/

set_option autoImplicit false

namespace Actl.Foundation.Sha256

/-- Continuing with the value of a number instead of the expression for it. -/
def force {α : Type} (n : Nat) (next : Nat → α) : α :=
  match n with
  | 0 => next 0
  | m + 1 => next (m + 1)

/-! ## Words -/

def word (n : Nat) : Nat := n % 2 ^ 32

def rotr (x n : Nat) : Nat := word (x >>> n ||| x <<< (32 - n))

def choose (x y z : Nat) : Nat := (x &&& y) ^^^ ((2 ^ 32 - 1 - x) &&& z)

def majority (x y z : Nat) : Nat := (x &&& y) ^^^ (x &&& z) ^^^ (y &&& z)

def bigSigma0 (x : Nat) : Nat := rotr x 2 ^^^ rotr x 13 ^^^ rotr x 22

def bigSigma1 (x : Nat) : Nat := rotr x 6 ^^^ rotr x 11 ^^^ rotr x 25

def smallSigma0 (x : Nat) : Nat := rotr x 7 ^^^ rotr x 18 ^^^ (x >>> 3)

def smallSigma1 (x : Nat) : Nat := rotr x 17 ^^^ rotr x 19 ^^^ (x >>> 10)

/-- The fractional parts of the cube roots of the first 64 primes. -/
def constants : List Nat := [
  0x428a2f98, 0x71374491, 0xb5c0fbcf, 0xe9b5dba5, 0x3956c25b, 0x59f111f1, 0x923f82a4, 0xab1c5ed5,
  0xd807aa98, 0x12835b01, 0x243185be, 0x550c7dc3, 0x72be5d74, 0x80deb1fe, 0x9bdc06a7, 0xc19bf174,
  0xe49b69c1, 0xefbe4786, 0x0fc19dc6, 0x240ca1cc, 0x2de92c6f, 0x4a7484aa, 0x5cb0a9dc, 0x76f988da,
  0x983e5152, 0xa831c66d, 0xb00327c8, 0xbf597fc7, 0xc6e00bf3, 0xd5a79147, 0x06ca6351, 0x14292967,
  0x27b70a85, 0x2e1b2138, 0x4d2c6dfc, 0x53380d13, 0x650a7354, 0x766a0abb, 0x81c2c92e, 0x92722c85,
  0xa2bfe8a1, 0xa81a664b, 0xc24b8b70, 0xc76c51a3, 0xd192e819, 0xd6990624, 0xf40e3585, 0x106aa070,
  0x19a4c116, 0x1e376c08, 0x2748774c, 0x34b0bcb5, 0x391c0cb3, 0x4ed8aa4a, 0x5b9cca4f, 0x682e6ff3,
  0x748f82ee, 0x78a5636f, 0x84c87814, 0x8cc70208, 0x90befffa, 0xa4506ceb, 0xbef9a3f7, 0xc67178f2]

/-! ## Compression -/

structure State where
  a : Nat
  b : Nat
  c : Nat
  d : Nat
  e : Nat
  f : Nat
  g : Nat
  h : Nat

/-- The fractional parts of the square roots of the first 8 primes. -/
def State.initial : State where
  a := 0x6a09e667
  b := 0xbb67ae85
  c := 0x3c6ef372
  d := 0xa54ff53a
  e := 0x510e527f
  f := 0x9b05688c
  g := 0x1f83d9ab
  h := 0x5be0cd19

/-- Extending the words of a block, given with the latest first. -/
def schedule : Nat → List Nat → List Nat
  | 0, ws => ws.reverse
  | n + 1, ws =>
      force (word (smallSigma1 (ws.getD 1 0) + ws.getD 6 0 + smallSigma0 (ws.getD 14 0)
        + ws.getD 15 0)) fun w => schedule n (w :: ws)

def rounds : List Nat → List Nat → State → State
  | k :: ks, w :: ws, s =>
      force (word (s.h + bigSigma1 s.e + choose s.e s.f s.g + k + w)) fun t =>
      force (word (t + bigSigma0 s.a + majority s.a s.b s.c)) fun a =>
      force (word (s.d + t)) fun e =>
        rounds ks ws { a := a, b := s.a, c := s.b, d := s.c, e := e, f := s.e, g := s.f, h := s.g }
  | _, _, s => s

def compress (s : State) (block : List Nat) : State :=
  let r := rounds constants (schedule 48 block.reverse) s
  force (word (s.a + r.a)) fun a =>
  force (word (s.b + r.b)) fun b =>
  force (word (s.c + r.c)) fun c =>
  force (word (s.d + r.d)) fun d =>
  force (word (s.e + r.e)) fun e =>
  force (word (s.f + r.f)) fun f =>
  force (word (s.g + r.g)) fun g =>
  force (word (s.h + r.h)) fun h =>
    { a := a, b := b, c := c, d := d, e := e, f := f, g := g, h := h }

/-! ## Messages -/

def bigEndian (width n : Nat) : List UInt8 :=
  (List.range width).map fun i => UInt8.ofNat (n / 256 ^ (width - 1 - i))

/-- A message with its end marker, zeros and its length in bits. -/
def pad (message : List UInt8) : List UInt8 :=
  message ++ 0x80 :: (List.replicate ((119 - message.length % 64) % 64) 0
    ++ bigEndian 8 (8 * message.length))

def words : List UInt8 → List Nat
  | a :: b :: c :: d :: rest =>
      force (a.toNat * 2 ^ 24 + b.toNat * 2 ^ 16 + c.toNat * 2 ^ 8 + d.toNat) fun w =>
        w :: words rest
  | _ => []

/-- Compressing the given number of blocks. -/
def absorb : Nat → List Nat → State → State
  | 0, _, s => s
  | n + 1, ws, s => absorb n (ws.drop 16) (compress s (ws.take 16))

def hash (message : List UInt8) : List UInt8 :=
  let ws := words (pad message)
  let s := absorb (ws.length / 16) ws .initial
  [s.a, s.b, s.c, s.d, s.e, s.f, s.g, s.h].flatMap (bigEndian 4)

theorem length_hash (message : List UInt8) : (hash message).length = 32 := by
  simp [hash, bigEndian]

example : hash [97, 98, 99] = [
    0xba, 0x78, 0x16, 0xbf, 0x8f, 0x01, 0xcf, 0xea, 0x41, 0x41, 0x40, 0xde, 0x5d, 0xae, 0x22, 0x23,
    0xb0, 0x03, 0x61, 0xa3, 0x96, 0x17, 0x7a, 0x9c, 0xb4, 0x10, 0xff, 0x61, 0xf2, 0x00, 0x15, 0xad] := by
  decide +kernel

/-- The keyed hash of RFC 2104, with a block of 64 bytes. -/
def hmac (key message : List UInt8) : List UInt8 :=
  let key := if 64 < key.length then hash key else key
  let key := key ++ List.replicate (64 - key.length) 0
  hash (key.map (· ^^^ 0x5c) ++ hash (key.map (· ^^^ 0x36) ++ message))

end Actl.Foundation.Sha256

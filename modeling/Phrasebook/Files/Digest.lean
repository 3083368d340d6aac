import Phrasebook.Files.FilePath
import Phrasebook.Fault

/-!
The SHA-1 digest of octets, and the name under which a file's former content is kept.
-/

namespace Phrasebook.Digest

structure Words where
  a : UInt32
  b : UInt32
  c : UInt32
  d : UInt32
  e : UInt32

def start : Words := ⟨0x67452301, 0xEFCDAB89, 0x98BADCFE, 0x10325476, 0xC3D2E1F0⟩

def rotate (x : UInt32) (n : UInt32) : UInt32 := (x <<< n) ||| (x >>> (32 - n))

def padded (bytes : Bytes) : Bytes :=
  let zeros := (119 - bytes.length % 64) % 64
  let bits := 8 * bytes.length
  bytes ++ 0x80 :: List.replicate zeros 0 ++
    (List.range 8).map fun k => (bits / Nat.pow 256 (7 - k) % 256).toUInt8

def wordsOf : Bytes → List UInt32
  | a :: b :: c :: d :: rest =>
    (a.toUInt32 <<< 24 ||| b.toUInt32 <<< 16 ||| c.toUInt32 <<< 8 ||| d.toUInt32) :: wordsOf rest
  | _ => []

def schedule : Nat → List UInt32 → List UInt32
  | 0, _ => []
  | n + 1, recent =>
    let mixed := recent.getD 2 0 ^^^ recent.getD 7 0 ^^^ recent.getD 13 0 ^^^ recent.getD 15 0
    let next := rotate mixed 1
    next :: schedule n (next :: recent.take 15)

def mix (round : Nat) (b c d : UInt32) : UInt32 × UInt32 :=
  if round < 20 then ((b &&& c) ||| (~~~b &&& d), 0x5A827999)
  else if round < 40 then (b ^^^ c ^^^ d, 0x6ED9EBA1)
  else if round < 60 then ((b &&& c) ||| (b &&& d) ||| (c &&& d), 0x8F1BBCDC)
  else (b ^^^ c ^^^ d, 0xCA62C1D6)

def rounds : Nat → Words → List UInt32 → Words
  | _, w, [] => w
  | n, w, word :: rest =>
    let (f, k) := mix n w.b w.c w.d
    rounds (n + 1) ⟨rotate w.a 5 + f + w.e + k + word, w.a, rotate w.b 30, w.c, w.d⟩ rest

def block (w : Words) (words : List UInt32) : Words :=
  let r := rounds 0 w (words ++ schedule 64 words.reverse)
  ⟨w.a + r.a, w.b + r.b, w.c + r.c, w.d + r.d, w.e + r.e⟩

def blocks : Nat → Words → List UInt32 → Words
  | 0, w, _ => w
  | n + 1, w, words => blocks n (block w (words.take 16)) (words.drop 16)

def sha1 (bytes : Bytes) : Text :=
  let words := wordsOf (padded bytes)
  let w := blocks (words.length / 16) start words
  [w.a, w.b, w.c, w.d, w.e].flatMap fun x => Text.hex 8 x.toNat

end Phrasebook.Digest

namespace Phrasebook

/-- Where the former text of a file is kept: beside it, under a name that tells the text. -/
def backupPath (p : FilePath) (former : Text) : Except Fault FilePath := do
  let bytes ← Utf8.encode former
  if p.names.isEmpty then throw (.nameless p.toText)
  return p.withName (p.name ++ "." ++ (Digest.sha1 bytes).take 8 ++ ".bak")

end Phrasebook

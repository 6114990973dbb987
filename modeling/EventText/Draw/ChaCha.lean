/-!
The ChaCha stream with twelve rounds. A key of eight words and the number of a block determine
sixteen words; the blocks in order are the stream.
-/

namespace EventText.ChaCha

structure Block where
  words : Vector UInt32 16

def rotate (w : UInt32) (places : UInt32) : UInt32 :=
  (w <<< places) ||| (w >>> (32 - places))

def Block.quarter (b : Block) (i j k l : Fin 16) : Block :=
  let a := b.words[i] + b.words[j]
  let d := rotate (b.words[l] ^^^ a) 16
  let c := b.words[k] + d
  let e := rotate (b.words[j] ^^^ c) 12
  let a := a + e
  let d := rotate (d ^^^ a) 8
  let c := c + d
  let e := rotate (e ^^^ c) 7
  ⟨(((b.words.set i a).set j e).set k c).set l d⟩

def Block.doubleRound (b : Block) : Block :=
  let b := (((b.quarter 0 4 8 12).quarter 1 5 9 13).quarter 2 6 10 14).quarter 3 7 11 15
  (((b.quarter 0 5 10 15).quarter 1 6 11 12).quarter 2 7 8 13).quarter 3 4 9 14

def Block.rounds : Nat → Block → Block
  | 0, b => b
  | n + 1, b => rounds n b.doubleRound

/-- The block before mixing: the words of "expand 32-byte k", the key, the block's number in two
words, low word first, and two words of zero. -/
def start (key : Vector UInt32 8) (number : Nat) : Block :=
  ⟨#v[0x61707865, 0x3320646e, 0x79622d32, 0x6b206574,
    key[0], key[1], key[2], key[3], key[4], key[5], key[6], key[7],
    number.toUInt32, (number >>> 32).toUInt32, 0, 0]⟩

def block (key : Vector UInt32 8) (number : Nat) : Block :=
  let before := start key number
  ⟨Vector.zipWith (· + ·) before.words (before.rounds 6).words⟩

/-- The `n`-th number of 64 bits in the stream, made of two words, low word first. -/
def word64 (key : Vector UInt32 8) (n : Nat) : Nat :=
  let words := (block key (n / 8)).words
  words[2 * (n % 8)].toNat + words[2 * (n % 8) + 1].toNat * UInt32.size

end EventText.ChaCha

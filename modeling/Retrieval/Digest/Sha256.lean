/-!
# SHA-256

The digest of a sequence of bytes: padding to whole blocks of sixteen words, a
schedule of sixty-four words for each block, and one round for each word.
-/

namespace Retrieval

namespace Sha256

abbrev Word := UInt32

def rotate (word amount : Word) : Word :=
  (word >>> amount) ||| (word <<< (32 - amount))

def initialState : List Word :=
  [0x6a09e667, 0xbb67ae85, 0x3c6ef372, 0xa54ff53a,
   0x510e527f, 0x9b05688c, 0x1f83d9ab, 0x5be0cd19]

def roundConstants : List Word :=
  [0x428a2f98, 0x71374491, 0xb5c0fbcf, 0xe9b5dba5, 0x3956c25b, 0x59f111f1, 0x923f82a4, 0xab1c5ed5,
   0xd807aa98, 0x12835b01, 0x243185be, 0x550c7dc3, 0x72be5d74, 0x80deb1fe, 0x9bdc06a7, 0xc19bf174,
   0xe49b69c1, 0xefbe4786, 0x0fc19dc6, 0x240ca1cc, 0x2de92c6f, 0x4a7484aa, 0x5cb0a9dc, 0x76f988da,
   0x983e5152, 0xa831c66d, 0xb00327c8, 0xbf597fc7, 0xc6e00bf3, 0xd5a79147, 0x06ca6351, 0x14292967,
   0x27b70a85, 0x2e1b2138, 0x4d2c6dfc, 0x53380d13, 0x650a7354, 0x766a0abb, 0x81c2c92e, 0x92722c85,
   0xa2bfe8a1, 0xa81a664b, 0xc24b8b70, 0xc76c51a3, 0xd192e819, 0xd6990624, 0xf40e3585, 0x106aa070,
   0x19a4c116, 0x1e376c08, 0x2748774c, 0x34b0bcb5, 0x391c0cb3, 0x4ed8aa4a, 0x5b9cca4f, 0x682e6ff3,
   0x748f82ee, 0x78a5636f, 0x84c87814, 0x8cc70208, 0x90befffa, 0xa4506ceb, 0xbef9a3f7, 0xc67178f2]

/-- The lowest `count` bytes of a number, the most significant first. -/
def bigEndian (count number : Nat) : List UInt8 :=
  (List.range count).reverse.map fun place => UInt8.ofNat (number >>> (8 * place))

/-- The message, one set bit, zeros up to the length field, and the length in bits. -/
def padded (message : List UInt8) : List UInt8 :=
  message ++ 0x80 :: List.replicate ((119 - message.length % 64) % 64) 0 ++
    bigEndian 8 (8 * message.length)

/-- Four bytes make a word, the most significant first. -/
def wordsOfBytes : List UInt8 → List Word
  | first :: second :: third :: fourth :: rest =>
      ((first.toUInt32 <<< 24) ||| (second.toUInt32 <<< 16) |||
        (third.toUInt32 <<< 8) ||| fourth.toUInt32) :: wordsOfBytes rest
  | _ => []

def blocks (sequence : List Word) : List (List Word) :=
  match sequence with
  | [] => []
  | word :: rest => (word :: rest.take 15) :: blocks (rest.drop 15)
termination_by sequence.length
decreasing_by simp only [List.length_drop, List.length_cons]; omega

/-- The word that follows the schedule so far, whose latest word stands first. -/
def nextWord (recent : List Word) : Word :=
  let near := recent.getD 1 0
  let far := recent.getD 14 0
  let nearMix := rotate near 17 ^^^ rotate near 19 ^^^ (near >>> 10)
  let farMix := rotate far 7 ^^^ rotate far 18 ^^^ (far >>> 3)
  nearMix + recent.getD 6 0 + farMix + recent.getD 15 0

def schedule (block : List Word) : List Word :=
  (Nat.repeat (fun recent => nextWord recent :: recent) 48 block.reverse).reverse

/-- One round, with a word that already carries its round constant. -/
def round (state : List Word) (word : Word) : List Word :=
  match state with
  | [a, b, c, d, e, f, g, h] =>
      let choice := (e &&& f) ^^^ (~~~e &&& g)
      let majority := (a &&& b) ^^^ (a &&& c) ^^^ (b &&& c)
      let lower := h + (rotate e 6 ^^^ rotate e 11 ^^^ rotate e 25) + choice + word
      let upper := (rotate a 2 ^^^ rotate a 13 ^^^ rotate a 22) + majority
      [lower + upper, a, b, c, d + lower, e, f, g]
  | other => other

def compress (state block : List Word) : List Word :=
  let rounds := List.zipWith (· + ·) roundConstants (schedule block)
  List.zipWith (· + ·) state (rounds.foldl round state)

def digest (message : List UInt8) : List UInt8 :=
  ((blocks (wordsOfBytes (padded message))).foldl compress initialState).flatMap
    fun word => bigEndian 4 word.toNat

/-- The digest of a text is that of its UTF-8 bytes. -/
def digestText (text : String) : List UInt8 := digest text.toUTF8.toList

def hexDigit (value : Nat) : Char := (Nat.toDigits 16 value).getLastD '0'

def hexadecimal (bytes : List UInt8) : String :=
  String.ofList (bytes.flatMap fun byte => [hexDigit (byte.toNat / 16), hexDigit (byte.toNat % 16)])

end Sha256

end Retrieval

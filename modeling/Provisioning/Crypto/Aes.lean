/-!
# The block cipher AES with keys of 256 bits

A block of sixteen bytes goes through fourteen rounds. Bytes are elements of a field of 256
elements, in which addition is exclusive or.
-/

namespace Provisioning.Crypto.Aes

/-- Multiplies an element of the field by the polynomial `x`. -/
def double (a : UInt8) : UInt8 :=
  (a <<< 1) ^^^ (if a &&& 0x80 = 0 then 0 else 0x1B)

/-- The product of two elements of the field. -/
def multiply (a b : UInt8) : UInt8 :=
  ((List.range 8).foldl
    (fun (acc : UInt8 × UInt8) i =>
      (if (b >>> UInt8.ofNat i) &&& 1 = 0 then acc.1 else acc.1 ^^^ acc.2, double acc.2))
    (0, a)).1

/-- The inverse of an element, or zero: its power with the exponent 254. -/
def inverse (a : UInt8) : UInt8 :=
  (List.range 253).foldl (fun p _ => multiply p a) a

def rotateLeft (a n : UInt8) : UInt8 :=
  (a <<< n) ||| (a >>> (8 - n))

/-- The byte that stands for another one in a round. -/
def substitute (a : UInt8) : UInt8 :=
  let b := inverse a
  b ^^^ rotateLeft b 1 ^^^ rotateLeft b 2 ^^^ rotateLeft b 3 ^^^ rotateLeft b 4 ^^^ 0x63

/-- The substitutes of all bytes. -/
def substitutes : Array UInt8 :=
  (Array.range 256).map fun n => substitute (UInt8.ofNat n)

def substituted (a : UInt8) : UInt8 :=
  substitutes.getD a.toNat 0

def add (a b : List UInt8) : List UInt8 :=
  List.zipWith (· ^^^ ·) a b

/-- The order in which bytes stand after the rows were shifted. -/
def shiftedOrder : List Nat :=
  [0, 5, 10, 15, 4, 9, 14, 3, 8, 13, 2, 7, 12, 1, 6, 11]

def shiftRows (block : List UInt8) : List UInt8 :=
  shiftedOrder.map fun i => block.getD i 0

def triple (a : UInt8) : UInt8 :=
  double a ^^^ a

/-- Mixes the four bytes of each column. -/
def mixColumns : List UInt8 → List UInt8
  | a :: b :: c :: d :: rest =>
    (double a ^^^ triple b ^^^ c ^^^ d) :: (a ^^^ double b ^^^ triple c ^^^ d) ::
      (a ^^^ b ^^^ double c ^^^ triple d) :: (triple a ^^^ b ^^^ c ^^^ double d) :: mixColumns rest
  | rest => rest

/-- The words of four bytes that bytes make. -/
def words : List UInt8 → List (List UInt8)
  | a :: b :: c :: d :: rest => [a, b, c, d] :: words rest
  | _ => []

def rotateWord : List UInt8 → List UInt8
  | a :: rest => rest ++ [a]
  | [] => []

/-- The constant of the word with a number, a power of `x`. -/
def roundConstant (i : Nat) : UInt8 :=
  1 <<< UInt8.ofNat (i / 8 - 1)

/-- The word with a number of a schedule, whose last word comes first. -/
def nextWord (ws : List (List UInt8)) (i : Nat) : List UInt8 :=
  let last := ws.getD 0 []
  let changed :=
    if i % 8 = 0 then add ((rotateWord last).map substituted) [roundConstant i, 0, 0, 0]
    else if i % 8 = 4 then last.map substituted
    else last
  add (ws.getD 7 []) changed

/-- The sixty words of the schedule of a key. -/
def schedule (key : List UInt8) : List (List UInt8) :=
  ((List.range 52).foldl (fun ws i => nextWord ws (i + 8) :: ws) (words key).reverse).reverse

/-- The keys of the rounds and the one before them, four words to a key. -/
def roundKeys (key : List UInt8) : List (List UInt8) :=
  let ws := schedule key
  (List.range 15).map fun r => ((ws.drop (4 * r)).take 4).flatten

def round (block key : List UInt8) : List UInt8 :=
  add (mixColumns (shiftRows (block.map substituted))) key

def lastRound (block key : List UInt8) : List UInt8 :=
  add (shiftRows (block.map substituted)) key

/-- Encrypts a block under the keys of the rounds. -/
def encryptWith : List (List UInt8) → List UInt8 → List UInt8
  | [], block => block
  | first :: rest, block =>
    lastRound (rest.dropLast.foldl round (add block first)) (rest.getLastD [])

/-- Encrypts a block under a key of thirty-two bytes. -/
def encrypt (key block : List UInt8) : List UInt8 :=
  encryptWith (roundKeys key) block

end Provisioning.Crypto.Aes

import MarineFix.Sentence.Fields
/-!
The checksum of a sentence combines its code points by exclusive or.
-/

namespace MarineFix.Sentence

/-- Code points beyond a byte take part with all their bits. -/
def checksum (content : Text) : Nat :=
  content.foldl (fun sum character => sum ^^^ character.toNat) 0

def hexPair? (high low : Char) : Option Nat :=
  (Text.hexDigit? high).bind fun sixteens => (Text.hexDigit? low).map (16 * sixteens + ·)

/-- A complete frame gives its content and the checksum that it declares. -/
def frame? (sentence : Text) : Option (Text × Nat) :=
  match Text.strip sentence with
  | '$' :: body =>
      match body.dropWhile (· != '*') with
      | ['*', high, low] => (hexPair? high low).map (body.takeWhile (· != '*'), ·)
      | _ => none
  | _ => none

def hasChecksum (sentence : Text) : Bool := sentence.contains '*'

/-- A sentence without a complete frame has no valid checksum. -/
def validChecksum (sentence : Text) : Bool :=
  match frame? sentence with
  | some (content, declared) => checksum content == declared
  | none => false

theorem foldl_xor (start : Nat) (content : Text) :
    content.foldl (fun sum character => sum ^^^ character.toNat) start =
      start ^^^ checksum content := by
  induction content generalizing start with
  | nil => simp [checksum]
  | cons character rest ih => simp [checksum, ih (start ^^^ _), ih character.toNat, Nat.xor_assoc]

@[simp] theorem checksum_nil : checksum [] = 0 := rfl

@[simp] theorem checksum_cons (character : Char) (rest : Text) :
    checksum (character :: rest) = character.toNat ^^^ checksum rest := by
  simp only [checksum, List.foldl_cons, Nat.zero_xor]
  exact foldl_xor _ _

@[simp] theorem checksum_append (first second : Text) :
    checksum (first ++ second) = checksum first ^^^ checksum second := by
  induction first with
  | nil => simp
  | cons character rest ih => simp [ih, Nat.xor_assoc]

end MarineFix.Sentence

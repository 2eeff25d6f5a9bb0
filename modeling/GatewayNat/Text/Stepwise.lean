import GatewayNat.Text.Utf8

/-!
# Decoding step by step

Many codecs read octets in steps.  A step looks at the first octet and at those
after it, and it keeps a state, such as the character set in use.

* A step reads characters from the first octet and a number of further ones.
* The octets may end inside of what a step has to read.
* The first octet and a number of further ones may be no character.

`decodeSteps` goes through all octets and stops at the first fault.  Each step
takes at least one octet.
-/

namespace GatewayNat.Text.Stepwise

/-- What a step finds. -/
inductive Piece (σ : Type) where
  /-- Characters in the first octet and in further ones, and the next state. -/
  | read (chars : List Char) (further : Nat) (state : σ)
  | short
  /-- The first octet and further ones are no character. -/
  | bad (further : Nat)

/-- Where decoding stopped. -/
structure Fault where
  octet : UInt8
  start : Nat
  /-- The number of octets of the fault. -/
  length : Nat
  /-- Whether the octets ended too early. -/
  isShort : Bool
  deriving DecidableEq, Repr

/-- The wording of a fault in a codec. -/
def Fault.message (codec : String) (f : Fault) : String :=
  undecodableMessage codec f.octet f.start f.length
    (if f.isShort then "incomplete multibyte sequence" else "illegal multibyte sequence")

/-- The characters of octets that start at a position. -/
def decodeSteps {σ : Type} (step : σ → UInt8 → List UInt8 → Piece σ) (state : σ) (start : Nat) :
    List UInt8 → Except Fault (List Char)
  | [] => .ok []
  | a :: rest =>
    match step state a rest with
    | .short => .error ⟨a, start, rest.length + 1, true⟩
    | .bad further => .error ⟨a, start, further + 1, false⟩
    | .read chars further next =>
      (decodeSteps step next (start + further + 1) (rest.drop further)).map (chars ++ ·)
termination_by octets => octets.length
decreasing_by
  simp only [List.length_drop, List.length_cons]
  omega

/-- The character of an octet. -/
def charOf (octet : UInt8) : Char := Char.ofNat octet.toNat

/-- The code of two octets. -/
def codeOf (a b : UInt8) : Nat := a.toNat * 256 + b.toNat

/-- What a step without a state finds that reads some characters, or none. -/
def readOr (chars : Option (List Char)) (further : Nat) : Piece Unit :=
  match chars with
  | some chars => .read chars further ()
  | none => .bad 0

/-- A step that reads ASCII from one octet and all else from two. -/
def pairStep (chars? : UInt8 → UInt8 → Option (List Char)) (_ : Unit) (a : UInt8)
    (rest : List UInt8) : Piece Unit :=
  if a < 0x80 then .read [charOf a] 0 ()
  else
    match rest with
    | [] => .short
    | b :: _ => readOr (chars? a b) 1

end GatewayNat.Text.Stepwise

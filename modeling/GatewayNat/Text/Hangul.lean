/-!
# Hangul

A syllable of Hangul has an initial, a medial and possibly a final letter.  The
syllables have characters in the order of their initials, medials and finals.
Each letter has a character of its own too.
-/

namespace GatewayNat.Text.Hangul

/-- The letters that stand first in a syllable, in order. -/
def initials : List Char := "ㄱㄲㄴㄷㄸㄹㅁㅂㅃㅅㅆㅇㅈㅉㅊㅋㅌㅍㅎ".toList

/-- The letters that stand second in a syllable, in order. -/
def medials : List Char := "ㅏㅐㅑㅒㅓㅔㅕㅖㅗㅘㅙㅚㅛㅜㅝㅞㅟㅠㅡㅢㅣ".toList

/-- The letters that may stand last in a syllable, in order. -/
def finals : List Char := "ㄱㄲㄳㄴㄵㄶㄷㄹㄺㄻㄼㄽㄾㄿㅀㅁㅂㅄㅅㅆㅇㅈㅊㅋㅌㅍㅎ".toList

/-- The syllable of an initial and a medial, by their places, and of a final, where zero stands for
none and one for the first letter. -/
def syllable (initial medial final : Nat) : Char :=
  Char.ofNat (0xac00 + (initial * 21 + medial) * 28 + final)

/-- The syllable of letters. -/
def ofLetters? (initial medial : Char) (final : Option Char) : Option Char := do
  let i ← initials.idxOf? initial
  let m ← medials.idxOf? medial
  match final with
  | none => return syllable i m 0
  | some letter => return syllable i m ((← finals.idxOf? letter) + 1)

end GatewayNat.Text.Hangul

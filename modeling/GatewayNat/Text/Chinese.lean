import GatewayNat.Text.Charset.Big5
import GatewayNat.Text.Charset.Gbk
import GatewayNat.Text.Charset.Hkscs
import GatewayNat.Text.Stepwise

/-!
# Chinese codecs

All of them have ASCII in one octet and other characters in two.  GB 18030 has
the rest of all characters in four octets: a number in mixed bases stands for a
place among the characters that are left.

HZ has seven bits only.  `~\x7b` starts and `~\x7d` ends codes of GB 2312, `~~` stands
for the tilde, and a tilde at the end of a line goes on in the next line.
-/

namespace GatewayNat.Text.Chinese

open Stepwise

/-- The character of a code in GB 2312. -/
def gb2312? (code : Nat) : Option Char :=
  if code / 256 < 0xa1 || 0xf7 < code / 256 || code % 256 < 0xa1 then none
  else if Charset.gb2312Gaps.any fun gap => gap.1 ≤ code && code ≤ gap.2 then none
  else (Charset.gb2312Changes.find? code).or (Charset.gbk.find? code)

/-- A step of GB 2312. -/
def gb2312Step : Unit → UInt8 → List UInt8 → Piece Unit :=
  pairStep fun a b => (gb2312? (codeOf a b)).map ([·])

/-- A step of GBK. -/
def gbkStep : Unit → UInt8 → List UInt8 → Piece Unit :=
  pairStep fun a b => (Charset.gbk.find? (codeOf a b)).map ([·])

/-- The character of a code in a run of GB 18030. -/
def inRun (code : Nat) (run : Nat × Nat × Nat) : Option Char :=
  if run.1 ≤ code && code ≤ run.2.1 then some (Char.ofNat (run.2.2 + (code - run.1))) else none

/-- The character that two octets of GB 18030 stand for. -/
def gb18030Pair? (code : Nat) : Option Char :=
  (Charset.gbk.find? code).or
    ((Charset.gb18030Additions.find? code).or (Charset.gb18030Runs.findSome? (inRun code)))

/-- The number of codes of four octets for the characters up to U+FFFF. -/
def gb18030Count : Nat := 39420

/-- The character of a number of GB 18030. -/
def gb18030Number? (number : Nat) : Option Char :=
  if number < gb18030Count then
    (Charset.gb18030Ranges.reverse.find? fun range => range.1 ≤ number).map fun range =>
      Char.ofNat (range.2 + (number - range.1))
  else none

/-- The character that four octets of GB 18030 stand for. -/
def gb18030Four? (a b c d : UInt8) : Option Char :=
  if a < 0x81 || a = 0xff || c < 0x81 || c = 0xff || d < 0x30 || 0x39 < d then none
  else
    let number (a : Nat) := ((a * 10 + (b.toNat - 0x30)) * 126 + (c.toNat - 0x81)) * 10 +
      (d.toNat - 0x30)
    if a < 0x85 then gb18030Number? (number (a.toNat - 0x81))
    else if a < 0x90 then none
    else
      let n := 0x10000 + number (a.toNat - 0x90)
      if n < 0x110000 then some (Char.ofNat n) else none

/-- A step of GB 18030. -/
def gb18030Step (_ : Unit) (a : UInt8) (rest : List UInt8) : Piece Unit :=
  if a < 0x80 then .read [charOf a] 0 ()
  else
    match rest with
    | [] => .short
    | b :: more =>
      if 0x30 ≤ b && b ≤ 0x39 then
        match more with
        | c :: d :: _ => readOr ((gb18030Four? a b c d).map ([·])) 3
        | _ => .short
      else readOr ((gb18030Pair? (codeOf a b)).map ([·])) 1

/-- A step of Big5. -/
def big5Step : Unit → UInt8 → List UInt8 → Piece Unit :=
  pairStep fun a b => (Charset.big5.find? (codeOf a b)).map ([·])

/-- A step of the code page 950. -/
def codePage950Step : Unit → UInt8 → List UInt8 → Piece Unit :=
  pairStep fun a b =>
    ((Charset.codePage950.find? (codeOf a b)).or (Charset.big5.find? (codeOf a b))).map ([·])

/-- The characters of a code in the Hong Kong supplementary character set. -/
def hkscs? (code : Nat) : Option (List Char) :=
  ((Charset.hkscs.find? code).or
    (if Charset.hkscsGaps.contains code then none else Charset.big5.find? code)).map ([·]) |>.or
      (Charset.findPair? Charset.hkscsPairs code)

/-- A step of Big5 with the Hong Kong supplementary character set. -/
def hkscsStep : Unit → UInt8 → List UInt8 → Piece Unit := pairStep fun a b => hkscs? (codeOf a b)

/-- A step of HZ, whose state is whether codes of GB 2312 are read. -/
def hzStep (coded : Bool) (a : UInt8) (rest : List UInt8) : Piece Bool :=
  if a = 0x7e then
    match rest with
    | [] => .short
    | b :: _ =>
      if coded then (if b = 0x7d then .read [] 1 false else .bad 0)
      else if b = 0x7e then .read ['~'] 1 false
      else if b = 0x7b then .read [] 1 true
      else if b = 0x0a then .read [] 1 false
      else .bad 0
  else if 0x80 ≤ a then .bad 0
  else if !coded then .read [charOf a] 0 false
  else
    match rest with
    | [] => .short
    | b :: _ =>
      match if b < 0x80 then gb2312? (codeOf (a + 0x80) (b + 0x80)) else none with
      | some c => .read [c] 1 true
      | none => .bad 0

end GatewayNat.Text.Chinese

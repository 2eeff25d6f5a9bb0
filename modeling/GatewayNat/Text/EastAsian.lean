import GatewayNat.Text.Iso2022

/-!
# Codecs for East Asia

These codecs have characters in several octets.  Each of them reads step by step,
and it has a name that the wording of its faults tells.
-/

namespace GatewayNat.Text

/-- A codec for an East Asian script. -/
inductive EastAsian where
  | shiftJis
  /-- Shift JIS with an edition of JIS X 0213. -/
  | shiftJisPlanes (edition : Japanese.Edition)
  | codePage932
  | eucJp
  /-- EUC with an edition of JIS X 0213. -/
  | eucPlanes (edition : Japanese.Edition)
  | gb2312
  | gbk
  | gb18030
  | hz
  | big5
  | codePage950
  | hkscs
  | eucKr
  | unifiedHangul
  | johab
  | iso2022 (variant : Iso2022.Variant)
  deriving DecidableEq, Repr

namespace EastAsian

open Stepwise

/-- The name of a codec. -/
def name : EastAsian → String
  | .shiftJis => "shift_jis"
  | .shiftJisPlanes .first => "shift_jisx0213"
  | .shiftJisPlanes .later => "shift_jis_2004"
  | .codePage932 => "cp932"
  | .eucJp => "euc_jp"
  | .eucPlanes .first => "euc_jisx0213"
  | .eucPlanes .later => "euc_jis_2004"
  | .gb2312 => "gb2312"
  | .gbk => "gbk"
  | .gb18030 => "gb18030"
  | .hz => "hz"
  | .big5 => "big5"
  | .codePage950 => "cp950"
  | .hkscs => "big5hkscs"
  | .eucKr => "euc_kr"
  | .unifiedHangul => "cp949"
  | .johab => "johab"
  | .iso2022 variant => variant.name

/-- The characters of octets in a codec. -/
def decode (codec : EastAsian) (octets : List UInt8) : Except Fault (List Char) :=
  match codec with
  | .shiftJis => decodeSteps Japanese.shiftJisStep () 0 octets
  | .shiftJisPlanes edition => decodeSteps (Japanese.shiftPlanesStep edition) () 0 octets
  | .codePage932 => decodeSteps Japanese.codePage932Step () 0 octets
  | .eucJp => decodeSteps Japanese.eucJpStep () 0 octets
  | .eucPlanes edition => decodeSteps (Japanese.eucPlanesStep edition) () 0 octets
  | .gb2312 => decodeSteps Chinese.gb2312Step () 0 octets
  | .gbk => decodeSteps Chinese.gbkStep () 0 octets
  | .gb18030 => decodeSteps Chinese.gb18030Step () 0 octets
  | .hz => decodeSteps Chinese.hzStep false 0 octets
  | .big5 => decodeSteps Chinese.big5Step () 0 octets
  | .codePage950 => decodeSteps Chinese.codePage950Step () 0 octets
  | .hkscs => decodeSteps Chinese.hkscsStep () 0 octets
  | .eucKr => decodeSteps Korean.eucStep () 0 octets
  | .unifiedHangul => decodeSteps Korean.unifiedStep () 0 octets
  | .johab => decodeSteps Korean.johabStep () 0 octets
  | .iso2022 variant => decodeSteps (Iso2022.step variant) .start 0 octets

end EastAsian

end GatewayNat.Text

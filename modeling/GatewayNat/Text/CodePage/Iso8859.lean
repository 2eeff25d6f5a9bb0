import GatewayNat.Text.CodePage.Basic

/-!
# Code pages of ISO 8859

Each of them has ASCII and the control characters in its lower part.
-/

namespace GatewayNat.Text.CodePage

/-- ISO 8859-2. -/
def iso8859_2 : CodePage :=
  ⟨0xa0,
    "\u00a0Ą˘Ł¤ĽŚ§¨ŠŞŤŹ\u00adŽŻ°ą˛ł´ľśˇ¸šşťź˝žżŔÁÂĂÄĹĆÇČÉĘËĚÍÎĎĐŃŇÓÔŐÖ×ŘŮÚŰÜÝŢßŕáâăäĺćçčéęëěí" ++
      "îďđńňóôőö÷řůúűüýţ˙"⟩

/-- ISO 8859-3. -/
def iso8859_3 : CodePage :=
  ⟨0xa0,
    "\u00a0Ħ˘£¤�Ĥ§¨İŞĞĴ\u00ad�Ż°ħ²³´µĥ·¸ışğĵ½�żÀÁÂ�ÄĊĈÇÈÉÊËÌÍÎÏ�ÑÒÓÔĠÖ×ĜÙÚÛÜŬŜßàáâ�äċĉçèéêëìí" ++
      "îï�ñòóôġö÷ĝùúûüŭŝ˙"⟩

/-- ISO 8859-4. -/
def iso8859_4 : CodePage :=
  ⟨0xa0,
    "\u00a0ĄĸŖ¤ĨĻ§¨ŠĒĢŦ\u00adŽ¯°ą˛ŗ´ĩļˇ¸šēģŧŊžŋĀÁÂÃÄÅÆĮČÉĘËĖÍÎĪĐŅŌĶÔÕÖ×ØŲÚÛÜŨŪßāáâãäåæįčéęëėí" ++
      "îīđņōķôõö÷øųúûüũū˙"⟩

/-- ISO 8859-5. -/
def iso8859_5 : CodePage :=
  ⟨0xa0,
    "\u00a0ЁЂЃЄЅІЇЈЉЊЋЌ\u00adЎЏАБВГДЕЖЗИЙКЛМНОПРСТУФХЦЧШЩЪЫЬЭЮЯабвгдежзийклмнопрстуфхцчшщъыьэ" ++
      "юя№ёђѓєѕіїјљњћќ§ўџ"⟩

/-- ISO 8859-6. -/
def iso8859_6 : CodePage :=
  ⟨0xa0,
    "\u00a0���¤�������،\u00ad�������������؛���؟�ءآأؤإئابةتثجحخدذرزسشصضطظعغ�����ـفقكلمنهوىي" ++
      "\u064b\u064c\u064d\u064e\u064f\u0650\u0651\u0652�������������"⟩

/-- ISO 8859-7. -/
def iso8859_7 : CodePage :=
  ⟨0xa0,
    "\u00a0‘’£€₯¦§¨©ͺ«¬\u00ad�―°±²³΄΅Ά·ΈΉΊ»Ό½ΎΏΐΑΒΓΔΕΖΗΘΙΚΛΜΝΞΟΠΡ�ΣΤΥΦΧΨΩΪΫάέήίΰαβγδεζηθικλμν" ++
      "ξοπρςστυφχψωϊϋόύώ�"⟩

/-- ISO 8859-8. -/
def iso8859_8 : CodePage :=
  ⟨0xa0,
    "\u00a0�¢£¤¥¦§¨©×«¬\u00ad®¯°±²³´µ¶·¸¹÷»¼½¾��������������������������������‗אבגדהוזחטיךכלם" ++
      "מןנסעףפץצקרשת��\u200e\u200f�"⟩

/-- ISO 8859-9. -/
def iso8859_9 : CodePage :=
  ⟨0xa0,
    "\u00a0¡¢£¤¥¦§¨©ª«¬\u00ad®¯°±²³´µ¶·¸¹º»¼½¾¿ÀÁÂÃÄÅÆÇÈÉÊËÌÍÎÏĞÑÒÓÔÕÖ×ØÙÚÛÜİŞßàáâãäåæçèéêëìí" ++
      "îïğñòóôõö÷øùúûüışÿ"⟩

/-- ISO 8859-10. -/
def iso8859_10 : CodePage :=
  ⟨0xa0,
    "\u00a0ĄĒĢĪĨĶ§ĻĐŠŦŽ\u00adŪŊ°ąēģīĩķ·ļđšŧž―ūŋĀÁÂÃÄÅÆĮČÉĘËĖÍÎÏÐŅŌÓÔÕÖŨØŲÚÛÜÝÞßāáâãäåæįčéęëėí" ++
      "îïðņōóôõöũøųúûüýþĸ"⟩

/-- ISO 8859-11. -/
def iso8859_11 : CodePage :=
  ⟨0xa0,
    "\u00a0กขฃคฅฆงจฉชซฌญฎฏฐฑฒณดตถทธนบปผฝพฟภมยรฤลฦวศษสหฬอฮฯะ\u0e31าำ\u0e34\u0e35\u0e36\u0e37" ++
      "\u0e38\u0e39\u0e3a����฿เแโใไๅๆ\u0e47\u0e48\u0e49\u0e4a\u0e4b\u0e4c\u0e4d\u0e4e๏๐๑๒๓๔๕๖๗๘" ++
      "๙๚๛����"⟩

/-- ISO 8859-13. -/
def iso8859_13 : CodePage :=
  ⟨0xa0,
    "\u00a0”¢£¤„¦§Ø©Ŗ«¬\u00ad®Æ°±²³“µ¶·ø¹ŗ»¼½¾æĄĮĀĆÄÅĘĒČÉŹĖĢĶĪĻŠŃŅÓŌÕÖ×ŲŁŚŪÜŻŽßąįāćäåęēčéźėģķ" ++
      "īļšńņóōõö÷ųłśūüżž’"⟩

/-- ISO 8859-14. -/
def iso8859_14 : CodePage :=
  ⟨0xa0,
    "\u00a0Ḃḃ£ĊċḊ§Ẁ©ẂḋỲ\u00ad®ŸḞḟĠġṀṁ¶ṖẁṗẃṠỳẄẅṡÀÁÂÃÄÅÆÇÈÉÊËÌÍÎÏŴÑÒÓÔÕÖṪØÙÚÛÜÝŶßàáâãäåæçèéêëìí" ++
      "îïŵñòóôõöṫøùúûüýŷÿ"⟩

/-- ISO 8859-15. -/
def iso8859_15 : CodePage :=
  ⟨0xa0,
    "\u00a0¡¢£€¥Š§š©ª«¬\u00ad®¯°±²³Žµ¶·ž¹º»ŒœŸ¿ÀÁÂÃÄÅÆÇÈÉÊËÌÍÎÏÐÑÒÓÔÕÖ×ØÙÚÛÜÝÞßàáâãäåæçèéêëìí" ++
      "îïðñòóôõö÷øùúûüýþÿ"⟩

/-- ISO 8859-16. -/
def iso8859_16 : CodePage :=
  ⟨0xa0,
    "\u00a0ĄąŁ€„Š§š©Ș«Ź\u00adźŻ°±ČłŽ”¶·žčș»ŒœŸżÀÁÂĂÄĆÆÇÈÉÊËÌÍÎÏĐŃÒÓÔŐÖŚŰÙÚÛÜĘȚßàáâăäćæçèéêëìí" ++
      "îïđńòóôőöśűùúûüęțÿ"⟩

/-- TIS-620, for Thai. -/
def tis620 : CodePage :=
  ⟨0xa0,
    "�กขฃคฅฆงจฉชซฌญฎฏฐฑฒณดตถทธนบปผฝพฟภมยรฤลฦวศษสหฬอฮฯะ\u0e31าำ\u0e34\u0e35\u0e36\u0e37\u0e38" ++
      "\u0e39\u0e3a����฿เแโใไๅๆ\u0e47\u0e48\u0e49\u0e4a\u0e4b\u0e4c\u0e4d\u0e4e๏๐๑๒๓๔๕๖๗๘๙๚๛���" ++
      "�"⟩

end GatewayNat.Text.CodePage

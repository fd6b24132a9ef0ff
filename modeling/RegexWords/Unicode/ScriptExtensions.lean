import RegexWords.Unicode.Script

namespace RegexWords.Unicode

/-- The codes of the scripts with colons between them, nothing where the script says all. -/
def extendedScripts : Runs String :=
  .ofCodes
    ["183 Avst:Cari:Copt:Dupl:Elba:Geor:Glag:Gong:Goth:Grek:Hani:Latn:Lydi:Mahj:Perm:Shaw 516",
     "Beng:Cyrl:Deva:Latn:Lisu:Thai:Toto 10 Bopo:Latn 1 Bopo:Latn3 1 Latn:Lisu 9 Latn:Thai 1",
     "Bopo:Latn 38 Cher:Copt:Cyrl:Grek:Latn:Perm:Sunu:Tale Cher:Cyrl:Grek:Latn:Osge:Sunu:Tale:Todr",
     "Cher:Cyrl:Latn:Tfng Glag:Latn:Sunu:Syrc:Thai",
     "Aghb:Cher:Copt:Cyrl:Goth:Grek:Latn:Osge:Syrc:Tfng:Todr Copt:Elba:Glag:Goth:Kana:Latn",
     "Cyrl:Grek:Latn:Perm Copt:Dupl:Hebr:Latn:Perm:Syrc:Tale:Tfng:Todr",
     "Armn:Cyrl:Dupl:Goth:Grek:Hebr:Latn:Perm:Syrc:Tale Latn:Tfng Dupl:Latn:Syrc",
     "Cher:Cyrl:Latn:Osge Cher:Latn:Tale Latn:Sunu Ethi:Latn 1 Latn:Sunu Cyrl:Latn:Todr 1",
     "Grek:Latn:Perm:Todr 12 Latn:Syrc 2 Cher:Dupl:Kana:Latn:Syrc Cher:Dupl:Latn:Syrc Latn:Syrc 7",
     "Latn:Sunu:Syrc Latn:Syrc 1 Cher:Latn:Syrc Aghb:Cher:Goth:Latn:Sunu:Thai 16 Grek 2 Grek 18",
     "Latn:Osge 5 Aghb:Latn:Todr 4 Latn13 4 Copt:Grek2 269 Cyrl:Perm Cyrl:Glag Cyrl:Latn2",
     "Cyrl:Glag 257 Armn:Geor:Glag 130 Arab:Gara:Nkoo:Rohg:Syrc:Thaa:Yezi 14",
     "Arab:Gara:Nkoo:Rohg:Syrc:Thaa:Yezi Arab:Syrc:Thaa 2 Adlm:Arab:Gara:Nkoo:Rohg:Syrc:Thaa:Yezi",
     "32 Adlm:Arab:Mand:Mani:Ougr:Phlp:Rohg:Sogd:Syrc 10 Arab:Syrc11 10 Arab:Thaa:Yezi10 6",
     "Arab:Syrc 99 Arab:Rohg 636 Beng:Deva:Gran:Gujr:Guru:Knda:Latn:Mlym:Orya:Shrd:Taml:Telu:Tirh",
     "Beng:Deva:Gran:Gujr:Guru:Knda:Latn:Mlym:Orya:Taml:Telu:Tirh 17",
     "Beng:Deva:Dogr:Gong:Gonm:Gran:Gujr:Guru:Knda:Mahj:Mlym:Nand:Onao:Orya:Sind:Sinh:Sylo:Takr:Taml:Telu:Tirh",
     "Beng:Deva:Dogr:Gong:Gonm:Gran:Gujr:Gukh:Guru:Knda:Limb:Mahj:Mlym:Nand:Onao:Orya:Sind:Sinh:Sylo:Takr:Taml:Telu:Tirh",
     "Deva:Dogr:Kthi:Mahj10 118 Beng:Cakm:Sylo10 118 Guru:Mult10 118 Gujr:Khoj10 246 Gran:Taml14",
     "242 Knda:Nand:Tutg10 848 Cakm:Mymr:Tale10 177 Geor:Glag:Latn 1519 Runr3 71",
     "Buhd:Hano:Tagb:Tglg2 203 Mong:Phag2 1 Mong:Phag 1226 Beng:Deva:Gran:Knda Deva",
     "Beng:Deva:Gran:Knda Deva:Gran:Knda Deva Beng:Deva2 Deva:Shrd Beng:Deva Deva:Shrd",
     "Deva:Knda:Mlym:Orya:Taml:Telu Deva Deva:Shrd2 Deva2 Deva:Shrd Beng:Deva Deva7 Deva:Nand",
     "Beng:Deva Deva2 Beng:Deva Deva4 Beng:Deva:Gran:Knda:Mlym:Nand:Orya:Sinh:Telu:Tirh:Tutg",
     "Deva:Gran Deva:Gran:Knda:Tutg Beng:Deva2 Beng Deva:Gran2 Nand 197 Grek2 54 Cyrl:Latn:Syrc 1",
     "Syrc 564 Latn:Mong:Phag 31 Adlm:Arab 10 Cari:Geor:Glag:Hung:Lyci:Orkh 2 Cari:Grek:Hung:Mero",
     "146 Deva:Gran:Latn 3366 Copt:Latn 24 Avst:Orkh Avst:Cari:Geor:Hung:Kthi:Lydi:Samr 10 Dupl 4",
     "Adlm:Arab:Hung 1 Cyrl:Glag 428 Hani:Tang16 1 Bopo:Hang:Hani:Hira:Kana:Mong:Yiii",
     "Bopo:Hang:Hani:Hira:Kana:Mong:Phag:Yiii Bopo:Hang:Hani:Hira:Kana 2 Hani 1",
     "Bopo:Hang:Hani:Hira:Kana:Mong:Tibt:Yiii2 Bopo:Hang:Hani:Hira:Kana:Lisu:Mong:Tibt:Yiii2",
     "Bopo:Hang:Hani:Hira:Kana:Yiii6 1 Bopo:Hang:Hani:Hira:Kana Bopo:Hang:Hani:Hira:Kana:Yiii8",
     "Bopo:Hang:Hani:Hira:Kana4 10 Bopo:Hani4 2 Bopo:Hang:Hani:Hira:Kana Hira:Kana5 1",
     "Bopo:Hang:Hani:Hira:Kana 4 Hani:Hira:Kana2 Hani2 89 Hira:Kana4 3 Hira:Kana 90",
     "Bopo:Hang:Hani:Hira:Kana:Yiii Hira:Kana 147 Hani16 32 Hani38 9 Hani:Tang 48 Hani40 56 Hani49",
     "15 Hani12 51 Hani 88 Hani25 10 Hani5 96 Hani31 29296 Cyrl:Glag 144 Hani:Latn8 296",
     "Deva:Dogr:Gujr:Guru:Khoj:Knda:Kthi:Mahj:Mlym:Modi:Nand:Shrd:Sind:Takr:Tirh:Tutg3",
     "Deva:Dogr:Gujr:Guru:Khoj:Knda:Kthi:Mahj:Modi:Nand:Shrd:Sind:Takr:Tirh:Tutg3",
     "Deva:Dogr:Gujr:Guru:Khoj:Kthi:Mahj:Modi:Sind:Takr:Tirh2",
     "Deva:Dogr:Gujr:Guru:Khoj:Kthi:Mahj:Modi:Shrd:Sind:Takr:Tirh",
     "Deva:Dogr:Gujr:Guru:Khoj:Kthi:Mahj:Modi:Sind:Takr:Tirh 183 Beng:Deva:Tutg 1 Deva:Taml 58",
     "Kali:Latn:Mymr 160 Bugi:Java 21358 Arab:Nkoo2 178 Arab:Thaa 10 Arab:Thaa 71",
     "Bopo:Hang:Hani:Hira:Kana2 282 Bopo:Hang:Hani:Hira:Kana:Yiii5 10 Hira:Kana 45 Hira:Kana2 352",
     "Cpmn:Cprt:Linb2 Cprt:Linb 4 Cprt:Lina:Linb45 3 Cprt:Linb9 416 Arab:Copt28 2038 Mani:Ougr",
     "2062 Gran:Taml 1 Gran:Taml 55 Gran:Taml2 3219 Gran:Taml2 1 Gran:Taml 40140 Dupl4 5820 Hani18",
     "7902 Hani2"]

def scriptExtensions (c : Char) : List Script :=
  match extendedScripts.find? c.toNat with
  | none | some "" => [script c]
  | some codes => (codes.splitOn ":").map Script.mk

end RegexWords.Unicode

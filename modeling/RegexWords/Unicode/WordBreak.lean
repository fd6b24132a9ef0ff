import RegexWords.Unicode.Aliases
import RegexWords.Unicode.Runs

namespace RegexWords.Unicode

/-- A class of characters that behave alike at the edges of words, given by its code. -/
structure WordBreak where
  code : String
  deriving DecidableEq, Repr

namespace WordBreak

def names : Aliases :=
  .ofLines
    ["CR DQ:doublequote EX:extendnumlet Extend FO:format HL:hebrewletter KA:katakana LE:aletter LF",
     "MB:midnumlet ML:midletter MN:midnum NL:newline NU:numeric RI:regionalindicator",
     "SQ:singlequote WSegSpace ZWJ"]

def ofName? (name : String) : Option WordBreak :=
  (names.lookup name).map mk

def table : Runs String :=
  .ofCodes
    ["XX10 LF NL2 CR XX18 WSegSpace XX DQ XX4 SQ XX4 MN XX MB XX NU10 ML MN XX5 LE26 XX4 EX XX",
     "LE26 XX10 NL XX36 LE XX2 FO XX7 LE XX ML XX2 LE XX5 LE23 XX LE31 XX LE480 XX6 LE34 Extend112",
     "LE5 XX LE2 XX2 LE4 MN LE XX6 LE ML LE3 XX LE XX LE20 XX LE83 XX LE139 XX Extend7 LE166 XX",
     "LE38 XX2 LE4 XX LE ML LE41 MN LE XX6 Extend45 XX Extend XX Extend2 XX Extend2 XX Extend XX8",
     "HL27 XX4 HL4 LE ML XX11 NU6 XX6 MN2 XX2 Extend11 XX FO XX3 LE43 Extend21 NU10 XX NU MN XX",
     "LE2 Extend LE99 XX LE Extend7 NU XX Extend6 LE2 Extend2 XX Extend4 LE2 NU10 LE3 XX2 LE XX15",
     "LE2 Extend LE30 Extend27 XX2 LE89 Extend11 LE XX14 NU10 LE33 Extend9 LE2 XX2 MN XX LE XX2",
     "Extend XX2 LE22 Extend4 LE Extend9 LE Extend3 LE Extend5 XX18 LE25 Extend3 XX4 LE11 XX5 LE24",
     "XX LE6 XX NU2 XX5 Extend9 LE42 Extend24 NU Extend33 LE54 Extend3 LE Extend18 LE Extend7 LE10",
     "Extend2 XX2 NU10 XX LE16 Extend3 XX LE8 XX2 LE2 XX2 LE22 XX LE7 XX LE XX3 LE4 XX2 Extend LE",
     "Extend7 XX2 Extend2 XX2 Extend3 LE XX8 Extend XX4 LE2 XX LE3 Extend2 XX2 NU10 LE2 XX10 LE XX",
     "Extend XX2 Extend3 XX LE6 XX4 LE2 XX2 LE22 XX LE7 XX LE2 XX LE2 XX LE2 XX2 Extend XX Extend5",
     "XX4 Extend2 XX2 Extend3 XX3 Extend XX7 LE4 XX LE XX7 NU10 Extend2 LE3 Extend XX11 Extend3 XX",
     "LE9 XX LE3 XX LE22 XX LE7 XX LE2 XX LE5 XX2 Extend LE Extend8 XX Extend3 XX Extend3 XX2 LE",
     "XX15 LE2 Extend2 XX2 NU10 XX9 LE Extend6 XX Extend3 XX LE8 XX2 LE2 XX2 LE22 XX LE7 XX LE2 XX",
     "LE5 XX2 Extend LE Extend7 XX2 Extend2 XX2 Extend3 XX7 Extend3 XX4 LE2 XX LE3 Extend2 XX2",
     "NU10 XX LE XX16 Extend LE XX LE6 XX3 LE3 XX LE4 XX3 LE2 XX LE XX LE2 XX3 LE2 XX3 LE3 XX3",
     "LE12 XX4 Extend5 XX3 Extend3 XX Extend4 XX2 LE XX6 Extend XX14 NU10 XX16 Extend5 LE8 XX LE3",
     "XX LE23 XX LE16 XX2 Extend LE Extend7 XX Extend3 XX Extend4 XX7 Extend2 XX LE3 XX2 LE XX2",
     "LE2 Extend2 XX2 NU10 XX16 LE Extend3 XX LE8 XX LE3 XX LE23 XX LE10 XX LE5 XX2 Extend LE",
     "Extend7 XX Extend3 XX Extend4 XX7 Extend2 XX6 LE2 XX LE2 Extend2 XX2 NU10 XX LE2 Extend XX12",
     "Extend4 LE9 XX LE3 XX LE41 Extend2 LE Extend7 XX Extend3 XX Extend4 LE XX5 LE3 Extend XX7",
     "LE3 Extend2 XX2 NU10 XX10 LE6 XX Extend3 XX LE18 XX3 LE24 XX LE9 XX LE XX2 LE7 XX3 Extend",
     "XX4 Extend6 XX Extend XX Extend8 XX6 NU10 XX2 Extend2 XX61 Extend XX2 Extend7 XX12 Extend8",
     "XX NU10 XX87 Extend XX2 Extend9 XX11 Extend7 XX NU10 XX38 LE XX23 Extend2 XX6 NU10 XX11",
     "Extend XX Extend XX Extend XX4 Extend2 LE8 XX LE36 XX4 Extend20 XX Extend2 LE5 Extend11 XX",
     "Extend36 XX9 Extend XX100 Extend20 XX NU10 XX12 Extend4 XX4 Extend3 XX Extend3 XX2 Extend7",
     "XX3 Extend4 XX13 Extend12 XX Extend NU10 Extend4 XX2 LE38 XX LE XX5 LE XX2 LE43 XX LE333 XX",
     "LE4 XX2 LE7 XX LE XX LE4 XX2 LE41 XX LE4 XX2 LE33 XX LE4 XX2 LE7 XX LE XX LE4 XX2 LE15 XX",
     "LE57 XX LE4 XX2 LE67 XX2 Extend3 XX32 LE16 XX16 LE86 XX2 LE6 XX3 LE620 XX2 LE17 WSegSpace",
     "LE26 XX5 LE75 XX3 LE11 XX7 LE18 Extend4 XX9 LE19 Extend3 XX11 LE18 Extend2 XX12 LE13 XX LE3",
     "XX Extend2 XX64 Extend32 XX9 Extend XX2 NU10 XX33 Extend3 FO Extend NU10 XX6 LE89 XX7 LE5",
     "Extend2 LE34 Extend LE XX5 LE70 XX10 LE31 XX Extend12 XX4 Extend12 XX10 NU10 XX128 NU11 XX37",
     "LE23 Extend5 XX57 Extend10 XX Extend29 XX2 Extend NU10 XX6 NU10 XX22 Extend31 XX49 Extend5",
     "LE47 Extend17 LE8 XX3 NU10 XX17 Extend9 XX12 Extend3 LE30 Extend13 LE2 NU10 LE44 Extend14",
     "XX12 LE36 Extend20 XX8 NU10 XX3 LE3 NU10 LE36 XX2 LE11 XX5 LE43 XX2 LE3 XX16 Extend3 XX",
     "Extend21 LE4 Extend LE6 Extend LE2 Extend3 LE XX5 LE192 Extend64 LE278 XX2 LE6 XX2 LE38 XX2",
     "LE6 XX2 LE8 XX LE XX LE XX LE XX LE31 XX2 LE53 XX LE7 XX LE XX3 LE3 XX LE7 XX3 LE4 XX2 LE6",
     "XX4 LE13 XX5 LE3 XX LE7 XX3 WSegSpace7 XX WSegSpace3 XX Extend ZWJ FO2 XX8 MB2 XX10 MB XX2",
     "ML NL2 FO5 EX XX15 EX2 XX3 MN XX15 EX XX10 WSegSpace FO5 XX FO10 XX LE XX13 LE XX16 LE13",
     "XX51 Extend33 XX17 LE XX4 LE XX2 LE10 XX LE XX3 LE5 XX6 LE XX LE XX LE XX LE4 XX LE11 XX2",
     "LE4 XX5 LE5 XX4 LE XX17 LE41 XX813 LE52 XX1814 LE229 XX6 LE4 Extend3 LE2 XX12 LE38 XX LE XX5",
     "LE XX2 LE56 XX7 LE XX15 Extend LE23 XX9 LE7 XX LE7 XX LE7 XX LE7 XX LE7 XX LE7 XX LE7 XX LE7",
     "XX Extend32 XX47 LE XX464 WSegSpace XX4 LE XX36 Extend6 XX KA5 XX5 LE2 XX92 Extend2 KA2 XX3",
     "KA91 XX KA4 XX5 LE43 XX LE94 XX17 LE32 XX48 KA16 XX208 KA47 XX KA88 XX27816 LE1165 XX67 LE46",
     "XX2 LE269 XX3 LE16 NU10 LE2 XX20 LE47 Extend4 XX Extend10 XX LE31 Extend2 LE80 Extend2 XX22",
     "LE198 XX2 LE2 XX LE XX LE8 XX21 LE16 Extend LE3 Extend LE4 Extend LE23 Extend5 XX4 Extend",
     "XX19 LE52 XX12 Extend2 LE50 Extend18 XX10 NU10 XX6 Extend18 LE6 XX3 LE XX LE2 Extend NU10",
     "LE28 Extend8 XX2 LE23 Extend13 XX12 LE29 XX3 Extend4 LE47 Extend14 XX14 LE NU10 XX11 Extend",
     "XX10 NU10 XX6 LE41 Extend14 XX9 LE3 Extend LE8 Extend2 XX2 NU10 XX33 Extend3 XX50 Extend XX",
     "Extend3 XX2 Extend2 XX5 Extend2 XX Extend XX30 LE11 Extend5 XX2 LE3 Extend2 XX10 LE6 XX2 LE6",
     "XX2 LE6 XX9 LE7 XX LE7 XX LE58 XX6 LE115 Extend8 XX Extend2 XX2 NU10 XX6 LE11172 XX12 LE23",
     "XX4 LE49 XX8964 LE7 XX12 LE5 XX5 HL Extend HL10 XX HL13 XX HL5 XX HL XX HL2 XX HL2 XX HL10",
     "LE98 XX33 LE363 XX18 LE64 XX2 LE54 XX40 LE12 XX4 Extend16 XX3 ML XX12 Extend16 XX3 EX2 XX24",
     "EX3 MN XX MB XX MN ML XX26 LE5 XX LE135 XX2 FO XX7 MB XX4 MN XX MB XX NU10 ML MN XX5 LE26",
     "XX4 EX XX LE26 XX11 KA56 Extend2 LE31 XX3 LE6 XX2 LE6 XX2 LE6 XX2 LE3 XX28 FO3 XX4 LE12 XX",
     "LE26 XX LE19 XX LE2 XX LE15 XX2 LE14 XX34 LE123 XX69 LE53 XX136 Extend XX130 LE29 XX3 LE49",
     "XX15 Extend XX31 LE32 XX13 LE30 XX5 LE38 Extend5 XX5 LE30 XX2 LE36 XX4 LE8 XX LE5 XX42 LE158",
     "XX2 NU10 XX6 LE36 XX4 LE36 XX4 LE40 XX8 LE52 XX12 LE11 XX LE15 XX LE7 XX LE2 XX LE11 XX LE15",
     "XX LE7 XX LE2 XX3 LE52 XX12 LE311 XX9 LE22 XX10 LE8 XX24 LE6 XX LE42 XX LE9 XX69 LE6 XX2 LE",
     "XX LE44 XX LE2 XX3 LE XX2 LE23 XX10 LE23 XX9 LE31 XX65 LE19 XX LE2 XX10 LE22 XX10 LE26 XX70",
     "LE56 XX6 LE2 XX64 LE Extend3 XX Extend2 XX5 Extend4 LE4 XX LE3 XX LE29 XX2 Extend3 XX4",
     "Extend XX32 LE29 XX3 LE29 XX35 LE8 XX LE28 Extend2 XX25 LE54 XX10 LE22 XX10 LE19 XX13 LE18",
     "XX110 LE73 XX55 LE51 XX13 LE51 XX13 LE36 Extend4 XX8 NU10 XX6 NU10 LE28 XX3 Extend5 XX LE23",
     "XX250 LE42 XX Extend2 XX3 LE2 XX16 LE3 XX55 Extend4 LE29 XX10 LE XX8 LE22 Extend11 XX31 LE18",
     "Extend4 XX42 LE21 XX27 LE23 XX9 Extend3 LE53 Extend15 XX31 NU10 Extend LE2 Extend2 LE XX9",
     "Extend4 LE45 Extend11 XX2 NU XX4 Extend XX10 NU XX2 LE25 XX7 NU10 XX6 Extend3 LE36 Extend14",
     "XX NU10 XX4 LE Extend2 LE XX8 LE35 Extend XX2 LE XX9 Extend3 LE48 Extend14 LE4 XX4 Extend4",
     "XX Extend2 NU10 LE XX LE XX35 LE18 XX LE25 Extend12 XX6 Extend LE2 Extend XX62 LE7 XX LE XX",
     "LE4 XX LE15 XX LE10 XX7 LE47 Extend12 XX5 NU10 XX6 Extend4 XX LE8 XX2 LE2 XX2 LE22 XX LE7 XX",
     "LE2 XX LE5 XX Extend2 LE Extend7 XX2 Extend2 XX2 Extend3 XX2 LE XX6 Extend XX5 LE5 Extend2",
     "XX2 Extend7 XX3 Extend5 XX11 LE10 XX LE XX2 LE XX LE38 XX LE Extend9 XX Extend XX2 Extend XX",
     "Extend4 XX Extend5 LE Extend LE XX13 Extend2 XX29 LE53 Extend18 LE4 XX5 NU10 XX4 Extend LE3",
     "XX30 LE48 Extend20 LE2 XX LE XX8 NU10 XX166 LE47 Extend7 XX2 Extend9 XX23 LE4 Extend2 XX34",
     "LE48 Extend17 XX3 LE XX11 NU10 XX38 LE43 Extend13 LE XX7 NU10 XX6 NU20 XX57 Extend15 XX4",
     "NU10 XX198 LE44 Extend15 XX101 LE64 NU10 XX21 LE8 XX2 LE XX2 LE8 XX LE2 XX LE24 Extend6 XX",
     "Extend2 XX2 Extend4 LE Extend LE Extend2 XX12 NU10 XX70 LE8 XX2 LE39 Extend7 XX2 Extend7 LE",
     "XX LE Extend XX27 LE Extend10 LE40 Extend7 LE Extend4 XX8 Extend XX8 LE Extend11 LE46",
     "Extend16 XX3 LE XX18 LE73 XX199 LE33 XX15 NU10 XX6 LE9 XX LE37 Extend8 XX Extend8 LE XX15",
     "NU10 XX24 LE30 XX2 Extend22 XX Extend14 XX73 LE7 XX LE2 XX LE38 Extend6 XX3 Extend XX",
     "Extend2 XX Extend7 LE Extend XX8 NU10 XX6 LE6 XX LE2 XX LE32 Extend5 XX Extend2 XX Extend5",
     "LE XX7 NU10 XX310 LE19 Extend4 XX9 Extend2 LE Extend LE13 XX LE34 Extend7 XX3 Extend5 XX13",
     "NU10 Extend XX85 LE XX79 LE922 XX102 LE111 XX17 LE196 XX2636 LE97 XX15 LE1072 FO16 Extend",
     "LE6 Extend15 XX10 LE3995 XX5 LE583 XX6841 LE30 Extend18 NU10 XX1734 LE569 XX7 LE31 XX NU10",
     "XX6 LE79 XX NU10 XX6 LE30 XX2 Extend5 XX11 LE48 Extend7 XX9 LE4 XX12 NU10 XX9 LE21 XX5 LE19",
     "XX432 LE45 XX3 NU10 XX198 LE64 XX128 LE75 XX4 Extend LE Extend55 XX7 Extend4 LE13 XX64 LE2",
     "XX LE Extend XX11 Extend2 XX16382 KA4 XX KA7 XX KA2 XX KA XX287 KA3 XX50 KA XX14 KA4 XX2712",
     "LE107 XX5 LE13 XX3 LE9 XX7 LE10 XX3 Extend2 XX FO4 XX4172 NU10 XX518 Extend46 XX2 Extend23",
     "XX542 Extend5 XX3 Extend6 FO8 Extend8 XX2 Extend7 XX30 Extend4 XX148 Extend3 XX443 LE85 XX",
     "LE71 XX LE2 XX2 LE XX2 LE2 XX2 LE4 XX LE12 XX LE XX LE7 XX LE65 XX LE4 XX2 LE8 XX LE7 XX",
     "LE28 XX LE4 XX LE5 XX LE XX3 LE7 XX LE340 XX2 LE25 XX LE25 XX LE31 XX LE25 XX LE31 XX LE25",
     "XX LE31 XX LE25 XX LE31 XX LE25 XX LE8 XX2 NU50 XX512 Extend55 XX4 Extend50 XX8 Extend XX14",
     "Extend XX22 Extend5 XX Extend15 XX1104 LE31 XX6 LE6 XX213 Extend7 XX Extend17 XX2 Extend7 XX",
     "Extend2 XX Extend5 XX5 LE62 XX33 Extend XX112 LE45 XX3 Extend7 LE7 XX2 NU10 XX4 LE XX321",
     "LE30 Extend XX17 LE44 Extend4 NU10 XX470 LE28 Extend4 NU10 XX214 LE30 Extend2 LE NU10 XX485",
     "LE7 XX LE4 XX LE2 XX LE15 XX LE197 XX11 Extend7 XX41 LE68 Extend7 LE XX4 NU10 XX1190 LE4 XX",
     "LE27 XX LE2 XX LE XX2 LE XX LE10 XX LE4 XX LE XX LE XX6 LE XX4 LE XX LE XX LE XX LE3 XX LE2",
     "XX LE XX2 LE XX LE XX LE XX LE XX LE XX LE2 XX LE XX2 LE4 XX LE7 XX LE4 XX LE4 XX LE XX LE10",
     "XX LE17 XX5 LE3 XX LE5 XX LE17 XX628 LE26 XX6 LE26 XX6 LE26 XX92 RI26 XX507 Extend5 XX2032",
     "NU10 XX787463 FO XX30 Extend96 XX128 Extend240"]

end WordBreak

def wordBreak (c : Char) : WordBreak :=
  ⟨(WordBreak.table.find? c.toNat).getD "XX"⟩

end RegexWords.Unicode

import RegexWords.Unicode.Aliases
import RegexWords.Unicode.Runs

namespace RegexWords.Unicode

/-- A class of characters that behave alike at the edges of sentences, given by its code. -/
structure SentenceBreak where
  code : String
  deriving DecidableEq, Repr

namespace SentenceBreak

def names : Aliases :=
  .ofLines
    ["AT:aterm CL:close CR EX:extend FO:format LE:oletter LF LO:lower NU:numeric SC:scontinue",
     "SE:sep SP ST:sterm UP:upper"]

def ofName? (name : String) : Option SentenceBreak :=
  (names.lookup name).map mk

def table : Runs String :=
  .ofCodes
    ["XX9 SP LF SP2 CR XX18 SP ST CL XX4 CL3 XX2 SC2 AT XX NU10 SC2 XX3 ST XX UP26 CL XX CL XX3",
     "LO26 CL XX CL XX7 SE XX26 SP XX9 LO CL XX FO XX7 LO XX4 LO CL XX4 UP23 XX UP7 LO24 XX LO8 UP",
     "LO UP LO UP LO UP LO UP LO UP LO UP LO UP LO UP LO UP LO UP LO UP LO UP LO UP LO UP LO UP LO",
     "UP LO UP LO UP LO UP LO UP LO UP LO UP LO UP LO UP LO UP LO UP LO UP LO2 UP LO UP LO UP LO",
     "UP LO UP LO UP LO UP LO UP LO2 UP LO UP LO UP LO UP LO UP LO UP LO UP LO UP LO UP LO UP LO",
     "UP LO UP LO UP LO UP LO UP LO UP LO UP LO UP LO UP LO UP LO UP LO UP LO UP LO UP2 LO UP LO",
     "UP LO3 UP2 LO UP LO UP2 LO UP3 LO2 UP4 LO UP2 LO UP3 LO3 UP2 LO UP2 LO UP LO UP LO UP2 LO UP",
     "LO2 UP LO UP2 LO UP3 LO UP LO UP2 LO2 LE UP LO3 LE4 UP2 LO UP2 LO UP2 LO UP LO UP LO UP LO",
     "UP LO UP LO UP LO UP LO UP LO2 UP LO UP LO UP LO UP LO UP LO UP LO UP LO UP LO UP LO2 UP2 LO",
     "UP LO UP3 LO UP LO UP LO UP LO UP LO UP LO UP LO UP LO UP LO UP LO UP LO UP LO UP LO UP LO",
     "UP LO UP LO UP LO UP LO UP LO UP LO UP LO UP LO UP LO UP LO UP LO UP LO UP LO UP LO UP LO UP",
     "LO7 UP2 LO UP2 LO2 UP LO UP4 LO UP LO UP LO UP LO UP LO69 LE LO36 LE7 LO2 XX4 LE12 XX14 LO5",
     "XX7 LE XX LE XX17 EX112 UP LO UP LO LE XX UP LO XX2 LO4 SC UP XX6 UP XX UP3 XX UP XX UP2 LO",
     "UP17 XX UP9 LO35 UP LO2 UP3 LO3 UP LO UP LO UP LO UP LO UP LO UP LO UP LO UP LO UP LO UP LO",
     "UP LO UP LO5 UP LO XX UP LO UP2 LO2 UP51 LO48 UP LO UP LO UP LO UP LO UP LO UP LO UP LO UP",
     "LO UP LO UP LO UP LO UP LO UP LO UP LO UP LO UP LO UP LO XX EX7 UP LO UP LO UP LO UP LO UP",
     "LO UP LO UP LO UP LO UP LO UP LO UP LO UP LO UP LO UP LO UP LO UP LO UP LO UP LO UP LO UP LO",
     "UP LO UP LO UP LO UP LO UP LO UP LO UP LO UP2 LO UP LO UP LO UP LO UP LO UP LO UP LO2 UP LO",
     "UP LO UP LO UP LO UP LO UP LO UP LO UP LO UP LO UP LO UP LO UP LO UP LO UP LO UP LO UP LO UP",
     "LO UP LO UP LO UP LO UP LO UP LO UP LO UP LO UP LO UP LO UP LO UP LO UP LO UP LO UP LO UP LO",
     "UP LO UP LO UP LO UP LO UP LO UP LO UP LO UP LO UP LO UP LO UP LO UP LO UP LO UP LO UP LO UP",
     "LO XX UP38 XX2 LE XX3 SC XX2 LO41 ST XX7 EX45 XX EX XX EX2 XX EX2 XX EX XX8 LE27 XX4 LE5",
     "XX12 NU6 XX6 SC2 XX2 EX11 XX FO ST3 LE43 EX21 NU10 XX NU2 XX LE2 EX LE99 ST LE EX7 NU XX EX6",
     "LE2 EX2 XX EX4 LE2 NU10 LE3 XX2 LE ST3 XX12 FO LE EX LE30 EX27 XX2 LE89 EX11 LE XX14 NU10",
     "LE33 EX9 LE2 XX2 SC ST LE XX2 EX XX2 LE22 EX4 LE EX9 LE EX3 LE EX5 XX9 ST XX ST XX3 ST2 XX",
     "LE25 EX3 XX4 LE11 XX5 LE24 XX LE6 XX NU2 XX5 EX9 LE42 EX24 NU EX33 LE54 EX3 LE EX18 LE EX7",
     "LE10 EX2 ST2 NU10 XX LE16 EX3 XX LE8 XX2 LE2 XX2 LE22 XX LE7 XX LE XX3 LE4 XX2 EX LE EX7 XX2",
     "EX2 XX2 EX3 LE XX8 EX XX4 LE2 XX LE3 EX2 XX2 NU10 LE2 XX10 LE XX EX XX2 EX3 XX LE6 XX4 LE2",
     "XX2 LE22 XX LE7 XX LE2 XX LE2 XX LE2 XX2 EX XX EX5 XX4 EX2 XX2 EX3 XX3 EX XX7 LE4 XX LE XX7",
     "NU10 EX2 LE3 EX XX11 EX3 XX LE9 XX LE3 XX LE22 XX LE7 XX LE2 XX LE5 XX2 EX LE EX8 XX EX3 XX",
     "EX3 XX2 LE XX15 LE2 EX2 XX2 NU10 XX9 LE EX6 XX EX3 XX LE8 XX2 LE2 XX2 LE22 XX LE7 XX LE2 XX",
     "LE5 XX2 EX LE EX7 XX2 EX2 XX2 EX3 XX7 EX3 XX4 LE2 XX LE3 EX2 XX2 NU10 XX LE XX16 EX LE XX",
     "LE6 XX3 LE3 XX LE4 XX3 LE2 XX LE XX LE2 XX3 LE2 XX3 LE3 XX3 LE12 XX4 EX5 XX3 EX3 XX EX4 XX2",
     "LE XX6 EX XX14 NU10 XX16 EX5 LE8 XX LE3 XX LE23 XX LE16 XX2 EX LE EX7 XX EX3 XX EX4 XX7 EX2",
     "XX LE3 XX2 LE XX2 LE2 EX2 XX2 NU10 XX16 LE EX3 XX LE8 XX LE3 XX LE23 XX LE10 XX LE5 XX2 EX",
     "LE EX7 XX EX3 XX EX4 XX7 EX2 XX6 LE2 XX LE2 EX2 XX2 NU10 XX LE2 EX XX12 EX4 LE9 XX LE3 XX",
     "LE41 EX2 LE EX7 XX EX3 XX EX4 LE XX5 LE3 EX XX7 LE3 EX2 XX2 NU10 XX10 LE6 XX EX3 XX LE18 XX3",
     "LE24 XX LE9 XX LE XX2 LE7 XX3 EX XX4 EX6 XX EX XX EX8 XX6 NU10 XX2 EX2 XX13 LE48 EX LE2 EX7",
     "XX5 LE7 EX8 XX NU10 XX39 LE2 XX LE XX LE5 XX LE24 XX LE XX LE10 EX LE2 EX9 LE XX2 LE5 XX LE",
     "XX EX7 XX NU10 XX2 LE4 XX32 LE XX23 EX2 XX6 NU10 XX11 EX XX EX XX EX CL4 EX2 LE8 XX LE36 XX4",
     "EX20 XX EX2 LE5 EX11 XX EX36 XX9 EX XX57 LE43 EX20 LE NU10 ST2 XX4 LE6 EX4 LE4 EX3 LE EX3",
     "LE2 EX7 LE3 EX4 LE13 EX12 LE EX NU10 EX4 XX2 UP38 XX UP XX5 UP XX2 LE43 XX LO LE332 XX LE4",
     "XX2 LE7 XX LE XX LE4 XX2 LE41 XX LE4 XX2 LE33 XX LE4 XX2 LE7 XX LE XX LE4 XX2 LE15 XX LE57",
     "XX LE4 XX2 LE67 XX2 EX3 XX2 ST XX4 ST2 XX23 LE16 XX16 UP86 XX2 LO6 XX3 LE620 XX ST LE17 SP",
     "LE26 CL2 XX3 LE75 XX3 LE11 XX7 LE18 EX4 XX9 LE19 EX3 ST2 XX9 LE18 EX2 XX12 LE13 XX LE3 XX",
     "EX2 XX12 LE52 EX32 ST2 XX LE XX4 LE EX XX2 NU10 XX24 SC ST XX4 SC ST XX EX3 FO EX NU10 XX6",
     "LE89 XX7 LE5 EX2 LE34 EX LE XX5 LE70 XX10 LE31 XX EX12 XX4 EX12 XX8 ST2 NU10 LE30 XX2 LE5",
     "XX11 LE44 XX4 LE26 XX6 NU11 XX37 LE23 EX5 XX4 LE53 EX10 XX EX29 XX2 EX NU10 XX6 NU10 XX13 LE",
     "ST4 XX4 EX31 XX49 EX5 LE47 EX17 LE8 XX ST2 NU10 ST2 XX2 ST2 XX11 EX9 XX9 ST3 EX3 LE30 EX13",
     "LE2 NU10 LE44 EX14 XX12 LE36 EX20 XX3 ST2 XX3 NU10 XX3 LE3 NU10 LE36 ST2 LO9 UP LO XX5 LE43",
     "XX2 LE3 XX16 EX3 XX EX21 LE4 EX LE6 EX LE2 EX3 LE XX5 LO192 EX64 UP LO UP LO UP LO UP LO UP",
     "LO UP LO UP LO UP LO UP LO UP LO UP LO UP LO UP LO UP LO UP LO UP LO UP LO UP LO UP LO UP LO",
     "UP LO UP LO UP LO UP LO UP LO UP LO UP LO UP LO UP LO UP LO UP LO UP LO UP LO UP LO UP LO UP",
     "LO UP LO UP LO UP LO UP LO UP LO UP LO UP LO UP LO UP LO UP LO UP LO UP LO UP LO UP LO UP LO",
     "UP LO UP LO UP LO UP LO UP LO UP LO UP LO UP LO UP LO UP LO UP LO UP LO UP LO UP LO UP LO UP",
     "LO UP LO UP LO UP LO UP LO UP LO UP LO UP LO UP LO9 UP LO UP LO UP LO UP LO UP LO UP LO UP",
     "LO UP LO UP LO UP LO UP LO UP LO UP LO UP LO UP LO UP LO UP LO UP LO UP LO UP LO UP LO UP LO",
     "UP LO UP LO UP LO UP LO UP LO UP LO UP LO UP LO UP LO UP LO UP LO UP LO UP LO UP LO UP LO UP",
     "LO UP LO UP LO UP LO UP LO UP LO UP LO UP LO UP LO UP LO UP LO UP LO9 UP8 LO6 XX2 UP6 XX2",
     "LO8 UP8 LO8 UP8 LO6 XX2 UP6 XX2 LO8 XX UP XX UP XX UP XX UP LO8 UP8 LO14 XX2 LO8 UP8 LO8 UP8",
     "LO8 UP8 LO5 XX LO2 UP5 XX LO XX3 LO3 XX LO2 UP5 XX3 LO4 XX2 LO2 UP4 XX4 LO8 UP5 XX5 LO3 XX",
     "LO2 UP5 XX3 SP11 FO EX2 FO2 XX3 SC2 XX3 CL8 XX4 AT XX3 SE2 FO5 SP XX9 CL2 XX ST2 XX7 CL2 ST3",
     "XX21 SP FO5 XX FO10 XX LO XX11 CL2 LO XX13 CL2 XX LO13 XX51 EX33 XX17 UP XX4 UP XX2 LO UP3",
     "LO2 UP3 LO XX UP XX3 UP5 XX6 UP XX UP XX UP XX UP4 XX LO UP4 LO LE4 LO XX2 LO2 UP2 XX5 UP",
     "LO4 XX4 LO XX17 UP16 LO16 LE3 UP LO LE4 XX383 CL4 XX29 CL2 XX395 UP26 LO26 XX625 CL6 XX7",
     "CL14 XX79 CL2 XX31 CL10 XX403 CL22 XX63 CL4 XX32 CL2 XX514 UP48 LO48 UP LO UP3 LO2 UP LO UP",
     "LO UP LO UP4 LO UP LO2 UP LO8 UP3 LO UP LO UP LO UP LO UP LO UP LO UP LO UP LO UP LO UP LO",
     "UP LO UP LO UP LO UP LO UP LO UP LO UP LO UP LO UP LO UP LO UP LO UP LO UP LO UP LO UP LO UP",
     "LO UP LO UP LO UP LO UP LO UP LO UP LO UP LO UP LO UP LO UP LO UP LO UP LO UP LO UP LO UP LO",
     "UP LO UP LO UP LO UP LO UP LO UP LO UP LO UP LO UP LO2 XX6 UP LO UP LO EX3 UP LO XX5 ST3 XX4",
     "LO38 XX LO XX5 LO XX2 LE56 XX7 LE XX15 EX LE23 XX9 LE7 XX LE7 XX LE7 XX LE7 XX LE7 XX LE7 XX",
     "LE7 XX LE7 XX EX32 CL14 XX14 CL2 XX2 CL10 XX4 ST LE XX12 ST XX5 CL XX16 ST2 CL8 XX419 SP SC",
     "ST XX2 LE3 CL10 XX2 CL8 XX CL3 XX LE9 EX6 XX LE5 XX2 LE5 XX4 LE86 XX2 EX2 XX2 LE3 XX LE90 XX",
     "LE4 XX5 LE43 XX LE94 XX17 LE32 XX48 LE16 XX512 LE6592 XX64 LE22157 XX67 LE46 XX ST LE269 XX",
     "ST2 LE16 NU10 LE2 XX20 UP LO UP LO UP LO UP LO UP LO UP LO UP LO UP LO UP LO UP LO UP LO UP",
     "LO UP LO UP LO UP LO UP LO UP LO UP LO UP LO UP LO UP LO UP LO UP LO LE EX4 XX EX10 XX LE UP",
     "LO UP LO UP LO UP LO UP LO UP LO UP LO UP LO UP LO UP LO UP LO UP LO UP LO UP LO3 EX2 LE80",
     "EX2 XX ST XX3 ST XX31 LE9 XX2 UP LO UP LO UP LO UP LO UP LO UP LO UP LO3 UP LO UP LO UP LO",
     "UP LO UP LO UP LO UP LO UP LO UP LO UP LO UP LO UP LO UP LO UP LO UP LO UP LO UP LO UP LO UP",
     "LO UP LO UP LO UP LO UP LO UP LO UP LO UP LO UP LO UP LO UP LO UP LO UP LO10 UP LO UP LO UP2",
     "LO UP LO UP LO UP LO UP LO LE XX2 UP LO UP LO LE UP LO UP LO3 UP LO UP LO UP LO UP LO UP LO",
     "UP LO UP LO UP LO UP LO UP LO UP5 LO UP5 LO UP LO UP LO UP LO UP LO UP LO UP LO UP LO UP4 LO",
     "UP LO UP2 LO XX2 UP LO XX LO XX LO UP LO UP LO UP LO UP XX21 LO3 UP LO LE LO3 LE7 EX LE3 EX",
     "LE4 EX LE23 EX5 XX4 EX XX19 LE52 XX2 ST2 XX8 EX2 LE50 EX18 XX8 ST2 NU10 XX6 EX18 LE6 XX3 LE",
     "XX LE2 EX NU10 LE28 EX8 XX ST LE23 EX13 XX12 LE29 XX3 EX4 LE47 EX14 XX7 ST2 XX5 LE NU10 XX6",
     "LE5 EX LE10 NU10 LE5 XX LE41 EX14 XX9 LE3 EX LE8 EX2 XX2 NU10 XX3 ST3 LE23 XX3 LE EX3 LE50",
     "EX LE EX3 LE2 EX2 LE5 EX2 LE EX LE XX24 LE3 XX2 LE11 EX5 ST2 LE3 EX2 XX10 LE6 XX2 LE6 XX2",
     "LE6 XX9 LE7 XX LE7 XX LO43 XX LO14 XX6 LO80 LE35 EX8 ST EX2 XX2 NU10 XX6 LE11172 XX12 LE23",
     "XX4 LE49 XX8452 LE366 XX2 LE106 XX38 LO7 XX12 LO5 XX5 LE EX LE10 XX LE13 XX LE5 XX LE XX LE2",
     "XX LE2 XX LE108 XX33 LE363 CL2 XX16 LE64 XX2 LE54 XX40 LE12 XX4 EX16 SC2 ST SC2 ST2 CL2 XX7",
     "EX16 XX SC2 XX2 CL16 XX2 CL2 XX7 SC2 AT XX SC2 ST2 SC CL6 XX4 SC XX12 LE5 XX LE135 XX2 FO XX",
     "ST XX6 CL2 XX2 SC2 AT XX NU10 SC2 XX3 ST XX UP26 CL XX CL XX3 LO26 CL XX CL XX CL2 ST CL2 SC",
     "XX LE56 EX2 LE31 XX3 LE6 XX2 LE6 XX2 LE6 XX2 LE3 XX28 FO3 XX4 LE12 XX LE26 XX LE19 XX LE2 XX",
     "LE15 XX2 LE14 XX34 LE123 XX69 LE53 XX136 EX XX130 LE29 XX3 LE49 XX15 EX XX31 LE32 XX13 LE30",
     "XX5 LE38 EX5 XX5 LE30 XX2 LE36 XX4 LE8 XX LE5 XX42 UP40 LO40 LE78 XX2 NU10 XX6 UP36 XX4 LO36",
     "XX4 LE40 XX8 LE52 XX12 UP11 XX UP15 XX UP7 XX UP2 XX LO11 XX LO15 XX LO7 XX LO2 XX3 LE52",
     "XX12 LE311 XX9 LE22 XX10 LE8 XX24 LO LE2 LO3 XX LO42 XX LO9 XX69 LE6 XX2 LE XX LE44 XX LE2",
     "XX3 LE XX2 LE23 XX10 LE23 XX9 LE31 XX65 LE19 XX LE2 XX10 LE22 XX10 LE26 XX70 LE56 XX6 LE2",
     "XX64 LE EX3 XX EX2 XX5 EX4 LE4 XX LE3 XX LE29 XX2 EX3 XX4 EX XX22 ST2 XX8 LE29 XX3 LE29 XX35",
     "LE8 XX LE28 EX2 XX25 LE54 XX10 LE22 XX10 LE19 XX13 LE18 XX110 LE73 XX55 UP51 XX13 LO51 XX13",
     "LE36 EX4 XX8 NU10 XX6 NU10 LE6 UP22 XX3 EX5 XX LE LO22 XX250 LE42 XX EX2 XX3 LE2 XX16 LE3",
     "XX55 EX4 LE29 XX10 LE XX8 LE22 EX11 XX4 ST5 XX22 LE18 EX4 ST4 XX38 LE21 XX27 LE23 XX9 EX3",
     "LE53 EX15 ST2 XX29 NU10 EX LE2 EX2 LE XX9 EX4 LE45 EX11 XX2 NU ST4 EX XX10 NU XX2 LE25 XX7",
     "NU10 XX6 EX3 LE36 EX14 XX NU10 XX ST3 LE EX2 LE XX8 LE35 EX XX2 LE XX9 EX3 LE48 EX14 LE4 ST2",
     "XX2 EX4 ST EX2 NU10 LE XX LE XX ST2 XX32 LE18 XX LE25 EX12 ST2 XX ST2 XX EX LE2 EX XX62 LE7",
     "XX LE XX LE4 XX LE15 XX LE10 ST XX6 LE47 EX12 XX5 NU10 XX6 EX4 XX LE8 XX2 LE2 XX2 LE22 XX",
     "LE7 XX LE2 XX LE5 XX EX2 LE EX7 XX2 EX2 XX2 EX3 XX2 LE XX6 EX XX5 LE5 EX2 XX2 EX7 XX3 EX5",
     "XX11 LE10 XX LE XX2 LE XX LE38 XX LE EX9 XX EX XX2 EX XX EX4 XX EX5 LE EX LE ST2 XX11 EX2",
     "XX29 LE53 EX18 LE4 ST2 XX3 NU10 XX4 EX LE3 XX30 LE48 EX20 LE2 XX LE XX8 NU10 XX166 LE47 EX7",
     "XX2 EX9 XX ST2 XX5 ST15 LE4 EX2 XX34 LE48 EX17 ST2 XX LE XX11 NU10 XX38 LE43 EX13 LE XX7",
     "NU10 XX6 NU20 XX28 LE27 XX2 EX15 XX4 NU10 XX2 ST3 XX LE7 XX185 LE44 EX15 XX101 UP32 LO32",
     "NU10 XX21 LE8 XX2 LE XX2 LE8 XX LE2 XX LE24 EX6 XX EX2 XX2 EX4 LE EX LE EX2 ST XX ST XX9",
     "NU10 XX70 LE8 XX2 LE39 EX7 XX2 EX7 LE XX LE EX XX27 LE EX10 LE40 EX7 LE EX4 XX3 ST2 XX3 EX",
     "XX8 LE EX11 LE46 EX16 XX ST2 LE XX18 LE73 XX199 LE33 XX15 NU10 XX6 LE9 XX LE37 EX8 XX EX8 LE",
     "ST2 XX13 NU10 XX24 LE30 XX2 EX22 XX EX14 XX73 LE7 XX LE2 XX LE38 EX6 XX3 EX XX EX2 XX EX7 LE",
     "EX XX8 NU10 XX6 LE6 XX LE2 XX LE32 EX5 XX EX2 XX EX5 LE XX7 NU10 XX310 LE19 EX4 ST2 XX7 EX2",
     "LE EX LE13 XX LE34 EX7 XX3 EX5 ST2 XX11 NU10 EX XX85 LE XX79 LE922 XX102 LE111 XX17 LE196",
     "XX2636 LE97 XX15 LE1072 FO16 EX LE6 EX15 XX10 LE3995 XX5 LE583 XX6841 LE30 EX18 NU10 XX1734",
     "LE569 XX7 LE31 XX NU10 XX4 ST2 LE79 XX NU10 XX6 LE30 XX2 EX5 ST XX10 LE48 EX7 ST2 XX7 LE4 ST",
     "XX11 NU10 XX9 LE21 XX5 LE19 XX432 LE45 XX ST2 NU10 XX198 UP32 LO32 XX24 ST XX103 LE75 XX4 EX",
     "LE EX55 XX7 EX4 LE13 XX64 LE2 XX LE EX XX11 EX2 XX14 LE6136 XX8 LE1238 XX41 LE10 XX8935 LE4",
     "XX LE7 XX LE2 XX LE291 XX15 LE XX29 LE3 XX2 LE XX14 LE4 XX8 LE396 XX2308 LE107 XX5 LE13 XX3",
     "LE9 XX7 LE10 XX3 EX2 ST FO4 XX4172 NU10 XX518 EX46 XX2 EX23 XX542 EX5 XX3 EX6 FO8 EX8 XX2",
     "EX7 XX30 EX4 XX148 EX3 XX443 UP26 LO26 UP26 LO7 XX LO18 UP26 LO26 UP XX UP2 XX2 UP XX2 UP2",
     "XX2 UP4 XX UP8 LO4 XX LO XX LO7 XX LO11 UP26 LO26 UP2 XX UP4 XX2 UP8 XX UP7 XX LO26 UP2 XX",
     "UP4 XX UP5 XX UP XX3 UP7 XX LO26 UP26 LO26 UP26 LO26 UP26 LO26 UP26 LO26 UP26 LO26 UP26 LO28",
     "XX2 UP25 XX LO25 XX LO6 UP25 XX LO25 XX LO6 UP25 XX LO25 XX LO6 UP25 XX LO25 XX LO6 UP25 XX",
     "LO25 XX LO6 UP LO XX2 NU50 XX512 EX55 XX4 EX50 XX8 EX XX14 EX XX3 ST XX18 EX5 XX EX15 XX1104",
     "LO10 LE LO20 XX6 LO6 XX213 EX7 XX EX17 XX2 EX7 XX EX2 XX EX5 XX5 LO62 XX33 EX XX112 LE45 XX3",
     "EX7 LE7 XX2 NU10 XX4 LE XX321 LE30 EX XX17 LE44 EX4 NU10 XX470 LE28 EX4 NU10 XX214 LE30 EX2",
     "LE NU10 XX485 LE7 XX LE4 XX LE2 XX LE15 XX LE197 XX11 EX7 XX41 UP34 LO34 EX7 LE XX4 NU10",
     "XX1190 LE4 XX LE27 XX LE2 XX LE XX2 LE XX LE10 XX LE4 XX LE XX LE XX6 LE XX4 LE XX LE XX LE",
     "XX LE3 XX LE2 XX LE XX2 LE XX LE XX LE XX LE XX LE XX LE2 XX LE XX2 LE4 XX LE7 XX LE4 XX LE4",
     "XX LE XX LE10 XX LE17 XX5 LE3 XX LE5 XX LE17 XX628 UP26 XX6 UP26 XX6 UP26 XX1260 CL3 XX1399",
     "NU10 XX1030 LE42720 XX32 LE4154 XX6 LE222 XX2 LE5762 XX14 LE7473 XX15 LE622 XX2466 LE542",
     "XX1506 LE4939 XX5 LE4192 XX711761 FO XX30 EX96 XX128 EX240"]

end SentenceBreak

def sentenceBreak (c : Char) : SentenceBreak :=
  ⟨(SentenceBreak.table.find? c.toNat).getD "XX"⟩

end RegexWords.Unicode

import DialectBridge.Text.CodeRanges

/-!
# Scripts

Code ranges of the writing systems that a pattern can name.
-/

namespace DialectBridge.Text

/-- Writing systems with a table. -/
inductive Script where
  | arabic
  | armenian
  | cyrillic
  | devanagari
  | georgian
  | greek
  | han
  | hangul
  | hebrew
  | hiragana
  | katakana
  | latin
  | thai
  deriving DecidableEq, Repr

namespace Script

/-- Every script with a table. -/
def all : List Script :=
  [.arabic, .armenian, .cyrillic, .devanagari, .georgian, .greek,
   .han, .hangul, .hebrew, .hiragana, .katakana, .latin,
   .thai]

/-- The name of the script. -/
def name : Script → String
  | .arabic => "Arabic"
  | .armenian => "Armenian"
  | .cyrillic => "Cyrillic"
  | .devanagari => "Devanagari"
  | .georgian => "Georgian"
  | .greek => "Greek"
  | .han => "Han"
  | .hangul => "Hangul"
  | .hebrew => "Hebrew"
  | .hiragana => "Hiragana"
  | .katakana => "Katakana"
  | .latin => "Latin"
  | .thai => "Thai"

/-- Ranges of the Arabic script. -/
def arabicRanges : CodeRanges := .ofRows
  ["600-604 606-60B 60D-61A 61C-61E 620-63F 641-64A 656-66F 671-6DC 6DE-6FF 750-77F 870-88E",
   "890-891 898-8E1 8E3-8FF FB50-FBC2 FBD3-FD3D FD40-FD8F FD92-FDC7 FDCF FDF0-FDFF FE70-FE74",
   "FE76-FEFC 10E60-10E7E 10EFD-10EFF 1EE00-1EE03 1EE05-1EE1F 1EE21-1EE22 1EE24 1EE27",
   "1EE29-1EE32 1EE34-1EE37 1EE39 1EE3B 1EE42 1EE47 1EE49 1EE4B 1EE4D-1EE4F 1EE51-1EE52",
   "1EE54 1EE57 1EE59 1EE5B 1EE5D 1EE5F 1EE61-1EE62 1EE64 1EE67-1EE6A 1EE6C-1EE72",
   "1EE74-1EE77 1EE79-1EE7C 1EE7E 1EE80-1EE89 1EE8B-1EE9B 1EEA1-1EEA3 1EEA5-1EEA9",
   "1EEAB-1EEBB 1EEF0-1EEF1"]

/-- Ranges of the Armenian script. -/
def armenianRanges : CodeRanges := .ofRows
  ["531-556 559-58A 58D-58F FB13-FB17"]

/-- Ranges of the Cyrillic script. -/
def cyrillicRanges : CodeRanges := .ofRows
  ["400-484 487-52F 1C80-1C88 1D2B 1D78 2DE0-2DFF A640-A69F FE2E-FE2F 1E030-1E06D 1E08F"]

/-- Ranges of the Devanagari script. -/
def devanagariRanges : CodeRanges := .ofRows
  ["900-950 955-963 966-97F A8E0-A8FF 11B00-11B09"]

/-- Ranges of the Georgian script. -/
def georgianRanges : CodeRanges := .ofRows
  ["10A0-10C5 10C7 10CD 10D0-10FA 10FC-10FF 1C90-1CBA 1CBD-1CBF 2D00-2D25 2D27 2D2D"]

/-- Ranges of the Greek script. -/
def greekRanges : CodeRanges := .ofRows
  ["370-373 375-377 37A-37D 37F 384 386 388-38A 38C 38E-3A1 3A3-3E1 3F0-3FF 1D26-1D2A",
   "1D5D-1D61 1D66-1D6A 1DBF 1F00-1F15 1F18-1F1D 1F20-1F45 1F48-1F4D 1F50-1F57 1F59 1F5B",
   "1F5D 1F5F-1F7D 1F80-1FB4 1FB6-1FC4 1FC6-1FD3 1FD6-1FDB 1FDD-1FEF 1FF2-1FF4 1FF6-1FFE",
   "2126 AB65 10140-1018E 101A0 1D200-1D245"]

/-- Ranges of the Han script. -/
def hanRanges : CodeRanges := .ofRows
  ["2E80-2E99 2E9B-2EF3 2F00-2FD5 3005 3007 3021-3029 3038-303B 3400-4DBF 4E00-9FFF",
   "F900-FA6D FA70-FAD9 16FE2-16FE3 16FF0-16FF1 20000-2A6DF 2A700-2B739 2B740-2B81D",
   "2B820-2CEA1 2CEB0-2EBE0 2F800-2FA1D 30000-3134A 31350-323AF"]

/-- Ranges of the Hangul script. -/
def hangulRanges : CodeRanges := .ofRows
  ["1100-11FF 302E-302F 3131-318E 3200-321E 3260-327E A960-A97C AC00-D7A3 D7B0-D7C6",
   "D7CB-D7FB FFA0-FFBE FFC2-FFC7 FFCA-FFCF FFD2-FFD7 FFDA-FFDC"]

/-- Ranges of the Hebrew script. -/
def hebrewRanges : CodeRanges := .ofRows
  ["591-5C7 5D0-5EA 5EF-5F4 FB1D-FB36 FB38-FB3C FB3E FB40-FB41 FB43-FB44 FB46-FB4F"]

/-- Ranges of the Hiragana script. -/
def hiraganaRanges : CodeRanges := .ofRows
  ["3041-3096 309D-309F 1B001-1B11F 1B132 1B150-1B152 1F200"]

/-- Ranges of the Katakana script. -/
def katakanaRanges : CodeRanges := .ofRows
  ["30A1-30FA 30FD-30FF 31F0-31FF 32D0-32FE 3300-3357 FF66-FF6F FF71-FF9D 1AFF0-1AFF3",
   "1AFF5-1AFFB 1AFFD-1AFFE 1B000 1B120-1B122 1B155 1B164-1B167"]

/-- Ranges of the Latin script. -/
def latinRanges : CodeRanges := .ofRows
  ["41-5A 61-7A AA BA C0-D6 D8-F6 F8-2B8 2E0-2E4 1D00-1D25 1D2C-1D5C 1D62-1D65 1D6B-1D77",
   "1D79-1DBE 1E00-1EFF 2071 207F 2090-209C 212A-212B 2132 214E 2160-2188 2C60-2C7F",
   "A722-A787 A78B-A7CA A7D0-A7D1 A7D3 A7D5-A7D9 A7F2-A7FF AB30-AB5A AB5C-AB64 AB66-AB69",
   "FB00-FB06 FF21-FF3A FF41-FF5A 10780-10785 10787-107B0 107B2-107BA 1DF00-1DF1E",
   "1DF25-1DF2A"]

/-- Ranges of the Thai script. -/
def thaiRanges : CodeRanges := .ofRows
  ["E01-E3A E40-E5B"]

/-- The characters of a script. -/
def ranges : Script → CodeRanges
  | .arabic => arabicRanges
  | .armenian => armenianRanges
  | .cyrillic => cyrillicRanges
  | .devanagari => devanagariRanges
  | .georgian => georgianRanges
  | .greek => greekRanges
  | .han => hanRanges
  | .hangul => hangulRanges
  | .hebrew => hebrewRanges
  | .hiragana => hiraganaRanges
  | .katakana => katakanaRanges
  | .latin => latinRanges
  | .thai => thaiRanges

/-- Whether a character belongs to the script. -/
def holds (script : Script) (c : Char) : Bool := script.ranges.contains c.toNat

end Script

end DialectBridge.Text

/-!
Where text may be broken according to Unicode 16.0, by the kinds of code points. A word is a code
point in hexadecimal, a run `first-last`, or every second code point of a run, `first-last/2`.
-/
namespace Linewise.Unicode.Table

/-- Grapheme_Cluster_Break, as far as it is not made from other properties. -/
def graphemeBreak : List (List String × List String) := [
  (["cr"], [
    "000D"]),
  (["control", "cn"], [
    "0000-0009 000B-000C 000E-001F 007F-009F 00AD 061C 180E 200B 200E-200F 2028-202E 2060-206F",
    "FEFF FFF0-FFFB 13430-1343F 1BCA0-1BCA3 1D173-1D17A E0000-E001F E0080-E00FF E01F0-E0FFF"]),
  (["l"], [
    "1100-115F A960-A97C"]),
  (["lf"], [
    "000A"]),
  (["prepend", "pp"], [
    "0600-0605 06DD 070F 0890-0891 08E2 0D4E 110BD 110CD 111C2-111C3 113D1 1193F 11941 11A3A",
    "11A84-11A89 11D46 11F02"]),
  (["spacingmark", "sm"], [
    "0903 093B 093E-0940 0949-094C 094E-094F 0982-0983 09BF-09C0 09C7-09C8 09CB-09CC 0A03",
    "0A3E-0A40 0A83 0ABE-0AC0 0AC9 0ACB-0ACC 0B02-0B03 0B40 0B47-0B48 0B4B-0B4C 0BBF 0BC1-0BC2",
    "0BC6-0BC8 0BCA-0BCC 0C01-0C03 0C41-0C44 0C82-0C83 0CBE 0CC1 0CC3-0CC4 0CF3 0D02-0D03",
    "0D3F-0D40 0D46-0D48 0D4A-0D4C 0D82-0D83 0DD0-0DD1 0DD8-0DDE 0DF2-0DF3 0E33 0EB3 0F3E-0F3F",
    "0F7F 1031 103B-103C 1056-1057 1084 17B6 17BE-17C5 17C7-17C8 1923-1926 1929-192B 1930-1931",
    "1933-1938 1A19-1A1A 1A55 1A57 1A6D-1A72 1B04 1B3E-1B41 1B82 1BA1 1BA6-1BA7 1BE7 1BEA-1BEC",
    "1BEE 1C24-1C2B 1C34-1C35 1CE1 1CF7 A823-A824 A827 A880-A881 A8B4-A8C3 A952 A983 A9B4-A9B5",
    "A9BA-A9BB A9BE-A9BF AA2F-AA30 AA33-AA34 AA4D AAEB AAEE-AAEF AAF5 ABE3-ABE4 ABE6-ABE7",
    "ABE9-ABEA ABEC 11000 11002 11082 110B0-110B2 110B7-110B8 1112C 11145-11146 11182",
    "111B3-111B5 111BF 111CE 1122C-1122E 11232-11233 112E0-112E2 11302-11303 1133F 11341-11344",
    "11347-11348 1134B-1134C 11362-11363 113B9-113BA 113CA 113CC-113CD 11435-11437 11440-11441",
    "11445 114B1-114B2 114B9 114BB-114BC 114BE 114C1 115B0-115B1 115B8-115BB 115BE 11630-11632",
    "1163B-1163C 1163E 116AC 116AE-116AF 1171E 11726 1182C-1182E 11838 11931-11935 11937-11938",
    "11940 11942 119D1-119D3 119DC-119DF 119E4 11A39 11A57-11A58 11A97 11C2F 11C3E 11CA9 11CB1",
    "11CB4 11D8A-11D8E 11D93-11D94 11D96 11EF5-11EF6 11F03 11F34-11F35 11F3E-11F3F 1612A-1612C",
    "16F51-16F87"]),
  (["t"], [
    "11A8-11FF D7CB-D7FB"]),
  (["v"], [
    "1160-11A7 D7B0-D7C6 16D63 16D67-16D6A"]),
  (["zwj"], [
    "200D"])]

/-- Word_Break, as far as it is not made from other properties. -/
def wordBreak : List (List String × List String) := [
  (["cr"], [
    "000D"]),
  (["doublequote", "dq"], [
    "0022"]),
  (["extendnumlet", "ex"], [
    "005F 202F 203F-2040 2054 FE33-FE34 FE4D-FE4F FF3F"]),
  (["format", "fo"], [
    "00AD 061C 180E 200E-200F 202A-202E 2060-2064 2066-206F FEFF FFF9-FFFB 13430-1343F",
    "1BCA0-1BCA3 1D173-1D17A E0001"]),
  (["hebrewletter", "hl"], [
    "05D0-05EA 05EF-05F2 FB1D FB1F-FB28 FB2A-FB36 FB38-FB3C FB3E FB40-FB41 FB43-FB44 FB46-FB4F"]),
  (["katakana", "ka"], [
    "3031-3035 309B-309C 30A0-30FA 30FC-30FF 31F0-31FF 32D0-32FE 3300-3357 FF66-FF9D",
    "1AFF0-1AFF3 1AFF5-1AFFB 1AFFD-1AFFE 1B000 1B120-1B122 1B155 1B164-1B167"]),
  (["lf"], [
    "000A"]),
  (["midletter", "ml"], [
    "003A 00B7 0387 055F 05F4 2027 FE13 FE55 FF1A"]),
  (["midnum", "mn"], [
    "002C 003B 037E 0589 060C-060D 066C 07F8 2044 FE50 FE54 FF0C FF1B"]),
  (["midnumlet", "mb"], [
    "002E 2018-2019 2024 FE52 FF07 FF0E"]),
  (["newline", "nl"], [
    "000B-000C 0085 2028-2029"]),
  (["singlequote", "sq"], [
    "0027"]),
  (["wsegspace"], [
    "0020 1680 2000-2006 2008-200A 205F 3000"]),
  (["zwj"], [
    "200D"])]

/-- Sentence_Break, as far as it is not made from other properties. -/
def sentenceBreak : List (List String × List String) := [
  (["aterm", "at"], [
    "002E 2024 FE52 FF0E"]),
  (["cr"], [
    "000D"]),
  (["close", "cl"], [
    "0022 0027-0029 005B 005D 007B 007D 00AB 00BB 0F3A-0F3D 169B-169C 2018-201F 2039-203A",
    "2045-2046 207D-207E 208D-208E 2308-230B 2329-232A 275B-2760 2768-2775 27C5-27C6 27E6-27EF",
    "2983-2998 29D8-29DB 29FC-29FD 2E00-2E0D 2E1C-2E1D 2E20-2E29 2E42 2E55-2E5C 3008-3011",
    "3014-301B 301D-301F FD3E-FD3F FE17-FE18 FE35-FE44 FE47-FE48 FE59-FE5E FF08-FF09 FF3B FF3D",
    "FF5B FF5D FF5F-FF60 FF62-FF63 1F676-1F678"]),
  (["format", "fo"], [
    "00AD 061C 070F 180E 200B 200E-200F 202A-202E 2060-2064 2066-206F FEFF FFF9-FFFB",
    "13430-1343F 1BCA0-1BCA3 1D173-1D17A E0001"]),
  (["lf"], [
    "000A"]),
  (["scontinue", "sc"], [
    "002C-002D 003A-003B 037E 055D 060C-060D 07F8 1802 1808 2013-2014 3001 FE10-FE11 FE13-FE14",
    "FE31-FE32 FE50-FE51 FE54-FE55 FE58 FE63 FF0C-FF0D FF1A-FF1B FF64"]),
  (["sep", "se"], [
    "0085 2028-2029"]),
  (["sp"], [
    "0009 000B-000C 0020 00A0 1680 2000-200A 202F 205F 3000"])]

/-- Signs that belong to numbers and are no digits. -/
def numericSigns : List String := [
  "0600-0605 066B-066C 06DD 0890-0891 08E2 19DA 110BD 110CD"]

/-- Letters of words that are not alphabetic. -/
def wordLetters : List String := [
  "02C2-02C5 02D2-02D7 02DE-02DF 02E5-02EB 02ED 02EF-02FF 055A-055C 055E 058A 05F3 070F",
  "A708-A716 A720-A721 A789-A78A AB5B"]

/-- Alphabetic code points of scripts that do not part words with blanks. -/
def notWordLetters : List String := [
  "0E01-0E30 0E32-0E33 0E40-0E46 0E81-0E82 0E84 0E86-0E8A 0E8C-0EA3 0EA5 0EA7-0EB0 0EB2-0EB3",
  "0EBD 0EC0-0EC4 0EC6 0EDC-0EDF 1000-102A 103F 1050-1055 105A-105D 1061 1065-1066 106E-1070",
  "1075-1081 108E 1780-17B3 17D7 17DC 1950-196D 1970-1974 1980-19AB 19B0-19C9 1A20-1A54 1AA7",
  "A9E0-A9E4 A9E6-A9EF A9FA-A9FE AA60-AA76 AA7A AA7E-AAAF AAB1 AAB5-AAB6 AAB9-AABD AAC0 AAC2",
  "AADB-AADD 11700-1171A 11740-11746"]

end Linewise.Unicode.Table

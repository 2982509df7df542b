/-!
Simple case folding of Unicode 16.0: `from>to`, where `from` is a code point, a run `first-last` or
every second code point of a run `first-last/2`, and `to` is what its first code point folds to;
the others keep the distance.
-/
namespace Linewise.Unicode.Table

def folding : List String := [
  "0041-005A>0061 00B5>03BC 00C0-00D6>00E0 00D8-00DE>00F8 0100-012E/2>0101 0132-0136/2>0133",
  "0139-0147/2>013A 014A-0176/2>014B 0178>00FF 0179-017D/2>017A 017F>0073 0181>0253",
  "0182-0184/2>0183 0186>0254 0187>0188 0189-018A>0256 018B>018C 018E>01DD 018F>0259 0190>025B",
  "0191>0192 0193>0260 0194>0263 0196>0269 0197>0268 0198>0199 019C>026F 019D>0272 019F>0275",
  "01A0-01A4/2>01A1 01A6>0280 01A7>01A8 01A9>0283 01AC>01AD 01AE>0288 01AF>01B0 01B1-01B2>028A",
  "01B3-01B5/2>01B4 01B7>0292 01B8>01B9 01BC>01BD 01C4>01C6 01C5>01C6 01C7>01C9 01C8>01C9",
  "01CA>01CC 01CB-01DB/2>01CC 01DE-01EE/2>01DF 01F1>01F3 01F2-01F4/2>01F3 01F6>0195 01F7>01BF",
  "01F8-021E/2>01F9 0220>019E 0222-0232/2>0223 023A>2C65 023B>023C 023D>019A 023E>2C66",
  "0241>0242 0243>0180 0244>0289 0245>028C 0246-024E/2>0247 0345>03B9 0370-0372/2>0371",
  "0376>0377 037F>03F3 0386>03AC 0388-038A>03AD 038C>03CC 038E-038F>03CD 0391-03A1>03B1",
  "03A3-03AB>03C3 03C2>03C3 03CF>03D7 03D0>03B2 03D1>03B8 03D5>03C6 03D6>03C0 03D8-03EE/2>03D9",
  "03F0>03BA 03F1>03C1 03F4>03B8 03F5>03B5 03F7>03F8 03F9>03F2 03FA>03FB 03FD-03FF>037B",
  "0400-040F>0450 0410-042F>0430 0460-0480/2>0461 048A-04BE/2>048B 04C0>04CF 04C1-04CD/2>04C2",
  "04D0-052E/2>04D1 0531-0556>0561 10A0-10C5>2D00 10C7>2D27 10CD>2D2D 13F8-13FD>13F0 1C80>0432",
  "1C81>0434 1C82>043E 1C83-1C84>0441 1C85>0442 1C86>044A 1C87>0463 1C88>A64B 1C89>1C8A",
  "1C90-1CBA>10D0 1CBD-1CBF>10FD 1E00-1E94/2>1E01 1E9B>1E61 1E9E>00DF 1EA0-1EFE/2>1EA1",
  "1F08-1F0F>1F00 1F18-1F1D>1F10 1F28-1F2F>1F20 1F38-1F3F>1F30 1F48-1F4D>1F40 1F59-1F5F/2>1F51",
  "1F68-1F6F>1F60 1F88-1F8F>1F80 1F98-1F9F>1F90 1FA8-1FAF>1FA0 1FB8-1FB9>1FB0 1FBA-1FBB>1F70",
  "1FBC>1FB3 1FBE>03B9 1FC8-1FCB>1F72 1FCC>1FC3 1FD3>0390 1FD8-1FD9>1FD0 1FDA-1FDB>1F76",
  "1FE3>03B0 1FE8-1FE9>1FE0 1FEA-1FEB>1F7A 1FEC>1FE5 1FF8-1FF9>1F78 1FFA-1FFB>1F7C 1FFC>1FF3",
  "2126>03C9 212A>006B 212B>00E5 2132>214E 2160-216F>2170 2183>2184 24B6-24CF>24D0",
  "2C00-2C2F>2C30 2C60>2C61 2C62>026B 2C63>1D7D 2C64>027D 2C67-2C6B/2>2C68 2C6D>0251 2C6E>0271",
  "2C6F>0250 2C70>0252 2C72>2C73 2C75>2C76 2C7E-2C7F>023F 2C80-2CE2/2>2C81 2CEB-2CED/2>2CEC",
  "2CF2>2CF3 A640-A66C/2>A641 A680-A69A/2>A681 A722-A72E/2>A723 A732-A76E/2>A733",
  "A779-A77B/2>A77A A77D>1D79 A77E-A786/2>A77F A78B>A78C A78D>0265 A790-A792/2>A791",
  "A796-A7A8/2>A797 A7AA>0266 A7AB>025C A7AC>0261 A7AD>026C A7AE>026A A7B0>029E A7B1>0287",
  "A7B2>029D A7B3>AB53 A7B4-A7C2/2>A7B5 A7C4>A794 A7C5>0282 A7C6>1D8E A7C7-A7C9/2>A7C8",
  "A7CB>0264 A7CC>A7CD A7D0>A7D1 A7D6-A7DA/2>A7D7 A7DC>019B A7F5>A7F6 AB70-ABBF>13A0 FB05>FB06",
  "FF21-FF3A>FF41 10400-10427>10428 104B0-104D3>104D8 10570-1057A>10597 1057C-1058A>105A3",
  "1058C-10592>105B3 10594-10595>105BB 10C80-10CB2>10CC0 10D50-10D65>10D70 118A0-118BF>118C0",
  "16E40-16E5F>16E60 1E900-1E921>1E922"]

end Linewise.Unicode.Table

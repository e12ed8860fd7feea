/-!
# Character classes of Unicode 14

The tables here describe the characters of Unicode 14.0 that the text functions look at:

* `Text.printable`: whether a character prints as itself when text is echoed;
* `Text.cased` and `Text.caseIgnorable`: the two classes that decide whether a capital sigma ends
  a word, and so which small sigma it becomes;
* `Text.decimalValue?`: the value of a decimal digit of any script;
* `Text.lowerSimple`: the one-letter lower case of a letter.

Each table is a sorted list of disjoint spans of code points, written as fixed-width hexadecimal
text and read once.  A lookup is a binary search for the last span that starts at or before the
code point, so it takes a logarithmic number of steps.  Digits come in spans of ten that start at
a zero, so a digit's value is its distance from the start of its span, modulo ten.  The lower
cases come in runs of letters, every letter or every other one, that move by one fixed shift.
-/

namespace ClusterDeploy

namespace Text

def hexValue (c : Char) : Nat :=
  if c.isDigit then c.toNat - 48 else c.toNat - 55

/-- the number written by `width` hexadecimal digits from position `start` -/
def hexField (cs : Array Char) (start width : Nat) : Nat :=
  (List.range width).foldl (fun acc k => acc * 16 + hexValue (cs.getD (start + k) '0')) 0

/-- Reads spans written as pairs of six-digit hexadecimal code points. -/
def spans (code : String) : Array (Nat × Nat) :=
  let cs := code.toList.toArray
  (List.range (cs.size / 12)).foldl
    (fun acc i => acc.push (hexField cs (12 * i) 6, hexField cs (12 * i + 6) 6)) #[]

/-- A run of letters whose lower case is the letter moved by `shift`: the letters from `first`
to `last`, taken `step` apart. -/
structure LowerRun where
  /-- the first letter of the run -/
  first : Nat
  /-- the last letter of the run -/
  last : Nat
  /-- the distance between letters of the run -/
  step : Nat
  /-- how far a letter's lower case lies from it -/
  shift : Int
deriving Repr, Inhabited

/-- Reads lower-case runs, each written as its first and last letter (six digits each), its step
(one digit) and its shift (a sign and six digits). -/
def lowerRunsOf (code : String) : Array LowerRun :=
  let cs := code.toList.toArray
  (List.range (cs.size / 20)).foldl (fun acc i =>
    let pos := 20 * i
    let size : Int := hexField cs (pos + 14) 6
    acc.push ⟨hexField cs pos 6, hexField cs (pos + 6) 6, hexField cs (pos + 12) 1,
      if cs.getD (pos + 13) '+' == '-' then -size else size⟩) #[]

/-- The number of entries of a table sorted by `key` whose key is at most `n`, searched for
between `lo` and `hi` with at most `fuel` halvings; `32` halvings cover any array. -/
def countAtMost {α : Type} (key : α → Nat) (table : Array α) (n : Nat) :
    Nat → Nat → Nat → Nat
  | 0, lo, _ => lo
  | fuel + 1, lo, hi =>
    if lo < hi then
      let mid := (lo + hi) / 2
      match table[mid]? with
      | some x =>
        if key x ≤ n then countAtMost key table n fuel (mid + 1) hi
        else countAtMost key table n fuel lo mid
      | none => lo
    else lo

/-- The last entry of a table sorted by `key` whose key is at most `n`. -/
def lastAtMost? {α : Type} (key : α → Nat) (table : Array α) (n : Nat) : Option α :=
  match countAtMost key table n 32 0 table.size with
  | 0 => none
  | k + 1 => table[k]?

def inSpans (table : Array (Nat × Nat)) (n : Nat) : Bool :=
  match lastAtMost? Prod.fst table n with
  | some (_, last) => n ≤ last
  | none => false

/-- the characters that print as themselves: all but the controls, format characters,
surrogates, private use, unassigned code points and the separators other than the space -/
def printableSpans : Array (Nat × Nat) := spans
  ("00002000007E0000A10000AC0000AE00037700037A00037F00038400038A00038C00038C00038E0003A1" ++
   "0003A300052F00053100055600055900058A00058D00058F0005910005C70005D00005EA0005EF0005F4" ++
   "00060600061B00061D0006DC0006DE00070D00071000074A00074D0007B10007C00007FA0007FD00082D" ++
   "00083000083E00084000085B00085E00085E00086000086A00087000088E0008980008E10008E3000983" ++
   "00098500098C00098F0009900009930009A80009AA0009B00009B20009B20009B60009B90009BC0009C4" ++
   "0009C70009C80009CB0009CE0009D70009D70009DC0009DD0009DF0009E30009E60009FE000A01000A03" ++
   "000A05000A0A000A0F000A10000A13000A28000A2A000A30000A32000A33000A35000A36000A38000A39" ++
   "000A3C000A3C000A3E000A42000A47000A48000A4B000A4D000A51000A51000A59000A5C000A5E000A5E" ++
   "000A66000A76000A81000A83000A85000A8D000A8F000A91000A93000AA8000AAA000AB0000AB2000AB3" ++
   "000AB5000AB9000ABC000AC5000AC7000AC9000ACB000ACD000AD0000AD0000AE0000AE3000AE6000AF1" ++
   "000AF9000AFF000B01000B03000B05000B0C000B0F000B10000B13000B28000B2A000B30000B32000B33" ++
   "000B35000B39000B3C000B44000B47000B48000B4B000B4D000B55000B57000B5C000B5D000B5F000B63" ++
   "000B66000B77000B82000B83000B85000B8A000B8E000B90000B92000B95000B99000B9A000B9C000B9C" ++
   "000B9E000B9F000BA3000BA4000BA8000BAA000BAE000BB9000BBE000BC2000BC6000BC8000BCA000BCD" ++
   "000BD0000BD0000BD7000BD7000BE6000BFA000C00000C0C000C0E000C10000C12000C28000C2A000C39" ++
   "000C3C000C44000C46000C48000C4A000C4D000C55000C56000C58000C5A000C5D000C5D000C60000C63" ++
   "000C66000C6F000C77000C8C000C8E000C90000C92000CA8000CAA000CB3000CB5000CB9000CBC000CC4" ++
   "000CC6000CC8000CCA000CCD000CD5000CD6000CDD000CDE000CE0000CE3000CE6000CEF000CF1000CF2" ++
   "000D00000D0C000D0E000D10000D12000D44000D46000D48000D4A000D4F000D54000D63000D66000D7F" ++
   "000D81000D83000D85000D96000D9A000DB1000DB3000DBB000DBD000DBD000DC0000DC6000DCA000DCA" ++
   "000DCF000DD4000DD6000DD6000DD8000DDF000DE6000DEF000DF2000DF4000E01000E3A000E3F000E5B" ++
   "000E81000E82000E84000E84000E86000E8A000E8C000EA3000EA5000EA5000EA7000EBD000EC0000EC4" ++
   "000EC6000EC6000EC8000ECD000ED0000ED9000EDC000EDF000F00000F47000F49000F6C000F71000F97" ++
   "000F99000FBC000FBE000FCC000FCE000FDA0010000010C50010C70010C70010CD0010CD0010D0001248" ++
   "00124A00124D00125000125600125800125800125A00125D00126000128800128A00128D0012900012B0" ++
   "0012B20012B50012B80012BE0012C00012C00012C20012C50012C80012D60012D8001310001312001315" ++
   "00131800135A00135D00137C0013800013990013A00013F50013F80013FD00140000167F00168100169C" ++
   "0016A00016F800170000171500171F00173600174000175300176000176C00176E001770001772001773" ++
   "0017800017DD0017E00017E90017F00017F900180000180D00180F0018190018200018780018800018AA" ++
   "0018B00018F500190000191E00192000192B00193000193B00194000194000194400196D001970001974" ++
   "0019800019AB0019B00019C90019D00019DA0019DE001A1B001A1E001A5E001A60001A7C001A7F001A89" ++
   "001A90001A99001AA0001AAD001AB0001ACE001B00001B4C001B50001B7E001B80001BF3001BFC001C37" ++
   "001C3B001C49001C4D001C88001C90001CBA001CBD001CC7001CD0001CFA001D00001F15001F18001F1D" ++
   "001F20001F45001F48001F4D001F50001F57001F59001F59001F5B001F5B001F5D001F5D001F5F001F7D" ++
   "001F80001FB4001FB6001FC4001FC6001FD3001FD6001FDB001FDD001FEF001FF2001FF4001FF6001FFE" ++
   "00201000202700203000205E00207000207100207400208E00209000209C0020A00020C00020D00020F0" ++
   "00210000218B00219000242600244000244A002460002B73002B76002B95002B97002CF3002CF9002D25" ++
   "002D27002D27002D2D002D2D002D30002D67002D6F002D70002D7F002D96002DA0002DA6002DA8002DAE" ++
   "002DB0002DB6002DB8002DBE002DC0002DC6002DC8002DCE002DD0002DD6002DD8002DDE002DE0002E5D" ++
   "002E80002E99002E9B002EF3002F00002FD5002FF0002FFB00300100303F0030410030960030990030FF" ++
   "00310500312F00313100318E0031900031E30031F000321E00322000A48C00A49000A4C600A4D000A62B" ++
   "00A64000A6F700A70000A7CA00A7D000A7D100A7D300A7D300A7D500A7D900A7F200A82C00A83000A839" ++
   "00A84000A87700A88000A8C500A8CE00A8D900A8E000A95300A95F00A97C00A98000A9CD00A9CF00A9D9" ++
   "00A9DE00A9FE00AA0000AA3600AA4000AA4D00AA5000AA5900AA5C00AAC200AADB00AAF600AB0100AB06" ++
   "00AB0900AB0E00AB1100AB1600AB2000AB2600AB2800AB2E00AB3000AB6B00AB7000ABED00ABF000ABF9" ++
   "00AC0000D7A300D7B000D7C600D7CB00D7FB00F90000FA6D00FA7000FAD900FB0000FB0600FB1300FB17" ++
   "00FB1D00FB3600FB3800FB3C00FB3E00FB3E00FB4000FB4100FB4300FB4400FB4600FBC200FBD300FD8F" ++
   "00FD9200FDC700FDCF00FDCF00FDF000FE1900FE2000FE5200FE5400FE6600FE6800FE6B00FE7000FE74" ++
   "00FE7600FEFC00FF0100FFBE00FFC200FFC700FFCA00FFCF00FFD200FFD700FFDA00FFDC00FFE000FFE6" ++
   "00FFE800FFEE00FFFC00FFFD01000001000B01000D01002601002801003A01003C01003D01003F01004D" ++
   "01005001005D0100800100FA01010001010201010701013301013701018E01019001019C0101A00101A0" ++
   "0101D00101FD01028001029C0102A00102D00102E00102FB01030001032301032D01034A01035001037A" ++
   "01038001039D01039F0103C30103C80103D501040001049D0104A00104A90104B00104D30104D80104FB" ++
   "01050001052701053001056301056F01057A01057C01058A01058C0105920105940105950105970105A1" ++
   "0105A30105B10105B30105B90105BB0105BC010600010736010740010755010760010767010780010785" ++
   "0107870107B00107B20107BA01080001080501080801080801080A01083501083701083801083C01083C" ++
   "01083F01085501085701089E0108A70108AF0108E00108F20108F40108F50108FB01091B01091F010939" ++
   "01093F01093F0109800109B70109BC0109CF0109D2010A03010A05010A06010A0C010A13010A15010A17" ++
   "010A19010A35010A38010A3A010A3F010A48010A50010A58010A60010A9F010AC0010AE6010AEB010AF6" ++
   "010B00010B35010B39010B55010B58010B72010B78010B91010B99010B9C010BA9010BAF010C00010C48" ++
   "010C80010CB2010CC0010CF2010CFA010D27010D30010D39010E60010E7E010E80010EA9010EAB010EAD" ++
   "010EB0010EB1010F00010F27010F30010F59010F70010F89010FB0010FCB010FE0010FF601100001104D" ++
   "01105201107501107F0110BC0110BE0110C20110D00110E80110F00110F9011100011134011136011147" ++
   "0111500111760111800111DF0111E10111F401120001121101121301123E011280011286011288011288" ++
   "01128A01128D01128F01129D01129F0112A90112B00112EA0112F00112F901130001130301130501130C" ++
   "01130F01131001131301132801132A01133001133201133301133501133901133B011344011347011348" ++
   "01134B01134D01135001135001135701135701135D01136301136601136C01137001137401140001145B" ++
   "01145D0114610114800114C70114D00114D90115800115B50115B80115DD011600011644011650011659" ++
   "01166001166C0116800116B90116C00116C901170001171A01171D01172B01173001174601180001183B" ++
   "0118A00118F20118FF01190601190901190901190C011913011915011916011918011935011937011938" ++
   "01193B0119460119500119590119A00119A70119AA0119D70119DA0119E4011A00011A47011A50011AA2" ++
   "011AB0011AF8011C00011C08011C0A011C36011C38011C45011C50011C6C011C70011C8F011C92011CA7" ++
   "011CA9011CB6011D00011D06011D08011D09011D0B011D36011D3A011D3A011D3C011D3D011D3F011D47" ++
   "011D50011D59011D60011D65011D67011D68011D6A011D8E011D90011D91011D93011D98011DA0011DA9" ++
   "011EE0011EF8011FB0011FB0011FC0011FF1011FFF01239901240001246E012470012474012480012543" ++
   "012F90012FF201300001342E014400014646016800016A38016A40016A5E016A60016A69016A6E016ABE" ++
   "016AC0016AC9016AD0016AED016AF0016AF5016B00016B45016B50016B59016B5B016B61016B63016B77" ++
   "016B7D016B8F016E40016E9A016F00016F4A016F4F016F87016F8F016F9F016FE0016FE4016FF0016FF1" ++
   "0170000187F7018800018CD5018D00018D0801AFF001AFF301AFF501AFFB01AFFD01AFFE01B00001B122" ++
   "01B15001B15201B16401B16701B17001B2FB01BC0001BC6A01BC7001BC7C01BC8001BC8801BC9001BC99" ++
   "01BC9C01BC9F01CF0001CF2D01CF3001CF4601CF5001CFC301D00001D0F501D10001D12601D12901D172" ++
   "01D17B01D1EA01D20001D24501D2E001D2F301D30001D35601D36001D37801D40001D45401D45601D49C" ++
   "01D49E01D49F01D4A201D4A201D4A501D4A601D4A901D4AC01D4AE01D4B901D4BB01D4BB01D4BD01D4C3" ++
   "01D4C501D50501D50701D50A01D50D01D51401D51601D51C01D51E01D53901D53B01D53E01D54001D544" ++
   "01D54601D54601D54A01D55001D55201D6A501D6A801D7CB01D7CE01DA8B01DA9B01DA9F01DAA101DAAF" ++
   "01DF0001DF1E01E00001E00601E00801E01801E01B01E02101E02301E02401E02601E02A01E10001E12C" ++
   "01E13001E13D01E14001E14901E14E01E14F01E29001E2AE01E2C001E2F901E2FF01E2FF01E7E001E7E6" ++
   "01E7E801E7EB01E7ED01E7EE01E7F001E7FE01E80001E8C401E8C701E8D601E90001E94B01E95001E959" ++
   "01E95E01E95F01EC7101ECB401ED0101ED3D01EE0001EE0301EE0501EE1F01EE2101EE2201EE2401EE24" ++
   "01EE2701EE2701EE2901EE3201EE3401EE3701EE3901EE3901EE3B01EE3B01EE4201EE4201EE4701EE47" ++
   "01EE4901EE4901EE4B01EE4B01EE4D01EE4F01EE5101EE5201EE5401EE5401EE5701EE5701EE5901EE59" ++
   "01EE5B01EE5B01EE5D01EE5D01EE5F01EE5F01EE6101EE6201EE6401EE6401EE6701EE6A01EE6C01EE72" ++
   "01EE7401EE7701EE7901EE7C01EE7E01EE7E01EE8001EE8901EE8B01EE9B01EEA101EEA301EEA501EEA9" ++
   "01EEAB01EEBB01EEF001EEF101F00001F02B01F03001F09301F0A001F0AE01F0B101F0BF01F0C101F0CF" ++
   "01F0D101F0F501F10001F1AD01F1E601F20201F21001F23B01F24001F24801F25001F25101F26001F265" ++
   "01F30001F6D701F6DD01F6EC01F6F001F6FC01F70001F77301F78001F7D801F7E001F7EB01F7F001F7F0" ++
   "01F80001F80B01F81001F84701F85001F85901F86001F88701F89001F8AD01F8B001F8B101F90001FA53" ++
   "01FA6001FA6D01FA7001FA7401FA7801FA7C01FA8001FA8601FA9001FAAC01FAB001FABA01FAC001FAC5" ++
   "01FAD001FAD901FAE001FAE701FAF001FAF601FB0001FB9201FB9401FBCA01FBF001FBF902000002A6DF" ++
   "02A70002B73802B74002B81D02B82002CEA102CEB002EBE002F80002FA1D03000003134A0E01000E01EF")

/-- the cased characters: the lower-case, upper-case and title-case letters and the
symbols that count as one of them -/
def casedSpans : Array (Nat × Nat) := spans
  ("00004100005A00006100007A0000AA0000AA0000B50000B50000BA0000BA0000C00000D60000D80000F6" ++
   "0000F80001BA0001BC0001BF0001C40002930002950002B80002C00002C10002E00002E4000345000345" ++
   "00037000037300037600037700037A00037D00037F00037F00038600038600038800038A00038C00038C" ++
   "00038E0003A10003A30003F50003F700048100048A00052F0005310005560005600005880010A00010C5" ++
   "0010C70010C70010CD0010CD0010D00010FA0010FD0010FF0013A00013F50013F80013FD001C80001C88" ++
   "001C90001CBA001CBD001CBF001D00001DBF001E00001F15001F18001F1D001F20001F45001F48001F4D" ++
   "001F50001F57001F59001F59001F5B001F5B001F5D001F5D001F5F001F7D001F80001FB4001FB6001FBC" ++
   "001FBE001FBE001FC2001FC4001FC6001FCC001FD0001FD3001FD6001FDB001FE0001FEC001FF2001FF4" ++
   "001FF6001FFC00207100207100207F00207F00209000209C00210200210200210700210700210A002113" ++
   "00211500211500211900211D00212400212400212600212600212800212800212A00212D00212F002134" ++
   "00213900213900213C00213F00214500214900214E00214E00216000217F0021830021840024B60024E9" ++
   "002C00002CE4002CEB002CEE002CF2002CF3002D00002D25002D27002D27002D2D002D2D00A64000A66D" ++
   "00A68000A69D00A72200A78700A78B00A78E00A79000A7CA00A7D000A7D100A7D300A7D300A7D500A7D9" ++
   "00A7F500A7F600A7F800A7FA00AB3000AB5A00AB5C00AB6800AB7000ABBF00FB0000FB0600FB1300FB17" ++
   "00FF2100FF3A00FF4100FF5A01040001044F0104B00104D30104D80104FB01057001057A01057C01058A" ++
   "01058C0105920105940105950105970105A10105A30105B10105B30105B90105BB0105BC010780010780" ++
   "0107830107850107870107B00107B20107BA010C80010CB2010CC0010CF20118A00118DF016E40016E7F" ++
   "01D40001D45401D45601D49C01D49E01D49F01D4A201D4A201D4A501D4A601D4A901D4AC01D4AE01D4B9" ++
   "01D4BB01D4BB01D4BD01D4C301D4C501D50501D50701D50A01D50D01D51401D51601D51C01D51E01D539" ++
   "01D53B01D53E01D54001D54401D54601D54601D54A01D55001D55201D6A501D6A801D6C001D6C201D6DA" ++
   "01D6DC01D6FA01D6FC01D71401D71601D73401D73601D74E01D75001D76E01D77001D78801D78A01D7A8" ++
   "01D7AA01D7C201D7C401D7CB01DF0001DF0901DF0B01DF1E01E90001E94301F13001F14901F15001F169" ++
   "01F17001F189")

/-- the case-ignorable characters: marks, format characters, modifiers and the
apostrophes, colons and periods that may stand inside a word -/
def caseIgnorableSpans : Array (Nat × Nat) := spans
  ("00002700002700002E00002E00003A00003A00005E00005E0000600000600000A80000A80000AD0000AD" ++
   "0000AF0000AF0000B40000B40000B70000B80002B000036F00037400037500037A00037A000384000385" ++
   "00038700038700048300048900055900055900055F00055F0005910005BD0005BF0005BF0005C10005C2" ++
   "0005C40005C50005C70005C70005F40005F400060000060500061000061A00061C00061C000640000640" ++
   "00064B00065F0006700006700006D60006DD0006DF0006E80006EA0006ED00070F00070F000711000711" ++
   "00073000074A0007A60007B00007EB0007F50007FA0007FA0007FD0007FD00081600082D00085900085B" ++
   "00088800088800089000089100089800089F0008C900090200093A00093A00093C00093C000941000948" ++
   "00094D00094D0009510009570009620009630009710009710009810009810009BC0009BC0009C10009C4" ++
   "0009CD0009CD0009E20009E30009FE0009FE000A01000A02000A3C000A3C000A41000A42000A47000A48" ++
   "000A4B000A4D000A51000A51000A70000A71000A75000A75000A81000A82000ABC000ABC000AC1000AC5" ++
   "000AC7000AC8000ACD000ACD000AE2000AE3000AFA000AFF000B01000B01000B3C000B3C000B3F000B3F" ++
   "000B41000B44000B4D000B4D000B55000B56000B62000B63000B82000B82000BC0000BC0000BCD000BCD" ++
   "000C00000C00000C04000C04000C3C000C3C000C3E000C40000C46000C48000C4A000C4D000C55000C56" ++
   "000C62000C63000C81000C81000CBC000CBC000CBF000CBF000CC6000CC6000CCC000CCD000CE2000CE3" ++
   "000D00000D01000D3B000D3C000D41000D44000D4D000D4D000D62000D63000D81000D81000DCA000DCA" ++
   "000DD2000DD4000DD6000DD6000E31000E31000E34000E3A000E46000E4E000EB1000EB1000EB4000EBC" ++
   "000EC6000EC6000EC8000ECD000F18000F19000F35000F35000F37000F37000F39000F39000F71000F7E" ++
   "000F80000F84000F86000F87000F8D000F97000F99000FBC000FC6000FC600102D001030001032001037" ++
   "00103900103A00103D00103E00105800105900105E001060001071001074001082001082001085001086" ++
   "00108D00108D00109D00109D0010FC0010FC00135D00135F001712001714001732001733001752001753" ++
   "0017720017730017B40017B50017B70017BD0017C60017C60017C90017D30017D70017D70017DD0017DD" ++
   "00180B00180F0018430018430018850018860018A90018A9001920001922001927001928001932001932" ++
   "00193900193B001A17001A18001A1B001A1B001A56001A56001A58001A5E001A60001A60001A62001A62" ++
   "001A65001A6C001A73001A7C001A7F001A7F001AA7001AA7001AB0001ACE001B00001B03001B34001B34" ++
   "001B36001B3A001B3C001B3C001B42001B42001B6B001B73001B80001B81001BA2001BA5001BA8001BA9" ++
   "001BAB001BAD001BE6001BE6001BE8001BE9001BED001BED001BEF001BF1001C2C001C33001C36001C37" ++
   "001C78001C7D001CD0001CD2001CD4001CE0001CE2001CE8001CED001CED001CF4001CF4001CF8001CF9" ++
   "001D2C001D6A001D78001D78001D9B001DFF001FBD001FBD001FBF001FC1001FCD001FCF001FDD001FDF" ++
   "001FED001FEF001FFD001FFE00200B00200F00201800201900202400202400202700202700202A00202E" ++
   "00206000206400206600206F00207100207100207F00207F00209000209C0020D00020F0002C7C002C7D" ++
   "002CEF002CF1002D6F002D6F002D7F002D7F002DE0002DFF002E2F002E2F00300500300500302A00302D" ++
   "00303100303500303B00303B00309900309E0030FC0030FE00A01500A01500A4F800A4FD00A60C00A60C" ++
   "00A66F00A67200A67400A67D00A67F00A67F00A69C00A69F00A6F000A6F100A70000A72100A77000A770" ++
   "00A78800A78A00A7F200A7F400A7F800A7F900A80200A80200A80600A80600A80B00A80B00A82500A826" ++
   "00A82C00A82C00A8C400A8C500A8E000A8F100A8FF00A8FF00A92600A92D00A94700A95100A98000A982" ++
   "00A9B300A9B300A9B600A9B900A9BC00A9BD00A9CF00A9CF00A9E500A9E600AA2900AA2E00AA3100AA32" ++
   "00AA3500AA3600AA4300AA4300AA4C00AA4C00AA7000AA7000AA7C00AA7C00AAB000AAB000AAB200AAB4" ++
   "00AAB700AAB800AABE00AABF00AAC100AAC100AADD00AADD00AAEC00AAED00AAF300AAF400AAF600AAF6" ++
   "00AB5B00AB5F00AB6900AB6B00ABE500ABE500ABE800ABE800ABED00ABED00FB1E00FB1E00FBB200FBC2" ++
   "00FE0000FE0F00FE1300FE1300FE2000FE2F00FE5200FE5200FE5500FE5500FEFF00FEFF00FF0700FF07" ++
   "00FF0E00FF0E00FF1A00FF1A00FF3E00FF3E00FF4000FF4000FF7000FF7000FF9E00FF9F00FFE300FFE3" ++
   "00FFF900FFFB0101FD0101FD0102E00102E001037601037A0107800107850107870107B00107B20107BA" ++
   "010A01010A03010A05010A06010A0C010A0F010A38010A3A010A3F010A3F010AE5010AE6010D24010D27" ++
   "010EAB010EAC010F46010F50010F82010F85011001011001011038011046011070011070011073011074" ++
   "01107F0110810110B30110B60110B90110BA0110BD0110BD0110C20110C20110CD0110CD011100011102" ++
   "01112701112B01112D0111340111730111730111800111810111B60111BE0111C90111CC0111CF0111CF" ++
   "01122F01123101123401123401123601123701123E01123E0112DF0112DF0112E30112EA011300011301" ++
   "01133B01133C01134001134001136601136C01137001137401143801143F011442011444011446011446" ++
   "01145E01145E0114B30114B80114BA0114BA0114BF0114C00114C20114C30115B20115B50115BC0115BD" ++
   "0115BF0115C00115DC0115DD01163301163A01163D01163D01163F0116400116AB0116AB0116AD0116AD" ++
   "0116B00116B50116B70116B701171D01171F01172201172501172701172B01182F01183701183901183A" ++
   "01193B01193C01193E01193E0119430119430119D40119D70119DA0119DB0119E00119E0011A01011A0A" ++
   "011A33011A38011A3B011A3E011A47011A47011A51011A56011A59011A5B011A8A011A96011A98011A99" ++
   "011C30011C36011C38011C3D011C3F011C3F011C92011CA7011CAA011CB0011CB2011CB3011CB5011CB6" ++
   "011D31011D36011D3A011D3A011D3C011D3D011D3F011D45011D47011D47011D90011D91011D95011D95" ++
   "011D97011D97011EF3011EF4013430013438016AF0016AF4016B30016B36016B40016B43016F4F016F4F" ++
   "016F8F016F9F016FE0016FE1016FE3016FE401AFF001AFF301AFF501AFFB01AFFD01AFFE01BC9D01BC9E" ++
   "01BCA001BCA301CF0001CF2D01CF3001CF4601D16701D16901D17301D18201D18501D18B01D1AA01D1AD" ++
   "01D24201D24401DA0001DA3601DA3B01DA6C01DA7501DA7501DA8401DA8401DA9B01DA9F01DAA101DAAF" ++
   "01E00001E00601E00801E01801E01B01E02101E02301E02401E02601E02A01E13001E13D01E2AE01E2AE" ++
   "01E2EC01E2EF01E8D001E8D601E94401E94B01F3FB01F3FF0E00010E00010E00200E007F0E01000E01EF")

/-- the decimal digits of every script, each span running from a zero to a nine -/
def decimalSpans : Array (Nat × Nat) := spans
  ("0000300000390006600006690006F00006F90007C00007C900096600096F0009E60009EF000A66000A6F" ++
   "000AE6000AEF000B66000B6F000BE6000BEF000C66000C6F000CE6000CEF000D66000D6F000DE6000DEF" ++
   "000E50000E59000ED0000ED9000F20000F290010400010490010900010990017E00017E9001810001819" ++
   "00194600194F0019D00019D9001A80001A89001A90001A99001B50001B59001BB0001BB9001C40001C49" ++
   "001C50001C5900A62000A62900A8D000A8D900A90000A90900A9D000A9D900A9F000A9F900AA5000AA59" ++
   "00ABF000ABF900FF1000FF190104A00104A9010D30010D3901106601106F0110F00110F901113601113F" ++
   "0111D00111D90112F00112F90114500114590114D00114D90116500116590116C00116C9011730011739" ++
   "0118E00118E9011950011959011C50011C59011D50011D59011DA0011DA9016A60016A69016AC0016AC9" ++
   "016B50016B5901D7CE01D7FF01E14001E14901E2F001E2F901E95001E95901FBF001FBF9")

/-- the runs of letters with a one-letter lower case, as start, end, step and shift -/
def lowerRuns : Array LowerRun := lowerRunsOf
  ("00004100005A1+0000200000C00000D61+0000200000D80000DE1+00002000010000012E2+0000010001" ++
   "320001362+0000010001390001472+00000100014A0001762+0000010001780001781-00007900017900" ++
   "017D2+0000010001810001811+0000D20001820001842+0000010001860001861+0000CE000187000187" ++
   "1+00000100018900018A1+0000CD00018B00018B1+00000100018E00018E1+00004F00018F00018F1+00" ++
   "00CA0001900001901+0000CB0001910001911+0000010001930001931+0000CD0001940001941+0000CF" ++
   "0001960001961+0000D30001970001971+0000D10001980001981+00000100019C00019C1+0000D30001" ++
   "9D00019D1+0000D500019F00019F1+0000D60001A00001A42+0000010001A60001A61+0000DA0001A700" ++
   "01A71+0000010001A90001A91+0000DA0001AC0001AC1+0000010001AE0001AE1+0000DA0001AF0001AF" ++
   "1+0000010001B10001B21+0000D90001B30001B52+0000010001B70001B71+0000DB0001B80001B81+00" ++
   "00010001BC0001BC1+0000010001C40001C41+0000020001C50001C51+0000010001C70001C71+000002" ++
   "0001C80001C81+0000010001CA0001CA1+0000020001CB0001DB2+0000010001DE0001EE2+0000010001" ++
   "F10001F11+0000020001F20001F42+0000010001F60001F61-0000610001F70001F71-0000380001F800" ++
   "021E2+0000010002200002201-0000820002220002322+00000100023A00023A1+002A2B00023B00023B" ++
   "1+00000100023D00023D1-0000A300023E00023E1+002A280002410002411+0000010002430002431-00" ++
   "00C30002440002441+0000450002450002451+00004700024600024E2+0000010003700003722+000001" ++
   "0003760003761+00000100037F00037F1+0000740003860003861+00002600038800038A1+0000250003" ++
   "8C00038C1+00004000038E00038F1+00003F0003910003A11+0000200003A30003AB1+0000200003CF00" ++
   "03CF1+0000080003D80003EE2+0000010003F40003F41-00003C0003F70003F71+0000010003F90003F9" ++
   "1-0000070003FA0003FA1+0000010003FD0003FF1-00008200040000040F1+00005000041000042F1+00" ++
   "00200004600004802+00000100048A0004BE2+0000010004C00004C01+00000F0004C10004CD2+000001" ++
   "0004D000052E2+0000010005310005561+0000300010A00010C51+001C600010C70010C71+001C600010" ++
   "CD0010CD1+001C600013A00013EF1+0097D00013F00013F51+000008001C90001CBA1-000BC0001CBD00" ++
   "1CBF1-000BC0001E00001E942+000001001E9E001E9E1-001DBF001EA0001EFE2+000001001F08001F0F" ++
   "1-000008001F18001F1D1-000008001F28001F2F1-000008001F38001F3F1-000008001F48001F4D1-00" ++
   "0008001F59001F5F2-000008001F68001F6F1-000008001F88001F8F1-000008001F98001F9F1-000008" ++
   "001FA8001FAF1-000008001FB8001FB91-000008001FBA001FBB1-00004A001FBC001FBC1-000009001F" ++
   "C8001FCB1-000056001FCC001FCC1-000009001FD8001FD91-000008001FDA001FDB1-000064001FE800" ++
   "1FE91-000008001FEA001FEB1-000070001FEC001FEC1-000007001FF8001FF91-000080001FFA001FFB" ++
   "1-00007E001FFC001FFC1-0000090021260021261-001D5D00212A00212A1-0020BF00212B00212B1-00" ++
   "20460021320021321+00001C00216000216F1+0000100021830021831+0000010024B60024CF1+00001A" ++
   "002C00002C2F1+000030002C60002C601+000001002C62002C621-0029F7002C63002C631-000EE6002C" ++
   "64002C641-0029E7002C67002C6B2+000001002C6D002C6D1-002A1C002C6E002C6E1-0029FD002C6F00" ++
   "2C6F1-002A1F002C70002C701-002A1E002C72002C721+000001002C75002C751+000001002C7E002C7F" ++
   "1-002A3F002C80002CE22+000001002CEB002CED2+000001002CF2002CF21+00000100A64000A66C2+00" ++
   "000100A68000A69A2+00000100A72200A72E2+00000100A73200A76E2+00000100A77900A77B2+000001" ++
   "00A77D00A77D1-008A0400A77E00A7862+00000100A78B00A78B1+00000100A78D00A78D1-00A52800A7" ++
   "9000A7922+00000100A79600A7A82+00000100A7AA00A7AA1-00A54400A7AB00A7AB1-00A54F00A7AC00" ++
   "A7AC1-00A54B00A7AD00A7AD1-00A54100A7AE00A7AE1-00A54400A7B000A7B01-00A51200A7B100A7B1" ++
   "1-00A52A00A7B200A7B21-00A51500A7B300A7B31+0003A000A7B400A7C22+00000100A7C400A7C41-00" ++
   "003000A7C500A7C51-00A54300A7C600A7C61-008A3800A7C700A7C92+00000100A7D000A7D01+000001" ++
   "00A7D600A7D82+00000100A7F500A7F51+00000100FF2100FF3A1+0000200104000104271+0000280104" ++
   "B00104D31+00002801057001057A1+00002701057C01058A1+00002701058C0105921+00002701059401" ++
   "05951+000027010C80010CB21+0000400118A00118BF1+000020016E40016E5F1+00002001E90001E921" ++
   "1+000022")

def printable (c : Char) : Bool := inSpans printableSpans c.toNat

def cased (c : Char) : Bool := inSpans casedSpans c.toNat

def caseIgnorable (c : Char) : Bool := inSpans caseIgnorableSpans c.toNat

def decimalValue? (c : Char) : Option Nat :=
  match lastAtMost? Prod.fst decimalSpans c.toNat with
  | some (first, last) => if c.toNat ≤ last then some ((c.toNat - first) % 10) else none
  | none => none

/-- The lower case of a character, for the letters whose lower case is one letter; any other
character is its own lower case.  ASCII is mapped directly, the rest through `lowerRuns`. -/
def lowerSimple (c : Char) : Char :=
  if c.toNat < 128 then
    if 65 ≤ c.toNat && c.toNat ≤ 90 then Char.ofNat (c.toNat + 32) else c
  else
    match lastAtMost? LowerRun.first lowerRuns c.toNat with
    | some r =>
      if c.toNat ≤ r.last && (c.toNat - r.first) % r.step == 0 then
        Char.ofNat (c.toNat + r.shift).toNat
      else c
    | none => c

end Text

end ClusterDeploy

import Webrev.Text.CodeTable

/-!
# Classes of characters in host names

The properties of characters on which the rules for the labels of a host name rest.

## Main definitions

* `Idna.isMark` : the combining marks.
* `Idna.Joining`, `Idna.joining` : how a character joins its neighbours in a cursive script.
* `Idna.Direction`, `Idna.direction` : the bidirectional class of a character.
-/

namespace Webrev.Idna

/-- The combining marks. -/
def markRows : List CodeTable.Row := CodeTable.read "
    300-36F 483-489 591-5BD 5BF 5C1-5C2 5C4-5C5 5C7 610-61A 64B-65F 670 6D6-6DC 6DF-6E4 6E7-6E8
    6EA-6ED 711 730-74A 7A6-7B0 7EB-7F3 7FD 816-819 81B-823 825-827 829-82D 859-85B 897-89F
    8CA-903 93A-93C 93E-94F 951-957 962-963 981-983 9BC 9BE-9CD 9D7 9E2-9E3 9FE-A03 A3C-A51
    A70-A71 A75 A81-A83 ABC ABE-ACD AE2-AE3 AFA-B03 B3C B3E-B57 B62-B63 B82 BBE-BCD BD7 C00-C04
    C3C C3E-C56 C62-C63 C81-C83 CBC CBE-CD6 CE2-CE3 CF3-D03 D3B-D3C D3E-D4D D57 D62-D63 D81-D83
    DCA-DDF DF2-DF3 E31 E34-E3A E47-E4E EB1 EB4-EBC EC8-ECE F18-F19 F35 F37 F39 F3E-F3F F71-F84
    F86-F87 F8D-FBC FC6 102B-103E 1056-1059 105E-1060 1062-1064 1067-106D 1071-1074 1082-108D 108F
    109A-109D 135D-135F 1712-1715 1732-1734 1752-1753 1772-1773 17B6-17D3 17DD 1885-1886 18A9
    1920-193B 1A17-1A1B 1A55-1A7F 1AB0-1B04 1B34-1B44 1B6B-1B73 1B80-1B82 1BA1-1BAD 1BE6-1BF3
    1C24-1C37 1CD0-1CD2 1CD4-1CE8 1CED 1CF4 1CF7-1CF9 1DC0-1DFF 20D0-20F0 2CEF-2CF1 2D7F 2DE0-2DFF
    302A-302F 3099-309A A66F-A672 A674-A67D A69E-A69F A6F0-A6F1 A802 A806 A80B A823-A827 A82C
    A880-A881 A8B4-A8C5 A8E0-A8F1 A8FF A926-A92D A947-A953 A980-A983 A9B3-A9C0 A9E5 AA29-AA36 AA43
    AA4C-AA4D AA7B-AA7D AAB0 AAB2-AAB4 AAB7-AAB8 AABE-AABF AAC1 AAEB-AAEF AAF5-AAF6 ABE3-ABEA
    ABEC-ABED FB1E FE20-FE2F 101FD 102E0 10376-1037A 10A01-10A0F 10A38-10A3F 10AE5-10AE6
    10D24-10D27 10D69-10D6D 10EAB-10EAC 10EFA-10EFF 10F46-10F50 10F82-10F85 11000-11002
    11038-11046 11070 11073-11074 1107F-11082 110B0-110BA 110C2 11100-11102 11127-11134
    11145-11146 11173 11180-11182 111B3-111C0 111C9-111CC 111CE-111CF 1122C-11237 1123E 11241
    112DF-112EA 11300-11303 1133B-1133C 1133E-1134D 11357 11362-11374 113B8-113D0 113D2
    113E1-113E2 11435-11446 1145E 114B0-114C3 115AF-115C0 115DC-115DD 11630-11640 116AB-116B7
    1171D-1172B 1182C-1183A 11930-1193E 11940 11942-11943 119D1-119E0 119E4 11A01-11A0A
    11A33-11A39 11A3B-11A3E 11A47 11A51-11A5B 11A8A-11A99 11B60-11B67 11C2F-11C3F 11C92-11CB6
    11D31-11D45 11D47 11D8A-11D97 11EF3-11EF6 11F00-11F01 11F03 11F34-11F42 11F5A 13440
    13447-13455 1611E-1612F 16AF0-16AF4 16B30-16B36 16F4F 16F51-16F92 16FE4-16FF1 1BC9D-1BC9E
    1CF00-1CF46 1D165-1D169 1D16D-1D182 1D185-1D18B 1D1AA-1D1AD 1D242-1D244 1DA00-1DA36
    1DA3B-1DA6C 1DA75 1DA84 1DA9B-1DAAF 1E000-1E08F 1E130-1E136 1E2AE 1E2EC-1E2EF 1E4EC-1E4EF
    1E5EE-1E5EF 1E6E3 1E6E6 1E6EE-1E6EF 1E6F5 1E8D0-1E8D6 1E944-1E94A"

/-- The combining marks: the general categories `Mn`, `Mc` and `Me`. -/
def isMark (c : Char) : Bool := 0x300 ≤ c.toNat && CodeTable.contains markRows c.toNat

/-- How a character joins its neighbours. -/
inductive Joining where
  | none
  | left
  | right
  | dual
  | transparent
  deriving DecidableEq, Repr

/-- The characters that join their neighbours, by the number of their joining type. -/
def joiningRows : List CodeTable.Row := CodeTable.read "
    300-36F=4 483-489=4 591-5BD=4 5BF=4 5C1-5C2=4 5C4-5C5=4 5C7=4 610-61A=4 620=3 622-625=2 626=3
    627=2 628=3 629=2 62A-62E=3 62F-632=2 633-647=3 648=2 649-64A=3 64B-65F=4 66E-66F=3 670=4
    671-673=2 679-687=3 688-699=2 69A-6BF=3 6C0=2 6C1-6C2=3 6C3-6CB=2 6CC=3 6CD=2 6CE=3 6CF=2
    6D0-6D1=3 6D2-6D3=2 6D5=2 6D6-6DC=4 6DF-6E4=4 6E7-6E8=4 6EA-6ED=4 6EE-6EF=2 6FA-6FC=3 6FF=3
    710=2 711=4 712-714=3 715-719=2 71A-71D=3 71E=2 71F-727=3 728=2 729=3 72A=2 72B=3 72C=2
    72D-72E=3 72F=2 730-74A=4 74D=2 74E-758=3 759-75B=2 75C-76A=3 76B-76C=2 76D-770=3 771=2 772=3
    773-774=2 775-777=3 778-779=2 77A-77F=3 7A6-7B0=4 7CA-7EA=3 7EB-7F3=4 7FA=3 7FD=4 816-819=4
    81B-823=4 825-827=4 829-82D=4 840=2 841-845=3 846-847=2 848=3 849=2 84A-853=3 854=2 855=3
    856-858=2 859-85B=4 860=3 862-865=3 867=2 868=3 869-882=2 883-886=3 889-88D=3 88E=2 88F=3
    897-89F=4 8A0-8A9=3 8AA-8AC=2 8AE=2 8AF-8B0=3 8B1-8B2=2 8B3-8B8=3 8B9=2 8BA-8C8=3 8CA-902=4
    93A=4 93C=4 941-948=4 94D=4 951-957=4 962-963=4 981=4 9BC=4 9C1-9C4=4 9CD=4 9E2-9E3=4
    9FE-A02=4 A3C=4 A41-A51=4 A70-A71=4 A75=4 A81-A82=4 ABC=4 AC1-AC8=4 ACD=4 AE2-AE3=4 AFA-B01=4
    B3C=4 B3F=4 B41-B44=4 B4D-B56=4 B62-B63=4 B82=4 BC0=4 BCD=4 C00=4 C04=4 C3C=4 C3E-C40=4
    C46-C56=4 C62-C63=4 C81=4 CBC=4 CBF=4 CC6=4 CCC-CCD=4 CE2-CE3=4 D00-D01=4 D3B-D3C=4 D41-D44=4
    D4D=4 D62-D63=4 D81=4 DCA=4 DD2-DD6=4 E31=4 E34-E3A=4 E47-E4E=4 EB1=4 EB4-EBC=4 EC8-ECE=4
    F18-F19=4 F35=4 F37=4 F39=4 F71-F7E=4 F80-F84=4 F86-F87=4 F8D-FBC=4 FC6=4 102D-1030=4
    1032-1037=4 1039-103A=4 103D-103E=4 1058-1059=4 105E-1060=4 1071-1074=4 1082=4 1085-1086=4
    108D=4 109D=4 135D-135F=4 1712-1714=4 1732-1733=4 1752-1753=4 1772-1773=4 17B7-17BD=4 17C6=4
    17C9-17D3=4 17DD=4 1807=3 180A=3 1820-1878=3 1885-1886=4 1887-18A8=3 18A9=4 18AA=3 1920-1922=4
    1927-1928=4 1932=4 1939-193B=4 1A17-1A18=4 1A1B=4 1A56=4 1A58-1A60=4 1A62=4 1A65-1A6C=4
    1A73-1A7F=4 1AB0-1B03=4 1B34=4 1B36-1B3A=4 1B3C=4 1B42=4 1B6B-1B73=4 1B80-1B81=4 1BA2-1BA5=4
    1BA8-1BA9=4 1BAB-1BAD=4 1BE6=4 1BE8-1BE9=4 1BED=4 1BEF-1BF1=4 1C2C-1C33=4 1C36-1C37=4
    1CD0-1CD2=4 1CD4-1CE0=4 1CE2-1CE8=4 1CED=4 1CF4=4 1CF8-1CF9=4 1DC0-1DFF=4 200D=3 20D0-20F0=4
    2CEF-2CF1=4 2D7F=4 2DE0-2DFF=4 302A-302D=4 3099-309A=4 A66F-A672=4 A674-A67D=4 A69E-A69F=4
    A6F0-A6F1=4 A802=4 A806=4 A80B=4 A825-A826=4 A82C=4 A840-A871=3 A872=1 A8C4-A8C5=4 A8E0-A8F1=4
    A8FF=4 A926-A92D=4 A947-A951=4 A980-A982=4 A9B3=4 A9B6-A9B9=4 A9BC-A9BD=4 A9E5=4 AA29-AA2E=4
    AA31-AA32=4 AA35-AA36=4 AA43=4 AA4C=4 AA7C=4 AAB0=4 AAB2-AAB4=4 AAB7-AAB8=4 AABE-AABF=4 AAC1=4
    AAEC-AAED=4 AAF6=4 ABE5=4 ABE8=4 ABED=4 FB1E=4 FE20-FE2F=4 101FD=4 102E0=4 10376-1037A=4
    10A01-10A0F=4 10A38-10A3F=4 10AC0-10AC4=3 10AC5=2 10AC7=2 10AC9-10ACA=2 10ACD=1 10ACE-10AD2=2
    10AD3-10AD6=3 10AD7=1 10AD8-10ADC=3 10ADD=2 10ADE-10AE0=3 10AE1=2 10AE4=2 10AE5-10AE6=4
    10AEB-10AEE=3 10AEF=2 10B80=3 10B81=2 10B82=3 10B83-10B85=2 10B86-10B88=3 10B89=2
    10B8A-10B8B=3 10B8C=2 10B8D=3 10B8E-10B8F=2 10B90=3 10B91=2 10BA9-10BAC=2 10BAD-10BAE=3
    10D00=1 10D01-10D21=3 10D22=2 10D23=3 10D24-10D27=4 10D69-10D6D=4 10EAB-10EAC=4 10EC2=2
    10EC3-10EC4=3 10EC6-10EC7=3 10EFA-10EFF=4 10F30-10F32=3 10F33=2 10F34-10F44=3 10F46-10F50=4
    10F51-10F53=3 10F54=2 10F70-10F73=3 10F74-10F75=2 10F76-10F81=3 10F82-10F85=4 10FB0=3
    10FB2-10FB3=3 10FB4-10FB6=2 10FB8=3 10FB9-10FBA=2 10FBB-10FBC=3 10FBD=2 10FBE-10FBF=3 10FC1=3
    10FC2-10FC3=2 10FC4=3 10FC9=2 10FCA=3 10FCB=1 11001=4 11038-11046=4 11070=4 11073-11074=4
    1107F-11081=4 110B3-110B6=4 110B9-110BA=4 110C2=4 11100-11102=4 11127-1112B=4 1112D-11134=4
    11173=4 11180-11181=4 111B6-111BE=4 111C9-111CC=4 111CF=4 1122F-11231=4 11234=4 11236-11237=4
    1123E=4 11241=4 112DF=4 112E3-112EA=4 11300-11301=4 1133B-1133C=4 11340=4 11366-11374=4
    113BB-113C0=4 113CE=4 113D0=4 113D2=4 113E1-113E2=4 11438-1143F=4 11442-11444=4 11446=4
    1145E=4 114B3-114B8=4 114BA=4 114BF-114C0=4 114C2-114C3=4 115B2-115B5=4 115BC-115BD=4
    115BF-115C0=4 115DC-115DD=4 11633-1163A=4 1163D=4 1163F-11640=4 116AB=4 116AD=4 116B0-116B5=4
    116B7=4 1171D=4 1171F=4 11722-11725=4 11727-1172B=4 1182F-11837=4 11839-1183A=4 1193B-1193C=4
    1193E=4 11943=4 119D4-119DB=4 119E0=4 11A01-11A0A=4 11A33-11A38=4 11A3B-11A3E=4 11A47=4
    11A51-11A56=4 11A59-11A5B=4 11A8A-11A96=4 11A98-11A99=4 11B60=4 11B62-11B64=4 11B66=4
    11C30-11C3D=4 11C3F=4 11C92-11CA7=4 11CAA-11CB0=4 11CB2-11CB3=4 11CB5-11CB6=4 11D31-11D45=4
    11D47=4 11D90-11D91=4 11D95=4 11D97=4 11EF3-11EF4=4 11F00-11F01=4 11F36-11F3A=4 11F40=4
    11F42=4 11F5A=4 13440=4 13447-13455=4 1611E-16129=4 1612D-1612F=4 16AF0-16AF4=4 16B30-16B36=4
    16F4F=4 16F8F-16F92=4 16FE4=4 1BC9D-1BC9E=4 1CF00-1CF46=4 1D167-1D169=4 1D17B-1D182=4
    1D185-1D18B=4 1D1AA-1D1AD=4 1D242-1D244=4 1DA00-1DA36=4 1DA3B-1DA6C=4 1DA75=4 1DA84=4
    1DA9B-1DAAF=4 1E000-1E08F=4 1E130-1E136=4 1E2AE=4 1E2EC-1E2EF=4 1E4EC-1E4EF=4 1E5EE-1E5EF=4
    1E6E3=4 1E6E6=4 1E6EE-1E6EF=4 1E6F5=4 1E8D0-1E8D6=4 1E922-1E943=3 1E944-1E94B=4"

/-- How a character joins its neighbours. -/
def joining (c : Char) : Joining :=
  match CodeTable.image? joiningRows c.toNat with
  | some [1] => .left
  | some [2] => .right
  | some [3] => .dual
  | some [4] => .transparent
  | _ => .none

/-- The bidirectional classes that the rule for right-to-left labels names. -/
inductive Direction where
  | leftToRight
  | rightToLeft
  | arabicLetter
  | arabicNumber
  | europeanNumber
  | europeanSeparator
  | commonSeparator
  | europeanTerminator
  | otherNeutral
  | boundaryNeutral
  | nonspacingMark
  | other
  deriving DecidableEq, Repr

/-- The characters that are not left-to-right, by the number of their class. -/
def directionRows : List CodeTable.Row := CodeTable.read "
    0-8=9 9-D=B E-1B=9 1C-20=B 21-22=8 23-25=7 26-2A=8 2B=5 2C=6 2D=5 2E-2F=6 30-39=4 3A=6 3B-60=8
    7B-7E=8 7F=9 A1=8 A2-A5=7 A6-AE=8 B0-B1=7 B6-D7=8 F7=8 2B9-2BA=8 2C2-2CF=8 2D2-2ED=8 2EF-2FF=8
    300-36F=A 375=8 3F6=8 483-489=A 58A-58E=8 58F=7 591-5BD=A 5BE=1 5BF=A 5C0=1 5C1-5C2=A 5C3=1
    5C4-5C5=A 5C6=1 5C7=A 5D0-5F4=1 606-607=8 608=2 609-60A=7 60B=2 60C=6 60D=2 60E-60F=8
    610-61A=A 61B-64A=2 64B-65F=A 660-669=3 66A=7 66B-66C=3 66D-66F=2 670=A 671-6D5=2 6D6-6DC=A
    6DE=8 6DF-6E4=A 6E5-6E6=2 6E7-6E8=A 6E9=8 6EA-6ED=A 6EE-6EF=2 6F0-6F9=4 6FA-710=2 711=A
    712-72F=2 730-74A=A 74D-7A5=2 7A6-7B0=A 7B1=2 7C0-7EA=1 7EB-7F3=A 7F4-7F5=1 7F6-7F9=8 7FA=1
    7FD=A 7FE-815=1 816-819=A 81A=1 81B-823=A 824=1 825-827=A 828=1 829-82D=A 830-858=1 859-85B=A
    85E=1 860-897=2 898-89F=A 8A0-8C9=2 8CA-902=A 93A=A 93C=A 941-948=A 94D=A 951-957=A 962-963=A
    981=A 9BC=A 9C1-9C4=A 9CD=A 9E2-9E3=A 9F2-9F3=7 9FB=7 9FE-A02=A A3C=A A41-A51=A A70-A71=A
    A75=A A81-A82=A ABC=A AC1-AC8=A ACD=A AE2-AE3=A AF1=7 AFA-B01=A B3C=A B3F=A B41-B44=A
    B4D-B56=A B62-B63=A B82=A BC0=A BCD=A BF3-BF8=8 BF9=7 BFA=8 C00=A C04=A C3C=A C3E-C40=A
    C46-C56=A C62-C63=A C78-C7E=8 C81=A CBC=A CCC-CCD=A CE2-CE3=A D00-D01=A D3B-D3C=A D41-D44=A
    D4D=A D62-D63=A D81=A DCA=A DD2-DD6=A E31=A E34-E3A=A E3F=7 E47-E4E=A EB1=A EB4-EBC=A
    EC8-ECE=A F18-F19=A F35=A F37=A F39=A F3A-F3D=8 F71-F7E=A F80-F84=A F86-F87=A F8D-FBC=A FC6=A
    102D-1030=A 1032-1037=A 1039-103A=A 103D-103E=A 1058-1059=A 105E-1060=A 1071-1074=A 1082=A
    1085-1086=A 108D=A 109D=A 135D-135F=A 1390-1399=8 1400=8 169B-169C=8 1712-1714=A 1732-1733=A
    1752-1753=A 1772-1773=A 17B7-17BD=A 17C6=A 17C9-17D3=A 17DB=7 17DD=A 17F0-180A=8 1885-1886=A
    18A9=A 1920-1922=A 1927-1928=A 1932=A 1939-193B=A 1940-1945=8 19DE-19FF=8 1A17-1A18=A 1A1B=A
    1A56=A 1A58-1A60=A 1A62=A 1A65-1A6C=A 1A73-1A7F=A 1AB0-1ACE=A 1B00-1B03=A 1B34=A 1B36-1B3A=A
    1B3C=A 1B42=A 1B6B-1B73=A 1B80-1B81=A 1BA2-1BA5=A 1BA8-1BA9=A 1BAB-1BAD=A 1BE6=A 1BE8-1BE9=A
    1BED=A 1BEF-1BF1=A 1C2C-1C33=A 1C36-1C37=A 1CD0-1CD2=A 1CD4-1CE0=A 1CE2-1CE8=A 1CED=A 1CF4=A
    1CF8-1CF9=A 1DC0-1DFF=A 200C-200D=9 2010-2027=8 2030-2032=7 2035-2043=8 2044=6 2045-205E=8
    20A0-20C1=7 20D0-20F0=A 2104-2129=8 212E=7 213A-214D=8 218A-2211=8 2212=5 2213=7 2214-2335=8
    237B-2394=8 2396-2426=8 2440-26AB=8 26AD-27FF=8 2900-2B95=8 2B97-2BFF=8 2CE5-2CEA=8
    2CEF-2CF1=A 2CF9-2CFF=8 2D7F=A 2DE0-2DFF=A 2E00-3004=8 3008-3020=8 302A-302D=A 3030=8 3037=8
    303D-303F=8 3099-309A=A 30A0=8 30FB=8 31C0-31E3=8 4DC0-4DFF=8 A490-A4C6=8 A60D-A60F=8
    A66F-A672=A A673=8 A674-A67D=A A67E-A67F=8 A69E-A69F=A A6F0-A6F1=A A700-A721=8 A788=8 A802=A
    A806=A A80B=A A825-A826=A A828-A82B=8 A82C=A A838-A839=7 A874-A877=8 A8C4-A8C5=A A8E0-A8F1=A
    A8FF=A A926-A92D=A A947-A951=A A980-A982=A A9B3=A A9B6-A9B9=A A9BC-A9BD=A A9E5=A AA29-AA2E=A
    AA31-AA32=A AA35-AA36=A AA43=A AA4C=A AA7C=A AAB0=A AAB2-AAB4=A AAB7-AAB8=A AABE-AABF=A AAC1=A
    AAEC-AAED=A AAF6=A AB6A-AB6B=8 ABE5=A ABE8=A ABED=A FB1E=A FBB2-FBD2=2 FD3E-FD4F=8 FD90-FDCE=2
    FDCF-FDFF=8 FE20-FE2F=A FE45-FE46=8 FE73=2 10101=8 10140-1018C=8 10190-101A0=8 101FD=A 102E0=A
    102E1-102FB=4 10376-1037A=A 10800-1091B=1 1091F=8 10920-10A00=1 10A01-10A0F=A 10A10-10A35=1
    10A38-10A3F=A 10A40-10AE4=1 10AE5-10AE6=A 10AEB-10B35=1 10B39-10B3F=8 10B40-10CFF=1
    10D00-10D23=2 10D24-10D27=A 10D30-10D39=3 10D40-10D8F=1 10E60-10E7E=3 10E80-10EA9=1
    10EAB-10EAC=A 10EAD-10EB1=1 10EC2-10EFC=2 10EFD-10EFF=A 10F00-10F27=1 10F30-10F45=2
    10F46-10F50=A 10F51-10F59=2 10F70-10F81=1 10F82-10F85=A 10F86-10FF6=1 11001=A 11038-11046=A
    11052-11065=8 11070=A 11073-11074=A 1107F-11081=A 110B3-110B6=A 110B9-110BA=A 110C2=A
    11100-11102=A 11127-1112B=A 1112D-11134=A 11173=A 11180-11181=A 111B6-111BE=A 111C9-111CC=A
    111CF=A 1122F-11231=A 11234=A 11236-11237=A 1123E=A 11241=A 112DF=A 112E3-112EA=A
    11300-11301=A 1133B-1133C=A 11340=A 11366-11374=A 11438-1143F=A 11442-11444=A 11446=A 1145E=A
    114B3-114B8=A 114BA=A 114BF-114C0=A 114C2-114C3=A 115B2-115B5=A 115BC-115BD=A 115BF-115C0=A
    115DC-115DD=A 11633-1163A=A 1163D=A 1163F-11640=A 11660-1166C=8 116AB=A 116AD=A 116B0-116B5=A
    116B7=A 1171D-1171F=A 11722-11725=A 11727-1172B=A 1182F-11837=A 11839-1183A=A 1193B-1193C=A
    1193E=A 11943=A 119D4-119DB=A 119E0=A 11A01-11A06=A 11A09-11A0A=A 11A33-11A38=A 11A3B-11A3E=A
    11A47=A 11A51-11A56=A 11A59-11A5B=A 11A8A-11A96=A 11A98-11A99=A 11C30-11C3D=A 11C92-11CA7=A
    11CAA-11CB0=A 11CB2-11CB3=A 11CB5-11CB6=A 11D31-11D45=A 11D47=A 11D90-11D91=A 11D95=A 11D97=A
    11EF3-11EF4=A 11F00-11F01=A 11F36-11F3A=A 11F40=A 11F42=A 11FD5-11FDC=8 11FDD-11FE0=7
    11FE1-11FF1=8 13440=A 13447-13455=A 16AF0-16AF4=A 16B30-16B36=A 16F4F=A 16F8F-16F92=A 16FE2=8
    16FE4=A 1BC9D-1BC9E=A 1CF00-1CF46=A 1D167-1D169=A 1D17B-1D182=A 1D185-1D18B=A 1D1AA-1D1AD=A
    1D1E9-1D241=8 1D242-1D244=A 1D245=8 1D300-1D356=8 1DA00-1DA36=A 1DA3B-1DA6C=A 1DA75=A 1DA84=A
    1DA9B-1DAAF=A 1E000-1E08F=A 1E130-1E136=A 1E2AE=A 1E2EC-1E2EF=A 1E2FF=7 1E4EC-1E4EF=A
    1E800-1E8CF=1 1E8D0-1E8D6=A 1E922-1E943=1 1E944-1E94A=A 1E94B-1E95F=1 1EC71-1ED3D=2
    1EEF0-1F12F=8 1F16D-1F16F=8 1F1AD=8 1F260-1F6D7=8 1F6DC-1F776=8 1F77B-1F8B1=8 1F900-1FA53=8
    1FA60-1FA88=8 1FA90-1FABD=8 1FABF-1FAC5=8 1FACE-1FADB=8 1FAE0-1FAE8=8 1FAF0-1FBCA=8"

/-- The bidirectional class of a character of a host name. -/
def direction (c : Char) : Direction :=
  match CodeTable.image? directionRows c.toNat with
  | none => .leftToRight
  | some [1] => .rightToLeft
  | some [2] => .arabicLetter
  | some [3] => .arabicNumber
  | some [4] => .europeanNumber
  | some [5] => .europeanSeparator
  | some [6] => .commonSeparator
  | some [7] => .europeanTerminator
  | some [8] => .otherNeutral
  | some [9] => .boundaryNeutral
  | some [10] => .nonspacingMark
  | some _ => .other

end Webrev.Idna

/-!
The characters beyond ASCII that may stand in the label of a domain, because they are not
mapped to others before a label is looked at. An entry `A-B:x;` tells what is known of
every character from `A` to `B`:

* nothing is written for one that runs from left to right, and `m` for such a mark,
* `n` for a mark that takes no room of its own,
* `r` for one that runs from right to left,
* `e` and `a` for European and Arabic digits,
* `o` for any other.
-/

namespace UriExpansion.Url.Domain

def charactersText : String := "
A1-A7:o; A9:o; AB-AC:o; AE:o; B0-B1:o; B6-B7:o; BB:o; BF:o; D7:o; DF-F6; F7:o; F8-FF; 101; 103; 105;
107; 109; 10B; 10D; 10F; 111; 113; 115; 117; 119; 11B; 11D; 11F; 121; 123; 125; 127; 129; 12B; 12D;
12F; 131; 135; 137-138; 13A; 13C; 13E; 142; 144; 146; 148; 14B; 14D; 14F; 151; 153; 155; 157; 159;
15B; 15D; 15F; 161; 163; 165; 167; 169; 16B; 16D; 16F; 171; 173; 175; 177; 17A; 17C; 17E; 180; 183;
185; 188; 18C-18D; 192; 195; 199-19B; 19E; 1A1; 1A3; 1A5; 1A8; 1AA-1AB; 1AD; 1B0; 1B4; 1B6; 1B9-1BB;
1BD-1C3; 1CE; 1D0; 1D2; 1D4; 1D6; 1D8; 1DA; 1DC-1DD; 1DF; 1E1; 1E3; 1E5; 1E7; 1E9; 1EB; 1ED;
1EF-1F0; 1F5; 1F9; 1FB; 1FD; 1FF; 201; 203; 205; 207; 209; 20B; 20D; 20F; 211; 213; 215; 217; 219;
21B; 21D; 21F; 221; 223; 225; 227; 229; 22B; 22D; 22F; 231; 233-239; 23C; 23F-240; 242; 247; 249;
24B; 24D; 24F-2AF; 2B9-2BA:o; 2BB-2C1; 2C2-2CF:o; 2D0-2D1; 2D2-2D7:o; 2DE-2DF:o; 2E5-2ED:o; 2EE;
2EF-2FF:o; 300-33F:n; 342:n; 346-34E:n; 350-36F:n; 371; 373; 375:o; 377; 37B-37D; 390; 3AC-3CE; 3D7;
3D9; 3DB; 3DD; 3DF; 3E1; 3E3; 3E5; 3E7; 3E9; 3EB; 3ED; 3EF; 3F3; 3F6:o; 3F8; 3FB-3FC; 430-45F; 461;
463; 465; 467; 469; 46B; 46D; 46F; 471; 473; 475; 477; 479; 47B; 47D; 47F; 481-482; 483-489:n; 48B;
48D; 48F; 491; 493; 495; 497; 499; 49B; 49D; 49F; 4A1; 4A3; 4A5; 4A7; 4A9; 4AB; 4AD; 4AF; 4B1; 4B3;
4B5; 4B7; 4B9; 4BB; 4BD; 4BF; 4C2; 4C4; 4C6; 4C8; 4CA; 4CC; 4CE-4CF; 4D1; 4D3; 4D5; 4D7; 4D9; 4DB;
4DD; 4DF; 4E1; 4E3; 4E5; 4E7; 4E9; 4EB; 4ED; 4EF; 4F1; 4F3; 4F5; 4F7; 4F9; 4FB; 4FD; 4FF; 501; 503;
505; 507; 509; 50B; 50D; 50F; 511; 513; 515; 517; 519; 51B; 51D; 51F; 521; 523; 525; 527; 529; 52B;
52D; 52F; 559-586; 588-589; 58A:o; 58D-58F:o; 591-5BD:n; 5BE:r; 5BF:n; 5C0:r; 5C1-5C2:n; 5C3:r;
5C4-5C5:n; 5C6:r; 5C7:n; 5D0-5EA:r; 5EF-5F4:r; 606-607:o; 608:r; 609-60A:o; 60B:r; 60C:o; 60D:r;
60E-60F:o; 610-61A:n; 61B:r; 61D-64A:r; 64B-65F:n; 660-669:a; 66A:o; 66B-66C:a; 66D-66F:r; 670:n;
671-674:r; 679-6D5:r; 6D6-6DC:n; 6DE:o; 6DF-6E4:n; 6E5-6E6:r; 6E7-6E8:n; 6E9:o; 6EA-6ED:n;
6EE-6EF:r; 6F0-6F9:e; 6FA-70D:r; 710:r; 711:n; 712-72F:r; 730-74A:n; 74D-7A5:r; 7A6-7B0:n; 7B1:r;
7C0-7EA:r; 7EB-7F3:n; 7F4-7F5:r; 7F6-7F9:o; 7FA:r; 7FD:n; 7FE-815:r; 816-819:n; 81A:r; 81B-823:n;
824:r; 825-827:n; 828:r; 829-82D:n; 830-83E:r; 840-858:r; 859-85B:n; 85E:r; 860-86A:r; 870-88F:r;
897-89F:n; 8A0-8C9:r; 8CA-8E1:n; 8E3-902:n; 903:m; 904-939; 93A:n; 93B:m; 93C:n; 93D; 93E-940:m;
941-948:n; 949-94C:m; 94D:n; 94E-94F:m; 950; 951-957:n; 960-961; 962-963:n; 964-980; 981:n;
982-983:m; 985-98C; 98F-990; 993-9A8; 9AA-9B0; 9B2; 9B6-9B9; 9BC:n; 9BD; 9BE-9C0:m; 9C1-9C4:n;
9C7-9C8:m; 9CB-9CC:m; 9CD:n; 9CE; 9D7:m; 9E0-9E1; 9E2-9E3:n; 9E6-9F1; 9F2-9F3:o; 9F4-9FA; 9FB:o;
9FC-9FD; 9FE:n; A01-A02:n; A03:m; A05-A0A; A0F-A10; A13-A28; A2A-A30; A32; A35; A38-A39; A3C:n;
A3E-A40:m; A41-A42:n; A47-A48:n; A4B-A4D:n; A51:n; A5C; A66-A6F; A70-A71:n; A72-A74; A75:n; A76;
A81-A82:n; A83:m; A85-A8D; A8F-A91; A93-AA8; AAA-AB0; AB2-AB3; AB5-AB9; ABC:n; ABD; ABE-AC0:m;
AC1-AC5:n; AC7-AC8:n; AC9:m; ACB-ACC:m; ACD:n; AD0; AE0-AE1; AE2-AE3:n; AE6-AF0; AF1:o; AF9;
AFA-AFF:n; B01:n; B02-B03:m; B05-B0C; B0F-B10; B13-B28; B2A-B30; B32-B33; B35-B39; B3C:n; B3D;
B3E:m; B3F:n; B40:m; B41-B44:n; B47-B48:m; B4B-B4C:m; B4D:n; B55-B56:n; B57:m; B5F-B61; B62-B63:n;
B66-B77; B82:n; B83; B85-B8A; B8E-B90; B92-B95; B99-B9A; B9C; B9E-B9F; BA3-BA4; BA8-BAA; BAE-BB9;
BBE-BBF:m; BC0:n; BC1-BC2:m; BC6-BC8:m; BCA-BCC:m; BCD:n; BD0; BD7:m; BE6-BF2; BF3-BFA:o; C00:n;
C01-C03:m; C04:n; C05-C0C; C0E-C10; C12-C28; C2A-C39; C3C:n; C3D; C3E-C40:n; C41-C44:m; C46-C48:n;
C4A-C4D:n; C55-C56:n; C58-C5A; C5C-C5D; C60-C61; C62-C63:n; C66-C6F; C77; C78-C7E:o; C7F-C80; C81:n;
C82-C83:m; C84-C8C; C8E-C90; C92-CA8; CAA-CB3; CB5-CB9; CBC:n; CBD; CBE:m; CBF; CC0-CC4:m; CC6;
CC7-CC8:m; CCA-CCB:m; CCC-CCD:n; CD5-CD6:m; CDC-CDE; CE0-CE1; CE2-CE3:n; CE6-CEF; CF1-CF2; CF3:m;
D00-D01:n; D02-D03:m; D04-D0C; D0E-D10; D12-D3A; D3B-D3C:n; D3D; D3E-D40:m; D41-D44:n; D46-D48:m;
D4A-D4C:m; D4D:n; D4E-D4F; D54-D56; D57:m; D58-D61; D62-D63:n; D66-D7F; D81:n; D82-D83:m; D85-D96;
D9A-DB1; DB3-DBB; DBD; DC0-DC6; DCA:n; DCF-DD1:m; DD2-DD4:n; DD6:n; DD8-DDF:m; DE6-DEF; DF2-DF3:m;
DF4; E01-E30; E31:n; E32; E34-E3A:n; E3F:o; E40-E46; E47-E4E:n; E4F-E5B; E81-E82; E84; E86-E8A;
E8C-EA3; EA5; EA7-EB0; EB1:n; EB2; EB4-EBC:n; EBD; EC0-EC4; EC6; EC8-ECE:n; ED0-ED9; EDE-EDF;
F00-F0B; F0D-F17; F18-F19:n; F1A-F34; F35:n; F36; F37:n; F38; F39:n; F3A-F3D:o; F3E-F3F:m; F40-F42;
F44-F47; F49-F4C; F4E-F51; F53-F56; F58-F5B; F5D-F68; F6A-F6C; F71-F72:n; F74:n; F7A-F7E:n; F7F:m;
F80:n; F82-F84:n; F85; F86-F87:n; F88-F8C; F8D-F92:n; F94-F97:n; F99-F9C:n; F9E-FA1:n; FA3-FA6:n;
FA8-FAB:n; FAD-FB8:n; FBA-FBC:n; FBE-FC5; FC6:n; FC7-FCC; FCE-FDA; 1000-102A; 102B-102C:m;
102D-1030:n; 1031:m; 1032-1037:n; 1038:m; 1039-103A:n; 103B-103C:m; 103D-103E:n; 103F-1055;
1056-1057:m; 1058-1059:n; 105A-105D; 105E-1060:n; 1061; 1062-1064:m; 1065-1066; 1067-106D:m;
106E-1070; 1071-1074:n; 1075-1081; 1082:n; 1083-1084:m; 1085-1086:n; 1087-108C:m; 108D:n; 108E;
108F:m; 1090-1099; 109A-109C:m; 109D:n; 109E-109F; 10D0-10FB; 10FD-115E; 1161-1248; 124A-124D;
1250-1256; 1258; 125A-125D; 1260-1288; 128A-128D; 1290-12B0; 12B2-12B5; 12B8-12BE; 12C0; 12C2-12C5;
12C8-12D6; 12D8-1310; 1312-1315; 1318-135A; 135D-135F:n; 1360-137C; 1380-138F; 1390-1399:o;
13A0-13F5; 1400:o; 1401-167F; 1681-169A; 169B-169C:o; 16A0-16F8; 1700-1711; 1712-1714:n; 1715:m;
171F-1731; 1732-1733:n; 1734:m; 1735-1736; 1740-1751; 1752-1753:n; 1760-176C; 176E-1770;
1772-1773:n; 1780-17B3; 17B6:m; 17B7-17BD:n; 17BE-17C5:m; 17C6:n; 17C7-17C8:m; 17C9-17D3:n;
17D4-17DA; 17DB:o; 17DC; 17DD:n; 17E0-17E9; 17F0-17F9:o; 1800-180A:o; 1810-1819; 1820-1878;
1880-1884; 1885-1886:n; 1887-18A8; 18A9:n; 18AA; 18B0-18F5; 1900-191E; 1920-1922:n; 1923-1926:m;
1927-1928:n; 1929-192B:m; 1930-1931:m; 1932:n; 1933-1938:m; 1939-193B:n; 1940:o; 1944-1945:o;
1946-196D; 1970-1974; 1980-19AB; 19B0-19C9; 19D0-19DA; 19DE-19FF:o; 1A00-1A16; 1A17-1A18:n;
1A19-1A1A:m; 1A1B:n; 1A1E-1A54; 1A55:m; 1A56:n; 1A57:m; 1A58-1A5E:n; 1A60:n; 1A61:m; 1A62:n;
1A63-1A64:m; 1A65-1A6C:n; 1A6D-1A72:m; 1A73-1A7C:n; 1A7F:n; 1A80-1A89; 1A90-1A99; 1AA0-1AAD;
1AB0-1ADD:n; 1AE0-1AEB:n; 1B00-1B03:n; 1B04:m; 1B05-1B33; 1B34:n; 1B35:m; 1B36-1B3A:n; 1B3B:m;
1B3C:n; 1B3D-1B41:m; 1B42:n; 1B43-1B44:m; 1B45-1B4C; 1B4E-1B4F:o; 1B50-1B6A; 1B6B-1B73:n; 1B74-1B7E;
1B7F:o; 1B80-1B81:n; 1B82:m; 1B83-1BA0; 1BA1:m; 1BA2-1BA5:n; 1BA6-1BA7:m; 1BA8-1BA9:n; 1BAA:m;
1BAB-1BAD:n; 1BAE-1BE5; 1BE6:n; 1BE7:m; 1BE8-1BE9:n; 1BEA-1BEC:m; 1BED:n; 1BEE:m; 1BEF-1BF1:n;
1BF2-1BF3:m; 1BFC-1C23; 1C24-1C2B:m; 1C2C-1C33:n; 1C34-1C35:m; 1C36-1C37:n; 1C3B-1C49; 1C4D-1C7F;
1C8A; 1CC0-1CC7; 1CD0-1CD2:n; 1CD3; 1CD4-1CE0:n; 1CE1:m; 1CE2-1CE8:n; 1CE9-1CEC; 1CED:n; 1CEE-1CF3;
1CF4:n; 1CF5-1CF6; 1CF7:m; 1CF8-1CF9:n; 1CFA; 1D00-1D2B; 1D2F; 1D3B; 1D4E; 1D6B-1D77; 1D79-1D9A;
1DC0-1DFF:n; 1E01; 1E03; 1E05; 1E07; 1E09; 1E0B; 1E0D; 1E0F; 1E11; 1E13; 1E15; 1E17; 1E19; 1E1B;
1E1D; 1E1F; 1E21; 1E23; 1E25; 1E27; 1E29; 1E2B; 1E2D; 1E2F; 1E31; 1E33; 1E35; 1E37; 1E39; 1E3B;
1E3D; 1E3F; 1E41; 1E43; 1E45; 1E47; 1E49; 1E4B; 1E4D; 1E4F; 1E51; 1E53; 1E55; 1E57; 1E59; 1E5B;
1E5D; 1E5F; 1E61; 1E63; 1E65; 1E67; 1E69; 1E6B; 1E6D; 1E6F; 1E71; 1E73; 1E75; 1E77; 1E79; 1E7B;
1E7D; 1E7F; 1E81; 1E83; 1E85; 1E87; 1E89; 1E8B; 1E8D; 1E8F; 1E91; 1E93; 1E95-1E99; 1E9C-1E9D; 1E9F;
1EA1; 1EA3; 1EA5; 1EA7; 1EA9; 1EAB; 1EAD; 1EAF; 1EB1; 1EB3; 1EB5; 1EB7; 1EB9; 1EBB; 1EBD; 1EBF;
1EC1; 1EC3; 1EC5; 1EC7; 1EC9; 1ECB; 1ECD; 1ECF; 1ED1; 1ED3; 1ED5; 1ED7; 1ED9; 1EDB; 1EDD; 1EDF;
1EE1; 1EE3; 1EE5; 1EE7; 1EE9; 1EEB; 1EED; 1EEF; 1EF1; 1EF3; 1EF5; 1EF7; 1EF9; 1EFB; 1EFD; 1EFF-1F07;
1F10-1F15; 1F20-1F27; 1F30-1F37; 1F40-1F45; 1F50-1F57; 1F60-1F67; 1F70; 1F72; 1F74; 1F76; 1F78;
1F7A; 1F7C; 1FB0-1FB1; 1FB6; 1FC6; 1FD0-1FD2; 1FD6-1FD7; 1FE0-1FE2; 1FE4-1FE7; 1FF6; 200C-200D:o;
2010:o; 2012-2016:o; 2018-2023:o; 2027:o; 2030-2032:o; 2035:o; 2038-203B:o; 203D:o; 203F-2046:o;
204A-2056:o; 2058-205E:o; 20A0-20A7:o; 20A9-20C1:o; 20D0-20F0:n; 2104:o; 2108:o; 2114:o;
2117-2118:o; 211E-211F:o; 2123:o; 2125:o; 2127:o; 2129:o; 212E:o; 213A:o; 2141-2144:o; 214A-214D:o;
214E-214F; 2180-2182; 2184-2188; 218A-218B:o; 2190-222B:o; 222E:o; 2231-2328:o; 232B-2335:o;
2336-237A; 237B-2394:o; 2395; 2396-2429:o; 2440-244A:o; 24EB-26AB:o; 26AC; 26AD-27FF:o; 2800-28FF;
2900-2A0B:o; 2A0D-2A73:o; 2A77-2ADB:o; 2ADD-2B73:o; 2B76-2BFF:o; 2C30-2C5F; 2C61; 2C65-2C66; 2C68;
2C6A; 2C6C; 2C71; 2C73-2C74; 2C76-2C7B; 2C81; 2C83; 2C85; 2C87; 2C89; 2C8B; 2C8D; 2C8F; 2C91; 2C93;
2C95; 2C97; 2C99; 2C9B; 2C9D; 2C9F; 2CA1; 2CA3; 2CA5; 2CA7; 2CA9; 2CAB; 2CAD; 2CAF; 2CB1; 2CB3;
2CB5; 2CB7; 2CB9; 2CBB; 2CBD; 2CBF; 2CC1; 2CC3; 2CC5; 2CC7; 2CC9; 2CCB; 2CCD; 2CCF; 2CD1; 2CD3;
2CD5; 2CD7; 2CD9; 2CDB; 2CDD; 2CDF; 2CE1; 2CE3-2CE4; 2CE5-2CEA:o; 2CEC; 2CEE; 2CEF-2CF1:n; 2CF3;
2CF9-2CFF:o; 2D00-2D25; 2D27; 2D2D; 2D30-2D67; 2D70; 2D7F:n; 2D80-2D96; 2DA0-2DA6; 2DA8-2DAE;
2DB0-2DB6; 2DB8-2DBE; 2DC0-2DC6; 2DC8-2DCE; 2DD0-2DD6; 2DD8-2DDE; 2DE0-2DFF:n; 2E00-2E5D:o;
2E80-2E99:o; 2E9B-2E9E:o; 2EA0-2EF2:o; 3001:o; 3003-3004:o; 3005-3007; 3008-3020:o; 3021-3029;
302A-302D:n; 302E-302F:m; 3030:o; 3031-3035; 3037:o; 303B-303C; 303D-303F:o; 3041-3096; 3099-309A:n;
309D-309E; 30A0:o; 30A1-30FA; 30FB:o; 30FC-30FE; 3105-312F; 3190-3191; 31A0-31BF; 31C0-31E5:o;
31F0-31FF; 3248-324F; 327F; 3400-4DBF; 4DC0-4DFF:o; 4E00-A48C; A490-A4C6:o; A4D0-A60C; A60D-A60F:o;
A610-A62B; A641; A643; A645; A647; A649; A64B; A64D; A64F; A651; A653; A655; A657; A659; A65B; A65D;
A65F; A661; A663; A665; A667; A669; A66B; A66D-A66E; A66F-A672:n; A673:o; A674-A67D:n; A67E-A67F:o;
A681; A683; A685; A687; A689; A68B; A68D; A68F; A691; A693; A695; A697; A699; A69B; A69E-A69F:n;
A6A0-A6EF; A6F0-A6F1:n; A6F2-A6F7; A700-A721:o; A723; A725; A727; A729; A72B; A72D; A72F-A731; A733;
A735; A737; A739; A73B; A73D; A73F; A741; A743; A745; A747; A749; A74B; A74D; A74F; A751; A753;
A755; A757; A759; A75B; A75D; A75F; A761; A763; A765; A767; A769; A76B; A76D; A76F; A771-A778; A77A;
A77C; A77F; A781; A783; A785; A787; A788:o; A789-A78A; A78C; A78E-A78F; A791; A793-A795; A797; A799;
A79B; A79D; A79F; A7A1; A7A3; A7A5; A7A7; A7A9; A7AF; A7B5; A7B7; A7B9; A7BB; A7BD; A7BF; A7C1;
A7C3; A7C8; A7CA; A7CD; A7CF; A7D1; A7D3; A7D5; A7D7; A7D9; A7DB; A7F6-A7F7; A7FA-A801; A802:n;
A803-A805; A806:n; A807-A80A; A80B:n; A80C-A822; A823-A824:m; A825-A826:n; A827:m; A828-A82B:o;
A82C:n; A830-A837; A838-A839:o; A840-A873; A874-A877:o; A880-A881:m; A882-A8B3; A8B4-A8C3:m;
A8C4-A8C5:n; A8CE-A8D9; A8E0-A8F1:n; A8F2-A8FE; A8FF:n; A900-A925; A926-A92D:n; A92E-A946;
A947-A951:n; A952-A953:m; A95F-A97C; A980-A982:n; A983:m; A984-A9B2; A9B3:n; A9B4-A9B5:m;
A9B6-A9B9:n; A9BA-A9BB:m; A9BC-A9BD:n; A9BE-A9C0:m; A9C1-A9CD; A9CF-A9D9; A9DE-A9E4; A9E5:n;
A9E6-A9FE; AA00-AA28; AA29-AA2E:n; AA2F-AA30:m; AA31-AA32:n; AA33-AA34:m; AA35-AA36:n; AA40-AA42;
AA43:n; AA44-AA4B; AA4C:n; AA4D:m; AA50-AA59; AA5C-AA7A; AA7B:m; AA7C:n; AA7D:m; AA7E-AAAF; AAB0:n;
AAB1; AAB2-AAB4:n; AAB5-AAB6; AAB7-AAB8:n; AAB9-AABD; AABE-AABF:n; AAC0; AAC1:n; AAC2; AADB-AAEA;
AAEB:m; AAEC-AAED:n; AAEE-AAEF:m; AAF0-AAF4; AAF5:m; AAF6:n; AB01-AB06; AB09-AB0E; AB11-AB16;
AB20-AB26; AB28-AB2E; AB30-AB5B; AB60-AB68; AB6A-AB6B:o; ABC0-ABE2; ABE3-ABE4:m; ABE5:n;
ABE6-ABE7:m; ABE8:n; ABE9-ABEA:m; ABEB; ABEC:m; ABED:n; ABF0-ABF9; AC00-D7A3; D7B0-D7C6; D7CB-D7FB;
FA0E-FA0F; FA11; FA13-FA14; FA1F; FA21; FA23-FA24; FA27-FA29; FB1E:n; FBB2-FBC2:r; FBC3-FBD2:o;
FD3E-FD4F:o; FD90-FD91:o; FDC8-FDCF:o; FDFD-FDFF:o; FE20-FE2F:n; FE45-FE46:o; FE73:r; 10000-1000B;
1000D-10026; 10028-1003A; 1003C-1003D; 1003F-1004D; 10050-1005D; 10080-100FA; 10100; 10101:o; 10102;
10107-10133; 10137-1013F; 10140-1018C:o; 1018D-1018E; 10190-1019C:o; 101A0:o; 101D0-101FC; 101FD:n;
10280-1029C; 102A0-102D0; 102E0:n; 102E1-102FB:e; 10300-10323; 1032D-1034A; 10350-10375;
10376-1037A:n; 10380-1039D; 1039F-103C3; 103C8-103D5; 10428-1049D; 104A0-104A9; 104D8-104FB;
10500-10527; 10530-10563; 1056F; 10597-105A1; 105A3-105B1; 105B3-105B9; 105BB-105BC; 105C0-105F3;
10600-10736; 10740-10755; 10760-10767; 10780; 10800-10805:r; 10808:r; 1080A-10835:r; 10837-10838:r;
1083C:r; 1083F-10855:r; 10857-1089E:r; 108A7-108AF:r; 108E0-108F2:r; 108F4-108F5:r; 108FB-1091B:r;
1091F:o; 10920-10939:r; 1093F-10959:r; 10980-109B7:r; 109BC-109CF:r; 109D2-10A00:r; 10A01-10A03:n;
10A05-10A06:n; 10A0C-10A0F:n; 10A10-10A13:r; 10A15-10A17:r; 10A19-10A35:r; 10A38-10A3A:n; 10A3F:n;
10A40-10A48:r; 10A50-10A58:r; 10A60-10A9F:r; 10AC0-10AE4:r; 10AE5-10AE6:n; 10AEB-10AF6:r;
10B00-10B35:r; 10B39-10B3F:o; 10B40-10B55:r; 10B58-10B72:r; 10B78-10B91:r; 10B99-10B9C:r;
10BA9-10BAF:r; 10C00-10C48:r; 10CC0-10CF2:r; 10CFA-10D23:r; 10D24-10D27:n; 10D30-10D39:a;
10D40-10D4F:r; 10D69-10D6D:n; 10D6E:o; 10D6F-10D85:r; 10D8E-10D8F:o; 10E60-10E7E:a; 10E80-10EA9:r;
10EAB-10EAC:n; 10EAD:r; 10EB0-10EB1:r; 10EC2-10EC7:r; 10ED0-10ED8:o; 10EFA-10EFF:n; 10F00-10F27:r;
10F30-10F45:r; 10F46-10F50:n; 10F51-10F59:r; 10F70-10F81:r; 10F82-10F85:n; 10F86-10F89:r;
10FB0-10FCB:r; 10FE0-10FF6:r; 11000:m; 11001:n; 11002:m; 11003-11037; 11038-11046:n; 11047-1104D;
11052-11065:o; 11066-1106F; 11070:n; 11071-11072; 11073-11074:n; 11075; 1107F-11081:n; 11082:m;
11083-110AF; 110B0-110B2:m; 110B3-110B6:n; 110B7-110B8:m; 110B9-110BA:n; 110BB-110BC; 110BE-110C1;
110C2:n; 110D0-110E8; 110F0-110F9; 11100-11102:n; 11103-11126; 11127-1112B:n; 1112C:m;
1112D-11134:n; 11136-11144; 11145-11146:m; 11147; 11150-11172; 11173:n; 11174-11176; 11180-11181:n;
11182:m; 11183-111B2; 111B3-111B5:m; 111B6-111BE:n; 111BF-111C0:m; 111C1-111C8; 111C9-111CC:n;
111CD; 111CE:m; 111CF:n; 111D0-111DF; 111E1-111F4; 11200-11211; 11213-1122B; 1122C-1122E:m;
1122F-11231:n; 11232-11233:m; 11234:n; 11235:m; 11236-11237:n; 11238-1123D; 1123E:n; 1123F-11240;
11241:n; 11280-11286; 11288; 1128A-1128D; 1128F-1129D; 1129F-112A9; 112B0-112DE; 112DF:n;
112E0-112E2:m; 112E3-112EA:n; 112F0-112F9; 11300-11301:n; 11302-11303:m; 11305-1130C; 1130F-11310;
11313-11328; 1132A-11330; 11332-11333; 11335-11339; 1133B-1133C:n; 1133D; 1133E-1133F:m; 11340:n;
11341-11344:m; 11347-11348:m; 1134B-1134D:m; 11350; 11357:m; 1135D-11361; 11362-11363:m;
11366-1136C:n; 11370-11374:n; 11380-11389; 1138B; 1138E; 11390-113B5; 113B7; 113B8-113BA:m;
113BB-113C0:n; 113C2:m; 113C5:m; 113C7-113CA:m; 113CC-113CD:m; 113CE:n; 113CF:m; 113D0:n; 113D1;
113D2:n; 113D3; 113D4-113D5:o; 113D7-113D8:o; 113E1-113E2:n; 11400-11434; 11435-11437:m;
11438-1143F:n; 11440-11441:m; 11442-11444:n; 11445:m; 11446:n; 11447-1145B; 1145D; 1145E:n;
1145F-11461; 11480-114AF; 114B0-114B2:m; 114B3-114B8:n; 114B9:m; 114BA:n; 114BB-114BE:m;
114BF-114C0:n; 114C1:m; 114C2-114C3:n; 114C4-114C7; 114D0-114D9; 11580-115AE; 115AF-115B1:m;
115B2-115B5:n; 115B8-115BB:m; 115BC-115BD:n; 115BE:m; 115BF-115C0:n; 115C1-115DB; 115DC-115DD:n;
11600-1162F; 11630-11632:m; 11633-1163A:n; 1163B-1163C:m; 1163D:n; 1163E:m; 1163F-11640:n;
11641-11644; 11650-11659; 11660-1166C:o; 11680-116AA; 116AB:n; 116AC:m; 116AD:n; 116AE-116AF:m;
116B0-116B5:n; 116B6:m; 116B7:n; 116B8-116B9; 116C0-116C9; 116D0-116E3; 11700-1171A; 1171D:n;
1171E:m; 1171F:n; 11720-11721:m; 11722-11725:n; 11726:m; 11727-1172B:n; 11730-11746; 11800-1182B;
1182C-1182E:m; 1182F-11837:n; 11838:m; 11839-1183A:n; 1183B; 118C0-118F2; 118FF-11906; 11909;
1190C-11913; 11915-11916; 11918-1192F; 11930-11935:m; 11937-11938:m; 1193B-1193C:n; 1193D:m;
1193E:n; 1193F; 11940:m; 11941; 11942:m; 11943:n; 11944-11946; 11950-11959; 119A0-119A7;
119AA-119D0; 119D1-119D3:m; 119D4-119D7:n; 119DA-119DB:n; 119DC-119DF:m; 119E0:n; 119E1-119E3;
119E4:m; 11A00; 11A01-11A06:n; 11A07-11A08; 11A09-11A0A:n; 11A0B-11A32; 11A33-11A38:n; 11A39:m;
11A3A; 11A3B-11A3E:n; 11A3F-11A46; 11A47:n; 11A50; 11A51-11A56:n; 11A57-11A58:m; 11A59-11A5B:n;
11A5C-11A89; 11A8A-11A96:n; 11A97:m; 11A98-11A99:n; 11A9A-11AA2; 11AB0-11AF8; 11B00-11B09; 11B60:n;
11B61:m; 11B62-11B64:n; 11B65:m; 11B66:n; 11B67:m; 11BC0-11BE0; 11BE1:o; 11BF0-11BF9; 11C00-11C08;
11C0A-11C2E; 11C2F:m; 11C30-11C36:n; 11C38-11C3D:n; 11C3E:m; 11C3F-11C45; 11C50-11C6C; 11C70-11C8F;
11C92-11CA7:n; 11CA9:m; 11CAA-11CB0:n; 11CB1:m; 11CB2-11CB3:n; 11CB4:m; 11CB5-11CB6:n; 11D00-11D06;
11D08-11D09; 11D0B-11D30; 11D31-11D36:n; 11D3A:n; 11D3C-11D3D:n; 11D3F-11D45:n; 11D46; 11D47:n;
11D50-11D59; 11D60-11D65; 11D67-11D68; 11D6A-11D89; 11D8A-11D8E:m; 11D90-11D91:n; 11D93-11D94:m;
11D95:n; 11D96:m; 11D97:n; 11D98; 11DA0-11DA9; 11DB0-11DDB; 11DE0-11DE9; 11EE0-11EF2; 11EF3-11EF4:n;
11EF5-11EF6:m; 11EF7-11EF8; 11F00-11F01:n; 11F02; 11F03:m; 11F04-11F10; 11F12-11F33; 11F34-11F35:m;
11F36-11F3A:n; 11F3E-11F3F:m; 11F40:n; 11F41:m; 11F42:n; 11F43-11F59; 11F5A:n; 11FB0; 11FC0-11FD4;
11FD5-11FF1:o; 11FFF-12399; 12400-1246E; 12470-12474; 12480-12543; 12F90-12FF2; 13000-1342F;
13440:n; 13441-13446; 13447-13455:n; 13460-143FA; 14400-14646; 16100-1611D; 1611E-16129:n;
1612A-1612C:m; 1612D-1612F:n; 16130-16139; 16800-16A38; 16A40-16A5E; 16A60-16A69; 16A6E-16ABE;
16AC0-16AC9; 16AD0-16AED; 16AF0-16AF4:n; 16AF5; 16B00-16B2F; 16B30-16B36:n; 16B37-16B45;
16B50-16B59; 16B5B-16B61; 16B63-16B77; 16B7D-16B8F; 16D40-16D6C; 16D6D-16D6F:o; 16D70-16D79;
16E60-16E9A; 16EBB-16ED3; 16F00-16F4A; 16F4F:n; 16F50; 16F51-16F87:m; 16F8F-16F92:n; 16F93-16F9F;
16FE0-16FE1; 16FE2:o; 16FE3; 16FE4:n; 16FF0-16FF1:m; 16FF2-16FF6; 17000-18CD5; 18CFF-18D1E;
18D80-18DF2; 1AFF0-1AFF3; 1AFF5-1AFFB; 1AFFD-1AFFE; 1B000-1B122; 1B132; 1B150-1B152; 1B155;
1B164-1B167; 1B170-1B2FB; 1BC00-1BC6A; 1BC70-1BC7C; 1BC80-1BC88; 1BC90-1BC99; 1BC9C; 1BC9D-1BC9E:n;
1BC9F; 1CC00-1CCD5:o; 1CCFA-1CCFC:o; 1CD00-1CEB3:o; 1CEBA-1CED0:o; 1CEE0-1CEF0:o; 1CF00-1CF2D:n;
1CF30-1CF46:n; 1CF50-1CFC3; 1D000-1D0F5; 1D100-1D126; 1D129-1D15D; 1D165-1D166:m; 1D167-1D169:n;
1D16A-1D16C; 1D16D-1D172:m; 1D17B-1D182:n; 1D183-1D184; 1D185-1D18B:n; 1D18C-1D1A9; 1D1AA-1D1AD:n;
1D1AE-1D1BA; 1D1C1-1D1E8; 1D1E9-1D1EA:o; 1D200-1D241:o; 1D242-1D244:n; 1D245:o; 1D2C0-1D2D3;
1D2E0-1D2F3; 1D300-1D356:o; 1D360-1D378; 1D800-1D9FF; 1DA00-1DA36:n; 1DA37-1DA3A; 1DA3B-1DA6C:n;
1DA6D-1DA74; 1DA75:n; 1DA76-1DA83; 1DA84:n; 1DA85-1DA8B; 1DA9B-1DA9F:n; 1DAA1-1DAAF:n; 1DF00-1DF1E;
1DF25-1DF2A; 1E000-1E006:n; 1E008-1E018:n; 1E01B-1E021:n; 1E023-1E024:n; 1E026-1E02A:n; 1E08F:n;
1E100-1E12C; 1E130-1E136:n; 1E137-1E13D; 1E140-1E149; 1E14E-1E14F; 1E290-1E2AD; 1E2AE:n;
1E2C0-1E2EB; 1E2EC-1E2EF:n; 1E2F0-1E2F9; 1E2FF:o; 1E4D0-1E4EB; 1E4EC-1E4EF:n; 1E4F0-1E4F9;
1E5D0-1E5ED; 1E5EE-1E5EF:n; 1E5F0-1E5FA; 1E5FF:o; 1E6C0-1E6DE; 1E6E0-1E6E2; 1E6E3:n; 1E6E4-1E6E5;
1E6E6:n; 1E6E7-1E6ED; 1E6EE-1E6EF:n; 1E6F0-1E6F4; 1E6F5:n; 1E6FE-1E6FF; 1E7E0-1E7E6; 1E7E8-1E7EB;
1E7ED-1E7EE; 1E7F0-1E7FE; 1E800-1E8C4:r; 1E8C7-1E8CF:r; 1E8D0-1E8D6:n; 1E922-1E943:r; 1E944-1E94A:n;
1E94B:r; 1E950-1E959:r; 1E95E-1E95F:r; 1EC71-1ECB4:r; 1ED01-1ED3D:r; 1EEF0-1EEF1:o; 1F000-1F02B:o;
1F030-1F093:o; 1F0A0-1F0AE:o; 1F0B1-1F0BF:o; 1F0C1-1F0CF:o; 1F0D1-1F0F5:o; 1F10B-1F10F:o; 1F12F:o;
1F150-1F169; 1F16D-1F16F:o; 1F170-1F18F; 1F191-1F1AC; 1F1AD:o; 1F1E6-1F1FF; 1F260-1F265:o;
1F300-1F6D8:o; 1F6DC-1F6EC:o; 1F6F0-1F6FC:o; 1F700-1F7D9:o; 1F7E0-1F7EB:o; 1F7F0:o; 1F800-1F80B:o;
1F810-1F847:o; 1F850-1F859:o; 1F860-1F887:o; 1F890-1F8AD:o; 1F8B0-1F8BB:o; 1F8C0-1F8C1:o;
1F8D0-1F8D8:o; 1F900-1FA57:o; 1FA60-1FA6D:o; 1FA70-1FA7C:o; 1FA80-1FA8A:o; 1FA8E-1FAC6:o; 1FAC8:o;
1FACD-1FADC:o; 1FADF-1FAEA:o; 1FAEF-1FAF8:o; 1FB00-1FB92:o; 1FB94-1FBEF:o; 1FBFA:o; 20000-2A6DF;
2A700-2B81D; 2B820-2CEAD; 2CEB0-2EBE0; 2EBF0-2EE5D; 30000-3134A; 31350-33479;
"

end UriExpansion.Url.Domain

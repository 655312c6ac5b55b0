import SheetReport.Text.Ranges

/-!
# Scripts

The script of every code point, as the Unicode character database assigns it, and the scripts
that a character is used in beside or instead of its own. A script is named by four letters.
-/

namespace SheetReport.Text.Script

/-- The scripts, each followed by its names in lower case without separators. -/
def nameTable : String :=
  "Adlm:adlm:adlam Aghb:aghb:caucasianalbanian Ahom:ahom Arab:arab:arabic
   Armi:armi:imperialaramaic Armn:armn:armenian Avst:avst:avestan Bali:bali:balinese
   Bamu:bamu:bamum Bass:bass:bassavah Batk:batk:batak Beng:beng:bengali Bhks:bhks:bhaiksuki
   Bopo:bopo:bopomofo Brah:brah:brahmi Brai:brai:braille Bugi:bugi:buginese Buhd:buhd:buhid
   Cakm:cakm:chakma Cans:cans:canadianaboriginal Cari:cari:carian Cham:cham Cher:cher:cherokee
   Chrs:chrs:chorasmian Copt:copt:coptic:qaac Cpmn:cpmn:cyprominoan Cprt:cprt:cypriot
   Cyrl:cyrl:cyrillic Deva:deva:devanagari Diak:diak:divesakuru Dogr:dogr:dogra
   Dsrt:dsrt:deseret Dupl:dupl:duployan Egyp:egyp:egyptianhieroglyphs Elba:elba:elbasan
   Elym:elym:elymaic Ethi:ethi:ethiopic Gara:gara:garay Geor:geor:georgian Glag:glag:glagolitic
   Gong:gong:gunjalagondi Gonm:gonm:masaramgondi Goth:goth:gothic Gran:gran:grantha
   Grek:grek:greek Gujr:gujr:gujarati Gukh:gukh:gurungkhema Guru:guru:gurmukhi Hang:hang:hangul
   Hani:hani:han Hano:hano:hanunoo Hatr:hatr:hatran Hebr:hebr:hebrew Hira:hira:hiragana
   Hluw:hluw:anatolianhieroglyphs Hmng:hmng:pahawhhmong Hmnp:hmnp:nyiakengpuachuehmong
   Hung:hung:oldhungarian Ital:ital:olditalic Java:java:javanese Kali:kali:kayahli
   Kana:kana:katakana Kawi:kawi Khar:khar:kharoshthi Khmr:khmr:khmer Khoj:khoj:khojki
   Kits:kits:khitansmallscript Knda:knda:kannada Krai:krai:kiratrai Kthi:kthi:kaithi
   Lana:lana:taitham Laoo:laoo:lao Latn:latn:latin Lepc:lepc:lepcha Limb:limb:limbu
   Lina:lina:lineara Linb:linb:linearb Lisu:lisu Lyci:lyci:lycian Lydi:lydi:lydian
   Mahj:mahj:mahajani Maka:maka:makasar Mand:mand:mandaic Mani:mani:manichaean Marc:marc:marchen
   Medf:medf:medefaidrin Mend:mend:mendekikakui Merc:merc:meroiticcursive
   Mero:mero:meroitichieroglyphs Mlym:mlym:malayalam Modi:modi Mong:mong:mongolian Mroo:mroo:mro
   Mtei:mtei:meeteimayek Mult:mult:multani Mymr:mymr:myanmar Nagm:nagm:nagmundari
   Nand:nand:nandinagari Narb:narb:oldnortharabian Nbat:nbat:nabataean Newa:newa Nkoo:nkoo:nko
   Nshu:nshu:nushu Ogam:ogam:ogham Olck:olck:olchiki Onao:onao:olonal Orkh:orkh:oldturkic
   Orya:orya:oriya Osge:osge:osage Osma:osma:osmanya Ougr:ougr:olduyghur Palm:palm:palmyrene
   Pauc:pauc:paucinhau Perm:perm:oldpermic Phag:phag:phagspa Phli:phli:inscriptionalpahlavi
   Phlp:phlp:psalterpahlavi Phnx:phnx:phoenician Plrd:plrd:miao Prti:prti:inscriptionalparthian
   Rjng:rjng:rejang Rohg:rohg:hanifirohingya Runr:runr:runic Samr:samr:samaritan
   Sarb:sarb:oldsoutharabian Saur:saur:saurashtra Sgnw:sgnw:signwriting Shaw:shaw:shavian
   Shrd:shrd:sharada Sidd:sidd:siddham Sind:sind:khudawadi Sinh:sinh:sinhala Sogd:sogd:sogdian
   Sogo:sogo:oldsogdian Sora:sora:sorasompeng Soyo:soyo:soyombo Sund:sund:sundanese
   Sunu:sunu:sunuwar Sylo:sylo:sylotinagri Syrc:syrc:syriac Tagb:tagb:tagbanwa Takr:takr:takri
   Tale:tale:taile Talu:talu:newtailue Taml:taml:tamil Tang:tang:tangut Tavt:tavt:taiviet
   Telu:telu:telugu Tfng:tfng:tifinagh Tglg:tglg:tagalog Thaa:thaa:thaana Thai:thai
   Tibt:tibt:tibetan Tirh:tirh:tirhuta Tnsa:tnsa:tangsa Todr:todr:todhri Toto:toto
   Tutg:tutg:tulutigalari Ugar:ugar:ugaritic Vaii:vaii:vai Vith:vith:vithkuqi
   Wara:wara:warangciti Wcho:wcho:wancho Xpeo:xpeo:oldpersian Xsux:xsux:cuneiform
   Yezi:yezi:yezidi Yiii:yiii:yi Zanb:zanb:zanabazarsquare Zinh:zinh:inherited:qaai
   Zyyy:zyyy:common"

/-- Starts of the runs of one script, in hexadecimal, each followed by the script. -/
def table : String :=
  "0Zyyy 41Latn 5bZyyy 61Latn 7bZyyy aaLatn abZyyy baLatn bbZyyy c0Latn d7Zyyy d8Latn f7Zyyy
   f8Latn 2b9Zyyy 2e0Latn 2e5Zyyy 2eaBopo 2ecZyyy 300Zinh 370Grek 374Zyyy 375Grek 378- 37aGrek
   37eZyyy 37fGrek 380- 384Grek 385Zyyy 386Grek 387Zyyy 388Grek 38b- 38cGrek 38d- 38eGrek 3a2-
   3a3Grek 3e2Copt 3f0Grek 400Cyrl 485Zinh 487Cyrl 530- 531Armn 557- 559Armn 58b- 58dArmn 590-
   591Hebr 5c8- 5d0Hebr 5eb- 5efHebr 5f5- 600Arab 605Zyyy 606Arab 60cZyyy 60dArab 61bZyyy
   61cArab 61fZyyy 620Arab 640Zyyy 641Arab 64bZinh 656Arab 670Zinh 671Arab 6ddZyyy 6deArab
   700Syrc 70e- 70fSyrc 74b- 74dSyrc 750Arab 780Thaa 7b2- 7c0Nkoo 7fb- 7fdNkoo 800Samr 82e-
   830Samr 83f- 840Mand 85c- 85eMand 85f- 860Syrc 86b- 870Arab 88f- 890Arab 892- 897Arab 8e2Zyyy
   8e3Arab 900Deva 951Zinh 955Deva 964Zyyy 966Deva 980Beng 984- 985Beng 98d- 98fBeng 991-
   993Beng 9a9- 9aaBeng 9b1- 9b2Beng 9b3- 9b6Beng 9ba- 9bcBeng 9c5- 9c7Beng 9c9- 9cbBeng 9cf-
   9d7Beng 9d8- 9dcBeng 9de- 9dfBeng 9e4- 9e6Beng 9ff- a01Guru a04- a05Guru a0b- a0fGuru a11-
   a13Guru a29- a2aGuru a31- a32Guru a34- a35Guru a37- a38Guru a3a- a3cGuru a3d- a3eGuru a43-
   a47Guru a49- a4bGuru a4e- a51Guru a52- a59Guru a5d- a5eGuru a5f- a66Guru a77- a81Gujr a84-
   a85Gujr a8e- a8fGujr a92- a93Gujr aa9- aaaGujr ab1- ab2Gujr ab4- ab5Gujr aba- abcGujr ac6-
   ac7Gujr aca- acbGujr ace- ad0Gujr ad1- ae0Gujr ae4- ae6Gujr af2- af9Gujr b00- b01Orya b04-
   b05Orya b0d- b0fOrya b11- b13Orya b29- b2aOrya b31- b32Orya b34- b35Orya b3a- b3cOrya b45-
   b47Orya b49- b4bOrya b4e- b55Orya b58- b5cOrya b5e- b5fOrya b64- b66Orya b78- b82Taml b84-
   b85Taml b8b- b8eTaml b91- b92Taml b96- b99Taml b9b- b9cTaml b9d- b9eTaml ba0- ba3Taml ba5-
   ba8Taml bab- baeTaml bba- bbeTaml bc3- bc6Taml bc9- bcaTaml bce- bd0Taml bd1- bd7Taml bd8-
   be6Taml bfb- c00Telu c0d- c0eTelu c11- c12Telu c29- c2aTelu c3a- c3cTelu c45- c46Telu c49-
   c4aTelu c4e- c55Telu c57- c58Telu c5b- c5c- c5dTelu c5e- c60Telu c64- c66Telu c70- c77Telu
   c80Knda c8d- c8eKnda c91- c92Knda ca9- caaKnda cb4- cb5Knda cba- cbcKnda cc5- cc6Knda cc9-
   ccaKnda cce- cd5Knda cd7- cdc- cddKnda cdf- ce0Knda ce4- ce6Knda cf0- cf1Knda cf4- d00Mlym
   d0d- d0eMlym d11- d12Mlym d45- d46Mlym d49- d4aMlym d50- d54Mlym d64- d66Mlym d80- d81Sinh
   d84- d85Sinh d97- d9aSinh db2- db3Sinh dbc- dbdSinh dbe- dc0Sinh dc7- dcaSinh dcb- dcfSinh
   dd5- dd6Sinh dd7- dd8Sinh de0- de6Sinh df0- df2Sinh df5- e01Thai e3b- e3fZyyy e40Thai e5c-
   e81Laoo e83- e84Laoo e85- e86Laoo e8b- e8cLaoo ea4- ea5Laoo ea6- ea7Laoo ebe- ec0Laoo ec5-
   ec6Laoo ec7- ec8Laoo ecf- ed0Laoo eda- edcLaoo ee0- f00Tibt f48- f49Tibt f6d- f71Tibt f98-
   f99Tibt fbd- fbeTibt fcd- fceTibt fd5Zyyy fd9Tibt fdb- 1000Mymr 10a0Geor 10c6- 10c7Geor 10c8-
   10cdGeor 10ce- 10d0Geor 10fbZyyy 10fcGeor 1100Hang 1200Ethi 1249- 124aEthi 124e- 1250Ethi
   1257- 1258Ethi 1259- 125aEthi 125e- 1260Ethi 1289- 128aEthi 128e- 1290Ethi 12b1- 12b2Ethi
   12b6- 12b8Ethi 12bf- 12c0Ethi 12c1- 12c2Ethi 12c6- 12c8Ethi 12d7- 12d8Ethi 1311- 1312Ethi
   1316- 1318Ethi 135b- 135dEthi 137d- 1380Ethi 139a- 13a0Cher 13f6- 13f8Cher 13fe- 1400Cans
   1680Ogam 169d- 16a0Runr 16ebZyyy 16eeRunr 16f9- 1700Tglg 1716- 171fTglg 1720Hano 1735Zyyy
   1737- 1740Buhd 1754- 1760Tagb 176d- 176eTagb 1771- 1772Tagb 1774- 1780Khmr 17de- 17e0Khmr
   17ea- 17f0Khmr 17fa- 1800Mong 1802Zyyy 1804Mong 1805Zyyy 1806Mong 181a- 1820Mong 1879-
   1880Mong 18ab- 18b0Cans 18f6- 1900Limb 191f- 1920Limb 192c- 1930Limb 193c- 1940Limb 1941-
   1944Limb 1950Tale 196e- 1970Tale 1975- 1980Talu 19ac- 19b0Talu 19ca- 19d0Talu 19db- 19deTalu
   19e0Khmr 1a00Bugi 1a1c- 1a1eBugi 1a20Lana 1a5f- 1a60Lana 1a7d- 1a7fLana 1a8a- 1a90Lana 1a9a-
   1aa0Lana 1aae- 1ab0Zinh 1acf- 1ade- 1ae0- 1aec- 1b00Bali 1b4d- 1b4eBali 1b80Sund 1bc0Batk
   1bf4- 1bfcBatk 1c00Lepc 1c38- 1c3bLepc 1c4a- 1c4dLepc 1c50Olck 1c80Cyrl 1c8b- 1c90Geor 1cbb-
   1cbdGeor 1cc0Sund 1cc8- 1cd0Zinh 1cd3Zyyy 1cd4Zinh 1ce1Zyyy 1ce2Zinh 1ce9Zyyy 1cedZinh
   1ceeZyyy 1cf4Zinh 1cf5Zyyy 1cf8Zinh 1cfaZyyy 1cfb- 1d00Latn 1d26Grek 1d2bCyrl 1d2cLatn
   1d5dGrek 1d62Latn 1d66Grek 1d6bLatn 1d78Cyrl 1d79Latn 1dbfGrek 1dc0Zinh 1e00Latn 1f00Grek
   1f16- 1f18Grek 1f1e- 1f20Grek 1f46- 1f48Grek 1f4e- 1f50Grek 1f58- 1f59Grek 1f5a- 1f5bGrek
   1f5c- 1f5dGrek 1f5e- 1f5fGrek 1f7e- 1f80Grek 1fb5- 1fb6Grek 1fc5- 1fc6Grek 1fd4- 1fd6Grek
   1fdc- 1fddGrek 1ff0- 1ff2Grek 1ff5- 1ff6Grek 1fff- 2000Zyyy 200cZinh 200eZyyy 2065- 2066Zyyy
   2071Latn 2072- 2074Zyyy 207fLatn 2080Zyyy 208f- 2090Latn 209d- 20a0Zyyy 20c1- 20c2- 20d0Zinh
   20f1- 2100Zyyy 2126Grek 2127Zyyy 212aLatn 212cZyyy 2132Latn 2133Zyyy 214eLatn 214fZyyy
   2160Latn 2189Zyyy 218c- 2190Zyyy 242a- 2440Zyyy 244b- 2460Zyyy 2800Brai 2900Zyyy 2b74-
   2b76Zyyy 2b96- 2b97Zyyy 2c00Glag 2c60Latn 2c80Copt 2cf4- 2cf9Copt 2d00Geor 2d26- 2d27Geor
   2d28- 2d2dGeor 2d2e- 2d30Tfng 2d68- 2d6fTfng 2d71- 2d7fTfng 2d80Ethi 2d97- 2da0Ethi 2da7-
   2da8Ethi 2daf- 2db0Ethi 2db7- 2db8Ethi 2dbf- 2dc0Ethi 2dc7- 2dc8Ethi 2dcf- 2dd0Ethi 2dd7-
   2dd8Ethi 2ddf- 2de0Cyrl 2e00Zyyy 2e5e- 2e80Hani 2e9a- 2e9bHani 2ef4- 2f00Hani 2fd6- 2ff0Zyyy
   3005Hani 3006Zyyy 3007Hani 3008Zyyy 3021Hani 302aZinh 302eHang 3030Zyyy 3038Hani 303cZyyy
   3040- 3041Hira 3097- 3099Zinh 309bZyyy 309dHira 30a0Zyyy 30a1Kana 30fbZyyy 30fdKana 3100-
   3105Bopo 3130- 3131Hang 318f- 3190Zyyy 31a0Bopo 31c0Zyyy 31e6- 31efZyyy 31f0Kana 3200Hang
   321f- 3220Zyyy 3260Hang 327fZyyy 32d0Kana 32ffZyyy 3300Kana 3358Zyyy 3400Hani 4dc0Zyyy
   4e00Hani a000Yiii a48d- a490Yiii a4c7- a4d0Lisu a500Vaii a62c- a640Cyrl a6a0Bamu a6f8-
   a700Zyyy a722Latn a788Zyyy a78bLatn a7ce- a7d0Latn a7d2- a7d3Latn a7d4- a7d5Latn a7dd- a7f1-
   a7f2Latn a800Sylo a82d- a830Zyyy a83a- a840Phag a878- a880Saur a8c6- a8ceSaur a8da- a8e0Deva
   a900Kali a92eZyyy a92fKali a930Rjng a954- a95fRjng a960Hang a97d- a980Java a9ce- a9cfZyyy
   a9d0Java a9da- a9deJava a9e0Mymr a9ff- aa00Cham aa37- aa40Cham aa4e- aa50Cham aa5a- aa5cCham
   aa60Mymr aa80Tavt aac3- aadbTavt aae0Mtei aaf7- ab01Ethi ab07- ab09Ethi ab0f- ab11Ethi ab17-
   ab20Ethi ab27- ab28Ethi ab2f- ab30Latn ab5bZyyy ab5cLatn ab65Grek ab66Latn ab6aZyyy ab6c-
   ab70Cher abc0Mtei abee- abf0Mtei abfa- ac00Hang d7a4- d7b0Hang d7c7- d7cbHang d7fc- f900Hani
   fa6e- fa70Hani fada- fb00Latn fb07- fb13Armn fb18- fb1dHebr fb37- fb38Hebr fb3d- fb3eHebr
   fb3f- fb40Hebr fb42- fb43Hebr fb45- fb46Hebr fb50Arab fbc3- fbd3Arab fd3eZyyy fd40Arab fd90-
   fd92Arab fdc8- fdcfArab fdd0- fdf0Arab fe00Zinh fe10Zyyy fe1a- fe20Zinh fe2eCyrl fe30Zyyy
   fe53- fe54Zyyy fe67- fe68Zyyy fe6c- fe70Arab fe75- fe76Arab fefd- feffZyyy ff00- ff01Zyyy
   ff21Latn ff3bZyyy ff41Latn ff5bZyyy ff66Kana ff70Zyyy ff71Kana ff9eZyyy ffa0Hang ffbf-
   ffc2Hang ffc8- ffcaHang ffd0- ffd2Hang ffd8- ffdaHang ffdd- ffe0Zyyy ffe7- ffe8Zyyy ffef-
   fff9Zyyy fffe- 10000Linb 1000c- 1000dLinb 10027- 10028Linb 1003b- 1003cLinb 1003e- 1003fLinb
   1004e- 10050Linb 1005e- 10080Linb 100fb- 10100Zyyy 10103- 10107Zyyy 10134- 10137Zyyy
   10140Grek 1018f- 10190Zyyy 1019d- 101a0Grek 101a1- 101d0Zyyy 101fdZinh 101fe- 10280Lyci
   1029d- 102a0Cari 102d1- 102e0Zinh 102e1Zyyy 102fc- 10300Ital 10324- 1032dItal 10330Goth
   1034b- 10350Perm 1037b- 10380Ugar 1039e- 1039fUgar 103a0Xpeo 103c4- 103c8Xpeo 103d6-
   10400Dsrt 10450Shaw 10480Osma 1049e- 104a0Osma 104aa- 104b0Osge 104d4- 104d8Osge 104fc-
   10500Elba 10528- 10530Aghb 10564- 1056fAghb 10570Vith 1057b- 1057cVith 1058b- 1058cVith
   10593- 10594Vith 10596- 10597Vith 105a2- 105a3Vith 105b2- 105b3Vith 105ba- 105bbVith 105bd-
   105c0Todr 105f4- 10600Lina 10737- 10740Lina 10756- 10760Lina 10768- 10780Latn 10786-
   10787Latn 107b1- 107b2Latn 107bb- 10800Cprt 10806- 10808Cprt 10809- 1080aCprt 10836-
   10837Cprt 10839- 1083cCprt 1083d- 1083fCprt 10840Armi 10856- 10857Armi 10860Palm 10880Nbat
   1089f- 108a7Nbat 108b0- 108e0Hatr 108f3- 108f4Hatr 108f6- 108fbHatr 10900Phnx 1091c-
   1091fPhnx 10920Lydi 1093a- 1093fLydi 10940- 1095a- 10980Mero 109a0Merc 109b8- 109bcMerc
   109d0- 109d2Merc 10a00Khar 10a04- 10a05Khar 10a07- 10a0cKhar 10a14- 10a15Khar 10a18-
   10a19Khar 10a36- 10a38Khar 10a3b- 10a3fKhar 10a49- 10a50Khar 10a59- 10a60Sarb 10a80Narb
   10aa0- 10ac0Mani 10ae7- 10aebMani 10af7- 10b00Avst 10b36- 10b39Avst 10b40Prti 10b56-
   10b58Prti 10b60Phli 10b73- 10b78Phli 10b80Phlp 10b92- 10b99Phlp 10b9d- 10ba9Phlp 10bb0-
   10c00Orkh 10c49- 10c80Hung 10cb3- 10cc0Hung 10cf3- 10cfaHung 10d00Rohg 10d28- 10d30Rohg
   10d3a- 10d40Gara 10d66- 10d69Gara 10d86- 10d8eGara 10d90- 10e60Arab 10e7f- 10e80Yezi 10eaa-
   10eabYezi 10eae- 10eb0Yezi 10eb2- 10ec2Arab 10ec5- 10ec8- 10ed0- 10ed9- 10efa- 10efcArab
   10f00Sogo 10f28- 10f30Sogd 10f5a- 10f70Ougr 10f8a- 10fb0Chrs 10fcc- 10fe0Elym 10ff7-
   11000Brah 1104e- 11052Brah 11076- 1107fBrah 11080Kthi 110c3- 110cdKthi 110ce- 110d0Sora
   110e9- 110f0Sora 110fa- 11100Cakm 11135- 11136Cakm 11148- 11150Mahj 11177- 11180Shrd 111e0-
   111e1Sinh 111f5- 11200Khoj 11212- 11213Khoj 11242- 11280Mult 11287- 11288Mult 11289-
   1128aMult 1128e- 1128fMult 1129e- 1129fMult 112aa- 112b0Sind 112eb- 112f0Sind 112fa-
   11300Gran 11304- 11305Gran 1130d- 1130fGran 11311- 11313Gran 11329- 1132aGran 11331-
   11332Gran 11334- 11335Gran 1133a- 1133bZinh 1133cGran 11345- 11347Gran 11349- 1134bGran
   1134e- 11350Gran 11351- 11357Gran 11358- 1135dGran 11364- 11366Gran 1136d- 11370Gran 11375-
   11380Tutg 1138a- 1138bTutg 1138c- 1138eTutg 1138f- 11390Tutg 113b6- 113b7Tutg 113c1-
   113c2Tutg 113c3- 113c5Tutg 113c6- 113c7Tutg 113cb- 113ccTutg 113d6- 113d7Tutg 113d9-
   113e1Tutg 113e3- 11400Newa 1145c- 1145dNewa 11462- 11480Tirh 114c8- 114d0Tirh 114da-
   11580Sidd 115b6- 115b8Sidd 115de- 11600Modi 11645- 11650Modi 1165a- 11660Mong 1166d-
   11680Takr 116ba- 116c0Takr 116ca- 116d0Mymr 116e4- 11700Ahom 1171b- 1171dAhom 1172c-
   11730Ahom 11747- 11800Dogr 1183c- 118a0Wara 118f3- 118ffWara 11900Diak 11907- 11909Diak
   1190a- 1190cDiak 11914- 11915Diak 11917- 11918Diak 11936- 11937Diak 11939- 1193bDiak 11947-
   11950Diak 1195a- 119a0Nand 119a8- 119aaNand 119d8- 119daNand 119e5- 11a00Zanb 11a48-
   11a50Soyo 11aa3- 11ab0Cans 11ac0Pauc 11af9- 11b00Deva 11b0a- 11b60- 11b68- 11bc0Sunu 11be2-
   11bf0Sunu 11bfa- 11c00Bhks 11c09- 11c0aBhks 11c37- 11c38Bhks 11c46- 11c50Bhks 11c6d-
   11c70Marc 11c90- 11c92Marc 11ca8- 11ca9Marc 11cb7- 11d00Gonm 11d07- 11d08Gonm 11d0a-
   11d0bGonm 11d37- 11d3aGonm 11d3b- 11d3cGonm 11d3e- 11d3fGonm 11d48- 11d50Gonm 11d5a-
   11d60Gong 11d66- 11d67Gong 11d69- 11d6aGong 11d8f- 11d90Gong 11d92- 11d93Gong 11d99-
   11da0Gong 11daa- 11db0- 11ddc- 11de0- 11dea- 11ee0Maka 11ef9- 11f00Kawi 11f11- 11f12Kawi
   11f3b- 11f3eKawi 11f5b- 11fb0Lisu 11fb1- 11fc0Taml 11ff2- 11fffTaml 12000Xsux 1239a-
   12400Xsux 1246f- 12470Xsux 12475- 12480Xsux 12544- 12f90Cpmn 12ff3- 13000Egyp 13456-
   13460Egyp 143fb- 14400Hluw 14647- 16100Gukh 1613a- 16800Bamu 16a39- 16a40Mroo 16a5f-
   16a60Mroo 16a6a- 16a6eMroo 16a70Tnsa 16abf- 16ac0Tnsa 16aca- 16ad0Bass 16aee- 16af0Bass
   16af6- 16b00Hmng 16b46- 16b50Hmng 16b5a- 16b5bHmng 16b62- 16b63Hmng 16b78- 16b7dHmng 16b90-
   16d40Krai 16d7a- 16e40Medf 16e9b- 16ea0- 16eb9- 16ebb- 16ed4- 16f00Plrd 16f4b- 16f4fPlrd
   16f88- 16f8fPlrd 16fa0- 16fe0Tang 16fe1Nshu 16fe2Hani 16fe4Kits 16fe5- 16ff0Hani 16ff2-
   16ff7- 17000Tang 187f8- 18800Tang 18b00Kits 18cd6- 18cffKits 18d00Tang 18d09- 18d1f- 18d80-
   18df3- 1aff0Kana 1aff4- 1aff5Kana 1affc- 1affdKana 1afff- 1b000Kana 1b001Hira 1b120Kana
   1b123- 1b132Hira 1b133- 1b150Hira 1b153- 1b155Kana 1b156- 1b164Kana 1b168- 1b170Nshu 1b2fc-
   1bc00Dupl 1bc6b- 1bc70Dupl 1bc7d- 1bc80Dupl 1bc89- 1bc90Dupl 1bc9a- 1bc9cDupl 1bca0Zyyy
   1bca4- 1cc00Zyyy 1ccfa- 1ccfd- 1cd00Zyyy 1ceb4- 1ceba- 1ced1- 1cee0- 1cef1- 1cf00Zinh 1cf2e-
   1cf30Zinh 1cf47- 1cf50Zyyy 1cfc4- 1d000Zyyy 1d0f6- 1d100Zyyy 1d127- 1d129Zyyy 1d167Zinh
   1d16aZyyy 1d17bZinh 1d183Zyyy 1d185Zinh 1d18cZyyy 1d1aaZinh 1d1aeZyyy 1d1eb- 1d200Grek 1d246-
   1d2c0Zyyy 1d2d4- 1d2e0Zyyy 1d2f4- 1d300Zyyy 1d357- 1d360Zyyy 1d379- 1d400Zyyy 1d455-
   1d456Zyyy 1d49d- 1d49eZyyy 1d4a0- 1d4a2Zyyy 1d4a3- 1d4a5Zyyy 1d4a7- 1d4a9Zyyy 1d4ad-
   1d4aeZyyy 1d4ba- 1d4bbZyyy 1d4bc- 1d4bdZyyy 1d4c4- 1d4c5Zyyy 1d506- 1d507Zyyy 1d50b-
   1d50dZyyy 1d515- 1d516Zyyy 1d51d- 1d51eZyyy 1d53a- 1d53bZyyy 1d53f- 1d540Zyyy 1d545-
   1d546Zyyy 1d547- 1d54aZyyy 1d551- 1d552Zyyy 1d6a6- 1d6a8Zyyy 1d7cc- 1d7ceZyyy 1d800Sgnw
   1da8c- 1da9bSgnw 1daa0- 1daa1Sgnw 1dab0- 1df00Latn 1df1f- 1df25Latn 1df2b- 1e000Glag 1e007-
   1e008Glag 1e019- 1e01bGlag 1e022- 1e023Glag 1e025- 1e026Glag 1e02b- 1e030Cyrl 1e06e-
   1e08fCyrl 1e090- 1e100Hmnp 1e12d- 1e130Hmnp 1e13e- 1e140Hmnp 1e14a- 1e14eHmnp 1e150-
   1e290Toto 1e2af- 1e2c0Wcho 1e2fa- 1e2ffWcho 1e300- 1e4d0Nagm 1e4fa- 1e5d0Onao 1e5fb-
   1e5ffOnao 1e600- 1e6c0- 1e6df- 1e6e0- 1e6f6- 1e6fe- 1e700- 1e7e0Ethi 1e7e7- 1e7e8Ethi 1e7ec-
   1e7edEthi 1e7ef- 1e7f0Ethi 1e7ff- 1e800Mend 1e8c5- 1e8c7Mend 1e8d7- 1e900Adlm 1e94c-
   1e950Adlm 1e95a- 1e95eAdlm 1e960- 1ec71Zyyy 1ecb5- 1ed01Zyyy 1ed3e- 1ee00Arab 1ee04-
   1ee05Arab 1ee20- 1ee21Arab 1ee23- 1ee24Arab 1ee25- 1ee27Arab 1ee28- 1ee29Arab 1ee33-
   1ee34Arab 1ee38- 1ee39Arab 1ee3a- 1ee3bArab 1ee3c- 1ee42Arab 1ee43- 1ee47Arab 1ee48-
   1ee49Arab 1ee4a- 1ee4bArab 1ee4c- 1ee4dArab 1ee50- 1ee51Arab 1ee53- 1ee54Arab 1ee55-
   1ee57Arab 1ee58- 1ee59Arab 1ee5a- 1ee5bArab 1ee5c- 1ee5dArab 1ee5e- 1ee5fArab 1ee60-
   1ee61Arab 1ee63- 1ee64Arab 1ee65- 1ee67Arab 1ee6b- 1ee6cArab 1ee73- 1ee74Arab 1ee78-
   1ee79Arab 1ee7d- 1ee7eArab 1ee7f- 1ee80Arab 1ee8a- 1ee8bArab 1ee9c- 1eea1Arab 1eea4-
   1eea5Arab 1eeaa- 1eeabArab 1eebc- 1eef0Arab 1eef2- 1f000Zyyy 1f02c- 1f030Zyyy 1f094-
   1f0a0Zyyy 1f0af- 1f0b1Zyyy 1f0c0- 1f0c1Zyyy 1f0d0- 1f0d1Zyyy 1f0f6- 1f100Zyyy 1f1ae-
   1f1e6Zyyy 1f200Hira 1f201Zyyy 1f203- 1f210Zyyy 1f23c- 1f240Zyyy 1f249- 1f250Zyyy 1f252-
   1f260Zyyy 1f266- 1f300Zyyy 1f6d8- 1f6d9- 1f6dcZyyy 1f6ed- 1f6f0Zyyy 1f6fd- 1f700Zyyy 1f777-
   1f77bZyyy 1f7da- 1f7e0Zyyy 1f7ec- 1f7f0Zyyy 1f7f1- 1f800Zyyy 1f80c- 1f810Zyyy 1f848-
   1f850Zyyy 1f85a- 1f860Zyyy 1f888- 1f890Zyyy 1f8ae- 1f8b0Zyyy 1f8bc- 1f8c0Zyyy 1f8c2- 1f8d0-
   1f8d9- 1f900Zyyy 1fa54- 1fa58- 1fa60Zyyy 1fa6e- 1fa70Zyyy 1fa7d- 1fa80Zyyy 1fa8a- 1fa8b-
   1fa8e- 1fa8fZyyy 1fac7- 1fac8- 1fac9- 1facd- 1faceZyyy 1fadd- 1fadfZyyy 1faea- 1faeb- 1faef-
   1faf0Zyyy 1faf9- 1fb00Zyyy 1fb93- 1fb94Zyyy 1fbfa- 1fbfb- 20000Hani 2a6e0- 2a700Hani 2b73a-
   2b740Hani 2b81e- 2b820Hani 2cea2- 2ceae- 2ceb0Hani 2ebe1- 2ebf0Hani 2ee5e- 2f800Hani 2fa1e-
   30000Hani 3134b- 31350Hani 323b0- 3347a- e0001Zyyy e0002- e0020Zyyy e0080- e0100Zinh e01f0-"

/-- The ranges that are used in other scripts than their own, each followed by all of these. -/
def extensionTable : String :=
  "b7=AvstCariCoptDuplElbaGeorGlagGongGothGrekHaniLatnLydiMahjPermShaw
   2bc=BengCyrlDevaLatnLisuThaiToto 2c7=BopoLatn 2c9-2cb=BopoLatn 2cd=LatnLisu 2d7=LatnThai
   2d9=BopoLatn 300=CherCoptCyrlGrekLatnPermSunuTale 301=CherCyrlGrekLatnOsgeSunuTaleTodr
   302=CherCyrlLatnTfng 303=GlagLatnSunuSyrcThai
   304=AghbCherCoptCyrlGothGrekLatnOsgeSyrcTfngTodr 305=CoptElbaGlagGothKanaLatn
   306=CyrlGrekLatnPermTfng 307=CoptDuplHebrLatnPermSyrcTaleTfngTodr
   308=ArmnCyrlDuplGothGrekHebrLatnPermSyrcTaleTfng 309=LatnTfng 30a=DuplLatnSyrc
   30b=CherCyrlLatnOsge 30c=CherLatnTale 30d=LatnSunu 30e=EthiLatn 310=LatnSunu 311=CyrlLatnTodr
   313=GrekLatnPermTodr 323=CherDuplKanaLatnSyrcTfng 324=CherDuplLatnSyrc 325=LatnSyrc
   32d=LatnSunuSyrc 32e=LatnSyrc 330=CherLatnSyrc 331=AghbCherGothLatnSunuSyrcThai 342=Grek
   345=Grek 358=LatnOsge 35e=AghbLatnTodr 363-36f=Latn 374-375=CoptGrek 483=CyrlPerm
   484=CyrlGlag 485-486=CyrlLatn 487=CyrlGlag 589=ArmnGeorGlag 60c=ArabGaraNkooRohgSyrcThaaYezi
   61b=ArabGaraNkooRohgSyrcThaaYezi 61c=ArabSyrcThaa 61f=AdlmArabGaraNkooRohgSyrcThaaYezi
   640=AdlmArabMandManiOugrPhlpRohgSogdSyrc 64b-655=ArabSyrc 660-669=ArabThaaYezi 670=ArabSyrc
   6d4=ArabRohg 951=BengDevaGranGujrGuruKndaLatnMlymNandNewaOryaShrdTamlTeluTirh
   952=BengDevaGranGujrGuruKndaLatnMlymNewaOryaTamlTeluTirh
   964=BengDevaDogrGongGonmGranGujrGuruKndaMahjMlymNandOnaoOryaSindSinhSyloTakrTamlTeluTirh
   965=BengDevaDogrGongGonmGranGujrGukhGuruKndaLimbMahjMlymNandOnaoOryaSindSinhSyloTakrTamlTeluTirh
   966-96f=DevaDogrKthiMahj 9e6-9ef=BengCakmSylo a66-a6f=GuruMult ae6-aef=GujrKhoj
   be6-bf3=GranTaml ce6-cef=KndaNandTutg 1040-1049=CakmMymrTale 10fb=GeorGlagLatn 16eb-16ed=Runr
   1735-1736=BuhdHanoTagbTglg 1802-1803=MongPhag 1805=MongPhag 1cd0=BengDevaGranKnda 1cd1=Deva
   1cd2=BengDevaGranKnda 1cd3=DevaGranKnda 1cd4=Deva 1cd5=BengDevaNewaTeluTirh 1cd6=BengDevaTelu
   1cd7=DevaNewaShrd 1cd8=BengDevaNewaTelu 1cd9=DevaShrd 1cda=DevaKndaMlymOryaTamlTelu 1cdb=Deva
   1cdc-1cdd=DevaShrd 1cde-1cdf=Deva 1ce0=DevaShrd 1ce1=BengDeva 1ce2=DevaNewaTirh
   1ce3-1ce8=Deva 1ce9=DevaNandNewa 1cea=BengDevaShrd 1ceb=DevaNewa 1cec=Deva
   1ced=BengDevaNewaShrd 1cee-1cf1=Deva 1cf2=BengDevaGranKndaMlymNandOryaSinhTeluTirhTutg
   1cf3=DevaGran 1cf4=DevaGranKndaTutg 1cf5-1cf6=BengDeva 1cf7=Beng 1cf8-1cf9=DevaGran 1cfa=Nand
   1dc0-1dc1=Grek 1df8=CyrlLatnSyrc 1dfa=Syrc 202f=LatnMongPhag 204f=AdlmArab
   205a=CariGeorGlagHungLyciOrkh 205d=CariGrekHungMero 20f0=DevaGranLatn 2e17=CoptLatn
   2e30=AvstOrkh 2e31=AvstCariGeorHungKthiLydiSamr 2e3c=Dupl 2e41=AdlmArabHung 2e43=CyrlGlag
   2ff0-2fff=HaniTang 3001=BopoHangHaniHiraKanaMongYiii 3002=BopoHangHaniHiraKanaMongPhagYiii
   3003=BopoHangHaniHiraKana 3006=Hani 3008-3009=BopoHangHaniHiraKanaMongTibtYiii
   300a-300b=BopoHangHaniHiraKanaLisuMongTibtYiii 300c-3011=BopoHangHaniHiraKanaYiii
   3013=BopoHangHaniHiraKana 3014-301b=BopoHangHaniHiraKanaYiii 301c-301f=BopoHangHaniHiraKana
   302a-302d=BopoHani 3030=BopoHangHaniHiraKana 3031-3035=HiraKana 3037=BopoHangHaniHiraKana
   303c-303d=HaniHiraKana 303e-303f=Hani 3099-309c=HiraKana 30a0=HiraKana
   30fb=BopoHangHaniHiraKanaYiii 30fc=HiraKana 3190-319f=Hani 31c0-31e5=Hani 31ef=HaniTang
   3220-3247=Hani 3280-32b0=Hani 32c0-32cb=Hani 32ff=Hani 3358-3370=Hani 337b-337f=Hani
   33e0-33fe=Hani a66f=CyrlGlag a700-a707=HaniLatn
   a830-a832=DevaDogrGujrGuruKhojKndaKthiMahjMlymModiNandShrdSindTakrTirhTutg
   a833-a835=DevaDogrGujrGuruKhojKndaKthiMahjModiNandShrdSindTakrTirhTutg
   a836-a837=DevaDogrGujrGuruKhojKthiMahjModiSindTakrTirh
   a838=DevaDogrGujrGuruKhojKthiMahjModiShrdSindTakrTirh
   a839=DevaDogrGujrGuruKhojKthiMahjModiSindTakrTirh a8f1=BengDevaTutg a8f3=DevaTaml
   a92e=KaliLatnMymr a9cf=BugiJava fd3e-fd3f=ArabNkoo fdf2=ArabThaa fdfd=ArabThaa
   fe45-fe46=BopoHangHaniHiraKana ff61-ff65=BopoHangHaniHiraKanaYiii ff70=HiraKana
   ff9e-ff9f=HiraKana 10100-10101=CpmnCprtLinb 10102=CprtLinb 10107-10133=CprtLinaLinb
   10137-1013f=CprtLinb 102e0-102fb=ArabCopt 10af2=ManiOugr 11301=GranTaml 11303=GranTaml
   1133b-1133c=GranTaml 11fd0-11fd1=GranTaml 11fd3=GranTaml 1bca0-1bca3=Dupl 1d360-1d371=Hani
   1f250-1f251=Hani"

/-- A text in parts at its colons. -/
def parts (text : List Char) : List (List Char) :=
  text.foldr
    (fun c rest =>
      if c = ':' then [] :: rest
      else
        match rest with
        | [] => [[c]]
        | part :: others => (c :: part) :: others)
    [[]]

/-- The script with a name in lower case without separators. -/
def ofName? (name : String) : Option (List Char) :=
  (Table.words nameTable.toList).findSome? fun word =>
    match parts word with
    | code :: names => if names.contains name.toList then some code else none
    | [] => none

/-- The runs of the table. -/
def runs : List (Nat × List Char) := (Table.entries table).map fun e => (e.1.1, e.2)

/-- The code points from a list of runs whose script is the given one. -/
def rangesFrom (code : List Char) : List (Nat × List Char) → List (Nat × Nat)
  | (start, script) :: rest =>
    let others := rangesFrom code rest
    if script = code then (start, (rest.head?.map fun r => r.1 - 1).getD Ranges.last) :: others
    else others
  | [] => []

/-- The characters of a script. -/
def ranges (code : List Char) : Ranges := Ranges.join (rangesFrom code runs)

/-- Whether a script is among scripts that are written one after the other. -/
def isAmong (code : List Char) : List Char → Bool
  | a :: b :: c :: d :: rest => [a, b, c, d] == code || isAmong code rest
  | _ => false

/-- The entries of the table of other scripts. -/
def extensions : List ((Nat × Nat) × List Char) :=
  (Table.entries extensionTable).map fun e => (e.1, e.2.drop 1)

/-- The characters that are used in a script. -/
def extendedRanges (code : List Char) : Ranges :=
  let elsewhere := Ranges.join (extensions.map Prod.fst)
  let here := Ranges.join ((extensions.filter fun e => isAmong code e.2).map Prod.fst)
  ((ranges code).diff elsewhere).union here

end SheetReport.Text.Script

import SheetReport.Text.Ranges

/-!
# Ages of characters

The edition of the Unicode character database in which each code point was assigned.
-/

namespace SheetReport.Text.Age

/-- The editions, oldest first. -/
def editions : List String :=
  ["1.1", "2.0", "2.1", "3.0", "3.1", "3.2", "4.0", "4.1", "5.0", "5.1", "5.2", "6.0", "6.1",
    "6.2", "6.3", "7.0", "8.0", "9.0", "10.0", "11.0", "12.0", "12.1", "13.0", "14.0", "15.0",
    "15.1", "16.0"]

/-- Starts of the runs of one age, in hexadecimal, each followed by the mark of its edition; a
dash marks what is not assigned. -/
def table : String :=
  "0A 1f6D 1faA 218D 220F 221G 222D 234G 237H 242I 250A 2a9D 2aeG 2b0A 2dfD 2e0A 2eaD 2efG 300A
   346D 34fF 350G 358H 35dG 360A 362D 363F 370J 374A 376J 378- 37aA 37bI 37eA 37fP 380- 384A
   38b- 38cA 38d- 38eA 3a2- 3a3A 3cfJ 3d0A 3d7D 3d8F 3daA 3dbD 3dcA 3ddD 3deA 3dfD 3e0A 3e1D
   3e2A 3f4E 3f6F 3f7G 3fcH 400D 401A 40dD 40eA 450D 451A 45dD 45eA 487J 488D 48aF 48cD 490A
   4c5F 4c7A 4c9F 4cbA 4cdF 4cfI 4d0A 4ecD 4eeA 4f6H 4f8A 4faI 500F 510I 514J 524K 526L 528P
   530- 531A 557- 559A 560T 561A 588T 589A 58aD 58b- 58dP 58fM 590- 591B 5a2H 5a3B 5b0A 5baI
   5bbA 5c4B 5c5H 5c8- 5d0A 5eb- 5efT 5f0A 5f5- 600G 604M 605P 606J 60bH 60cA 60dG 616J 61bA
   61cO 61dX 61eH 61fA 620L 621A 63bJ 640A 653D 656G 659H 65fL 660A 66eF 670A 6b8D 6baA 6bfD
   6c0A 6cfD 6d0A 6eeG 6f0A 6faD 6ffG 700D 70e- 70fD 72dG 730D 74b- 74dG 750H 76eJ 780D 7b1F
   7b2- 7c0I 7fb- 7fdT 800K 82e- 830K 83f- 840L 85c- 85eL 85f- 860S 86b- 870X 88f- 890X 892-
   897* 898X 8a0M 8a1P 8a2M 8adP 8b3Q 8b5X 8b6R 8beW 8c8X 8d3T 8d4R 8e3Q 8e4M 8ffP 900K 901A
   904G 905A 93aL 93cA 94eK 94fL 950A 955K 956L 958A 971J 973L 978P 979K 97bI 97dH 97eI 980P
   981A 984- 985A 98d- 98fA 991- 993A 9a9- 9aaA 9b1- 9b2A 9b3- 9b6A 9ba- 9bcA 9bdG 9beA 9c5-
   9c7A 9c9- 9cbA 9ceH 9cf- 9d7A 9d8- 9dcA 9de- 9dfA 9e4- 9e6A 9fbK 9fcS 9feT 9ff- a01G a02A
   a03G a04- a05A a0b- a0fA a11- a13A a29- a2aA a31- a32A a34- a35A a37- a38A a3a- a3cA a3d-
   a3eA a43- a47A a49- a4bA a4e- a51J a52- a59A a5d- a5eA a5f- a66A a75J a76T a77- a81A a84-
   a85A a8cG a8dA a8e- a8fA a92- a93A aa9- aaaA ab1- ab2A ab4- ab5A aba- abcA ac6- ac7A aca-
   acbA ace- ad0A ad1- ae0A ae1G ae4- ae6A af0M af1G af2- af9Q afaS b00- b01A b04- b05A b0d-
   b0fA b11- b13A b29- b2aA b31- b32A b34- b35G b36A b3a- b3cA b44J b45- b47A b49- b4bA b4e-
   b55W b56A b58- b5cA b5e- b5fA b62J b64- b66A b71G b72L b78- b82A b84- b85A b8b- b8eA b91-
   b92A b96- b99A b9b- b9cA b9d- b9eA ba0- ba3A ba5- ba8A bab- baeA bb6H bb7A bba- bbeA bc3-
   bc6A bc9- bcaA bce- bd0J bd1- bd7A bd8- be6H be7A bf3G bfb- c00P c01A c04T c05A c0d- c0eA
   c11- c12A c29- c2aA c34P c35A c3a- c3cX c3dJ c3eA c45- c46A c49- c4aA c4e- c55A c57- c58J
   c5aQ c5b- c5c- c5dX c5e- c60A c62J c64- c66A c70- c77U c78J c80R c81P c82A c84T c85A c8d-
   c8eA c91- c92A ca9- caaA cb4- cb5A cba- cbcG cbeA cc5- cc6A cc9- ccaA cce- cd5A cd7- cdc-
   cddX cdeA cdf- ce0A ce2I ce4- ce6A cf0- cf1I cf3Y cf4- d00S d01P d02A d04W d05A d0d- d0eA
   d11- d12A d29L d2aA d3aL d3bS d3dJ d3eA d44J d45- d46A d49- d4aA d4eL d4fR d50- d54R d57A
   d58R d5fQ d60A d62J d64- d66A d70J d76R d79J d80- d81W d82D d84- d85D d97- d9aD db2- db3D
   dbc- dbdD dbe- dc0D dc7- dcaD dcb- dcfD dd5- dd6D dd7- dd8D de0- de6P df0- df2D df5- e01A
   e3b- e3fA e5c- e81A e83- e84A e85- e86U e87A e89U e8aA e8b- e8cU e8dA e8eU e94A e98U e99A
   ea0U ea1A ea4- ea5A ea6- ea7A ea8U eaaA eacU eadA ebaU ebbA ebe- ec0A ec5- ec6A ec7- ec8A
   eceY ecf- ed0A eda- edcA edeM ee0- f00B f48- f49B f6aD f6bJ f6d- f71B f8cL f90B f96D f97B
   f98- f99B faeD fb1B fb8D fb9B fbaD fbd- fbeD fcd- fceJ fcfD fd0H fd2J fd5K fd9L fdb- 1000D
   1022J 1023D 1028J 1029D 102bJ 102cD 1033J 1036D 103aJ 1040D 105aJ 109aK 109eJ 10a0A 10c6-
   10c7M 10c8- 10cdM 10ce- 10d0A 10f7F 10f9H 10fbA 10fcH 10fdM 1100A 115aK 115fA 11a3K 11a8A
   11faK 1200D 1207H 1208D 1247H 1248D 1249- 124aD 124e- 1250D 1257- 1258D 1259- 125aD 125e-
   1260D 1287H 1288D 1289- 128aD 128e- 1290D 12afH 12b0D 12b1- 12b2D 12b6- 12b8D 12bf- 12c0D
   12c1- 12c2D 12c6- 12c8D 12cfH 12d0D 12d7- 12d8D 12efH 12f0D 130fH 1310D 1311- 1312D 1316-
   1318D 131fH 1320D 1347H 1348D 135b- 135dL 135fH 1361D 137d- 1380H 139a- 13a0D 13f5Q 13f6-
   13f8Q 13fe- 1400K 1401D 1677K 1680D 169d- 16a0D 16f1P 16f9- 1700F 170dX 170eF 1715X 1716-
   171fX 1720F 1737- 1740F 1754- 1760F 176d- 176eF 1771- 1772F 1774- 1780D 17ddG 17de- 17e0D
   17ea- 17f0G 17fa- 1800D 180fX 1810D 181a- 1820D 1878T 1879- 1880D 18aaJ 18ab- 18b0K 18f6-
   1900G 191dP 191f- 1920G 192c- 1930G 193c- 1940G 1941- 1944G 196e- 1970G 1975- 1980H 19aaK
   19ac- 19b0H 19ca- 19d0H 19daK 19db- 19deH 19e0G 1a00H 1a1c- 1a1eH 1a20K 1a5f- 1a60K 1a7d-
   1a7fK 1a8a- 1a90K 1a9a- 1aa0K 1aae- 1ab0P 1abfW 1ac1X 1acf- 1ade- 1ae0- 1aec- 1b00I 1b4cX
   1b4d- 1b4e* 1b50I 1b7dX 1b7f* 1b80J 1babM 1baeJ 1bbaM 1bc0L 1bf4- 1bfcL 1c00J 1c38- 1c3bJ
   1c4a- 1c4dJ 1c80R 1c89* 1c8b- 1c90T 1cbb- 1cbdT 1cc0M 1cc8- 1cd0K 1cf3M 1cf7S 1cf8P 1cfaU
   1cfb- 1d00G 1d6cH 1dc4I 1dcbJ 1de7P 1df6S 1dfaX 1dfbR 1dfcL 1dfdK 1dfeI 1e00A 1e9bB 1e9cJ
   1ea0A 1efaJ 1f00A 1f16- 1f18A 1f1e- 1f20A 1f46- 1f48A 1f4e- 1f50A 1f58- 1f59A 1f5a- 1f5bA
   1f5c- 1f5dA 1f5e- 1f5fA 1f7e- 1f80A 1fb5- 1fb6A 1fc5- 1fc6A 1fd4- 1fd6A 1fdc- 1fddA 1ff0-
   1ff2A 1ff5- 1ff6A 1fff- 2000A 202fD 2030A 2047F 2048D 204eF 2053G 2055H 2057F 2058H 205fF
   2064J 2065- 2066O 206aA 2071F 2072- 2074A 208f- 2090H 2095L 209d- 20a0A 20abB 20acC 20adD
   20b0F 20b2H 20b6K 20b9L 20baN 20bbP 20beQ 20bfS 20c0X 20c1- 20c2- 20d0A 20e2D 20e4F 20ebH
   20ecI 20f0J 20f1- 2100A 2139D 213bG 213cH 213dF 214cH 214dI 214fJ 2150K 2153A 2183D 2184I
   2185J 2189K 218aQ 218c- 2190A 21ebD 21f4F 2200A 22f2F 2300A 2301D 2302A 237bD 237cF 237dD
   239bF 23cfG 23d1H 23dcI 23e8K 23e9L 23f4P 23fbR 23ffS 2400A 2425D 2427* 242a- 2440A 244b-
   2460A 24ebF 24ffG 2500A 2596F 25a0A 25f0D 25f8F 2600A 2614G 2616F 2618H 2619D 261aA 2670D
   2672F 267eH 2680F 268aG 2692H 269dJ 269eK 26a0G 26a2H 26b2I 26b3J 26bdK 26c0J 26c4K 26ceL
   26cfK 26e2L 26e3K 26e4L 26e8K 2700P 2701A 2705L 2706A 270aL 270cA 2728L 2729A 274cL 274dA
   274eL 274fA 2753L 2756A 2757K 2758A 275fL 2761A 2768F 2776A 2795L 2798A 27b0L 27b1A 27bfL
   27c0H 27c7I 27cbM 27ccJ 27cdM 27ceL 27d0F 27ecJ 27f0F 2800D 2900F 2b00G 2b0eH 2b14I 2b1bJ
   2b20I 2b24J 2b4dP 2b50J 2b55K 2b5aP 2b74- 2b76P 2b96- 2b97W 2b98P 2bbaT 2bbdP 2bc9U 2bcaP
   2bd2S 2bd3T 2becQ 2bf0T 2bffU 2c00H 2c2fX 2c30H 2c5fX 2c60I 2c6dJ 2c70K 2c71J 2c74I 2c78J
   2c7eK 2c80H 2cebK 2cf2M 2cf4- 2cf9H 2d26- 2d27M 2d28- 2d2dM 2d2e- 2d30H 2d66M 2d68- 2d6fH
   2d70L 2d71- 2d7fL 2d80H 2d97- 2da0H 2da7- 2da8H 2daf- 2db0H 2db7- 2db8H 2dbf- 2dc0H 2dc7-
   2dc8H 2dcf- 2dd0H 2dd7- 2dd8H 2ddf- 2de0J 2e00H 2e18J 2e1cH 2e1eJ 2e31K 2e32M 2e3cP 2e43R
   2e45S 2e4aT 2e4fU 2e50W 2e53X 2e5e- 2e80D 2e9a- 2e9bD 2ef4- 2f00D 2fd6- 2ff0D 2ffcZ 3000A
   3038D 303bF 303eD 303fA 3040- 3041A 3095F 3097- 3099A 309fF 30a1A 30ffF 3100- 3105A 312dJ
   312eS 312fT 3130- 3131A 318f- 3190A 31a0D 31b8L 31bbW 31c0H 31d0J 31e4* 31e6- 31efZ 31f0F
   3200A 321dG 321f- 3220A 3244K 3250G 3251F 3260A 327cG 327eH 327fA 32b1F 32c0A 32ccG 32d0A
   32ffV 3300A 3377G 337bA 33deG 33e0A 33ffG 3400D 4db6W 4dc0G 4e00A 9fa6H 9fbcJ 9fc4K 9fccM
   9fcdQ 9fd6S 9febT 9ff0W 9ffdX a000D a48d- a490D a4a2F a4a4D a4b4F a4b5D a4c1F a4c2D a4c5F
   a4c6D a4c7- a4d0K a500J a62c- a640J a660L a662J a674M a67cJ a698P a69eQ a69fM a6a0K a6f8-
   a700H a717I a71bJ a720I a722J a78dL a78fQ a790L a792M a794P a7a0L a7aaM a7abP a7aeR a7afT
   a7b0P a7b2Q a7b8T a7baU a7c0X a7c2U a7c7W a7cb* a7ce- a7d0X a7d2- a7d3X a7d4- a7d5X a7da*
   a7dd- a7f1- a7f2X a7f5W a7f7P a7f8M a7faL a7fbJ a800H a82cW a82d- a830K a83a- a840I a878-
   a880J a8c5R a8c6- a8ceJ a8da- a8e0K a8fcQ a8feT a900J a954- a95fJ a960K a97d- a980K a9ce-
   a9cfK a9da- a9deK a9e0P a9ff- aa00J aa37- aa40J aa4e- aa50J aa5a- aa5cJ aa60K aa7cP aa80K
   aac3- aadbK aae0M aaf7- ab01L ab07- ab09L ab0f- ab11L ab17- ab20L ab27- ab28L ab2f- ab30P
   ab60Q ab64P ab66U ab68W ab6c- ab70Q abc0K abee- abf0K abfa- ac00B d7a4- d7b0K d7c7- d7cbK
   d7fc- d800- e000A fa2eM fa30F fa6bK fa6e- fa70H fada- fb00A fb07- fb13A fb18- fb1dD fb1eA
   fb37- fb38A fb3d- fb3eA fb3f- fb40A fb42- fb43A fb45- fb46A fbb2L fbc2X fbc3- fbd3A fd40X
   fd50A fd90- fd92A fdc8- fdcfX fdd0E fdf0A fdfcF fdfdG fdfeX fe00F fe10H fe1a- fe20A fe24J
   fe27P fe2eQ fe30A fe45F fe47G fe49A fe53- fe54A fe67- fe68A fe6c- fe70A fe73F fe74A fe75-
   fe76A fefd- feffA ff00- ff01A ff5fF ff61A ffbf- ffc2A ffc8- ffcaA ffd0- ffd2A ffd8- ffdaA
   ffdd- ffe0A ffe7- ffe8A ffef- fff9D fffcC fffdA 10000G 1000c- 1000dG 10027- 10028G 1003b-
   1003cG 1003e- 1003fG 1004e- 10050G 1005e- 10080G 100fb- 10100G 10103- 10107G 10134- 10137G
   10140H 1018bP 1018dR 1018f- 10190J 1019cW 1019d- 101a0P 101a1- 101d0J 101fe- 10280J 1029d-
   102a0J 102d1- 102e0P 102fc- 10300E 1031fP 10320E 10324- 1032dS 10330E 1034b- 10350P 1037b-
   10380G 1039e- 1039fG 103a0H 103c4- 103c8H 103d6- 10400E 10426G 10428E 1044eG 1049e- 104a0G
   104aa- 104b0R 104d4- 104d8R 104fc- 10500P 10528- 10530P 10564- 1056fP 10570X 1057b- 1057cX
   1058b- 1058cX 10593- 10594X 10596- 10597X 105a2- 105a3X 105b2- 105b3X 105ba- 105bbX 105bd-
   105c0* 105f4- 10600P 10737- 10740P 10756- 10760P 10768- 10780X 10786- 10787X 107b1- 107b2X
   107bb- 10800G 10806- 10808G 10809- 1080aG 10836- 10837G 10839- 1083cG 1083d- 1083fG 10840K
   10856- 10857K 10860P 1089f- 108a7P 108b0- 108e0Q 108f3- 108f4Q 108f6- 108fbQ 10900I 1091aK
   1091c- 1091fI 10920J 1093a- 1093fJ 10940- 1095a- 10980M 109b8- 109bcQ 109beM 109c0Q 109d0-
   109d2Q 10a00H 10a04- 10a05H 10a07- 10a0cH 10a14- 10a15H 10a18- 10a19H 10a34T 10a36- 10a38H
   10a3b- 10a3fH 10a48T 10a49- 10a50H 10a59- 10a60K 10a80P 10aa0- 10ac0P 10ae7- 10aebP 10af7-
   10b00K 10b36- 10b39K 10b56- 10b58K 10b73- 10b78K 10b80P 10b92- 10b99P 10b9d- 10ba9P 10bb0-
   10c00K 10c49- 10c80Q 10cb3- 10cc0Q 10cf3- 10cfaQ 10d00T 10d28- 10d30T 10d3a- 10d40* 10d66-
   10d69* 10d86- 10d8e* 10d90- 10e60K 10e7f- 10e80W 10eaa- 10eabW 10eae- 10eb0W 10eb2- 10ec2*
   10ec5- 10ec8- 10ed0- 10ed9- 10efa- 10efc* 10efdY 10f00T 10f28- 10f30T 10f5a- 10f70X 10f8a-
   10fb0W 10fcc- 10fe0U 10ff7- 11000L 1104e- 11052L 11070X 11076- 1107fP 11080K 110c2X 110c3-
   110cdT 110ce- 110d0M 110e9- 110f0M 110fa- 11100M 11135- 11136M 11144T 11147W 11148- 11150P
   11177- 11180M 111c9Q 111cdP 111ceW 111d0M 111daP 111dbQ 111e0- 111e1P 111f5- 11200P 11212-
   11213P 1123eR 1123fY 11242- 11280Q 11287- 11288Q 11289- 1128aQ 1128e- 1128fQ 1129e- 1129fQ
   112aa- 112b0P 112eb- 112f0P 112fa- 11300Q 11301P 11304- 11305P 1130d- 1130fP 11311- 11313P
   11329- 1132aP 11331- 11332P 11334- 11335P 1133a- 1133bT 1133cP 11345- 11347P 11349- 1134bP
   1134e- 11350Q 11351- 11357P 11358- 1135dP 11364- 11366P 1136d- 11370P 11375- 11380* 1138a-
   1138b* 1138c- 1138e* 1138f- 11390* 113b6- 113b7* 113c1- 113c2* 113c3- 113c5* 113c6- 113c7*
   113cb- 113cc* 113d6- 113d7* 113d9- 113e1* 113e3- 11400R 1145aW 1145bR 1145c- 1145dR 1145eT
   1145fU 11460W 11462- 11480P 114c8- 114d0P 114da- 11580P 115b6- 115b8P 115caQ 115de- 11600P
   11645- 11650P 1165a- 11660R 1166d- 11680M 116b8U 116b9X 116ba- 116c0M 116ca- 116d0* 116e4-
   11700Q 1171aT 1171b- 1171dQ 1172c- 11730Q 11740X 11747- 11800T 1183c- 118a0P 118f3- 118ffP
   11900W 11907- 11909W 1190a- 1190cW 11914- 11915W 11917- 11918W 11936- 11937W 11939- 1193bW
   11947- 11950W 1195a- 119a0U 119a8- 119aaU 119d8- 119daU 119e5- 11a00S 11a48- 11a50S 11a84U
   11a86S 11a9dT 11a9eS 11aa3- 11ab0X 11ac0P 11af9- 11b00Y 11b0a- 11b60- 11b68- 11bc0* 11be2-
   11bf0* 11bfa- 11c00R 11c09- 11c0aR 11c37- 11c38R 11c46- 11c50R 11c6d- 11c70R 11c90- 11c92R
   11ca8- 11ca9R 11cb7- 11d00S 11d07- 11d08S 11d0a- 11d0bS 11d37- 11d3aS 11d3b- 11d3cS 11d3e-
   11d3fS 11d48- 11d50S 11d5a- 11d60T 11d66- 11d67T 11d69- 11d6aT 11d8f- 11d90T 11d92- 11d93T
   11d99- 11da0T 11daa- 11db0- 11ddc- 11de0- 11dea- 11ee0T 11ef9- 11f00Y 11f11- 11f12Y 11f3b-
   11f3eY 11f5a* 11f5b- 11fb0W 11fb1- 11fc0U 11ff2- 11fffU 12000I 1236fP 12399Q 1239a- 12400I
   12463P 1246f- 12470I 12474P 12475- 12480Q 12544- 12f90X 12ff3- 13000K 1342fY 13430U 13439Y
   13456- 13460* 143fb- 14400Q 14647- 16100* 1613a- 16800L 16a39- 16a40P 16a5f- 16a60P 16a6a-
   16a6eP 16a70X 16abf- 16ac0X 16aca- 16ad0P 16aee- 16af0P 16af6- 16b00P 16b46- 16b50P 16b5a-
   16b5bP 16b62- 16b63P 16b78- 16b7dP 16b90- 16d40* 16d7a- 16e40T 16e9b- 16ea0- 16eb9- 16ebb-
   16ed4- 16f00M 16f45U 16f4b- 16f4fU 16f50M 16f7fU 16f88- 16f8fM 16fa0- 16fe0R 16fe1S 16fe2U
   16fe4W 16fe5- 16ff0W 16ff2- 16ff7- 17000R 187edT 187f2U 187f8- 18800R 18af3W 18cd6- 18cff*
   18d00W 18d09- 18d1f- 18d80- 18df3- 1aff0X 1aff4- 1aff5X 1affc- 1affdX 1afff- 1b000L 1b002S
   1b11fX 1b123- 1b132Y 1b133- 1b150U 1b153- 1b155Y 1b156- 1b164U 1b168- 1b170S 1b2fc- 1bc00P
   1bc6b- 1bc70P 1bc7d- 1bc80P 1bc89- 1bc90P 1bc9a- 1bc9cP 1bca4- 1cc00* 1ccfa- 1ccfd- 1cd00*
   1ceb4- 1ceba- 1ced1- 1cee0- 1cef1- 1cf00X 1cf2e- 1cf30X 1cf47- 1cf50X 1cfc4- 1d000E 1d0f6-
   1d100E 1d127- 1d129J 1d12aE 1d1deQ 1d1e9X 1d1eb- 1d200H 1d246- 1d2c0Y 1d2d4- 1d2e0T 1d2f4-
   1d300G 1d357- 1d360I 1d372T 1d379- 1d400E 1d455- 1d456E 1d49d- 1d49eE 1d4a0- 1d4a2E 1d4a3-
   1d4a5E 1d4a7- 1d4a9E 1d4ad- 1d4aeE 1d4ba- 1d4bbE 1d4bc- 1d4bdE 1d4c1G 1d4c2E 1d4c4- 1d4c5E
   1d506- 1d507E 1d50b- 1d50dE 1d515- 1d516E 1d51d- 1d51eE 1d53a- 1d53bE 1d53f- 1d540E 1d545-
   1d546E 1d547- 1d54aE 1d551- 1d552E 1d6a4H 1d6a6- 1d6a8E 1d7caI 1d7cc- 1d7ceE 1d800Q 1da8c-
   1da9bQ 1daa0- 1daa1Q 1dab0- 1df00X 1df1f- 1df25Y 1df2b- 1e000R 1e007- 1e008R 1e019- 1e01bR
   1e022- 1e023R 1e025- 1e026R 1e02b- 1e030Y 1e06e- 1e08fY 1e090- 1e100U 1e12d- 1e130U 1e13e-
   1e140U 1e14a- 1e14eU 1e150- 1e290X 1e2af- 1e2c0U 1e2fa- 1e2ffU 1e300- 1e4d0Y 1e4fa- 1e5d0*
   1e5fb- 1e5ff* 1e600- 1e6c0- 1e6df- 1e6e0- 1e6f6- 1e6fe- 1e700- 1e7e0X 1e7e7- 1e7e8X 1e7ec-
   1e7edX 1e7ef- 1e7f0X 1e7ff- 1e800P 1e8c5- 1e8c7P 1e8d7- 1e900R 1e94bU 1e94c- 1e950R 1e95a-
   1e95eR 1e960- 1ec71T 1ecb5- 1ed01U 1ed3e- 1ee00M 1ee04- 1ee05M 1ee20- 1ee21M 1ee23- 1ee24M
   1ee25- 1ee27M 1ee28- 1ee29M 1ee33- 1ee34M 1ee38- 1ee39M 1ee3a- 1ee3bM 1ee3c- 1ee42M 1ee43-
   1ee47M 1ee48- 1ee49M 1ee4a- 1ee4bM 1ee4c- 1ee4dM 1ee50- 1ee51M 1ee53- 1ee54M 1ee55- 1ee57M
   1ee58- 1ee59M 1ee5a- 1ee5bM 1ee5c- 1ee5dM 1ee5e- 1ee5fM 1ee60- 1ee61M 1ee63- 1ee64M 1ee65-
   1ee67M 1ee6b- 1ee6cM 1ee73- 1ee74M 1ee78- 1ee79M 1ee7d- 1ee7eM 1ee7f- 1ee80M 1ee8a- 1ee8bM
   1ee9c- 1eea1M 1eea4- 1eea5M 1eeaa- 1eeabM 1eebc- 1eef0M 1eef2- 1f000J 1f02c- 1f030J 1f094-
   1f0a0L 1f0af- 1f0b1L 1f0bfP 1f0c0- 1f0c1L 1f0d0- 1f0d1L 1f0e0P 1f0f6- 1f100K 1f10bP 1f10dW
   1f110K 1f12fT 1f130L 1f131K 1f132L 1f13dK 1f13eL 1f13fK 1f140L 1f142K 1f143L 1f146K 1f147L
   1f14aK 1f14fL 1f157K 1f158L 1f15fK 1f160L 1f16aM 1f16cU 1f16dW 1f170L 1f179K 1f17aL 1f17bK
   1f17dL 1f17fK 1f180L 1f18aK 1f18eL 1f190K 1f191L 1f19bR 1f1adW 1f1ae- 1f1e6L 1f200K 1f201L
   1f203- 1f210K 1f232L 1f23bR 1f23c- 1f240K 1f249- 1f250L 1f252- 1f260S 1f266- 1f300L 1f321P
   1f32dQ 1f330L 1f336P 1f337L 1f37dP 1f37eQ 1f380L 1f394P 1f3a0L 1f3c5P 1f3c6L 1f3cbP 1f3cfQ
   1f3d4P 1f3e0L 1f3f1P 1f3f8Q 1f400L 1f43fP 1f440L 1f441P 1f442L 1f4f8P 1f4f9L 1f4fdP 1f4ffQ
   1f500L 1f53eP 1f540M 1f544P 1f54bQ 1f550L 1f568P 1f57aR 1f57bP 1f5a4R 1f5a5P 1f5fbL 1f600M
   1f601L 1f611M 1f612L 1f615M 1f616L 1f617M 1f618L 1f619M 1f61aL 1f61bM 1f61cL 1f61fM 1f620L
   1f626M 1f628L 1f62cM 1f62dL 1f62eM 1f630L 1f634M 1f635L 1f641P 1f643Q 1f645L 1f650P 1f680L
   1f6c6P 1f6d0Q 1f6d1R 1f6d3S 1f6d5U 1f6d6W 1f6d8- 1f6d9- 1f6dcY 1f6ddX 1f6e0P 1f6ed- 1f6f0P
   1f6f4R 1f6f7S 1f6f9T 1f6faU 1f6fbW 1f6fd- 1f700L 1f774Y 1f777- 1f77bY 1f780P 1f7d5T 1f7d9Y
   1f7da- 1f7e0U 1f7ec- 1f7f0X 1f7f1- 1f800P 1f80c- 1f810P 1f848- 1f850P 1f85a- 1f860P 1f888-
   1f890P 1f8ae- 1f8b0W 1f8b2* 1f8bc- 1f8c0* 1f8c2- 1f8d0- 1f8d9- 1f900S 1f90cW 1f90dU 1f910Q
   1f919R 1f91fS 1f920R 1f928S 1f930R 1f931S 1f933R 1f93fU 1f940R 1f94cS 1f94dT 1f950R 1f95fS
   1f96cT 1f971U 1f972W 1f973T 1f977W 1f979X 1f97aT 1f97bU 1f97cT 1f980Q 1f985R 1f992S 1f998T
   1f9a3W 1f9a5U 1f9abW 1f9aeU 1f9b0T 1f9baU 1f9c0Q 1f9c1T 1f9c3U 1f9cbW 1f9ccX 1f9cdU 1f9d0S
   1f9e7T 1fa00U 1fa54- 1fa58- 1fa60T 1fa6e- 1fa70U 1fa74W 1fa75Y 1fa78U 1fa7bX 1fa7d- 1fa80U
   1fa83W 1fa87Y 1fa89* 1fa8a- 1fa8b- 1fa8e- 1fa8f* 1fa90U 1fa96W 1faa9X 1faadY 1fab0W 1fab7X
   1fabbY 1fabe* 1fabfY 1fac0W 1fac3X 1fac6* 1fac7- 1fac8- 1fac9- 1facd- 1faceY 1fad0W 1fad7X
   1fadaY 1fadc* 1fadd- 1fadf* 1fae0X 1fae8Y 1fae9* 1faea- 1faeb- 1faef- 1faf0X 1faf7Y 1faf9-
   1fb00W 1fb93- 1fb94W 1fbcb* 1fbf0W 1fbfa- 1fbfb- 1fffeB 20000E 2a6d7W 2a6deX 2a6e0- 2a700K
   2b735X 2b739Y 2b73a- 2b740L 2b81e- 2b820Q 2cea2- 2ceae- 2ceb0S 2ebe1- 2ebf0Z 2ee5e- 2f800E
   2fa1e- 2fffeB 30000W 3134b- 31350Y 323b0- 3347a- 3fffeB 40000- 4fffeB 50000- 5fffeB 60000-
   6fffeB 70000- 7fffeB 80000- 8fffeB 90000- 9fffeB a0000- afffeB b0000- bfffeB c0000- cfffeB
   d0000- dfffeB e0000- e0001E e0002- e0020E e0080- e0100G e01f0- efffeB"

/-- The marks of the editions, oldest first. -/
def marks : List Char := "ABCDEFGHIJKLMNOPQRSTUVWXYZ*".toList

/-- The edition with a name: its number, or its number after a `v` without the point. -/
def index? (name : String) : Option Nat :=
  editions.findIdx? fun edition =>
    name == edition || name.toList == 'v' :: edition.toList.filter (· != '.')

/-- The code points from a list of runs with one of several marks. -/
def rangesFrom (chosen : List Char) : List (Nat × List Char) → List (Nat × Nat)
  | (start, mark) :: rest =>
    let others := rangesFrom chosen rest
    if mark.any chosen.contains then
      (start, (rest.head?.map fun r => r.1 - 1).getD Ranges.last) :: others
    else others
  | [] => []

/-- The characters that were assigned in an edition or before it. -/
def ranges (index : Nat) : Ranges :=
  Ranges.join
    (rangesFrom (marks.take (index + 1)) ((Table.entries table).map fun e => (e.1.1, e.2)))

end SheetReport.Text.Age

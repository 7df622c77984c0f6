import SubmissionGrader.Text.Ranges

/-!
# Scripts

The code points of each script, and those of other scripts that are used with it. All scripts are
listed under their names in `scripts`.
-/

namespace SubmissionGrader.Unicode

open Text

/-- A script under its names in lower case, without separators. -/
structure Script where
  names : List String
  characters : Ranges
  extension : Ranges
  exception : Ranges

/-- All characters that are used with the script. -/
def Script.extended (s : Script) : Ranges :=
  (s.characters.union s.extension).difference s.exception

namespace Script

def adlam : Ranges :=
  [(125184, 125259), (125264, 125273), (125278, 125279)]

def adlamExtension : Ranges :=
  [(1567, 1567), (1600, 1600)]

def ahom : Ranges :=
  [(71424, 71450), (71453, 71467), (71472, 71494)]

def anatolianHieroglyphs : Ranges :=
  [(82944, 83526)]

def arabic : Ranges :=
  [(1536, 1540), (1542, 1547), (1549, 1562), (1564, 1566), (1568, 1599), (1601, 1610), (1622, 1647),
   (1649, 1756), (1758, 1791), (1872, 1919), (2160, 2190), (2192, 2193), (2200, 2273), (2275, 2303),
   (64336, 64450), (64467, 64829), (64832, 64911), (64914, 64967), (64975, 64975), (65008, 65023),
   (65136, 65140), (65142, 65276), (69216, 69246), (69373, 69375), (126464, 126467),
   (126469, 126495), (126497, 126498), (126500, 126500), (126503, 126503), (126505, 126514),
   (126516, 126519), (126521, 126521), (126523, 126523), (126530, 126530), (126535, 126535),
   (126537, 126537), (126539, 126539), (126541, 126543), (126545, 126546), (126548, 126548),
   (126551, 126551), (126553, 126553), (126555, 126555), (126557, 126557), (126559, 126559),
   (126561, 126562), (126564, 126564), (126567, 126570), (126572, 126578), (126580, 126583),
   (126585, 126588), (126590, 126590), (126592, 126601), (126603, 126619), (126625, 126627),
   (126629, 126633), (126635, 126651), (126704, 126705)]

def arabicExtension : Ranges :=
  [(1548, 1548), (1563, 1563), (1567, 1567), (1600, 1600), (1611, 1621), (1648, 1648),
   (64830, 64831), (66272, 66299)]

def armenian : Ranges :=
  [(1329, 1366), (1369, 1418), (1421, 1423), (64275, 64279)]

def avestan : Ranges :=
  [(68352, 68405), (68409, 68415)]

def balinese : Ranges :=
  [(6912, 6988), (6992, 7038)]

def bamum : Ranges :=
  [(42656, 42743), (92160, 92728)]

def bassaVah : Ranges :=
  [(92880, 92909), (92912, 92917)]

def batak : Ranges :=
  [(7104, 7155), (7164, 7167)]

def bengali : Ranges :=
  [(2432, 2435), (2437, 2444), (2447, 2448), (2451, 2472), (2474, 2480), (2482, 2482), (2486, 2489),
   (2492, 2500), (2503, 2504), (2507, 2510), (2519, 2519), (2524, 2525), (2527, 2531), (2534, 2558)]

def bengaliExtension : Ranges :=
  [(2385, 2386), (2404, 2405), (7376, 7376), (7378, 7378), (7381, 7382), (7384, 7384), (7393, 7393),
   (7402, 7402), (7405, 7405), (7410, 7410), (7413, 7415), (43249, 43249)]

def bhaiksuki : Ranges :=
  [(72704, 72712), (72714, 72758), (72760, 72773), (72784, 72812)]

def bopomofo : Ranges :=
  [(746, 747), (12549, 12591), (12704, 12735)]

def bopomofoExtension : Ranges :=
  [(12289, 12291), (12296, 12305), (12307, 12319), (12330, 12333), (12336, 12336), (12343, 12343),
   (12539, 12539), (65093, 65094), (65377, 65381)]

def brahmi : Ranges :=
  [(69632, 69709), (69714, 69749), (69759, 69759)]

def braille : Ranges :=
  [(10240, 10495)]

def buginese : Ranges :=
  [(6656, 6683), (6686, 6687)]

def bugineseExtension : Ranges :=
  [(43471, 43471)]

def buhid : Ranges :=
  [(5952, 5971)]

def buhidExtension : Ranges :=
  [(5941, 5942)]

def canadianAboriginal : Ranges :=
  [(5120, 5759), (6320, 6389), (72368, 72383)]

def carian : Ranges :=
  [(66208, 66256)]

def caucasianAlbanian : Ranges :=
  [(66864, 66915), (66927, 66927)]

def chakma : Ranges :=
  [(69888, 69940), (69942, 69959)]

def chakmaExtension : Ranges :=
  [(2534, 2543), (4160, 4169)]

def cham : Ranges :=
  [(43520, 43574), (43584, 43597), (43600, 43609), (43612, 43615)]

def cherokee : Ranges :=
  [(5024, 5109), (5112, 5117), (43888, 43967)]

def chorasmian : Ranges :=
  [(69552, 69579)]

def common : Ranges :=
  [(0, 64), (91, 96), (123, 169), (171, 185), (187, 191), (215, 215), (247, 247), (697, 735),
   (741, 745), (748, 767), (884, 884), (894, 894), (901, 901), (903, 903), (1541, 1541),
   (1548, 1548), (1563, 1563), (1567, 1567), (1600, 1600), (1757, 1757), (2274, 2274), (2404, 2405),
   (3647, 3647), (4053, 4056), (4347, 4347), (5867, 5869), (5941, 5942), (6146, 6147), (6149, 6149),
   (7379, 7379), (7393, 7393), (7401, 7404), (7406, 7411), (7413, 7415), (7418, 7418), (8192, 8203),
   (8206, 8292), (8294, 8304), (8308, 8318), (8320, 8334), (8352, 8384), (8448, 8485), (8487, 8489),
   (8492, 8497), (8499, 8525), (8527, 8543), (8585, 8587), (8592, 9254), (9280, 9290),
   (9312, 10239), (10496, 11123), (11126, 11157), (11159, 11263), (11776, 11869), (12272, 12283),
   (12288, 12292), (12294, 12294), (12296, 12320), (12336, 12343), (12348, 12351), (12443, 12444),
   (12448, 12448), (12539, 12540), (12688, 12703), (12736, 12771), (12832, 12895), (12927, 13007),
   (13055, 13055), (13144, 13311), (19904, 19967), (42752, 42785), (42888, 42890), (43056, 43065),
   (43310, 43310), (43471, 43471), (43867, 43867), (43882, 43883), (64830, 64831), (65040, 65049),
   (65072, 65106), (65108, 65126), (65128, 65131), (65279, 65279), (65281, 65312), (65339, 65344),
   (65371, 65381), (65392, 65392), (65438, 65439), (65504, 65510), (65512, 65518), (65529, 65533),
   (65792, 65794), (65799, 65843), (65847, 65855), (65936, 65948), (66000, 66044), (66273, 66299),
   (113824, 113827), (118608, 118723), (118784, 119029), (119040, 119078), (119081, 119142),
   (119146, 119162), (119171, 119172), (119180, 119209), (119214, 119274), (119488, 119507),
   (119520, 119539), (119552, 119638), (119648, 119672), (119808, 119892), (119894, 119964),
   (119966, 119967), (119970, 119970), (119973, 119974), (119977, 119980), (119982, 119993),
   (119995, 119995), (119997, 120003), (120005, 120069), (120071, 120074), (120077, 120084),
   (120086, 120092), (120094, 120121), (120123, 120126), (120128, 120132), (120134, 120134),
   (120138, 120144), (120146, 120485), (120488, 120779), (120782, 120831), (126065, 126132),
   (126209, 126269), (126976, 127019), (127024, 127123), (127136, 127150), (127153, 127167),
   (127169, 127183), (127185, 127221), (127232, 127405), (127462, 127487), (127489, 127490),
   (127504, 127547), (127552, 127560), (127568, 127569), (127584, 127589), (127744, 128727),
   (128732, 128748), (128752, 128764), (128768, 128886), (128891, 128985), (128992, 129003),
   (129008, 129008), (129024, 129035), (129040, 129095), (129104, 129113), (129120, 129159),
   (129168, 129197), (129200, 129201), (129280, 129619), (129632, 129645), (129648, 129660),
   (129664, 129672), (129680, 129725), (129727, 129733), (129742, 129755), (129760, 129768),
   (129776, 129784), (129792, 129938), (129940, 129994), (130032, 130041), (917505, 917505),
   (917536, 917631)]

/-- Characters of the script Common that are used with other scripts only. -/
def commonException : Ranges :=
  [(1548, 1548), (1563, 1563), (1567, 1567), (1600, 1600), (2404, 2405), (4347, 4347), (5941, 5942),
   (6146, 6147), (6149, 6149), (7379, 7379), (7393, 7393), (7401, 7404), (7406, 7411), (7413, 7415),
   (7418, 7418), (8239, 8239), (11843, 11843), (12289, 12291), (12294, 12294), (12296, 12305),
   (12307, 12319), (12336, 12341), (12343, 12343), (12348, 12351), (12443, 12444), (12448, 12448),
   (12539, 12540), (12688, 12703), (12736, 12771), (12832, 12871), (12928, 12976), (12992, 13003),
   (13055, 13055), (13144, 13168), (13179, 13183), (13280, 13310), (42752, 42759), (43056, 43065),
   (43310, 43310), (43471, 43471), (64830, 64831), (65093, 65094), (65377, 65381), (65392, 65392),
   (65438, 65439), (65792, 65794), (65799, 65843), (65847, 65855), (66273, 66299), (113824, 113827),
   (119648, 119665), (127568, 127569)]

def coptic : Ranges :=
  [(994, 1007), (11392, 11507), (11513, 11519)]

def copticExtension : Ranges :=
  [(66272, 66299)]

def cuneiform : Ranges :=
  [(73728, 74649), (74752, 74862), (74864, 74868), (74880, 75075)]

def cypriot : Ranges :=
  [(67584, 67589), (67592, 67592), (67594, 67637), (67639, 67640), (67644, 67644), (67647, 67647)]

def cypriotExtension : Ranges :=
  [(65792, 65794), (65799, 65843), (65847, 65855)]

def cyproMinoan : Ranges :=
  [(77712, 77810)]

def cyproMinoanExtension : Ranges :=
  [(65792, 65793)]

def cyrillic : Ranges :=
  [(1024, 1156), (1159, 1327), (7296, 7304), (7467, 7467), (7544, 7544), (11744, 11775),
   (42560, 42655), (65070, 65071), (122928, 122989), (123023, 123023)]

def cyrillicExtension : Ranges :=
  [(1157, 1158), (7672, 7672), (11843, 11843)]

def deseret : Ranges :=
  [(66560, 66639)]

def devanagari : Ranges :=
  [(2304, 2384), (2389, 2403), (2406, 2431), (43232, 43263), (72448, 72457)]

def devanagariExtension : Ranges :=
  [(2385, 2386), (2404, 2405), (7376, 7414), (7416, 7417), (8432, 8432), (43056, 43065)]

def divesAkuru : Ranges :=
  [(71936, 71942), (71945, 71945), (71948, 71955), (71957, 71958), (71960, 71989), (71991, 71992),
   (71995, 72006), (72016, 72025)]

def dogra : Ranges :=
  [(71680, 71739)]

def dograExtension : Ranges :=
  [(2404, 2415), (43056, 43065)]

def duployan : Ranges :=
  [(113664, 113770), (113776, 113788), (113792, 113800), (113808, 113817), (113820, 113823)]

def duployanExtension : Ranges :=
  [(113824, 113827)]

def egyptianHieroglyphs : Ranges :=
  [(77824, 78933)]

def elbasan : Ranges :=
  [(66816, 66855)]

def elymaic : Ranges :=
  [(69600, 69622)]

def ethiopic : Ranges :=
  [(4608, 4680), (4682, 4685), (4688, 4694), (4696, 4696), (4698, 4701), (4704, 4744), (4746, 4749),
   (4752, 4784), (4786, 4789), (4792, 4798), (4800, 4800), (4802, 4805), (4808, 4822), (4824, 4880),
   (4882, 4885), (4888, 4954), (4957, 4988), (4992, 5017), (11648, 11670), (11680, 11686),
   (11688, 11694), (11696, 11702), (11704, 11710), (11712, 11718), (11720, 11726), (11728, 11734),
   (11736, 11742), (43777, 43782), (43785, 43790), (43793, 43798), (43808, 43814), (43816, 43822),
   (124896, 124902), (124904, 124907), (124909, 124910), (124912, 124926)]

def georgian : Ranges :=
  [(4256, 4293), (4295, 4295), (4301, 4301), (4304, 4346), (4348, 4351), (7312, 7354), (7357, 7359),
   (11520, 11557), (11559, 11559), (11565, 11565)]

def georgianExtension : Ranges :=
  [(4347, 4347)]

def glagolitic : Ranges :=
  [(11264, 11359), (122880, 122886), (122888, 122904), (122907, 122913), (122915, 122916),
   (122918, 122922)]

def glagoliticExtension : Ranges :=
  [(1156, 1156), (1159, 1159), (11843, 11843), (42607, 42607)]

def gothic : Ranges :=
  [(66352, 66378)]

def grantha : Ranges :=
  [(70400, 70403), (70405, 70412), (70415, 70416), (70419, 70440), (70442, 70448), (70450, 70451),
   (70453, 70457), (70460, 70468), (70471, 70472), (70475, 70477), (70480, 70480), (70487, 70487),
   (70493, 70499), (70502, 70508), (70512, 70516)]

def granthaExtension : Ranges :=
  [(2385, 2386), (2404, 2405), (3046, 3059), (7376, 7376), (7378, 7379), (7410, 7412), (7416, 7417),
   (8432, 8432), (70459, 70459), (73680, 73681), (73683, 73683)]

def greek : Ranges :=
  [(880, 883), (885, 887), (890, 893), (895, 895), (900, 900), (902, 902), (904, 906), (908, 908),
   (910, 929), (931, 993), (1008, 1023), (7462, 7466), (7517, 7521), (7526, 7530), (7615, 7615),
   (7936, 7957), (7960, 7965), (7968, 8005), (8008, 8013), (8016, 8023), (8025, 8025), (8027, 8027),
   (8029, 8029), (8031, 8061), (8064, 8116), (8118, 8132), (8134, 8147), (8150, 8155), (8157, 8175),
   (8178, 8180), (8182, 8190), (8486, 8486), (43877, 43877), (65856, 65934), (65952, 65952),
   (119296, 119365)]

def greekExtension : Ranges :=
  [(834, 834), (837, 837), (7616, 7617)]

def gujarati : Ranges :=
  [(2689, 2691), (2693, 2701), (2703, 2705), (2707, 2728), (2730, 2736), (2738, 2739), (2741, 2745),
   (2748, 2757), (2759, 2761), (2763, 2765), (2768, 2768), (2784, 2787), (2790, 2801), (2809, 2815)]

def gujaratiExtension : Ranges :=
  [(2385, 2386), (2404, 2405), (43056, 43065)]

def gunjalaGondi : Ranges :=
  [(73056, 73061), (73063, 73064), (73066, 73102), (73104, 73105), (73107, 73112), (73120, 73129)]

def gunjalaGondiExtension : Ranges :=
  [(2404, 2405)]

def gurmukhi : Ranges :=
  [(2561, 2563), (2565, 2570), (2575, 2576), (2579, 2600), (2602, 2608), (2610, 2611), (2613, 2614),
   (2616, 2617), (2620, 2620), (2622, 2626), (2631, 2632), (2635, 2637), (2641, 2641), (2649, 2652),
   (2654, 2654), (2662, 2678)]

def gurmukhiExtension : Ranges :=
  [(2385, 2386), (2404, 2405), (43056, 43065)]

def han : Ranges :=
  [(11904, 11929), (11931, 12019), (12032, 12245), (12293, 12293), (12295, 12295), (12321, 12329),
   (12344, 12347), (13312, 19903), (19968, 40959), (63744, 64109), (64112, 64217), (94178, 94179),
   (94192, 94193), (131072, 173791), (173824, 177977), (177984, 178205), (178208, 183969),
   (183984, 191456), (194560, 195101), (196608, 201546), (201552, 205743)]

def hanExtension : Ranges :=
  [(12289, 12291), (12294, 12294), (12296, 12305), (12307, 12319), (12330, 12333), (12336, 12336),
   (12343, 12343), (12348, 12351), (12539, 12539), (12688, 12703), (12736, 12771), (12832, 12871),
   (12928, 12976), (12992, 13003), (13055, 13055), (13144, 13168), (13179, 13183), (13280, 13310),
   (42752, 42759), (65093, 65094), (65377, 65381), (119648, 119665), (127568, 127569)]

def hangul : Ranges :=
  [(4352, 4607), (12334, 12335), (12593, 12686), (12800, 12830), (12896, 12926), (43360, 43388),
   (44032, 55203), (55216, 55238), (55243, 55291), (65440, 65470), (65474, 65479), (65482, 65487),
   (65490, 65495), (65498, 65500)]

def hangulExtension : Ranges :=
  [(12289, 12291), (12296, 12305), (12307, 12319), (12336, 12336), (12343, 12343), (12539, 12539),
   (65093, 65094), (65377, 65381)]

def hanifiRohingya : Ranges :=
  [(68864, 68903), (68912, 68921)]

def hanifiRohingyaExtension : Ranges :=
  [(1548, 1548), (1563, 1563), (1567, 1567), (1600, 1600), (1748, 1748)]

def hanunoo : Ranges :=
  [(5920, 5940)]

def hanunooExtension : Ranges :=
  [(5941, 5942)]

def hatran : Ranges :=
  [(67808, 67826), (67828, 67829), (67835, 67839)]

def hebrew : Ranges :=
  [(1425, 1479), (1488, 1514), (1519, 1524), (64285, 64310), (64312, 64316), (64318, 64318),
   (64320, 64321), (64323, 64324), (64326, 64335)]

def hiragana : Ranges :=
  [(12353, 12438), (12445, 12447), (110593, 110879), (110898, 110898), (110928, 110930),
   (127488, 127488)]

def hiraganaExtension : Ranges :=
  [(12289, 12291), (12296, 12305), (12307, 12319), (12336, 12341), (12343, 12343), (12348, 12349),
   (12441, 12444), (12448, 12448), (12539, 12540), (65093, 65094), (65377, 65381), (65392, 65392),
   (65438, 65439)]

def imperialAramaic : Ranges :=
  [(67648, 67669), (67671, 67679)]

def inherited : Ranges :=
  [(768, 879), (1157, 1158), (1611, 1621), (1648, 1648), (2385, 2388), (6832, 6862), (7376, 7378),
   (7380, 7392), (7394, 7400), (7405, 7405), (7412, 7412), (7416, 7417), (7616, 7679), (8204, 8205),
   (8400, 8432), (12330, 12333), (12441, 12442), (65024, 65039), (65056, 65069), (66045, 66045),
   (66272, 66272), (70459, 70459), (118528, 118573), (118576, 118598), (119143, 119145),
   (119163, 119170), (119173, 119179), (119210, 119213), (917760, 917999)]

/-- Characters of the script Inherited that are used with other scripts only. -/
def inheritedException : Ranges :=
  [(834, 834), (837, 837), (867, 879), (1157, 1158), (1611, 1621), (1648, 1648), (2385, 2386),
   (7376, 7378), (7380, 7392), (7394, 7400), (7405, 7405), (7412, 7412), (7416, 7417), (7616, 7617),
   (7672, 7672), (7674, 7674), (8432, 8432), (12330, 12333), (12441, 12442), (66272, 66272),
   (70459, 70459)]

def inscriptionalPahlavi : Ranges :=
  [(68448, 68466), (68472, 68479)]

def inscriptionalParthian : Ranges :=
  [(68416, 68437), (68440, 68447)]

def javanese : Ranges :=
  [(43392, 43469), (43472, 43481), (43486, 43487)]

def javaneseExtension : Ranges :=
  [(43471, 43471)]

def kaithi : Ranges :=
  [(69760, 69826), (69837, 69837)]

def kaithiExtension : Ranges :=
  [(2406, 2415), (43056, 43065)]

def kannada : Ranges :=
  [(3200, 3212), (3214, 3216), (3218, 3240), (3242, 3251), (3253, 3257), (3260, 3268), (3270, 3272),
   (3274, 3277), (3285, 3286), (3293, 3294), (3296, 3299), (3302, 3311), (3313, 3315)]

def kannadaExtension : Ranges :=
  [(2385, 2386), (2404, 2405), (7376, 7376), (7378, 7378), (7386, 7386), (7410, 7410), (7412, 7412),
   (43056, 43061)]

def katakana : Ranges :=
  [(12449, 12538), (12541, 12543), (12784, 12799), (13008, 13054), (13056, 13143), (65382, 65391),
   (65393, 65437), (110576, 110579), (110581, 110587), (110589, 110590), (110592, 110592),
   (110880, 110882), (110933, 110933), (110948, 110951)]

def katakanaExtension : Ranges :=
  [(12289, 12291), (12296, 12305), (12307, 12319), (12336, 12341), (12343, 12343), (12348, 12349),
   (12441, 12444), (12448, 12448), (12539, 12540), (65093, 65094), (65377, 65381), (65392, 65392),
   (65438, 65439)]

def kawi : Ranges :=
  [(73472, 73488), (73490, 73530), (73534, 73561)]

def kayahLi : Ranges :=
  [(43264, 43309), (43311, 43311)]

def kayahLiExtension : Ranges :=
  [(43310, 43310)]

def kharoshthi : Ranges :=
  [(68096, 68099), (68101, 68102), (68108, 68115), (68117, 68119), (68121, 68149), (68152, 68154),
   (68159, 68168), (68176, 68184)]

def khitanSmallScript : Ranges :=
  [(94180, 94180), (101120, 101589)]

def khmer : Ranges :=
  [(6016, 6109), (6112, 6121), (6128, 6137), (6624, 6655)]

def khojki : Ranges :=
  [(70144, 70161), (70163, 70209)]

def khojkiExtension : Ranges :=
  [(2790, 2799), (43056, 43065)]

def khudawadi : Ranges :=
  [(70320, 70378), (70384, 70393)]

def khudawadiExtension : Ranges :=
  [(2404, 2405), (43056, 43065)]

def lao : Ranges :=
  [(3713, 3714), (3716, 3716), (3718, 3722), (3724, 3747), (3749, 3749), (3751, 3773), (3776, 3780),
   (3782, 3782), (3784, 3790), (3792, 3801), (3804, 3807)]

def latin : Ranges :=
  [(65, 90), (97, 122), (170, 170), (186, 186), (192, 214), (216, 246), (248, 696), (736, 740),
   (7424, 7461), (7468, 7516), (7522, 7525), (7531, 7543), (7545, 7614), (7680, 7935), (8305, 8305),
   (8319, 8319), (8336, 8348), (8490, 8491), (8498, 8498), (8526, 8526), (8544, 8584),
   (11360, 11391), (42786, 42887), (42891, 42954), (42960, 42961), (42963, 42963), (42965, 42969),
   (42994, 43007), (43824, 43866), (43868, 43876), (43878, 43881), (64256, 64262), (65313, 65338),
   (65345, 65370), (67456, 67461), (67463, 67504), (67506, 67514), (122624, 122654),
   (122661, 122666)]

def latinExtension : Ranges :=
  [(867, 879), (1157, 1158), (2385, 2386), (4347, 4347), (8239, 8239), (8432, 8432), (42752, 42759),
   (43310, 43310)]

def lepcha : Ranges :=
  [(7168, 7223), (7227, 7241), (7245, 7247)]

def limbu : Ranges :=
  [(6400, 6430), (6432, 6443), (6448, 6459), (6464, 6464), (6468, 6479)]

def limbuExtension : Ranges :=
  [(2405, 2405)]

def linearA : Ranges :=
  [(67072, 67382), (67392, 67413), (67424, 67431)]

def linearAExtension : Ranges :=
  [(65799, 65843)]

def linearB : Ranges :=
  [(65536, 65547), (65549, 65574), (65576, 65594), (65596, 65597), (65599, 65613), (65616, 65629),
   (65664, 65786)]

def linearBExtension : Ranges :=
  [(65792, 65794), (65799, 65843), (65847, 65855)]

def lisu : Ranges :=
  [(42192, 42239), (73648, 73648)]

def lycian : Ranges :=
  [(66176, 66204)]

def lydian : Ranges :=
  [(67872, 67897), (67903, 67903)]

def mahajani : Ranges :=
  [(69968, 70006)]

def mahajaniExtension : Ranges :=
  [(2404, 2415), (43056, 43065)]

def makasar : Ranges :=
  [(73440, 73464)]

def malayalam : Ranges :=
  [(3328, 3340), (3342, 3344), (3346, 3396), (3398, 3400), (3402, 3407), (3412, 3427), (3430, 3455)]

def malayalamExtension : Ranges :=
  [(2385, 2386), (2404, 2405), (7386, 7386), (43056, 43058)]

def mandaic : Ranges :=
  [(2112, 2139), (2142, 2142)]

def mandaicExtension : Ranges :=
  [(1600, 1600)]

def manichaean : Ranges :=
  [(68288, 68326), (68331, 68342)]

def manichaeanExtension : Ranges :=
  [(1600, 1600)]

def marchen : Ranges :=
  [(72816, 72847), (72850, 72871), (72873, 72886)]

def masaramGondi : Ranges :=
  [(72960, 72966), (72968, 72969), (72971, 73014), (73018, 73018), (73020, 73021), (73023, 73031),
   (73040, 73049)]

def masaramGondiExtension : Ranges :=
  [(2404, 2405)]

def medefaidrin : Ranges :=
  [(93760, 93850)]

def meeteiMayek : Ranges :=
  [(43744, 43766), (43968, 44013), (44016, 44025)]

def mendeKikakui : Ranges :=
  [(124928, 125124), (125127, 125142)]

def meroiticCursive : Ranges :=
  [(68000, 68023), (68028, 68047), (68050, 68095)]

def meroiticHieroglyphs : Ranges :=
  [(67968, 67999)]

def miao : Ranges :=
  [(93952, 94026), (94031, 94087), (94095, 94111)]

def modi : Ranges :=
  [(71168, 71236), (71248, 71257)]

def modiExtension : Ranges :=
  [(43056, 43065)]

def mongolian : Ranges :=
  [(6144, 6145), (6148, 6148), (6150, 6169), (6176, 6264), (6272, 6314), (71264, 71276)]

def mongolianExtension : Ranges :=
  [(6146, 6147), (6149, 6149), (8239, 8239)]

def mro : Ranges :=
  [(92736, 92766), (92768, 92777), (92782, 92783)]

def multani : Ranges :=
  [(70272, 70278), (70280, 70280), (70282, 70285), (70287, 70301), (70303, 70313)]

def multaniExtension : Ranges :=
  [(2662, 2671)]

def myanmar : Ranges :=
  [(4096, 4255), (43488, 43518), (43616, 43647)]

def myanmarExtension : Ranges :=
  [(43310, 43310)]

def nabataean : Ranges :=
  [(67712, 67742), (67751, 67759)]

def nagMundari : Ranges :=
  [(124112, 124153)]

def nandinagari : Ranges :=
  [(72096, 72103), (72106, 72151), (72154, 72164)]

def nandinagariExtension : Ranges :=
  [(2404, 2405), (3302, 3311), (7401, 7401), (7410, 7410), (7418, 7418), (43056, 43061)]

def newTaiLue : Ranges :=
  [(6528, 6571), (6576, 6601), (6608, 6618), (6622, 6623)]

def newa : Ranges :=
  [(70656, 70747), (70749, 70753)]

def nko : Ranges :=
  [(1984, 2042), (2045, 2047)]

def nkoExtension : Ranges :=
  [(1548, 1548), (1563, 1563), (1567, 1567), (64830, 64831)]

def nushu : Ranges :=
  [(94177, 94177), (110960, 111355)]

def nyiakengPuachueHmong : Ranges :=
  [(123136, 123180), (123184, 123197), (123200, 123209), (123214, 123215)]

def ogham : Ranges :=
  [(5760, 5788)]

def olChiki : Ranges :=
  [(7248, 7295)]

def oldHungarian : Ranges :=
  [(68736, 68786), (68800, 68850), (68858, 68863)]

def oldItalic : Ranges :=
  [(66304, 66339), (66349, 66351)]

def oldNorthArabian : Ranges :=
  [(68224, 68255)]

def oldPermic : Ranges :=
  [(66384, 66426)]

def oldPermicExtension : Ranges :=
  [(1155, 1155)]

def oldPersian : Ranges :=
  [(66464, 66499), (66504, 66517)]

def oldSogdian : Ranges :=
  [(69376, 69415)]

def oldSouthArabian : Ranges :=
  [(68192, 68223)]

def oldTurkic : Ranges :=
  [(68608, 68680)]

def oldUyghur : Ranges :=
  [(69488, 69513)]

def oldUyghurExtension : Ranges :=
  [(1600, 1600), (68338, 68338)]

def oriya : Ranges :=
  [(2817, 2819), (2821, 2828), (2831, 2832), (2835, 2856), (2858, 2864), (2866, 2867), (2869, 2873),
   (2876, 2884), (2887, 2888), (2891, 2893), (2901, 2903), (2908, 2909), (2911, 2915), (2918, 2935)]

def oriyaExtension : Ranges :=
  [(2385, 2386), (2404, 2405), (7386, 7386), (7410, 7410)]

def osage : Ranges :=
  [(66736, 66771), (66776, 66811)]

def osmanya : Ranges :=
  [(66688, 66717), (66720, 66729)]

def pahawhHmong : Ranges :=
  [(92928, 92997), (93008, 93017), (93019, 93025), (93027, 93047), (93053, 93071)]

def palmyrene : Ranges :=
  [(67680, 67711)]

def pauCinHau : Ranges :=
  [(72384, 72440)]

def phagsPa : Ranges :=
  [(43072, 43127)]

def phagsPaExtension : Ranges :=
  [(6146, 6147), (6149, 6149)]

def phoenician : Ranges :=
  [(67840, 67867), (67871, 67871)]

def psalterPahlavi : Ranges :=
  [(68480, 68497), (68505, 68508), (68521, 68527)]

def psalterPahlaviExtension : Ranges :=
  [(1600, 1600)]

def rejang : Ranges :=
  [(43312, 43347), (43359, 43359)]

def runic : Ranges :=
  [(5792, 5866), (5870, 5880)]

def samaritan : Ranges :=
  [(2048, 2093), (2096, 2110)]

def saurashtra : Ranges :=
  [(43136, 43205), (43214, 43225)]

def sharada : Ranges :=
  [(70016, 70111)]

def sharadaExtension : Ranges :=
  [(2385, 2385), (7383, 7383), (7385, 7385), (7388, 7389), (7392, 7392)]

def shavian : Ranges :=
  [(66640, 66687)]

def siddham : Ranges :=
  [(71040, 71093), (71096, 71133)]

def signWriting : Ranges :=
  [(120832, 121483), (121499, 121503), (121505, 121519)]

def sinhala : Ranges :=
  [(3457, 3459), (3461, 3478), (3482, 3505), (3507, 3515), (3517, 3517), (3520, 3526), (3530, 3530),
   (3535, 3540), (3542, 3542), (3544, 3551), (3558, 3567), (3570, 3572), (70113, 70132)]

def sinhalaExtension : Ranges :=
  [(2404, 2405)]

def sogdian : Ranges :=
  [(69424, 69465)]

def sogdianExtension : Ranges :=
  [(1600, 1600)]

def soraSompeng : Ranges :=
  [(69840, 69864), (69872, 69881)]

def soyombo : Ranges :=
  [(72272, 72354)]

def sundanese : Ranges :=
  [(7040, 7103), (7360, 7367)]

def sylotiNagri : Ranges :=
  [(43008, 43052)]

def sylotiNagriExtension : Ranges :=
  [(2404, 2405), (2534, 2543)]

def syriac : Ranges :=
  [(1792, 1805), (1807, 1866), (1869, 1871), (2144, 2154)]

def syriacExtension : Ranges :=
  [(1548, 1548), (1563, 1564), (1567, 1567), (1600, 1600), (1611, 1621), (1648, 1648), (7672, 7672),
   (7674, 7674)]

def tagalog : Ranges :=
  [(5888, 5909), (5919, 5919)]

def tagalogExtension : Ranges :=
  [(5941, 5942)]

def tagbanwa : Ranges :=
  [(5984, 5996), (5998, 6000), (6002, 6003)]

def tagbanwaExtension : Ranges :=
  [(5941, 5942)]

def taiLe : Ranges :=
  [(6480, 6509), (6512, 6516)]

def taiLeExtension : Ranges :=
  [(4160, 4169)]

def taiTham : Ranges :=
  [(6688, 6750), (6752, 6780), (6783, 6793), (6800, 6809), (6816, 6829)]

def taiViet : Ranges :=
  [(43648, 43714), (43739, 43743)]

def takri : Ranges :=
  [(71296, 71353), (71360, 71369)]

def takriExtension : Ranges :=
  [(2404, 2405), (43056, 43065)]

def tamil : Ranges :=
  [(2946, 2947), (2949, 2954), (2958, 2960), (2962, 2965), (2969, 2970), (2972, 2972), (2974, 2975),
   (2979, 2980), (2984, 2986), (2990, 3001), (3006, 3010), (3014, 3016), (3018, 3021), (3024, 3024),
   (3031, 3031), (3046, 3066), (73664, 73713), (73727, 73727)]

def tamilExtension : Ranges :=
  [(2385, 2386), (2404, 2405), (7386, 7386), (43251, 43251), (70401, 70401), (70403, 70403),
   (70459, 70460)]

def tangsa : Ranges :=
  [(92784, 92862), (92864, 92873)]

def tangut : Ranges :=
  [(94176, 94176), (94208, 100343), (100352, 101119), (101632, 101640)]

def telugu : Ranges :=
  [(3072, 3084), (3086, 3088), (3090, 3112), (3114, 3129), (3132, 3140), (3142, 3144), (3146, 3149),
   (3157, 3158), (3160, 3162), (3165, 3165), (3168, 3171), (3174, 3183), (3191, 3199)]

def teluguExtension : Ranges :=
  [(2385, 2386), (2404, 2405), (7386, 7386), (7410, 7410)]

def thaana : Ranges :=
  [(1920, 1969)]

def thaanaExtension : Ranges :=
  [(1548, 1548), (1563, 1564), (1567, 1567), (1632, 1641), (65010, 65010), (65021, 65021)]

def thai : Ranges :=
  [(3585, 3642), (3648, 3675)]

def tibetan : Ranges :=
  [(3840, 3911), (3913, 3948), (3953, 3991), (3993, 4028), (4030, 4044), (4046, 4052), (4057, 4058)]

def tifinagh : Ranges :=
  [(11568, 11623), (11631, 11632), (11647, 11647)]

def tirhuta : Ranges :=
  [(70784, 70855), (70864, 70873)]

def tirhutaExtension : Ranges :=
  [(2385, 2386), (2404, 2405), (7410, 7410), (43056, 43065)]

def toto : Ranges :=
  [(123536, 123566)]

def ugaritic : Ranges :=
  [(66432, 66461), (66463, 66463)]

def vai : Ranges :=
  [(42240, 42539)]

def vithkuqi : Ranges :=
  [(66928, 66938), (66940, 66954), (66956, 66962), (66964, 66965), (66967, 66977), (66979, 66993),
   (66995, 67001), (67003, 67004)]

def wancho : Ranges :=
  [(123584, 123641), (123647, 123647)]

def warangCiti : Ranges :=
  [(71840, 71922), (71935, 71935)]

def yezidi : Ranges :=
  [(69248, 69289), (69291, 69293), (69296, 69297)]

def yezidiExtension : Ranges :=
  [(1548, 1548), (1563, 1563), (1567, 1567), (1632, 1641)]

def yi : Ranges :=
  [(40960, 42124), (42128, 42182)]

def yiExtension : Ranges :=
  [(12289, 12290), (12296, 12305), (12308, 12315), (12539, 12539), (65377, 65381)]

def zanabazarSquare : Ranges :=
  [(72192, 72263)]

end Script

open Script

def scripts : List Script :=
  [⟨["adlam", "adlm"], adlam, adlamExtension, []⟩,
   ⟨["ahom"], ahom, [], []⟩,
   ⟨["anatolianhieroglyphs", "hluw"], anatolianHieroglyphs, [], []⟩,
   ⟨["arabic", "arab"], arabic, arabicExtension, []⟩,
   ⟨["armenian", "armn"], armenian, [], []⟩,
   ⟨["avestan", "avst"], avestan, [], []⟩,
   ⟨["balinese", "bali"], balinese, [], []⟩,
   ⟨["bamum", "bamu"], bamum, [], []⟩,
   ⟨["bassavah", "bass"], bassaVah, [], []⟩,
   ⟨["batak", "batk"], batak, [], []⟩,
   ⟨["bengali", "beng"], bengali, bengaliExtension, []⟩,
   ⟨["bhaiksuki", "bhks"], bhaiksuki, [], []⟩,
   ⟨["bopomofo", "bopo"], bopomofo, bopomofoExtension, []⟩,
   ⟨["brahmi", "brah"], brahmi, [], []⟩,
   ⟨["braille", "brai"], braille, [], []⟩,
   ⟨["buginese", "bugi"], buginese, bugineseExtension, []⟩,
   ⟨["buhid", "buhd"], buhid, buhidExtension, []⟩,
   ⟨["canadianaboriginal", "cans"], canadianAboriginal, [], []⟩,
   ⟨["carian", "cari"], carian, [], []⟩,
   ⟨["caucasianalbanian", "aghb"], caucasianAlbanian, [], []⟩,
   ⟨["chakma", "cakm"], chakma, chakmaExtension, []⟩,
   ⟨["cham"], cham, [], []⟩,
   ⟨["cherokee", "cher"], cherokee, [], []⟩,
   ⟨["chorasmian", "chrs"], chorasmian, [], []⟩,
   ⟨["common", "zyyy"], common, [], commonException⟩,
   ⟨["coptic", "copt", "qaac"], coptic, copticExtension, []⟩,
   ⟨["cuneiform", "xsux"], cuneiform, [], []⟩,
   ⟨["cypriot", "cprt"], cypriot, cypriotExtension, []⟩,
   ⟨["cyprominoan", "cpmn"], cyproMinoan, cyproMinoanExtension, []⟩,
   ⟨["cyrillic", "cyrl"], cyrillic, cyrillicExtension, []⟩,
   ⟨["deseret", "dsrt"], deseret, [], []⟩,
   ⟨["devanagari", "deva"], devanagari, devanagariExtension, []⟩,
   ⟨["divesakuru", "diak"], divesAkuru, [], []⟩,
   ⟨["dogra", "dogr"], dogra, dograExtension, []⟩,
   ⟨["duployan", "dupl"], duployan, duployanExtension, []⟩,
   ⟨["egyptianhieroglyphs", "egyp"], egyptianHieroglyphs, [], []⟩,
   ⟨["elbasan", "elba"], elbasan, [], []⟩,
   ⟨["elymaic", "elym"], elymaic, [], []⟩,
   ⟨["ethiopic", "ethi"], ethiopic, [], []⟩,
   ⟨["georgian", "geor"], georgian, georgianExtension, []⟩,
   ⟨["glagolitic", "glag"], glagolitic, glagoliticExtension, []⟩,
   ⟨["gothic", "goth"], gothic, [], []⟩,
   ⟨["grantha", "gran"], grantha, granthaExtension, []⟩,
   ⟨["greek", "grek"], greek, greekExtension, []⟩,
   ⟨["gujarati", "gujr"], gujarati, gujaratiExtension, []⟩,
   ⟨["gunjalagondi", "gong"], gunjalaGondi, gunjalaGondiExtension, []⟩,
   ⟨["gurmukhi", "guru"], gurmukhi, gurmukhiExtension, []⟩,
   ⟨["han", "hani"], han, hanExtension, []⟩,
   ⟨["hangul", "hang"], hangul, hangulExtension, []⟩,
   ⟨["hanifirohingya", "rohg"], hanifiRohingya, hanifiRohingyaExtension, []⟩,
   ⟨["hanunoo", "hano"], hanunoo, hanunooExtension, []⟩,
   ⟨["hatran", "hatr"], hatran, [], []⟩,
   ⟨["hebrew", "hebr"], hebrew, [], []⟩,
   ⟨["hiragana", "hira"], hiragana, hiraganaExtension, []⟩,
   ⟨["imperialaramaic", "armi"], imperialAramaic, [], []⟩,
   ⟨["inherited", "zinh", "qaai"], inherited, [], inheritedException⟩,
   ⟨["inscriptionalpahlavi", "phli"], inscriptionalPahlavi, [], []⟩,
   ⟨["inscriptionalparthian", "prti"], inscriptionalParthian, [], []⟩,
   ⟨["javanese", "java"], javanese, javaneseExtension, []⟩,
   ⟨["kaithi", "kthi"], kaithi, kaithiExtension, []⟩,
   ⟨["kannada", "knda"], kannada, kannadaExtension, []⟩,
   ⟨["katakana", "kana"], katakana, katakanaExtension, []⟩,
   ⟨["kawi"], kawi, [], []⟩,
   ⟨["kayahli", "kali"], kayahLi, kayahLiExtension, []⟩,
   ⟨["kharoshthi", "khar"], kharoshthi, [], []⟩,
   ⟨["khitansmallscript", "kits"], khitanSmallScript, [], []⟩,
   ⟨["khmer", "khmr"], khmer, [], []⟩,
   ⟨["khojki", "khoj"], khojki, khojkiExtension, []⟩,
   ⟨["khudawadi", "sind"], khudawadi, khudawadiExtension, []⟩,
   ⟨["lao", "laoo"], lao, [], []⟩,
   ⟨["latin", "latn"], latin, latinExtension, []⟩,
   ⟨["lepcha", "lepc"], lepcha, [], []⟩,
   ⟨["limbu", "limb"], limbu, limbuExtension, []⟩,
   ⟨["lineara", "lina"], linearA, linearAExtension, []⟩,
   ⟨["linearb", "linb"], linearB, linearBExtension, []⟩,
   ⟨["lisu"], lisu, [], []⟩,
   ⟨["lycian", "lyci"], lycian, [], []⟩,
   ⟨["lydian", "lydi"], lydian, [], []⟩,
   ⟨["mahajani", "mahj"], mahajani, mahajaniExtension, []⟩,
   ⟨["makasar", "maka"], makasar, [], []⟩,
   ⟨["malayalam", "mlym"], malayalam, malayalamExtension, []⟩,
   ⟨["mandaic", "mand"], mandaic, mandaicExtension, []⟩,
   ⟨["manichaean", "mani"], manichaean, manichaeanExtension, []⟩,
   ⟨["marchen", "marc"], marchen, [], []⟩,
   ⟨["masaramgondi", "gonm"], masaramGondi, masaramGondiExtension, []⟩,
   ⟨["medefaidrin", "medf"], medefaidrin, [], []⟩,
   ⟨["meeteimayek", "mtei"], meeteiMayek, [], []⟩,
   ⟨["mendekikakui", "mend"], mendeKikakui, [], []⟩,
   ⟨["meroiticcursive", "merc"], meroiticCursive, [], []⟩,
   ⟨["meroitichieroglyphs", "mero"], meroiticHieroglyphs, [], []⟩,
   ⟨["miao", "plrd"], miao, [], []⟩,
   ⟨["modi"], modi, modiExtension, []⟩,
   ⟨["mongolian", "mong"], mongolian, mongolianExtension, []⟩,
   ⟨["mro", "mroo"], mro, [], []⟩,
   ⟨["multani", "mult"], multani, multaniExtension, []⟩,
   ⟨["myanmar", "mymr"], myanmar, myanmarExtension, []⟩,
   ⟨["nabataean", "nbat"], nabataean, [], []⟩,
   ⟨["nagmundari", "nagm"], nagMundari, [], []⟩,
   ⟨["nandinagari", "nand"], nandinagari, nandinagariExtension, []⟩,
   ⟨["newtailue", "talu"], newTaiLue, [], []⟩,
   ⟨["newa"], newa, [], []⟩,
   ⟨["nko", "nkoo"], nko, nkoExtension, []⟩,
   ⟨["nushu", "nshu"], nushu, [], []⟩,
   ⟨["nyiakengpuachuehmong", "hmnp"], nyiakengPuachueHmong, [], []⟩,
   ⟨["ogham", "ogam"], ogham, [], []⟩,
   ⟨["olchiki", "olck"], olChiki, [], []⟩,
   ⟨["oldhungarian", "hung"], oldHungarian, [], []⟩,
   ⟨["olditalic", "ital"], oldItalic, [], []⟩,
   ⟨["oldnortharabian", "narb"], oldNorthArabian, [], []⟩,
   ⟨["oldpermic", "perm"], oldPermic, oldPermicExtension, []⟩,
   ⟨["oldpersian", "xpeo"], oldPersian, [], []⟩,
   ⟨["oldsogdian", "sogo"], oldSogdian, [], []⟩,
   ⟨["oldsoutharabian", "sarb"], oldSouthArabian, [], []⟩,
   ⟨["oldturkic", "orkh"], oldTurkic, [], []⟩,
   ⟨["olduyghur", "ougr"], oldUyghur, oldUyghurExtension, []⟩,
   ⟨["oriya", "orya"], oriya, oriyaExtension, []⟩,
   ⟨["osage", "osge"], osage, [], []⟩,
   ⟨["osmanya", "osma"], osmanya, [], []⟩,
   ⟨["pahawhhmong", "hmng"], pahawhHmong, [], []⟩,
   ⟨["palmyrene", "palm"], palmyrene, [], []⟩,
   ⟨["paucinhau", "pauc"], pauCinHau, [], []⟩,
   ⟨["phagspa", "phag"], phagsPa, phagsPaExtension, []⟩,
   ⟨["phoenician", "phnx"], phoenician, [], []⟩,
   ⟨["psalterpahlavi", "phlp"], psalterPahlavi, psalterPahlaviExtension, []⟩,
   ⟨["rejang", "rjng"], rejang, [], []⟩,
   ⟨["runic", "runr"], runic, [], []⟩,
   ⟨["samaritan", "samr"], samaritan, [], []⟩,
   ⟨["saurashtra", "saur"], saurashtra, [], []⟩,
   ⟨["sharada", "shrd"], sharada, sharadaExtension, []⟩,
   ⟨["shavian", "shaw"], shavian, [], []⟩,
   ⟨["siddham", "sidd"], siddham, [], []⟩,
   ⟨["signwriting", "sgnw"], signWriting, [], []⟩,
   ⟨["sinhala", "sinh"], sinhala, sinhalaExtension, []⟩,
   ⟨["sogdian", "sogd"], sogdian, sogdianExtension, []⟩,
   ⟨["sorasompeng", "sora"], soraSompeng, [], []⟩,
   ⟨["soyombo", "soyo"], soyombo, [], []⟩,
   ⟨["sundanese", "sund"], sundanese, [], []⟩,
   ⟨["sylotinagri", "sylo"], sylotiNagri, sylotiNagriExtension, []⟩,
   ⟨["syriac", "syrc"], syriac, syriacExtension, []⟩,
   ⟨["tagalog", "tglg"], tagalog, tagalogExtension, []⟩,
   ⟨["tagbanwa", "tagb"], tagbanwa, tagbanwaExtension, []⟩,
   ⟨["taile", "tale"], taiLe, taiLeExtension, []⟩,
   ⟨["taitham", "lana"], taiTham, [], []⟩,
   ⟨["taiviet", "tavt"], taiViet, [], []⟩,
   ⟨["takri", "takr"], takri, takriExtension, []⟩,
   ⟨["tamil", "taml"], tamil, tamilExtension, []⟩,
   ⟨["tangsa", "tnsa"], tangsa, [], []⟩,
   ⟨["tangut", "tang"], tangut, [], []⟩,
   ⟨["telugu", "telu"], telugu, teluguExtension, []⟩,
   ⟨["thaana", "thaa"], thaana, thaanaExtension, []⟩,
   ⟨["thai"], thai, [], []⟩,
   ⟨["tibetan", "tibt"], tibetan, [], []⟩,
   ⟨["tifinagh", "tfng"], tifinagh, [], []⟩,
   ⟨["tirhuta", "tirh"], tirhuta, tirhutaExtension, []⟩,
   ⟨["toto"], toto, [], []⟩,
   ⟨["ugaritic", "ugar"], ugaritic, [], []⟩,
   ⟨["vai", "vaii"], vai, [], []⟩,
   ⟨["vithkuqi", "vith"], vithkuqi, [], []⟩,
   ⟨["wancho", "wcho"], wancho, [], []⟩,
   ⟨["warangciti", "wara"], warangCiti, [], []⟩,
   ⟨["yezidi", "yezi"], yezidi, yezidiExtension, []⟩,
   ⟨["yi", "yiii"], yi, yiExtension, []⟩,
   ⟨["zanabazarsquare", "zanb"], zanabazarSquare, [], []⟩]

end SubmissionGrader.Unicode

import Mathlib.Data.Int.Notation
import Mathlib.Data.Nat.Notation
import Mathlib.Data.List.Basic

/-!
# The letters of Unicode

`str.upper` maps a character to one or more others, and `repr` escapes every character that is
not printable: controls, surrogates, unassigned code points, and all separators but the blank.
Both are given as ranges beyond ASCII, as of Unicode 15.1.
-/

namespace Holabrain

/-- Letters whose upper case is one letter: the first, how many, how far they lie apart, and the
distance of the upper case. -/
def upperRuns : List (ℕ × ℕ × ℕ × ℤ) :=
  [(181, 1, 1, 743), (224, 23, 1, -32), (248, 7, 1, -32), (255, 1, 1, 121), (257, 24, 2, -1),
    (305, 1, 1, -232), (307, 3, 2, -1), (314, 8, 2, -1), (331, 23, 2, -1), (378, 3, 2, -1),
    (383, 1, 1, -300), (384, 1, 1, 195), (387, 2, 2, -1), (392, 1, 1, -1), (396, 1, 1, -1),
    (402, 1, 1, -1), (405, 1, 1, 97), (409, 1, 1, -1), (410, 1, 1, 163), (414, 1, 1, 130),
    (417, 3, 2, -1), (424, 1, 1, -1), (429, 1, 1, -1), (432, 1, 1, -1), (436, 2, 2, -1),
    (441, 1, 1, -1), (445, 1, 1, -1), (447, 1, 1, 56), (453, 1, 1, -1), (454, 1, 1, -2),
    (456, 1, 1, -1), (457, 1, 1, -2), (459, 1, 1, -1), (460, 1, 1, -2), (462, 8, 2, -1),
    (477, 1, 1, -79), (479, 9, 2, -1), (498, 1, 1, -1), (499, 1, 1, -2), (501, 1, 1, -1),
    (505, 20, 2, -1), (547, 9, 2, -1), (572, 1, 1, -1), (575, 2, 1, 10815), (578, 1, 1, -1),
    (583, 5, 2, -1), (592, 1, 1, 10783), (593, 1, 1, 10780), (594, 1, 1, 10782), (595, 1, 1, -210),
    (596, 1, 1, -206), (598, 2, 1, -205), (601, 1, 1, -202), (603, 1, 1, -203), (604, 1, 1, 42319),
    (608, 1, 1, -205), (609, 1, 1, 42315), (611, 1, 1, -207), (613, 1, 1, 42280),
    (614, 1, 1, 42308), (616, 1, 1, -209), (617, 1, 1, -211), (618, 1, 1, 42308),
    (619, 1, 1, 10743), (620, 1, 1, 42305), (623, 1, 1, -211), (625, 1, 1, 10749),
    (626, 1, 1, -213), (629, 1, 1, -214), (637, 1, 1, 10727), (640, 1, 1, -218),
    (642, 1, 1, 42307), (643, 1, 1, -218), (647, 1, 1, 42282), (648, 1, 1, -218), (649, 1, 1, -69),
    (650, 2, 1, -217), (652, 1, 1, -71), (658, 1, 1, -219), (669, 1, 1, 42261), (670, 1, 1, 42258),
    (837, 1, 1, 84), (881, 2, 2, -1), (887, 1, 1, -1), (891, 3, 1, 130), (940, 1, 1, -38),
    (941, 3, 1, -37), (945, 17, 1, -32), (962, 1, 1, -31), (963, 9, 1, -32), (972, 1, 1, -64),
    (973, 2, 1, -63), (976, 1, 1, -62), (977, 1, 1, -57), (981, 1, 1, -47), (982, 1, 1, -54),
    (983, 1, 1, -8), (985, 12, 2, -1), (1008, 1, 1, -86), (1009, 1, 1, -80), (1010, 1, 1, 7),
    (1011, 1, 1, -116), (1013, 1, 1, -96), (1016, 1, 1, -1), (1019, 1, 1, -1), (1072, 32, 1, -32),
    (1104, 16, 1, -80), (1121, 17, 2, -1), (1163, 27, 2, -1), (1218, 7, 2, -1), (1231, 1, 1, -15),
    (1233, 48, 2, -1), (1377, 38, 1, -48), (4304, 43, 1, 3008), (4349, 3, 1, 3008),
    (5112, 6, 1, -8), (7296, 1, 1, -6254), (7297, 1, 1, -6253), (7298, 1, 1, -6244),
    (7299, 2, 1, -6242), (7301, 1, 1, -6243), (7302, 1, 1, -6236), (7303, 1, 1, -6181),
    (7304, 1, 1, 35266), (7545, 1, 1, 35332), (7549, 1, 1, 3814), (7566, 1, 1, 35384),
    (7681, 75, 2, -1), (7835, 1, 1, -59), (7841, 48, 2, -1), (7936, 8, 1, 8), (7952, 6, 1, 8),
    (7968, 8, 1, 8), (7984, 8, 1, 8), (8000, 6, 1, 8), (8017, 4, 2, 8), (8032, 8, 1, 8),
    (8048, 2, 1, 74), (8050, 4, 1, 86), (8054, 2, 1, 100), (8056, 2, 1, 128), (8058, 2, 1, 112),
    (8060, 2, 1, 126), (8112, 2, 1, 8), (8126, 1, 1, -7205), (8144, 2, 1, 8), (8160, 2, 1, 8),
    (8165, 1, 1, 7), (8526, 1, 1, -28), (8560, 16, 1, -16), (8580, 1, 1, -1), (9424, 26, 1, -26),
    (11312, 48, 1, -48), (11361, 1, 1, -1), (11365, 1, 1, -10795), (11366, 1, 1, -10792),
    (11368, 3, 2, -1), (11379, 1, 1, -1), (11382, 1, 1, -1), (11393, 50, 2, -1), (11500, 2, 2, -1),
    (11507, 1, 1, -1), (11520, 38, 1, -7264), (11559, 1, 1, -7264), (11565, 1, 1, -7264),
    (42561, 23, 2, -1), (42625, 14, 2, -1), (42787, 7, 2, -1), (42803, 31, 2, -1),
    (42874, 2, 2, -1), (42879, 5, 2, -1), (42892, 1, 1, -1), (42897, 2, 2, -1), (42900, 1, 1, 48),
    (42903, 10, 2, -1), (42933, 8, 2, -1), (42952, 2, 2, -1), (42961, 1, 1, -1), (42967, 2, 2, -1),
    (42998, 1, 1, -1), (43859, 1, 1, -928), (43888, 80, 1, -38864), (65345, 26, 1, -32),
    (66600, 40, 1, -40), (66776, 36, 1, -40), (66967, 11, 1, -39), (66979, 15, 1, -39),
    (66995, 7, 1, -39), (67003, 2, 1, -39), (68800, 51, 1, -64), (71872, 32, 1, -32),
    (93792, 32, 1, -32), (125218, 34, 1, -34)]

/-- Letters whose upper case is more than one letter. -/
def upperExpansions : List (ℕ × List ℕ) :=
  [(223, [83, 83]), (329, [700, 78]), (496, [74, 780]), (912, [921, 776, 769]),
    (944, [933, 776, 769]), (1415, [1333, 1362]), (7830, [72, 817]), (7831, [84, 776]),
    (7832, [87, 778]), (7833, [89, 778]), (7834, [65, 702]), (8016, [933, 787]),
    (8018, [933, 787, 768]), (8020, [933, 787, 769]), (8022, [933, 787, 834]), (8064, [7944, 921]),
    (8065, [7945, 921]), (8066, [7946, 921]), (8067, [7947, 921]), (8068, [7948, 921]),
    (8069, [7949, 921]), (8070, [7950, 921]), (8071, [7951, 921]), (8072, [7944, 921]),
    (8073, [7945, 921]), (8074, [7946, 921]), (8075, [7947, 921]), (8076, [7948, 921]),
    (8077, [7949, 921]), (8078, [7950, 921]), (8079, [7951, 921]), (8080, [7976, 921]),
    (8081, [7977, 921]), (8082, [7978, 921]), (8083, [7979, 921]), (8084, [7980, 921]),
    (8085, [7981, 921]), (8086, [7982, 921]), (8087, [7983, 921]), (8088, [7976, 921]),
    (8089, [7977, 921]), (8090, [7978, 921]), (8091, [7979, 921]), (8092, [7980, 921]),
    (8093, [7981, 921]), (8094, [7982, 921]), (8095, [7983, 921]), (8096, [8040, 921]),
    (8097, [8041, 921]), (8098, [8042, 921]), (8099, [8043, 921]), (8100, [8044, 921]),
    (8101, [8045, 921]), (8102, [8046, 921]), (8103, [8047, 921]), (8104, [8040, 921]),
    (8105, [8041, 921]), (8106, [8042, 921]), (8107, [8043, 921]), (8108, [8044, 921]),
    (8109, [8045, 921]), (8110, [8046, 921]), (8111, [8047, 921]), (8114, [8122, 921]),
    (8115, [913, 921]), (8116, [902, 921]), (8118, [913, 834]), (8119, [913, 834, 921]),
    (8124, [913, 921]), (8130, [8138, 921]), (8131, [919, 921]), (8132, [905, 921]),
    (8134, [919, 834]), (8135, [919, 834, 921]), (8140, [919, 921]), (8146, [921, 776, 768]),
    (8147, [921, 776, 769]), (8150, [921, 834]), (8151, [921, 776, 834]), (8162, [933, 776, 768]),
    (8163, [933, 776, 769]), (8164, [929, 787]), (8166, [933, 834]), (8167, [933, 776, 834]),
    (8178, [8186, 921]), (8179, [937, 921]), (8180, [911, 921]), (8182, [937, 834]),
    (8183, [937, 834, 921]), (8188, [937, 921]), (64256, [70, 70]), (64257, [70, 73]),
    (64258, [70, 76]), (64259, [70, 70, 73]), (64260, [70, 70, 76]), (64261, [83, 84]),
    (64262, [83, 84]), (64275, [1348, 1350]), (64276, [1348, 1333]), (64277, [1348, 1339]),
    (64278, [1358, 1350]), (64279, [1348, 1341])]

/-- The code points that are not printable, first and last of each range. -/
def unprintableRanges : List (ℕ × ℕ) :=
  [(128, 160), (173, 173), (888, 889), (896, 899), (907, 907), (909, 909), (930, 930),
    (1328, 1328), (1367, 1368), (1419, 1420), (1424, 1424), (1480, 1487), (1515, 1518),
    (1525, 1541), (1564, 1564), (1757, 1757), (1806, 1807), (1867, 1868), (1970, 1983),
    (2043, 2044), (2094, 2095), (2111, 2111), (2140, 2141), (2143, 2143), (2155, 2159),
    (2191, 2199), (2274, 2274), (2436, 2436), (2445, 2446), (2449, 2450), (2473, 2473),
    (2481, 2481), (2483, 2485), (2490, 2491), (2501, 2502), (2505, 2506), (2511, 2518),
    (2520, 2523), (2526, 2526), (2532, 2533), (2559, 2560), (2564, 2564), (2571, 2574),
    (2577, 2578), (2601, 2601), (2609, 2609), (2612, 2612), (2615, 2615), (2618, 2619),
    (2621, 2621), (2627, 2630), (2633, 2634), (2638, 2640), (2642, 2648), (2653, 2653),
    (2655, 2661), (2679, 2688), (2692, 2692), (2702, 2702), (2706, 2706), (2729, 2729),
    (2737, 2737), (2740, 2740), (2746, 2747), (2758, 2758), (2762, 2762), (2766, 2767),
    (2769, 2783), (2788, 2789), (2802, 2808), (2816, 2816), (2820, 2820), (2829, 2830),
    (2833, 2834), (2857, 2857), (2865, 2865), (2868, 2868), (2874, 2875), (2885, 2886),
    (2889, 2890), (2894, 2900), (2904, 2907), (2910, 2910), (2916, 2917), (2936, 2945),
    (2948, 2948), (2955, 2957), (2961, 2961), (2966, 2968), (2971, 2971), (2973, 2973),
    (2976, 2978), (2981, 2983), (2987, 2989), (3002, 3005), (3011, 3013), (3017, 3017),
    (3022, 3023), (3025, 3030), (3032, 3045), (3067, 3071), (3085, 3085), (3089, 3089),
    (3113, 3113), (3130, 3131), (3141, 3141), (3145, 3145), (3150, 3156), (3159, 3159),
    (3163, 3164), (3166, 3167), (3172, 3173), (3184, 3190), (3213, 3213), (3217, 3217),
    (3241, 3241), (3252, 3252), (3258, 3259), (3269, 3269), (3273, 3273), (3278, 3284),
    (3287, 3292), (3295, 3295), (3300, 3301), (3312, 3312), (3316, 3327), (3341, 3341),
    (3345, 3345), (3397, 3397), (3401, 3401), (3408, 3411), (3428, 3429), (3456, 3456),
    (3460, 3460), (3479, 3481), (3506, 3506), (3516, 3516), (3518, 3519), (3527, 3529),
    (3531, 3534), (3541, 3541), (3543, 3543), (3552, 3557), (3568, 3569), (3573, 3584),
    (3643, 3646), (3676, 3712), (3715, 3715), (3717, 3717), (3723, 3723), (3748, 3748),
    (3750, 3750), (3774, 3775), (3781, 3781), (3783, 3783), (3791, 3791), (3802, 3803),
    (3808, 3839), (3912, 3912), (3949, 3952), (3992, 3992), (4029, 4029), (4045, 4045),
    (4059, 4095), (4294, 4294), (4296, 4300), (4302, 4303), (4681, 4681), (4686, 4687),
    (4695, 4695), (4697, 4697), (4702, 4703), (4745, 4745), (4750, 4751), (4785, 4785),
    (4790, 4791), (4799, 4799), (4801, 4801), (4806, 4807), (4823, 4823), (4881, 4881),
    (4886, 4887), (4955, 4956), (4989, 4991), (5018, 5023), (5110, 5111), (5118, 5119),
    (5760, 5760), (5789, 5791), (5881, 5887), (5910, 5918), (5943, 5951), (5972, 5983),
    (5997, 5997), (6001, 6001), (6004, 6015), (6110, 6111), (6122, 6127), (6138, 6143),
    (6158, 6158), (6170, 6175), (6265, 6271), (6315, 6319), (6390, 6399), (6431, 6431),
    (6444, 6447), (6460, 6463), (6465, 6467), (6510, 6511), (6517, 6527), (6572, 6575),
    (6602, 6607), (6619, 6621), (6684, 6685), (6751, 6751), (6781, 6782), (6794, 6799),
    (6810, 6815), (6830, 6831), (6863, 6911), (6989, 6991), (7039, 7039), (7156, 7163),
    (7224, 7226), (7242, 7244), (7305, 7311), (7355, 7356), (7368, 7375), (7419, 7423),
    (7958, 7959), (7966, 7967), (8006, 8007), (8014, 8015), (8024, 8024), (8026, 8026),
    (8028, 8028), (8030, 8030), (8062, 8063), (8117, 8117), (8133, 8133), (8148, 8149),
    (8156, 8156), (8176, 8177), (8181, 8181), (8191, 8207), (8232, 8239), (8287, 8303),
    (8306, 8307), (8335, 8335), (8349, 8351), (8385, 8399), (8433, 8447), (8588, 8591),
    (9255, 9279), (9291, 9311), (11124, 11125), (11158, 11158), (11508, 11512), (11558, 11558),
    (11560, 11564), (11566, 11567), (11624, 11630), (11633, 11646), (11671, 11679), (11687, 11687),
    (11695, 11695), (11703, 11703), (11711, 11711), (11719, 11719), (11727, 11727), (11735, 11735),
    (11743, 11743), (11870, 11903), (11930, 11930), (12020, 12031), (12246, 12271), (12288, 12288),
    (12352, 12352), (12439, 12440), (12544, 12548), (12592, 12592), (12687, 12687), (12772, 12782),
    (12831, 12831), (42125, 42127), (42183, 42191), (42540, 42559), (42744, 42751), (42955, 42959),
    (42962, 42962), (42964, 42964), (42970, 42993), (43053, 43055), (43066, 43071), (43128, 43135),
    (43206, 43213), (43226, 43231), (43348, 43358), (43389, 43391), (43470, 43470), (43482, 43485),
    (43519, 43519), (43575, 43583), (43598, 43599), (43610, 43611), (43715, 43738), (43767, 43776),
    (43783, 43784), (43791, 43792), (43799, 43807), (43815, 43815), (43823, 43823), (43884, 43887),
    (44014, 44015), (44026, 44031), (55204, 55215), (55239, 55242), (55292, 63743), (64110, 64111),
    (64218, 64255), (64263, 64274), (64280, 64284), (64311, 64311), (64317, 64317), (64319, 64319),
    (64322, 64322), (64325, 64325), (64451, 64466), (64912, 64913), (64968, 64974), (64976, 65007),
    (65050, 65055), (65107, 65107), (65127, 65127), (65132, 65135), (65141, 65141), (65277, 65280),
    (65471, 65473), (65480, 65481), (65488, 65489), (65496, 65497), (65501, 65503), (65511, 65511),
    (65519, 65531), (65534, 65535), (65548, 65548), (65575, 65575), (65595, 65595), (65598, 65598),
    (65614, 65615), (65630, 65663), (65787, 65791), (65795, 65798), (65844, 65846), (65935, 65935),
    (65949, 65951), (65953, 65999), (66046, 66175), (66205, 66207), (66257, 66271), (66300, 66303),
    (66340, 66348), (66379, 66383), (66427, 66431), (66462, 66462), (66500, 66503), (66518, 66559),
    (66718, 66719), (66730, 66735), (66772, 66775), (66812, 66815), (66856, 66863), (66916, 66926),
    (66939, 66939), (66955, 66955), (66963, 66963), (66966, 66966), (66978, 66978), (66994, 66994),
    (67002, 67002), (67005, 67071), (67383, 67391), (67414, 67423), (67432, 67455), (67462, 67462),
    (67505, 67505), (67515, 67583), (67590, 67591), (67593, 67593), (67638, 67638), (67641, 67643),
    (67645, 67646), (67670, 67670), (67743, 67750), (67760, 67807), (67827, 67827), (67830, 67834),
    (67868, 67870), (67898, 67902), (67904, 67967), (68024, 68027), (68048, 68049), (68100, 68100),
    (68103, 68107), (68116, 68116), (68120, 68120), (68150, 68151), (68155, 68158), (68169, 68175),
    (68185, 68191), (68256, 68287), (68327, 68330), (68343, 68351), (68406, 68408), (68438, 68439),
    (68467, 68471), (68498, 68504), (68509, 68520), (68528, 68607), (68681, 68735), (68787, 68799),
    (68851, 68857), (68904, 68911), (68922, 69215), (69247, 69247), (69290, 69290), (69294, 69295),
    (69298, 69372), (69416, 69423), (69466, 69487), (69514, 69551), (69580, 69599), (69623, 69631),
    (69710, 69713), (69750, 69758), (69821, 69821), (69827, 69839), (69865, 69871), (69882, 69887),
    (69941, 69941), (69960, 69967), (70007, 70015), (70112, 70112), (70133, 70143), (70162, 70162),
    (70210, 70271), (70279, 70279), (70281, 70281), (70286, 70286), (70302, 70302), (70314, 70319),
    (70379, 70383), (70394, 70399), (70404, 70404), (70413, 70414), (70417, 70418), (70441, 70441),
    (70449, 70449), (70452, 70452), (70458, 70458), (70469, 70470), (70473, 70474), (70478, 70479),
    (70481, 70486), (70488, 70492), (70500, 70501), (70509, 70511), (70517, 70655), (70748, 70748),
    (70754, 70783), (70856, 70863), (70874, 71039), (71094, 71095), (71134, 71167), (71237, 71247),
    (71258, 71263), (71277, 71295), (71354, 71359), (71370, 71423), (71451, 71452), (71468, 71471),
    (71495, 71679), (71740, 71839), (71923, 71934), (71943, 71944), (71946, 71947), (71956, 71956),
    (71959, 71959), (71990, 71990), (71993, 71994), (72007, 72015), (72026, 72095), (72104, 72105),
    (72152, 72153), (72165, 72191), (72264, 72271), (72355, 72367), (72441, 72447), (72458, 72703),
    (72713, 72713), (72759, 72759), (72774, 72783), (72813, 72815), (72848, 72849), (72872, 72872),
    (72887, 72959), (72967, 72967), (72970, 72970), (73015, 73017), (73019, 73019), (73022, 73022),
    (73032, 73039), (73050, 73055), (73062, 73062), (73065, 73065), (73103, 73103), (73106, 73106),
    (73113, 73119), (73130, 73439), (73465, 73471), (73489, 73489), (73531, 73533), (73562, 73647),
    (73649, 73663), (73714, 73726), (74650, 74751), (74863, 74863), (74869, 74879), (75076, 77711),
    (77811, 77823), (78896, 78911), (78934, 82943), (83527, 92159), (92729, 92735), (92767, 92767),
    (92778, 92781), (92863, 92863), (92874, 92879), (92910, 92911), (92918, 92927), (92998, 93007),
    (93018, 93018), (93026, 93026), (93048, 93052), (93072, 93759), (93851, 93951), (94027, 94030),
    (94088, 94094), (94112, 94175), (94181, 94191), (94194, 94207), (100344, 100351),
    (101590, 101631), (101641, 110575), (110580, 110580), (110588, 110588), (110591, 110591),
    (110883, 110897), (110899, 110927), (110931, 110932), (110934, 110947), (110952, 110959),
    (111356, 113663), (113771, 113775), (113789, 113791), (113801, 113807), (113818, 113819),
    (113824, 118527), (118574, 118575), (118599, 118607), (118724, 118783), (119030, 119039),
    (119079, 119080), (119155, 119162), (119275, 119295), (119366, 119487), (119508, 119519),
    (119540, 119551), (119639, 119647), (119673, 119807), (119893, 119893), (119965, 119965),
    (119968, 119969), (119971, 119972), (119975, 119976), (119981, 119981), (119994, 119994),
    (119996, 119996), (120004, 120004), (120070, 120070), (120075, 120076), (120085, 120085),
    (120093, 120093), (120122, 120122), (120127, 120127), (120133, 120133), (120135, 120137),
    (120145, 120145), (120486, 120487), (120780, 120781), (121484, 121498), (121504, 121504),
    (121520, 122623), (122655, 122660), (122667, 122879), (122887, 122887), (122905, 122906),
    (122914, 122914), (122917, 122917), (122923, 122927), (122990, 123022), (123024, 123135),
    (123181, 123183), (123198, 123199), (123210, 123213), (123216, 123535), (123567, 123583),
    (123642, 123646), (123648, 124111), (124154, 124895), (124903, 124903), (124908, 124908),
    (124911, 124911), (124927, 124927), (125125, 125126), (125143, 125183), (125260, 125263),
    (125274, 125277), (125280, 126064), (126133, 126208), (126270, 126463), (126468, 126468),
    (126496, 126496), (126499, 126499), (126501, 126502), (126504, 126504), (126515, 126515),
    (126520, 126520), (126522, 126522), (126524, 126529), (126531, 126534), (126536, 126536),
    (126538, 126538), (126540, 126540), (126544, 126544), (126547, 126547), (126549, 126550),
    (126552, 126552), (126554, 126554), (126556, 126556), (126558, 126558), (126560, 126560),
    (126563, 126563), (126565, 126566), (126571, 126571), (126579, 126579), (126584, 126584),
    (126589, 126589), (126591, 126591), (126602, 126602), (126620, 126624), (126628, 126628),
    (126634, 126634), (126652, 126703), (126706, 126975), (127020, 127023), (127124, 127135),
    (127151, 127152), (127168, 127168), (127184, 127184), (127222, 127231), (127406, 127461),
    (127491, 127503), (127548, 127551), (127561, 127567), (127570, 127583), (127590, 127743),
    (128728, 128731), (128749, 128751), (128765, 128767), (128887, 128890), (128986, 128991),
    (129004, 129007), (129009, 129023), (129036, 129039), (129096, 129103), (129114, 129119),
    (129160, 129167), (129198, 129199), (129202, 129279), (129620, 129631), (129646, 129647),
    (129661, 129663), (129673, 129679), (129726, 129726), (129734, 129741), (129756, 129759),
    (129769, 129775), (129785, 129791), (129939, 129939), (129995, 130031), (130042, 131071),
    (173792, 173823), (177978, 177983), (178206, 178207), (183970, 183983), (191457, 191471),
    (192094, 194559), (195102, 196607), (201547, 201551), (205744, 917759), (918000, 1114111)]

/-- `str.upper` of one character. -/
def upperChar (c : Char) : List Char :=
  if c.toNat < 128 then [c.toUpper]
  else match upperExpansions.find? fun entry => entry.1 == c.toNat with
    | some entry => entry.2.map Char.ofNat
    | none => match upperRuns.find? fun (first, count, step, _) =>
        first ≤ c.toNat && c.toNat < first + step * count && (c.toNat - first) % step == 0 with
      | some (_, _, _, distance) => [Char.ofNat (c.toNat + distance).toNat]
      | none => [c]

/-- `str.upper`. -/
def upperText (text : List Char) : List Char := text.flatMap upperChar

example : upperText "0xß1éǆ".toList = "0XSS1ÉǄ".toList := by decide +kernel

/-- `str.isprintable` of one character. -/
def isPrintable (c : Char) : Bool :=
  if c.toNat < 128 then 32 ≤ c.toNat && c.toNat < 127
  else !unprintableRanges.any fun range => range.1 ≤ c.toNat && c.toNat ≤ range.2

end Holabrain

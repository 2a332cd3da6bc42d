import DynamicForm.Text.Ranges

/-!
# Composed text

A letter with a mark may be one character or two. Text is composed when every letter has taken in
the marks that it can, and the marks that are left stand in the order of their classes. A mark is
out of reach of a letter when a mark of the same or a higher class stands between them.

- `isComposed` says whether a text is composed.
- Syllables of Hangul are composed by a rule of their own, which is left out: their parts are never
  taken together here.
-/

namespace DynamicForm.Text

/-- The marks of each class. Characters without a class begin a letter. -/
def markClasses : List (Nat × Ranges) := [
  (1, [
    (820, 824), (7380, 7380), (7394, 7400), (8402, 8403), (8408, 8410), (8421, 8422),
    (8426, 8427), (68153, 68153), (92912, 92916), (113822, 113822), (119143, 119145)]),
  (6, [(94192, 94193)]),
  (7, [
    (2364, 2364), (2492, 2492), (2620, 2620), (2748, 2748), (2876, 2876), (3132, 3132),
    (3260, 3260), (4151, 4151), (6964, 6964), (7142, 7142), (7223, 7223), (43443, 43443),
    (69818, 69818), (70003, 70003), (70090, 70090), (70198, 70198), (70377, 70377),
    (70459, 70460), (70726, 70726), (70851, 70851), (71104, 71104), (71351, 71351),
    (71738, 71738), (72003, 72003), (73026, 73026), (125258, 125258)]),
  (8, [(12441, 12442)]),
  (9, [
    (2381, 2381), (2509, 2509), (2637, 2637), (2765, 2765), (2893, 2893), (3021, 3021),
    (3149, 3149), (3277, 3277), (3387, 3388), (3405, 3405), (3530, 3530), (3642, 3642),
    (3770, 3770), (3972, 3972), (4153, 4154), (5908, 5909), (5940, 5940), (6098, 6098),
    (6752, 6752), (6980, 6980), (7082, 7083), (7154, 7155), (11647, 11647), (43014, 43014),
    (43052, 43052), (43204, 43204), (43347, 43347), (43456, 43456), (43766, 43766),
    (44013, 44013), (68159, 68159), (69702, 69702), (69744, 69744), (69759, 69759),
    (69817, 69817), (69939, 69940), (70080, 70080), (70197, 70197), (70378, 70378),
    (70477, 70477), (70722, 70722), (70850, 70850), (71103, 71103), (71231, 71231),
    (71350, 71350), (71467, 71467), (71737, 71737), (71997, 71998), (72160, 72160),
    (72244, 72244), (72263, 72263), (72345, 72345), (72767, 72767), (73028, 73029),
    (73111, 73111)]),
  (10, [(1456, 1456)]),
  (11, [(1457, 1457)]),
  (12, [(1458, 1458)]),
  (13, [(1459, 1459)]),
  (14, [(1460, 1460)]),
  (15, [(1461, 1461)]),
  (16, [(1462, 1462)]),
  (17, [(1463, 1463)]),
  (18, [(1464, 1464), (1479, 1479)]),
  (19, [(1465, 1466)]),
  (20, [(1467, 1467)]),
  (21, [(1468, 1468)]),
  (22, [(1469, 1469)]),
  (23, [(1471, 1471)]),
  (24, [(1473, 1473)]),
  (25, [(1474, 1474)]),
  (26, [(64286, 64286)]),
  (27, [(1611, 1611), (2288, 2288)]),
  (28, [(1612, 1612), (2289, 2289)]),
  (29, [(1613, 1613), (2290, 2290)]),
  (30, [(1560, 1560), (1614, 1614)]),
  (31, [(1561, 1561), (1615, 1615)]),
  (32, [(1562, 1562), (1616, 1616)]),
  (33, [(1617, 1617)]),
  (34, [(1618, 1618)]),
  (35, [(1648, 1648)]),
  (36, [(1809, 1809)]),
  (84, [(3157, 3157)]),
  (91, [(3158, 3158)]),
  (103, [(3640, 3641)]),
  (107, [(3656, 3659)]),
  (118, [(3768, 3769)]),
  (122, [(3784, 3787)]),
  (129, [(3953, 3953)]),
  (130, [(3954, 3954), (3962, 3965), (3968, 3968)]),
  (132, [(3956, 3956)]),
  (202, [(801, 802), (807, 808), (7632, 7632)]),
  (214, [(7630, 7630)]),
  (216, [(795, 795), (3897, 3897), (119141, 119142), (119150, 119154)]),
  (218, [(7674, 7674), (12330, 12330)]),
  (220, [
    (790, 793), (796, 800), (803, 806), (809, 819), (825, 828), (839, 841), (845, 846),
    (851, 854), (857, 858), (1425, 1425), (1430, 1430), (1435, 1435), (1442, 1447), (1450, 1450),
    (1477, 1477), (1621, 1622), (1628, 1628), (1631, 1631), (1763, 1763), (1770, 1770),
    (1773, 1773), (1841, 1841), (1844, 1844), (1847, 1849), (1851, 1852), (1854, 1854),
    (1858, 1858), (1860, 1860), (1862, 1862), (1864, 1864), (2034, 2034), (2045, 2045),
    (2137, 2139), (2201, 2203), (2255, 2259), (2275, 2275), (2278, 2278), (2281, 2281),
    (2285, 2287), (2294, 2294), (2297, 2298), (2386, 2386), (3864, 3865), (3893, 3893),
    (3895, 3895), (4038, 4038), (4237, 4237), (6459, 6459), (6680, 6680), (6783, 6783),
    (6837, 6842), (6845, 6845), (6847, 6848), (6851, 6852), (6858, 6858), (7020, 7020),
    (7381, 7385), (7388, 7391), (7405, 7405), (7618, 7618), (7626, 7626), (7631, 7631),
    (7673, 7673), (7677, 7677), (7679, 7679), (8424, 8424), (8428, 8431), (43307, 43309),
    (43700, 43700), (65063, 65069), (66045, 66045), (66272, 66272), (68109, 68109),
    (68154, 68154), (68326, 68326), (69446, 69447), (69451, 69451), (69453, 69456),
    (69507, 69507), (69509, 69509), (119163, 119170), (119178, 119179), (125136, 125142)]),
  (222, [(1434, 1434), (1453, 1453), (6457, 6457), (12333, 12333)]),
  (224, [(12334, 12335)]),
  (226, [(119149, 119149)]),
  (228, [(1454, 1454), (6313, 6313), (7671, 7672), (12331, 12331)]),
  (230, [
    (768, 788), (829, 836), (838, 838), (842, 844), (848, 850), (855, 855), (859, 859),
    (867, 879), (1155, 1159), (1426, 1429), (1431, 1433), (1436, 1441), (1448, 1449),
    (1451, 1452), (1455, 1455), (1476, 1476), (1552, 1559), (1619, 1620), (1623, 1627),
    (1629, 1630), (1750, 1756), (1759, 1762), (1764, 1764), (1767, 1768), (1771, 1772),
    (1840, 1840), (1842, 1843), (1845, 1846), (1850, 1850), (1853, 1853), (1855, 1857),
    (1859, 1859), (1861, 1861), (1863, 1863), (1865, 1866), (2027, 2033), (2035, 2035),
    (2070, 2073), (2075, 2083), (2085, 2087), (2089, 2093), (2200, 2200), (2204, 2207),
    (2250, 2254), (2260, 2273), (2276, 2277), (2279, 2280), (2282, 2284), (2291, 2293),
    (2295, 2296), (2299, 2303), (2385, 2385), (2387, 2388), (2558, 2558), (3970, 3971),
    (3974, 3975), (4957, 4959), (6109, 6109), (6458, 6458), (6679, 6679), (6773, 6780),
    (6832, 6836), (6843, 6844), (6849, 6850), (6853, 6857), (6859, 6862), (7019, 7019),
    (7021, 7027), (7376, 7378), (7386, 7387), (7392, 7392), (7412, 7412), (7416, 7417),
    (7616, 7617), (7619, 7625), (7627, 7628), (7633, 7669), (7675, 7675), (7678, 7678),
    (8400, 8401), (8404, 8407), (8411, 8412), (8417, 8417), (8423, 8423), (8425, 8425),
    (8432, 8432), (11503, 11505), (11744, 11775), (42607, 42607), (42612, 42621), (42654, 42655),
    (42736, 42737), (43232, 43249), (43696, 43696), (43698, 43699), (43703, 43704),
    (43710, 43711), (43713, 43713), (65056, 65062), (65070, 65071), (66422, 66426),
    (68111, 68111), (68152, 68152), (68325, 68325), (68900, 68903), (69291, 69292),
    (69448, 69450), (69452, 69452), (69506, 69506), (69508, 69508), (69888, 69890),
    (70502, 70508), (70512, 70516), (70750, 70750), (92976, 92982), (119173, 119177),
    (119210, 119213), (119362, 119364), (122880, 122886), (122888, 122904), (122907, 122913),
    (122915, 122916), (122918, 122922), (123184, 123190), (123566, 123566), (123628, 123631),
    (125252, 125257)]),
  (232, [(789, 789), (794, 794), (856, 856), (7670, 7670), (12332, 12332)]),
  (233, [(860, 860), (863, 863), (866, 866), (7676, 7676)]),
  (234, [(861, 862), (864, 865), (7629, 7629)]),
  (240, [(837, 837)])]

/-- The letters that take in a mark, each with what becomes of it. -/
def compositions : List (Nat × List (Nat × Nat)) := [
  (768, [
    (65, 192), (69, 200), (73, 204), (79, 210), (85, 217), (97, 224), (101, 232), (105, 236),
    (111, 242), (117, 249), (220, 475), (252, 476), (78, 504), (110, 505), (1045, 1024),
    (1048, 1037), (1077, 1104), (1080, 1117), (274, 7700), (275, 7701), (332, 7760), (333, 7761),
    (87, 7808), (119, 7809), (194, 7846), (226, 7847), (258, 7856), (259, 7857), (202, 7872),
    (234, 7873), (212, 7890), (244, 7891), (416, 7900), (417, 7901), (431, 7914), (432, 7915),
    (89, 7922), (121, 7923), (7936, 7938), (7937, 7939), (7944, 7946), (7945, 7947), (7952, 7954),
    (7953, 7955), (7960, 7962), (7961, 7963), (7968, 7970), (7969, 7971), (7976, 7978),
    (7977, 7979), (7984, 7986), (7985, 7987), (7992, 7994), (7993, 7995), (8000, 8002),
    (8001, 8003), (8008, 8010), (8009, 8011), (8016, 8018), (8017, 8019), (8025, 8027),
    (8032, 8034), (8033, 8035), (8040, 8042), (8041, 8043), (945, 8048), (949, 8050), (951, 8052),
    (953, 8054), (959, 8056), (965, 8058), (969, 8060), (913, 8122), (917, 8136), (919, 8138),
    (8127, 8141), (970, 8146), (921, 8154), (8190, 8157), (971, 8162), (933, 8170), (168, 8173),
    (927, 8184), (937, 8186)]),
  (769, [
    (65, 193), (69, 201), (73, 205), (79, 211), (85, 218), (89, 221), (97, 225), (101, 233),
    (105, 237), (111, 243), (117, 250), (121, 253), (67, 262), (99, 263), (76, 313), (108, 314),
    (78, 323), (110, 324), (82, 340), (114, 341), (83, 346), (115, 347), (90, 377), (122, 378),
    (220, 471), (252, 472), (71, 500), (103, 501), (197, 506), (229, 507), (198, 508), (230, 509),
    (216, 510), (248, 511), (168, 901), (913, 902), (917, 904), (919, 905), (921, 906),
    (927, 908), (933, 910), (937, 911), (970, 912), (945, 940), (949, 941), (951, 942),
    (953, 943), (971, 944), (959, 972), (965, 973), (969, 974), (978, 979), (1043, 1027),
    (1050, 1036), (1075, 1107), (1082, 1116), (199, 7688), (231, 7689), (274, 7702), (275, 7703),
    (207, 7726), (239, 7727), (75, 7728), (107, 7729), (77, 7742), (109, 7743), (213, 7756),
    (245, 7757), (332, 7762), (333, 7763), (80, 7764), (112, 7765), (360, 7800), (361, 7801),
    (87, 7810), (119, 7811), (194, 7844), (226, 7845), (258, 7854), (259, 7855), (202, 7870),
    (234, 7871), (212, 7888), (244, 7889), (416, 7898), (417, 7899), (431, 7912), (432, 7913),
    (7936, 7940), (7937, 7941), (7944, 7948), (7945, 7949), (7952, 7956), (7953, 7957),
    (7960, 7964), (7961, 7965), (7968, 7972), (7969, 7973), (7976, 7980), (7977, 7981),
    (7984, 7988), (7985, 7989), (7992, 7996), (7993, 7997), (8000, 8004), (8001, 8005),
    (8008, 8012), (8009, 8013), (8016, 8020), (8017, 8021), (8025, 8029), (8032, 8036),
    (8033, 8037), (8040, 8044), (8041, 8045), (8127, 8142), (8190, 8158)]),
  (770, [
    (65, 194), (69, 202), (73, 206), (79, 212), (85, 219), (97, 226), (101, 234), (105, 238),
    (111, 244), (117, 251), (67, 264), (99, 265), (71, 284), (103, 285), (72, 292), (104, 293),
    (74, 308), (106, 309), (83, 348), (115, 349), (87, 372), (119, 373), (89, 374), (121, 375),
    (90, 7824), (122, 7825), (7840, 7852), (7841, 7853), (7864, 7878), (7865, 7879), (7884, 7896),
    (7885, 7897)]),
  (771, [
    (65, 195), (78, 209), (79, 213), (97, 227), (110, 241), (111, 245), (73, 296), (105, 297),
    (85, 360), (117, 361), (86, 7804), (118, 7805), (194, 7850), (226, 7851), (258, 7860),
    (259, 7861), (69, 7868), (101, 7869), (202, 7876), (234, 7877), (212, 7894), (244, 7895),
    (416, 7904), (417, 7905), (431, 7918), (432, 7919), (89, 7928), (121, 7929)]),
  (772, [
    (65, 256), (97, 257), (69, 274), (101, 275), (73, 298), (105, 299), (79, 332), (111, 333),
    (85, 362), (117, 363), (220, 469), (252, 470), (196, 478), (228, 479), (550, 480), (551, 481),
    (198, 482), (230, 483), (490, 492), (491, 493), (214, 554), (246, 555), (213, 556),
    (245, 557), (558, 560), (559, 561), (89, 562), (121, 563), (1048, 1250), (1080, 1251),
    (1059, 1262), (1091, 1263), (71, 7712), (103, 7713), (7734, 7736), (7735, 7737), (7770, 7772),
    (7771, 7773), (945, 8113), (913, 8121), (953, 8145), (921, 8153), (965, 8161), (933, 8169)]),
  (774, [
    (65, 258), (97, 259), (69, 276), (101, 277), (71, 286), (103, 287), (73, 300), (105, 301),
    (79, 334), (111, 335), (85, 364), (117, 365), (1059, 1038), (1048, 1049), (1080, 1081),
    (1091, 1118), (1046, 1217), (1078, 1218), (1040, 1232), (1072, 1233), (1045, 1238),
    (1077, 1239), (552, 7708), (553, 7709), (7840, 7862), (7841, 7863), (945, 8112), (913, 8120),
    (953, 8144), (921, 8152), (965, 8160), (933, 8168)]),
  (775, [
    (67, 266), (99, 267), (69, 278), (101, 279), (71, 288), (103, 289), (73, 304), (90, 379),
    (122, 380), (65, 550), (97, 551), (79, 558), (111, 559), (66, 7682), (98, 7683), (68, 7690),
    (100, 7691), (70, 7710), (102, 7711), (72, 7714), (104, 7715), (77, 7744), (109, 7745),
    (78, 7748), (110, 7749), (80, 7766), (112, 7767), (82, 7768), (114, 7769), (83, 7776),
    (115, 7777), (346, 7780), (347, 7781), (352, 7782), (353, 7783), (7778, 7784), (7779, 7785),
    (84, 7786), (116, 7787), (87, 7814), (119, 7815), (88, 7818), (120, 7819), (89, 7822),
    (121, 7823), (383, 7835)]),
  (776, [
    (65, 196), (69, 203), (73, 207), (79, 214), (85, 220), (97, 228), (101, 235), (105, 239),
    (111, 246), (117, 252), (121, 255), (89, 376), (921, 938), (933, 939), (953, 970), (965, 971),
    (978, 980), (1045, 1025), (1030, 1031), (1077, 1105), (1110, 1111), (1040, 1234),
    (1072, 1235), (1240, 1242), (1241, 1243), (1046, 1244), (1078, 1245), (1047, 1246),
    (1079, 1247), (1048, 1252), (1080, 1253), (1054, 1254), (1086, 1255), (1256, 1258),
    (1257, 1259), (1069, 1260), (1101, 1261), (1059, 1264), (1091, 1265), (1063, 1268),
    (1095, 1269), (1067, 1272), (1099, 1273), (72, 7718), (104, 7719), (213, 7758), (245, 7759),
    (362, 7802), (363, 7803), (87, 7812), (119, 7813), (88, 7820), (120, 7821), (116, 7831)]),
  (777, [
    (65, 7842), (97, 7843), (194, 7848), (226, 7849), (258, 7858), (259, 7859), (69, 7866),
    (101, 7867), (202, 7874), (234, 7875), (73, 7880), (105, 7881), (79, 7886), (111, 7887),
    (212, 7892), (244, 7893), (416, 7902), (417, 7903), (85, 7910), (117, 7911), (431, 7916),
    (432, 7917), (89, 7926), (121, 7927)]),
  (778, [(65, 197), (97, 229), (85, 366), (117, 367), (119, 7832), (121, 7833)]),
  (779, [(79, 336), (111, 337), (85, 368), (117, 369), (1059, 1266), (1091, 1267)]),
  (780, [
    (67, 268), (99, 269), (68, 270), (100, 271), (69, 282), (101, 283), (76, 317), (108, 318),
    (78, 327), (110, 328), (82, 344), (114, 345), (83, 352), (115, 353), (84, 356), (116, 357),
    (90, 381), (122, 382), (65, 461), (97, 462), (73, 463), (105, 464), (79, 465), (111, 466),
    (85, 467), (117, 468), (220, 473), (252, 474), (71, 486), (103, 487), (75, 488), (107, 489),
    (439, 494), (658, 495), (106, 496), (72, 542), (104, 543)]),
  (783, [
    (65, 512), (97, 513), (69, 516), (101, 517), (73, 520), (105, 521), (79, 524), (111, 525),
    (82, 528), (114, 529), (85, 532), (117, 533), (1140, 1142), (1141, 1143)]),
  (785, [
    (65, 514), (97, 515), (69, 518), (101, 519), (73, 522), (105, 523), (79, 526), (111, 527),
    (82, 530), (114, 531), (85, 534), (117, 535)]),
  (787, [
    (945, 7936), (913, 7944), (949, 7952), (917, 7960), (951, 7968), (919, 7976), (953, 7984),
    (921, 7992), (959, 8000), (927, 8008), (965, 8016), (969, 8032), (937, 8040), (961, 8164)]),
  (788, [
    (945, 7937), (913, 7945), (949, 7953), (917, 7961), (951, 7969), (919, 7977), (953, 7985),
    (921, 7993), (959, 8001), (927, 8009), (965, 8017), (933, 8025), (969, 8033), (937, 8041),
    (961, 8165), (929, 8172)]),
  (795, [(79, 416), (111, 417), (85, 431), (117, 432)]),
  (803, [
    (66, 7684), (98, 7685), (68, 7692), (100, 7693), (72, 7716), (104, 7717), (75, 7730),
    (107, 7731), (76, 7734), (108, 7735), (77, 7746), (109, 7747), (78, 7750), (110, 7751),
    (82, 7770), (114, 7771), (83, 7778), (115, 7779), (84, 7788), (116, 7789), (86, 7806),
    (118, 7807), (87, 7816), (119, 7817), (90, 7826), (122, 7827), (65, 7840), (97, 7841),
    (69, 7864), (101, 7865), (73, 7882), (105, 7883), (79, 7884), (111, 7885), (416, 7906),
    (417, 7907), (85, 7908), (117, 7909), (431, 7920), (432, 7921), (89, 7924), (121, 7925)]),
  (804, [(85, 7794), (117, 7795)]),
  (805, [(65, 7680), (97, 7681)]),
  (806, [(83, 536), (115, 537), (84, 538), (116, 539)]),
  (807, [
    (67, 199), (99, 231), (71, 290), (103, 291), (75, 310), (107, 311), (76, 315), (108, 316),
    (78, 325), (110, 326), (82, 342), (114, 343), (83, 350), (115, 351), (84, 354), (116, 355),
    (69, 552), (101, 553), (68, 7696), (100, 7697), (72, 7720), (104, 7721)]),
  (808, [
    (65, 260), (97, 261), (69, 280), (101, 281), (73, 302), (105, 303), (85, 370), (117, 371),
    (79, 490), (111, 491)]),
  (813, [
    (68, 7698), (100, 7699), (69, 7704), (101, 7705), (76, 7740), (108, 7741), (78, 7754),
    (110, 7755), (84, 7792), (116, 7793), (85, 7798), (117, 7799)]),
  (814, [(72, 7722), (104, 7723)]),
  (816, [(69, 7706), (101, 7707), (73, 7724), (105, 7725), (85, 7796), (117, 7797)]),
  (817, [
    (66, 7686), (98, 7687), (68, 7694), (100, 7695), (75, 7732), (107, 7733), (76, 7738),
    (108, 7739), (78, 7752), (110, 7753), (82, 7774), (114, 7775), (84, 7790), (116, 7791),
    (90, 7828), (122, 7829), (104, 7830)]),
  (824, [
    (8592, 8602), (8594, 8603), (8596, 8622), (8656, 8653), (8660, 8654), (8658, 8655),
    (8707, 8708), (8712, 8713), (8715, 8716), (8739, 8740), (8741, 8742), (8764, 8769),
    (8771, 8772), (8773, 8775), (8776, 8777), (61, 8800), (8801, 8802), (8781, 8813), (60, 8814),
    (62, 8815), (8804, 8816), (8805, 8817), (8818, 8820), (8819, 8821), (8822, 8824),
    (8823, 8825), (8826, 8832), (8827, 8833), (8834, 8836), (8835, 8837), (8838, 8840),
    (8839, 8841), (8866, 8876), (8872, 8877), (8873, 8878), (8875, 8879), (8828, 8928),
    (8829, 8929), (8849, 8930), (8850, 8931), (8882, 8938), (8883, 8939), (8884, 8940),
    (8885, 8941)]),
  (834, [
    (7936, 7942), (7937, 7943), (7944, 7950), (7945, 7951), (7968, 7974), (7969, 7975),
    (7976, 7982), (7977, 7983), (7984, 7990), (7985, 7991), (7992, 7998), (7993, 7999),
    (8016, 8022), (8017, 8023), (8025, 8031), (8032, 8038), (8033, 8039), (8040, 8046),
    (8041, 8047), (945, 8118), (168, 8129), (951, 8134), (8127, 8143), (953, 8150), (970, 8151),
    (8190, 8159), (965, 8166), (971, 8167), (969, 8182)]),
  (837, [
    (7936, 8064), (7937, 8065), (7938, 8066), (7939, 8067), (7940, 8068), (7941, 8069),
    (7942, 8070), (7943, 8071), (7944, 8072), (7945, 8073), (7946, 8074), (7947, 8075),
    (7948, 8076), (7949, 8077), (7950, 8078), (7951, 8079), (7968, 8080), (7969, 8081),
    (7970, 8082), (7971, 8083), (7972, 8084), (7973, 8085), (7974, 8086), (7975, 8087),
    (7976, 8088), (7977, 8089), (7978, 8090), (7979, 8091), (7980, 8092), (7981, 8093),
    (7982, 8094), (7983, 8095), (8032, 8096), (8033, 8097), (8034, 8098), (8035, 8099),
    (8036, 8100), (8037, 8101), (8038, 8102), (8039, 8103), (8040, 8104), (8041, 8105),
    (8042, 8106), (8043, 8107), (8044, 8108), (8045, 8109), (8046, 8110), (8047, 8111),
    (8048, 8114), (945, 8115), (940, 8116), (8118, 8119), (913, 8124), (8052, 8130), (951, 8131),
    (942, 8132), (8134, 8135), (919, 8140), (8060, 8178), (969, 8179), (974, 8180), (8182, 8183),
    (937, 8188)]),
  (1619, [(1575, 1570)]),
  (1620, [(1575, 1571), (1608, 1572), (1610, 1574), (1749, 1728), (1729, 1730), (1746, 1747)]),
  (1621, [(1575, 1573)]),
  (2364, [(2344, 2345), (2352, 2353), (2355, 2356)]),
  (2494, [(2503, 2507)]),
  (2519, [(2503, 2508)]),
  (2878, [(2887, 2891)]),
  (2902, [(2887, 2888)]),
  (2903, [(2887, 2892)]),
  (3006, [(3014, 3018), (3015, 3019)]),
  (3031, [(2962, 2964), (3014, 3020)]),
  (3158, [(3142, 3144)]),
  (3266, [(3270, 3274)]),
  (3285, [(3263, 3264), (3270, 3271), (3274, 3275)]),
  (3286, [(3270, 3272)]),
  (3390, [(3398, 3402), (3399, 3403)]),
  (3415, [(3398, 3404)]),
  (3530, [(3545, 3546), (3548, 3549)]),
  (3535, [(3545, 3548)]),
  (3551, [(3545, 3550)]),
  (4142, [(4133, 4134)]),
  (6965, [
    (6917, 6918), (6919, 6920), (6921, 6922), (6923, 6924), (6925, 6926), (6929, 6930),
    (6970, 6971), (6972, 6973), (6974, 6976), (6975, 6977), (6978, 6979)]),
  (12441, [
    (12363, 12364), (12365, 12366), (12367, 12368), (12369, 12370), (12371, 12372),
    (12373, 12374), (12375, 12376), (12377, 12378), (12379, 12380), (12381, 12382),
    (12383, 12384), (12385, 12386), (12388, 12389), (12390, 12391), (12392, 12393),
    (12399, 12400), (12402, 12403), (12405, 12406), (12408, 12409), (12411, 12412),
    (12358, 12436), (12445, 12446), (12459, 12460), (12461, 12462), (12463, 12464),
    (12465, 12466), (12467, 12468), (12469, 12470), (12471, 12472), (12473, 12474),
    (12475, 12476), (12477, 12478), (12479, 12480), (12481, 12482), (12484, 12485),
    (12486, 12487), (12488, 12489), (12495, 12496), (12498, 12499), (12501, 12502),
    (12504, 12505), (12507, 12508), (12454, 12532), (12527, 12535), (12528, 12536),
    (12529, 12537), (12530, 12538), (12541, 12542)]),
  (12442, [
    (12399, 12401), (12402, 12404), (12405, 12407), (12408, 12410), (12411, 12413),
    (12495, 12497), (12498, 12500), (12501, 12503), (12504, 12506), (12507, 12509)]),
  (69818, [(69785, 69786), (69787, 69788), (69797, 69803)]),
  (69927, [(69937, 69934), (69938, 69935)]),
  (70462, [(70471, 70475)]),
  (70487, [(70471, 70476)]),
  (70832, [(70841, 70844)]),
  (70842, [(70841, 70843)]),
  (70845, [(70841, 70846)]),
  (71087, [(71096, 71098), (71097, 71099)]),
  (71984, [(71989, 71992)])]

/-- The class of a mark; zero when the character begins a letter. -/
def markClass (n : Nat) : Nat :=
  match markClasses.find? fun entry => entry.2.contains n with
  | some entry => entry.1
  | none => 0

/-- What a letter and a mark become together. -/
def composePair (letter mark : Nat) : Option Nat :=
  (compositions.lookup mark).bind (List.lookup letter)

/-- The letter and the mark that a character is made of. -/
def splitPair (n : Nat) : Option (Nat × Nat) :=
  compositions.findSome? fun (mark, pairs) =>
    (pairs.find? fun pair => pair.2 == n).map fun pair => (pair.1, mark)

/-- The parts of a character, down to a depth. -/
def partsOf : Nat → Nat → List Nat
  | 0, n => [n]
  | depth + 1, n =>
    match splitPair n with
    | some (letter, mark) => partsOf depth letter ++ [mark]
    | none => [n]

/-- How often a character can be split: no letter takes in more marks. -/
def splitDepth : Nat := 3

/-- Puts a mark before others: it moves behind the marks of lower classes. -/
def settleMark (n : Nat) : List Nat → List Nat
  | [] => [n]
  | m :: rest =>
    if 0 < markClass m ∧ markClass m < markClass n then m :: settleMark n rest else n :: m :: rest

/-- Brings the marks of each letter into the order of their classes. -/
def settleMarks (ns : List Nat) : List Nat := ns.foldr settleMark []

/-- Composes a letter with what follows. The marks that it has not taken in are kept in reverse. -/
def composeFrom (letter : Nat) : List Nat → List Nat → List Nat
  | kept, [] => letter :: kept.reverse
  | kept, n :: rest =>
    let isReached := match kept with
      | [] => true
      | last :: _ => markClass last < markClass n
    match if isReached then composePair letter n else none with
    | some letter => composeFrom letter kept rest
    | none =>
      if markClass n = 0 then letter :: kept.reverse ++ composeFrom n [] rest
      else composeFrom letter (n :: kept) rest

/-- A text with its letters composed. -/
def composed (ns : List Nat) : List Nat :=
  match settleMarks (ns.flatMap (partsOf splitDepth)) with
  | [] => []
  | n :: rest => composeFrom n [] rest

/-- Whether a text is composed. -/
def isComposed (ns : List Nat) : Bool := composed ns == ns

end DynamicForm.Text

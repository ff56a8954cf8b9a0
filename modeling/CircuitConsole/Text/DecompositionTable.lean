/-!
Compatibility decompositions of the characters of names in the Unicode standard, version 14, with
the combining classes and the pairs that compose. A decomposition is given one step deep, and
only where it does not follow from a composing pair. Hangul syllables are not listed: they are
computed.
-/

namespace CircuitConsole.Text

/-- Runs of characters below U+2000 that stand for a run of other single characters: first, last,
and what the first stands for. -/
def basicRuns : List (Nat × Nat × Nat) := [
  (170, 170, 97), (181, 181, 956), (186, 186, 111), (383, 383, 115), (688, 688, 104),
  (689, 689, 614), (690, 690, 106), (691, 691, 114), (692, 692, 633), (693, 693, 635),
  (694, 694, 641), (695, 695, 119), (696, 696, 121), (736, 736, 611), (737, 737, 108),
  (738, 738, 115), (739, 739, 120), (740, 740, 661), (832, 833, 768), (835, 835, 787),
  (884, 884, 697), (903, 903, 183), (976, 976, 946), (977, 977, 952), (978, 978, 933),
  (981, 981, 966), (982, 982, 960), (1008, 1008, 954), (1009, 1010, 961), (1012, 1012, 920),
  (1013, 1013, 949), (1017, 1017, 931), (4348, 4348, 4316), (7468, 7468, 65), (7469, 7469, 198),
  (7470, 7470, 66), (7472, 7473, 68), (7474, 7474, 398), (7475, 7482, 71), (7484, 7484, 79),
  (7485, 7485, 546), (7486, 7486, 80), (7487, 7487, 82), (7488, 7489, 84), (7490, 7490, 87),
  (7491, 7491, 97), (7492, 7493, 592), (7494, 7494, 7426), (7495, 7495, 98), (7496, 7497, 100),
  (7498, 7498, 601), (7499, 7500, 603), (7501, 7501, 103), (7503, 7503, 107), (7504, 7504, 109),
  (7505, 7505, 331), (7506, 7506, 111), (7507, 7507, 596), (7508, 7509, 7446), (7510, 7510, 112),
  (7511, 7512, 116), (7513, 7513, 7453), (7514, 7514, 623), (7515, 7515, 118),
  (7516, 7516, 7461), (7517, 7519, 946), (7520, 7521, 966), (7522, 7522, 105), (7523, 7523, 114),
  (7524, 7525, 117), (7526, 7527, 946), (7528, 7528, 961), (7529, 7530, 966), (7544, 7544, 1085),
  (7579, 7579, 594), (7580, 7580, 99), (7581, 7581, 597), (7582, 7582, 240), (7583, 7583, 604),
  (7584, 7584, 102), (7585, 7585, 607), (7586, 7586, 609), (7587, 7587, 613), (7588, 7590, 616),
  (7591, 7591, 7547), (7592, 7592, 669), (7593, 7593, 621), (7594, 7594, 7557),
  (7595, 7595, 671), (7596, 7596, 625), (7597, 7597, 624), (7598, 7601, 626), (7602, 7602, 632),
  (7603, 7604, 642), (7605, 7605, 427), (7606, 7607, 649), (7608, 7608, 7452), (7609, 7610, 651),
  (7611, 7611, 122), (7612, 7614, 656), (7615, 7615, 952), (8049, 8049, 940), (8051, 8051, 941),
  (8053, 8053, 942), (8055, 8055, 943), (8057, 8057, 972), (8059, 8059, 973), (8061, 8061, 974),
  (8123, 8123, 902), (8126, 8126, 953), (8137, 8137, 904), (8139, 8139, 905), (8147, 8147, 912),
  (8155, 8155, 906), (8163, 8163, 944), (8171, 8171, 910), (8185, 8185, 908), (8187, 8187, 911)]

def symbolRuns : List (Nat × Nat × Nat) := [
  (8305, 8305, 105), (8319, 8319, 110), (8336, 8336, 97), (8337, 8337, 101), (8338, 8338, 111),
  (8339, 8339, 120), (8340, 8340, 601), (8341, 8341, 104), (8342, 8345, 107), (8346, 8346, 112),
  (8347, 8348, 115), (8450, 8450, 67), (8455, 8455, 400), (8458, 8458, 103), (8459, 8459, 72),
  (8460, 8460, 72), (8461, 8461, 72), (8462, 8462, 104), (8463, 8463, 295), (8464, 8464, 73),
  (8465, 8465, 73), (8466, 8466, 76), (8467, 8467, 108), (8469, 8469, 78), (8473, 8475, 80),
  (8476, 8476, 82), (8477, 8477, 82), (8484, 8484, 90), (8486, 8486, 937), (8488, 8488, 90),
  (8490, 8490, 75), (8491, 8491, 197), (8492, 8493, 66), (8495, 8495, 101), (8496, 8497, 69),
  (8499, 8499, 77), (8500, 8500, 111), (8501, 8504, 1488), (8505, 8505, 105), (8508, 8508, 960),
  (8509, 8509, 947), (8510, 8510, 915), (8511, 8511, 928), (8517, 8517, 68), (8518, 8519, 100),
  (8520, 8521, 105), (8544, 8544, 73), (8548, 8548, 86), (8553, 8553, 88), (8556, 8556, 76),
  (8557, 8558, 67), (8559, 8559, 77), (8560, 8560, 105), (8564, 8564, 118), (8569, 8569, 120),
  (8572, 8572, 108), (8573, 8574, 99), (8575, 8575, 109), (11388, 11388, 106),
  (11389, 11389, 86), (11631, 11631, 11617), (12344, 12344, 21313), (12345, 12346, 21316),
  (12593, 12594, 4352), (12595, 12595, 4522), (12596, 12596, 4354), (12597, 12598, 4524),
  (12599, 12601, 4355), (12602, 12607, 4528), (12608, 12608, 4378), (12609, 12611, 4358),
  (12612, 12612, 4385), (12613, 12622, 4361), (12623, 12643, 4449), (12644, 12644, 4448),
  (12645, 12646, 4372), (12647, 12648, 4551), (12649, 12649, 4556), (12650, 12650, 4558),
  (12651, 12651, 4563), (12652, 12652, 4567), (12653, 12653, 4569), (12654, 12654, 4380),
  (12655, 12655, 4573), (12656, 12656, 4575), (12657, 12658, 4381), (12659, 12659, 4384),
  (12660, 12661, 4386), (12662, 12662, 4391), (12663, 12663, 4393), (12664, 12668, 4395),
  (12669, 12669, 4402), (12670, 12670, 4406), (12671, 12671, 4416), (12672, 12672, 4423),
  (12673, 12673, 4428), (12674, 12675, 4593), (12676, 12678, 4439), (12679, 12680, 4484),
  (12681, 12681, 4488), (12682, 12683, 4497), (12684, 12684, 4500), (12685, 12685, 4510),
  (12686, 12686, 4513), (42652, 42652, 1098), (42653, 42653, 1100), (42864, 42864, 42863),
  (42994, 42994, 67), (42995, 42995, 70), (42996, 42996, 81), (43000, 43000, 294),
  (43001, 43001, 339), (43868, 43868, 42791), (43869, 43869, 43831), (43870, 43870, 619),
  (43871, 43871, 43858), (43881, 43881, 653)]

def ideographRuns : List (Nat × Nat × Nat) := [
  (63744, 63744, 35912), (63745, 63745, 26356), (63746, 63746, 36554), (63747, 63747, 36040),
  (63748, 63748, 28369), (63749, 63749, 20018), (63750, 63750, 21477), (63751, 63751, 40860),
  (63752, 63752, 40860), (63753, 63753, 22865), (63754, 63754, 37329), (63755, 63755, 21895),
  (63756, 63756, 22856), (63757, 63757, 25078), (63758, 63758, 30313), (63759, 63759, 32645),
  (63760, 63760, 34367), (63761, 63761, 34746), (63762, 63762, 35064), (63763, 63763, 37007),
  (63764, 63764, 27138), (63765, 63765, 27931), (63766, 63766, 28889), (63767, 63767, 29662),
  (63768, 63768, 33853), (63769, 63769, 37226), (63770, 63770, 39409), (63771, 63771, 20098),
  (63772, 63772, 21365), (63773, 63773, 27396), (63774, 63774, 29211), (63775, 63775, 34349),
  (63776, 63776, 40478), (63777, 63777, 23888), (63778, 63778, 28651), (63779, 63779, 34253),
  (63780, 63780, 35172), (63781, 63781, 25289), (63782, 63782, 33240), (63783, 63783, 34847),
  (63784, 63784, 24266), (63785, 63785, 26391), (63786, 63786, 28010), (63787, 63787, 29436),
  (63788, 63788, 37070), (63789, 63789, 20358), (63790, 63790, 20919), (63791, 63791, 21214),
  (63792, 63792, 25796), (63793, 63793, 27347), (63794, 63794, 29200), (63795, 63795, 30439),
  (63796, 63796, 32769), (63797, 63797, 34310), (63798, 63798, 34396), (63799, 63799, 36335),
  (63800, 63800, 38706), (63801, 63801, 39791), (63802, 63802, 40442), (63803, 63803, 30860),
  (63804, 63804, 31103), (63805, 63805, 32160), (63806, 63806, 33737), (63807, 63807, 37636),
  (63808, 63808, 40575), (63809, 63809, 35542), (63810, 63810, 22751), (63811, 63811, 24324),
  (63812, 63812, 31840), (63813, 63813, 32894), (63814, 63814, 29282), (63815, 63815, 30922),
  (63816, 63816, 36034), (63817, 63817, 38647), (63818, 63818, 22744), (63819, 63819, 23650),
  (63820, 63820, 27155), (63821, 63821, 28122), (63822, 63822, 28431), (63823, 63823, 32047),
  (63824, 63824, 32311), (63825, 63825, 38475), (63826, 63826, 21202), (63827, 63827, 32907),
  (63828, 63828, 20956), (63829, 63829, 20940), (63830, 63830, 31260), (63831, 63831, 32190),
  (63832, 63832, 33777), (63833, 63833, 38517), (63834, 63834, 35712), (63835, 63835, 25295),
  (63836, 63836, 27138), (63837, 63837, 35582), (63838, 63838, 20025), (63839, 63839, 23527),
  (63840, 63840, 24594), (63841, 63841, 29575), (63842, 63842, 30064), (63843, 63843, 21271),
  (63844, 63844, 30971), (63845, 63845, 20415), (63846, 63846, 24489), (63847, 63847, 19981),
  (63848, 63848, 27852), (63849, 63849, 25976), (63850, 63850, 32034), (63851, 63851, 21443),
  (63852, 63852, 22622), (63853, 63853, 30465), (63854, 63854, 33865), (63855, 63855, 35498),
  (63856, 63856, 27578), (63857, 63857, 36784), (63858, 63858, 27784), (63859, 63859, 25342),
  (63860, 63860, 33509), (63861, 63861, 25504), (63862, 63862, 30053), (63863, 63863, 20142),
  (63864, 63864, 20841), (63865, 63865, 20937), (63866, 63866, 26753), (63867, 63867, 31975),
  (63868, 63868, 33391), (63869, 63869, 35538), (63870, 63870, 37327), (63871, 63871, 21237),
  (63872, 63872, 21570), (63873, 63873, 22899), (63874, 63874, 24300), (63875, 63875, 26053),
  (63876, 63876, 28670), (63877, 63877, 31018), (63878, 63878, 38317), (63879, 63879, 39530),
  (63880, 63880, 40599), (63881, 63881, 40654), (63882, 63882, 21147), (63883, 63883, 26310),
  (63884, 63884, 27511), (63885, 63885, 36706), (63886, 63886, 24180), (63887, 63887, 24976),
  (63888, 63888, 25088), (63889, 63889, 25754), (63890, 63890, 28451), (63891, 63891, 29001),
  (63892, 63892, 29833), (63893, 63893, 31178), (63894, 63894, 32244), (63895, 63895, 32879),
  (63896, 63896, 36646), (63897, 63897, 34030), (63898, 63898, 36899), (63899, 63899, 37706),
  (63900, 63900, 21015), (63901, 63901, 21155), (63902, 63902, 21693), (63903, 63903, 28872),
  (63904, 63904, 35010), (63905, 63905, 35498), (63906, 63906, 24265), (63907, 63907, 24565),
  (63908, 63908, 25467), (63909, 63909, 27566), (63910, 63910, 31806), (63911, 63911, 29557),
  (63912, 63912, 20196), (63913, 63913, 22265), (63914, 63914, 23527), (63915, 63915, 23994),
  (63916, 63916, 24604), (63917, 63917, 29618), (63918, 63918, 29801), (63919, 63919, 32666),
  (63920, 63920, 32838), (63921, 63921, 37428), (63922, 63922, 38646), (63923, 63923, 38728),
  (63924, 63924, 38936), (63925, 63925, 20363), (63926, 63926, 31150), (63927, 63927, 37300),
  (63928, 63928, 38584), (63929, 63929, 24801), (63930, 63930, 20102), (63931, 63931, 20698),
  (63932, 63932, 23534), (63933, 63933, 23615), (63934, 63934, 26009), (63935, 63935, 27138),
  (63936, 63936, 29134), (63937, 63937, 30274), (63938, 63938, 34044), (63939, 63939, 36988),
  (63940, 63940, 40845), (63941, 63941, 26248), (63942, 63942, 38446), (63943, 63943, 21129),
  (63944, 63944, 26491), (63945, 63945, 26611), (63946, 63946, 27969), (63947, 63947, 28316),
  (63948, 63948, 29705), (63949, 63949, 30041), (63950, 63950, 30827), (63951, 63951, 32016),
  (63952, 63952, 39006), (63953, 63953, 20845), (63954, 63954, 25134), (63955, 63955, 38520),
  (63956, 63956, 20523), (63957, 63957, 23833), (63958, 63958, 28138), (63959, 63959, 36650),
  (63960, 63960, 24459), (63961, 63961, 24900), (63962, 63962, 26647), (63963, 63963, 29575),
  (63964, 63964, 38534), (63965, 63965, 21033), (63966, 63966, 21519), (63967, 63967, 23653),
  (63968, 63968, 26131), (63969, 63969, 26446), (63970, 63970, 26792), (63971, 63971, 27877),
  (63972, 63972, 29702), (63973, 63973, 30178), (63974, 63974, 32633), (63975, 63975, 35023),
  (63976, 63976, 35041), (63977, 63977, 37324), (63978, 63978, 38626), (63979, 63979, 21311),
  (63980, 63980, 28346), (63981, 63981, 21533), (63982, 63982, 29136), (63983, 63983, 29848),
  (63984, 63984, 34298), (63985, 63985, 38563), (63986, 63986, 40023), (63987, 63987, 40607),
  (63988, 63988, 26519), (63989, 63989, 28107), (63990, 63990, 33256), (63991, 63991, 31435),
  (63992, 63992, 31520), (63993, 63993, 31890), (63994, 63994, 29376), (63995, 63995, 28825),
  (63996, 63996, 35672), (63997, 63997, 20160), (63998, 63998, 33590), (63999, 63999, 21050),
  (64000, 64000, 20999), (64001, 64001, 24230), (64002, 64002, 25299), (64003, 64003, 31958),
  (64004, 64004, 23429), (64005, 64005, 27934), (64006, 64006, 26292), (64007, 64007, 36667),
  (64008, 64008, 34892), (64009, 64009, 38477), (64010, 64010, 35211), (64011, 64011, 24275),
  (64012, 64012, 20800), (64013, 64013, 21952), (64016, 64016, 22618), (64018, 64018, 26228),
  (64021, 64021, 20958), (64022, 64022, 29482), (64023, 64023, 30410), (64024, 64024, 31036),
  (64025, 64025, 31070), (64026, 64026, 31077), (64027, 64027, 31119), (64028, 64028, 38742),
  (64029, 64029, 31934), (64030, 64030, 32701), (64032, 64032, 34322), (64034, 64034, 35576),
  (64037, 64037, 36920), (64038, 64038, 37117), (64042, 64042, 39151), (64043, 64043, 39164),
  (64044, 64044, 39208), (64045, 64045, 40372), (64046, 64046, 37086), (64047, 64047, 38583),
  (64048, 64048, 20398), (64049, 64049, 20711), (64050, 64050, 20813), (64051, 64051, 21193),
  (64052, 64052, 21220), (64053, 64053, 21329), (64054, 64054, 21917), (64055, 64055, 22022),
  (64056, 64056, 22120), (64057, 64057, 22592), (64058, 64058, 22696), (64059, 64059, 23652),
  (64060, 64060, 23662), (64061, 64061, 24724), (64062, 64062, 24936), (64063, 64063, 24974),
  (64064, 64064, 25074), (64065, 64065, 25935), (64066, 64066, 26082), (64067, 64067, 26257),
  (64068, 64068, 26757), (64069, 64069, 28023), (64070, 64070, 28186), (64071, 64071, 28450),
  (64072, 64072, 29038), (64073, 64073, 29227), (64074, 64074, 29730), (64075, 64075, 30865),
  (64076, 64076, 31038), (64077, 64077, 31049), (64078, 64078, 31048), (64079, 64079, 31056),
  (64080, 64080, 31062), (64081, 64081, 31069), (64082, 64083, 31117), (64084, 64084, 31296),
  (64085, 64085, 31361), (64086, 64086, 31680), (64087, 64087, 32244), (64088, 64088, 32265),
  (64089, 64089, 32321), (64090, 64090, 32626), (64091, 64091, 32773), (64092, 64092, 33261),
  (64093, 64093, 33401), (64094, 64094, 33401), (64095, 64095, 33879), (64096, 64096, 35088),
  (64097, 64097, 35222), (64098, 64098, 35585), (64099, 64099, 35641), (64100, 64100, 36051),
  (64101, 64101, 36104), (64102, 64102, 36790), (64103, 64103, 36920), (64104, 64104, 38627),
  (64105, 64105, 38911), (64106, 64106, 38971), (64107, 64107, 24693), (64108, 64108, 148206),
  (64109, 64109, 33304), (64112, 64112, 20006), (64113, 64113, 20917), (64114, 64114, 20840),
  (64115, 64115, 20352), (64116, 64116, 20805), (64117, 64117, 20864), (64118, 64118, 21191),
  (64119, 64119, 21242), (64120, 64120, 21917), (64121, 64121, 21845), (64122, 64122, 21913),
  (64123, 64123, 21986), (64124, 64124, 22618), (64125, 64125, 22707), (64126, 64126, 22852),
  (64127, 64127, 22868), (64128, 64128, 23138), (64129, 64129, 23336), (64130, 64130, 24274),
  (64131, 64131, 24281), (64132, 64132, 24425), (64133, 64133, 24493), (64134, 64134, 24792),
  (64135, 64135, 24910), (64136, 64136, 24840), (64137, 64137, 24974), (64138, 64138, 24928),
  (64139, 64139, 25074), (64140, 64140, 25140), (64141, 64141, 25540), (64142, 64142, 25628),
  (64143, 64143, 25682), (64144, 64144, 25942), (64145, 64145, 26228), (64146, 64146, 26391),
  (64147, 64147, 26395), (64148, 64148, 26454), (64149, 64149, 27513), (64150, 64150, 27578),
  (64151, 64151, 27969), (64152, 64152, 28379), (64153, 64153, 28363), (64154, 64154, 28450),
  (64155, 64155, 28702), (64156, 64156, 29038), (64157, 64157, 30631), (64158, 64158, 29237),
  (64159, 64159, 29359), (64160, 64160, 29482), (64161, 64161, 29809), (64162, 64162, 29958),
  (64163, 64163, 30011), (64164, 64164, 30237), (64165, 64165, 30239), (64166, 64166, 30410),
  (64167, 64167, 30427), (64168, 64168, 30452), (64169, 64169, 30538), (64170, 64170, 30528),
  (64171, 64171, 30924), (64172, 64172, 31409), (64173, 64173, 31680), (64174, 64174, 31867),
  (64175, 64175, 32091), (64176, 64176, 32244), (64177, 64177, 32574), (64178, 64178, 32773),
  (64179, 64179, 33618), (64180, 64180, 33775), (64181, 64181, 34681), (64182, 64182, 35137),
  (64183, 64183, 35206), (64184, 64184, 35222), (64185, 64185, 35519), (64186, 64186, 35576),
  (64187, 64187, 35531), (64188, 64188, 35585), (64189, 64189, 35582), (64190, 64190, 35565),
  (64191, 64191, 35641), (64192, 64192, 35722), (64193, 64193, 36104), (64194, 64194, 36664),
  (64195, 64195, 36978), (64196, 64196, 37273), (64197, 64197, 37494), (64198, 64198, 38524),
  (64199, 64199, 38627), (64200, 64200, 38742), (64201, 64201, 38875), (64202, 64202, 38911),
  (64203, 64203, 38923), (64204, 64204, 38971), (64205, 64205, 39698), (64206, 64206, 40860),
  (64207, 64207, 141386), (64208, 64208, 141380), (64209, 64209, 144341), (64210, 64210, 15261),
  (64211, 64211, 16408), (64212, 64212, 16441), (64213, 64213, 152137), (64214, 64214, 154832),
  (64215, 64215, 163539), (64216, 64216, 40771), (64217, 64217, 40846)]

def presentationRuns : List (Nat × Nat × Nat) := [
  (64288, 64288, 1506), (64289, 64289, 1488), (64290, 64291, 1491), (64292, 64294, 1499),
  (64295, 64295, 1512), (64296, 64296, 1514), (64336, 64336, 1649), (64337, 64337, 1649),
  (64338, 64338, 1659), (64339, 64339, 1659), (64340, 64340, 1659), (64341, 64341, 1659),
  (64342, 64342, 1662), (64343, 64343, 1662), (64344, 64344, 1662), (64345, 64345, 1662),
  (64346, 64346, 1664), (64347, 64347, 1664), (64348, 64348, 1664), (64349, 64349, 1664),
  (64350, 64350, 1658), (64351, 64351, 1658), (64352, 64352, 1658), (64353, 64353, 1658),
  (64354, 64354, 1663), (64355, 64355, 1663), (64356, 64356, 1663), (64357, 64357, 1663),
  (64358, 64358, 1657), (64359, 64359, 1657), (64360, 64360, 1657), (64361, 64361, 1657),
  (64362, 64362, 1700), (64363, 64363, 1700), (64364, 64364, 1700), (64365, 64365, 1700),
  (64366, 64366, 1702), (64367, 64367, 1702), (64368, 64368, 1702), (64369, 64369, 1702),
  (64370, 64370, 1668), (64371, 64371, 1668), (64372, 64372, 1668), (64373, 64373, 1668),
  (64374, 64374, 1667), (64375, 64375, 1667), (64376, 64376, 1667), (64377, 64377, 1667),
  (64378, 64378, 1670), (64379, 64379, 1670), (64380, 64380, 1670), (64381, 64382, 1670),
  (64383, 64383, 1671), (64384, 64384, 1671), (64385, 64385, 1671), (64386, 64386, 1677),
  (64387, 64387, 1677), (64388, 64388, 1676), (64389, 64389, 1676), (64390, 64390, 1678),
  (64391, 64391, 1678), (64392, 64392, 1672), (64393, 64393, 1672), (64394, 64394, 1688),
  (64395, 64395, 1688), (64396, 64396, 1681), (64397, 64397, 1681), (64398, 64398, 1705),
  (64399, 64399, 1705), (64400, 64400, 1705), (64401, 64401, 1705), (64402, 64402, 1711),
  (64403, 64403, 1711), (64404, 64404, 1711), (64405, 64405, 1711), (64406, 64406, 1715),
  (64407, 64407, 1715), (64408, 64408, 1715), (64409, 64409, 1715), (64410, 64410, 1713),
  (64411, 64411, 1713), (64412, 64412, 1713), (64413, 64413, 1713), (64414, 64414, 1722),
  (64415, 64416, 1722), (64417, 64417, 1723), (64418, 64418, 1723), (64419, 64419, 1723),
  (64420, 64420, 1728), (64421, 64422, 1728), (64423, 64423, 1729), (64424, 64424, 1729),
  (64425, 64425, 1729), (64426, 64426, 1726), (64427, 64427, 1726), (64428, 64428, 1726),
  (64429, 64429, 1726), (64430, 64430, 1746), (64431, 64432, 1746), (64433, 64433, 1747),
  (64467, 64467, 1709), (64468, 64468, 1709), (64469, 64469, 1709), (64470, 64470, 1709),
  (64471, 64471, 1735), (64472, 64472, 1735), (64473, 64473, 1734), (64474, 64474, 1734),
  (64475, 64475, 1736), (64476, 64476, 1736), (64477, 64477, 1655), (64478, 64478, 1739),
  (64479, 64479, 1739), (64480, 64480, 1733), (64481, 64481, 1733), (64482, 64482, 1737),
  (64483, 64483, 1737), (64484, 64484, 1744), (64485, 64485, 1744), (64486, 64486, 1744),
  (64487, 64487, 1744), (64488, 64488, 1609), (64489, 64489, 1609), (64508, 64508, 1740),
  (64509, 64509, 1740), (64510, 64510, 1740), (64511, 64511, 1740), (65075, 65075, 95),
  (65076, 65076, 95), (65101, 65101, 95), (65102, 65102, 95), (65103, 65103, 95),
  (65152, 65153, 1569), (65154, 65155, 1570), (65156, 65157, 1571), (65158, 65159, 1572),
  (65160, 65161, 1573), (65162, 65162, 1574), (65163, 65163, 1574), (65164, 65165, 1574),
  (65166, 65167, 1575), (65168, 65168, 1576), (65169, 65169, 1576), (65170, 65171, 1576),
  (65172, 65173, 1577), (65174, 65174, 1578), (65175, 65175, 1578), (65176, 65177, 1578),
  (65178, 65178, 1579), (65179, 65179, 1579), (65180, 65181, 1579), (65182, 65182, 1580),
  (65183, 65183, 1580), (65184, 65185, 1580), (65186, 65186, 1581), (65187, 65187, 1581),
  (65188, 65189, 1581), (65190, 65190, 1582), (65191, 65191, 1582), (65192, 65193, 1582),
  (65194, 65195, 1583), (65196, 65197, 1584), (65198, 65199, 1585), (65200, 65201, 1586),
  (65202, 65202, 1587), (65203, 65203, 1587), (65204, 65205, 1587), (65206, 65206, 1588),
  (65207, 65207, 1588), (65208, 65209, 1588), (65210, 65210, 1589), (65211, 65211, 1589),
  (65212, 65213, 1589), (65214, 65214, 1590), (65215, 65215, 1590), (65216, 65217, 1590),
  (65218, 65218, 1591), (65219, 65219, 1591), (65220, 65221, 1591), (65222, 65222, 1592),
  (65223, 65223, 1592), (65224, 65225, 1592), (65226, 65226, 1593), (65227, 65227, 1593),
  (65228, 65229, 1593), (65230, 65230, 1594), (65231, 65231, 1594), (65232, 65232, 1594),
  (65233, 65233, 1601), (65234, 65234, 1601), (65235, 65235, 1601), (65236, 65237, 1601),
  (65238, 65238, 1602), (65239, 65239, 1602), (65240, 65241, 1602), (65242, 65242, 1603),
  (65243, 65243, 1603), (65244, 65245, 1603), (65246, 65246, 1604), (65247, 65247, 1604),
  (65248, 65249, 1604), (65250, 65250, 1605), (65251, 65251, 1605), (65252, 65253, 1605),
  (65254, 65254, 1606), (65255, 65255, 1606), (65256, 65257, 1606), (65258, 65258, 1607),
  (65259, 65259, 1607), (65260, 65261, 1607), (65262, 65263, 1608), (65264, 65265, 1609),
  (65266, 65266, 1610), (65267, 65267, 1610), (65268, 65268, 1610), (65296, 65305, 48),
  (65313, 65338, 65), (65343, 65343, 95), (65345, 65370, 97), (65382, 65382, 12530),
  (65383, 65383, 12449), (65384, 65384, 12451), (65385, 65385, 12453), (65386, 65386, 12455),
  (65387, 65387, 12457), (65388, 65388, 12515), (65389, 65389, 12517), (65390, 65390, 12519),
  (65391, 65391, 12483), (65392, 65392, 12540), (65393, 65393, 12450), (65394, 65394, 12452),
  (65395, 65395, 12454), (65396, 65396, 12456), (65397, 65398, 12458), (65399, 65399, 12461),
  (65400, 65400, 12463), (65401, 65401, 12465), (65402, 65402, 12467), (65403, 65403, 12469),
  (65404, 65404, 12471), (65405, 65405, 12473), (65406, 65406, 12475), (65407, 65407, 12477),
  (65408, 65408, 12479), (65409, 65409, 12481), (65410, 65410, 12484), (65411, 65411, 12486),
  (65412, 65412, 12488), (65413, 65418, 12490), (65419, 65419, 12498), (65420, 65420, 12501),
  (65421, 65421, 12504), (65422, 65422, 12507), (65423, 65427, 12510), (65428, 65428, 12516),
  (65429, 65429, 12518), (65430, 65435, 12520), (65436, 65436, 12527), (65437, 65437, 12531),
  (65438, 65439, 12441), (65440, 65440, 12644), (65441, 65470, 12593), (65474, 65479, 12623),
  (65482, 65487, 12629), (65490, 65495, 12635), (65498, 65500, 12641)]

def supplementaryRuns : List (Nat × Nat × Nat) := [
  (67457, 67458, 720), (67459, 67459, 230), (67460, 67460, 665), (67461, 67461, 595),
  (67463, 67463, 675), (67464, 67464, 43878), (67465, 67465, 677), (67466, 67466, 676),
  (67467, 67468, 598), (67469, 67469, 7569), (67470, 67470, 600), (67471, 67471, 606),
  (67472, 67472, 681), (67473, 67473, 612), (67474, 67474, 610), (67475, 67475, 608),
  (67476, 67476, 667), (67477, 67477, 295), (67478, 67478, 668), (67479, 67479, 615),
  (67480, 67480, 644), (67481, 67482, 682), (67483, 67483, 620), (67484, 67484, 122628),
  (67485, 67485, 42894), (67486, 67486, 622), (67487, 67487, 122629), (67488, 67488, 654),
  (67489, 67489, 122630), (67490, 67490, 248), (67491, 67492, 630), (67493, 67493, 113),
  (67494, 67494, 634), (67495, 67495, 122632), (67496, 67497, 637), (67498, 67498, 640),
  (67499, 67499, 680), (67500, 67500, 678), (67501, 67501, 43879), (67502, 67502, 679),
  (67503, 67503, 648), (67504, 67504, 11377), (67506, 67506, 655), (67507, 67508, 673),
  (67509, 67509, 664), (67510, 67512, 448), (67513, 67513, 122634), (67514, 67514, 122654),
  (119808, 119833, 65), (119834, 119859, 97), (119860, 119885, 65), (119886, 119892, 97),
  (119894, 119911, 105), (119912, 119937, 65), (119938, 119963, 97), (119964, 119964, 65),
  (119966, 119967, 67), (119970, 119970, 71), (119973, 119974, 74), (119977, 119980, 78),
  (119982, 119989, 83), (119990, 119993, 97), (119995, 119995, 102), (119997, 120003, 104),
  (120005, 120015, 112), (120016, 120041, 65), (120042, 120067, 97), (120068, 120069, 65),
  (120071, 120074, 68), (120077, 120084, 74), (120086, 120092, 83), (120094, 120119, 97),
  (120120, 120121, 65), (120123, 120126, 68), (120128, 120132, 73), (120134, 120134, 79),
  (120138, 120144, 83), (120146, 120171, 97), (120172, 120197, 65), (120198, 120223, 97),
  (120224, 120249, 65), (120250, 120275, 97), (120276, 120301, 65), (120302, 120327, 97),
  (120328, 120353, 65), (120354, 120379, 97), (120380, 120405, 65), (120406, 120431, 97),
  (120432, 120457, 65), (120458, 120483, 97), (120484, 120484, 305), (120485, 120485, 567),
  (120488, 120504, 913), (120505, 120505, 1012), (120506, 120512, 931), (120514, 120538, 945),
  (120540, 120540, 1013), (120541, 120541, 977), (120542, 120542, 1008), (120543, 120543, 981),
  (120544, 120544, 1009), (120545, 120545, 982), (120546, 120562, 913), (120563, 120563, 1012),
  (120564, 120570, 931), (120572, 120596, 945), (120598, 120598, 1013), (120599, 120599, 977),
  (120600, 120600, 1008), (120601, 120601, 981), (120602, 120602, 1009), (120603, 120603, 982),
  (120604, 120620, 913), (120621, 120621, 1012), (120622, 120628, 931), (120630, 120654, 945),
  (120656, 120656, 1013), (120657, 120657, 977), (120658, 120658, 1008), (120659, 120659, 981),
  (120660, 120660, 1009), (120661, 120661, 982), (120662, 120678, 913), (120679, 120679, 1012),
  (120680, 120686, 931), (120688, 120712, 945), (120714, 120714, 1013), (120715, 120715, 977),
  (120716, 120716, 1008), (120717, 120717, 981), (120718, 120718, 1009), (120719, 120719, 982),
  (120720, 120736, 913), (120737, 120737, 1012), (120738, 120744, 931), (120746, 120770, 945),
  (120772, 120772, 1013), (120773, 120773, 977), (120774, 120774, 1008), (120775, 120775, 981),
  (120776, 120776, 1009), (120777, 120777, 982), (120778, 120779, 988), (120782, 120791, 48),
  (120792, 120801, 48), (120802, 120811, 48), (120812, 120821, 48), (120822, 120831, 48),
  (126464, 126465, 1575), (126466, 126466, 1580), (126467, 126467, 1583), (126469, 126469, 1608),
  (126470, 126470, 1586), (126471, 126471, 1581), (126472, 126472, 1591), (126473, 126473, 1610),
  (126474, 126477, 1603), (126478, 126478, 1587), (126479, 126479, 1593), (126480, 126480, 1601),
  (126481, 126481, 1589), (126482, 126482, 1602), (126483, 126483, 1585), (126484, 126484, 1588),
  (126485, 126486, 1578), (126487, 126487, 1582), (126488, 126488, 1584), (126489, 126489, 1590),
  (126490, 126490, 1592), (126491, 126491, 1594), (126492, 126492, 1646), (126493, 126493, 1722),
  (126494, 126494, 1697), (126495, 126495, 1647), (126497, 126497, 1576), (126498, 126498, 1580),
  (126500, 126500, 1607), (126503, 126503, 1581), (126505, 126505, 1610), (126506, 126509, 1603),
  (126510, 126510, 1587), (126511, 126511, 1593), (126512, 126512, 1601), (126513, 126513, 1589),
  (126514, 126514, 1602), (126516, 126516, 1588), (126517, 126518, 1578), (126519, 126519, 1582),
  (126521, 126521, 1590), (126523, 126523, 1594), (126530, 126530, 1580), (126535, 126535, 1581),
  (126537, 126537, 1610), (126539, 126539, 1604), (126541, 126541, 1606), (126542, 126542, 1587),
  (126543, 126543, 1593), (126545, 126545, 1589), (126546, 126546, 1602), (126548, 126548, 1588),
  (126551, 126551, 1582), (126553, 126553, 1590), (126555, 126555, 1594), (126557, 126557, 1722),
  (126559, 126559, 1647), (126561, 126561, 1576), (126562, 126562, 1580), (126564, 126564, 1607),
  (126567, 126567, 1581), (126568, 126568, 1591), (126569, 126569, 1610), (126570, 126570, 1603),
  (126572, 126573, 1605), (126574, 126574, 1587), (126575, 126575, 1593), (126576, 126576, 1601),
  (126577, 126577, 1589), (126578, 126578, 1602), (126580, 126580, 1588), (126581, 126582, 1578),
  (126583, 126583, 1582), (126585, 126585, 1590), (126586, 126586, 1592), (126587, 126587, 1594),
  (126588, 126588, 1646), (126590, 126590, 1697), (126592, 126593, 1575), (126594, 126594, 1580),
  (126595, 126595, 1583), (126596, 126597, 1607), (126598, 126598, 1586), (126599, 126599, 1581),
  (126600, 126600, 1591), (126601, 126601, 1610), (126603, 126605, 1604), (126606, 126606, 1587),
  (126607, 126607, 1593), (126608, 126608, 1601), (126609, 126609, 1589), (126610, 126610, 1602),
  (126611, 126611, 1585), (126612, 126612, 1588), (126613, 126614, 1578), (126615, 126615, 1582),
  (126616, 126616, 1584), (126617, 126617, 1590), (126618, 126618, 1592), (126619, 126619, 1594),
  (126625, 126625, 1576), (126626, 126626, 1580), (126627, 126627, 1583), (126629, 126629, 1608),
  (126630, 126630, 1586), (126631, 126631, 1581), (126632, 126632, 1591), (126633, 126633, 1610),
  (126635, 126637, 1604), (126638, 126638, 1587), (126639, 126639, 1593), (126640, 126640, 1601),
  (126641, 126641, 1589), (126642, 126642, 1602), (126643, 126643, 1585), (126644, 126644, 1588),
  (126645, 126646, 1578), (126647, 126647, 1582), (126648, 126648, 1584), (126649, 126649, 1590),
  (126650, 126650, 1592), (126651, 126651, 1594), (130032, 130041, 48)]

def supplementaryIdeographRuns : List (Nat × Nat × Nat) := [
  (194560, 194560, 20029), (194561, 194561, 20024), (194562, 194562, 20033),
  (194563, 194563, 131362), (194564, 194564, 20320), (194565, 194565, 20398),
  (194566, 194566, 20411), (194567, 194567, 20482), (194568, 194568, 20602),
  (194569, 194569, 20633), (194570, 194570, 20711), (194571, 194571, 20687),
  (194572, 194572, 13470), (194573, 194573, 132666), (194574, 194574, 20813),
  (194575, 194575, 20820), (194576, 194576, 20836), (194577, 194577, 20855),
  (194578, 194578, 132380), (194579, 194579, 13497), (194580, 194580, 20839),
  (194581, 194581, 20877), (194582, 194582, 132427), (194583, 194583, 20887),
  (194584, 194584, 20900), (194585, 194585, 20172), (194586, 194586, 20908),
  (194587, 194587, 20917), (194588, 194588, 168415), (194589, 194589, 20981),
  (194590, 194590, 20995), (194591, 194591, 13535), (194592, 194592, 21051),
  (194593, 194593, 21062), (194594, 194594, 21106), (194595, 194595, 21111),
  (194596, 194596, 13589), (194597, 194597, 21191), (194598, 194598, 21193),
  (194599, 194599, 21220), (194600, 194600, 21242), (194601, 194602, 21253),
  (194603, 194603, 21271), (194604, 194604, 21321), (194605, 194605, 21329),
  (194606, 194606, 21338), (194607, 194607, 21363), (194608, 194608, 21373),
  (194609, 194609, 21375), (194610, 194610, 21375), (194611, 194611, 21375),
  (194612, 194612, 133676), (194613, 194613, 28784), (194614, 194614, 21450),
  (194615, 194615, 21471), (194616, 194616, 133987), (194617, 194617, 21483),
  (194618, 194618, 21489), (194619, 194619, 21510), (194620, 194620, 21662),
  (194621, 194621, 21560), (194622, 194622, 21576), (194623, 194623, 21608),
  (194624, 194624, 21666), (194625, 194625, 21750), (194626, 194626, 21776),
  (194627, 194627, 21843), (194628, 194628, 21859), (194629, 194629, 21892),
  (194630, 194630, 21892), (194631, 194631, 21913), (194632, 194632, 21931),
  (194633, 194633, 21939), (194634, 194634, 21954), (194635, 194635, 22294),
  (194636, 194636, 22022), (194637, 194637, 22295), (194638, 194638, 22097),
  (194639, 194639, 22132), (194640, 194640, 20999), (194641, 194641, 22766),
  (194642, 194642, 22478), (194643, 194643, 22516), (194644, 194644, 22541),
  (194645, 194645, 22411), (194646, 194646, 22578), (194647, 194647, 22577),
  (194648, 194648, 22700), (194649, 194649, 136420), (194650, 194650, 22770),
  (194651, 194651, 22775), (194652, 194652, 22790), (194653, 194653, 22810),
  (194654, 194654, 22818), (194655, 194655, 22882), (194656, 194656, 136872),
  (194657, 194657, 136938), (194658, 194658, 23020), (194659, 194659, 23067),
  (194660, 194660, 23079), (194661, 194661, 23000), (194662, 194662, 23142),
  (194663, 194663, 14062), (194664, 194664, 14076), (194665, 194665, 23304),
  (194666, 194666, 23358), (194667, 194667, 23358), (194668, 194668, 137672),
  (194669, 194669, 23491), (194670, 194670, 23512), (194671, 194671, 23527),
  (194672, 194672, 23539), (194673, 194673, 138008), (194674, 194674, 23551),
  (194675, 194675, 23558), (194676, 194676, 24403), (194677, 194677, 23586),
  (194678, 194678, 14209), (194679, 194679, 23648), (194680, 194680, 23662),
  (194681, 194681, 23744), (194682, 194682, 23693), (194683, 194683, 138724),
  (194684, 194684, 23875), (194685, 194685, 138726), (194686, 194686, 23918),
  (194687, 194687, 23915), (194688, 194688, 23932), (194689, 194690, 24033),
  (194691, 194691, 14383), (194692, 194692, 24061), (194693, 194693, 24104),
  (194694, 194694, 24125), (194695, 194695, 24169), (194696, 194696, 14434),
  (194697, 194697, 139651), (194698, 194698, 14460), (194699, 194699, 24240),
  (194700, 194700, 24243), (194701, 194701, 24246), (194702, 194702, 24266),
  (194703, 194703, 172946), (194704, 194704, 24318), (194705, 194705, 140081),
  (194706, 194706, 140081), (194707, 194707, 33281), (194708, 194708, 24354),
  (194709, 194709, 24354), (194710, 194710, 14535), (194711, 194711, 144056),
  (194712, 194712, 156122), (194713, 194713, 24418), (194714, 194714, 24427),
  (194715, 194715, 14563), (194716, 194716, 24474), (194717, 194717, 24525),
  (194718, 194718, 24535), (194719, 194719, 24569), (194720, 194720, 24705),
  (194721, 194721, 14650), (194722, 194722, 14620), (194723, 194723, 24724),
  (194724, 194724, 141012), (194725, 194725, 24775), (194726, 194726, 24904),
  (194727, 194727, 24908), (194728, 194728, 24910), (194729, 194729, 24908),
  (194730, 194730, 24954), (194731, 194731, 24974), (194732, 194732, 25010),
  (194733, 194733, 24996), (194734, 194734, 25007), (194735, 194735, 25054),
  (194736, 194736, 25074), (194737, 194737, 25078), (194738, 194738, 25104),
  (194739, 194739, 25115), (194740, 194740, 25181), (194741, 194741, 25265),
  (194742, 194742, 25300), (194743, 194743, 25424), (194744, 194744, 142092),
  (194745, 194745, 25405), (194746, 194746, 25340), (194747, 194747, 25448),
  (194748, 194748, 25475), (194749, 194749, 25572), (194750, 194750, 142321),
  (194751, 194751, 25634), (194752, 194752, 25541), (194753, 194753, 25513),
  (194754, 194754, 14894), (194755, 194755, 25705), (194756, 194756, 25726),
  (194757, 194757, 25757), (194758, 194758, 25719), (194759, 194759, 14956),
  (194760, 194760, 25935), (194761, 194761, 25964), (194762, 194762, 143370),
  (194763, 194763, 26083), (194764, 194764, 26360), (194765, 194765, 26185),
  (194766, 194766, 15129), (194767, 194767, 26257), (194768, 194768, 15112),
  (194769, 194769, 15076), (194770, 194770, 20882), (194771, 194771, 20885),
  (194772, 194772, 26368), (194773, 194773, 26268), (194774, 194774, 32941),
  (194775, 194775, 17369), (194776, 194776, 26391), (194777, 194777, 26395),
  (194778, 194778, 26401), (194779, 194779, 26462), (194780, 194780, 26451),
  (194781, 194781, 144323), (194782, 194782, 15177), (194783, 194783, 26618),
  (194784, 194784, 26501), (194785, 194785, 26706), (194786, 194786, 26757),
  (194787, 194787, 144493), (194788, 194788, 26766), (194789, 194789, 26655),
  (194790, 194790, 26900), (194791, 194791, 15261), (194792, 194792, 26946),
  (194793, 194793, 27043), (194794, 194794, 27114), (194795, 194795, 27304),
  (194796, 194796, 145059), (194797, 194797, 27355), (194798, 194798, 15384),
  (194799, 194799, 27425), (194800, 194800, 145575), (194801, 194801, 27476),
  (194802, 194802, 15438), (194803, 194803, 27506), (194804, 194804, 27551),
  (194805, 194806, 27578), (194807, 194807, 146061), (194808, 194808, 138507),
  (194809, 194809, 146170), (194810, 194810, 27726), (194811, 194811, 146620),
  (194812, 194812, 27839), (194813, 194813, 27853), (194814, 194814, 27751),
  (194815, 194815, 27926), (194816, 194816, 27966), (194817, 194817, 28023),
  (194818, 194818, 27969), (194819, 194819, 28009), (194820, 194820, 28024),
  (194821, 194821, 28037), (194822, 194822, 146718), (194823, 194823, 27956),
  (194824, 194824, 28207), (194825, 194825, 28270), (194826, 194826, 15667),
  (194827, 194827, 28363), (194828, 194828, 28359), (194829, 194829, 147153),
  (194830, 194830, 28153), (194831, 194831, 28526), (194832, 194832, 147294),
  (194833, 194833, 147342), (194834, 194834, 28614), (194835, 194835, 28729),
  (194836, 194836, 28702), (194837, 194837, 28699), (194838, 194838, 15766),
  (194839, 194839, 28746), (194840, 194840, 28797), (194841, 194841, 28791),
  (194842, 194842, 28845), (194843, 194843, 132389), (194844, 194844, 28997),
  (194845, 194845, 148067), (194846, 194846, 29084), (194847, 194847, 148395),
  (194848, 194848, 29224), (194849, 194849, 29237), (194850, 194850, 29264),
  (194851, 194851, 149000), (194852, 194852, 29312), (194853, 194853, 29333),
  (194854, 194854, 149301), (194855, 194855, 149524), (194856, 194856, 29562),
  (194857, 194857, 29579), (194858, 194858, 16044), (194859, 194859, 29605),
  (194860, 194860, 16056), (194861, 194861, 16056), (194862, 194862, 29767),
  (194863, 194863, 29788), (194864, 194864, 29809), (194865, 194865, 29829),
  (194866, 194866, 29898), (194867, 194867, 16155), (194868, 194868, 29988),
  (194869, 194869, 150582), (194870, 194870, 30014), (194871, 194871, 150674),
  (194872, 194872, 30064), (194873, 194873, 139679), (194874, 194874, 30224),
  (194875, 194875, 151457), (194876, 194876, 151480), (194877, 194877, 151620),
  (194878, 194878, 16380), (194879, 194879, 16392), (194880, 194880, 30452),
  (194881, 194881, 151795), (194882, 194882, 151794), (194883, 194883, 151833),
  (194884, 194884, 151859), (194885, 194886, 30494), (194887, 194887, 30495),
  (194888, 194888, 30538), (194889, 194889, 16441), (194890, 194890, 30603),
  (194891, 194891, 16454), (194892, 194892, 16534), (194893, 194893, 152605),
  (194894, 194894, 30798), (194895, 194895, 30860), (194896, 194896, 30924),
  (194897, 194897, 16611), (194898, 194898, 153126), (194899, 194899, 31062),
  (194900, 194900, 153242), (194901, 194901, 153285), (194902, 194902, 31119),
  (194903, 194903, 31211), (194904, 194904, 16687), (194905, 194905, 31296),
  (194906, 194906, 31306), (194907, 194907, 31311), (194908, 194908, 153980),
  (194909, 194909, 154279), (194910, 194910, 154279), (194911, 194911, 31470),
  (194912, 194912, 16898), (194913, 194913, 154539), (194914, 194914, 31686),
  (194915, 194915, 31689), (194916, 194916, 16935), (194917, 194917, 154752),
  (194918, 194918, 31954), (194919, 194919, 17056), (194920, 194920, 31976),
  (194921, 194921, 31971), (194922, 194922, 32000), (194923, 194923, 155526),
  (194924, 194924, 32099), (194925, 194925, 17153), (194926, 194926, 32199),
  (194927, 194927, 32258), (194928, 194928, 32325), (194929, 194929, 17204),
  (194930, 194930, 156200), (194931, 194931, 156231), (194932, 194932, 17241),
  (194933, 194933, 156377), (194934, 194934, 32634), (194935, 194935, 156478),
  (194936, 194936, 32661), (194937, 194937, 32762), (194938, 194938, 32773),
  (194939, 194939, 156890), (194940, 194940, 156963), (194941, 194941, 32864),
  (194942, 194942, 157096), (194943, 194943, 32880), (194944, 194944, 144223),
  (194945, 194945, 17365), (194946, 194946, 32946), (194947, 194947, 33027),
  (194948, 194948, 17419), (194949, 194949, 33086), (194950, 194950, 23221),
  (194951, 194951, 157607), (194952, 194952, 157621), (194953, 194953, 144275),
  (194954, 194954, 144284), (194955, 194955, 33281), (194956, 194956, 33284),
  (194957, 194957, 36766), (194958, 194958, 17515), (194959, 194959, 33425),
  (194960, 194960, 33419), (194961, 194961, 33437), (194962, 194962, 21171),
  (194963, 194963, 33457), (194964, 194964, 33459), (194965, 194965, 33469),
  (194966, 194966, 33510), (194967, 194967, 158524), (194968, 194968, 33509),
  (194969, 194969, 33565), (194970, 194970, 33635), (194971, 194971, 33709),
  (194972, 194972, 33571), (194973, 194973, 33725), (194974, 194974, 33767),
  (194975, 194975, 33879), (194976, 194976, 33619), (194977, 194977, 33738),
  (194978, 194978, 33740), (194979, 194979, 33756), (194980, 194980, 158774),
  (194981, 194981, 159083), (194982, 194982, 158933), (194983, 194983, 17707),
  (194984, 194984, 34033), (194985, 194985, 34035), (194986, 194986, 34070),
  (194987, 194987, 160714), (194988, 194988, 34148), (194989, 194989, 159532),
  (194990, 194990, 17757), (194991, 194991, 17761), (194992, 194992, 159665),
  (194993, 194993, 159954), (194994, 194994, 17771), (194995, 194995, 34384),
  (194996, 194996, 34396), (194997, 194997, 34407), (194998, 194998, 34409),
  (194999, 194999, 34473), (195000, 195000, 34440), (195001, 195001, 34574),
  (195002, 195002, 34530), (195003, 195003, 34681), (195004, 195004, 34600),
  (195005, 195005, 34667), (195006, 195006, 34694), (195007, 195007, 17879),
  (195008, 195008, 34785), (195009, 195009, 34817), (195010, 195010, 17913),
  (195011, 195011, 34912), (195012, 195012, 34915), (195013, 195013, 161383),
  (195014, 195014, 35031), (195015, 195015, 35038), (195016, 195016, 17973),
  (195017, 195017, 35066), (195018, 195018, 13499), (195019, 195019, 161966),
  (195020, 195020, 162150), (195021, 195021, 18110), (195022, 195022, 18119),
  (195023, 195023, 35488), (195024, 195024, 35565), (195025, 195025, 35722),
  (195026, 195026, 35925), (195027, 195027, 162984), (195028, 195028, 36011),
  (195029, 195029, 36033), (195030, 195030, 36123), (195031, 195031, 36215),
  (195032, 195032, 163631), (195033, 195033, 133124), (195034, 195034, 36299),
  (195035, 195035, 36284), (195036, 195036, 36336), (195037, 195037, 133342),
  (195038, 195038, 36564), (195039, 195039, 36664), (195040, 195040, 165330),
  (195041, 195041, 165357), (195042, 195042, 37012), (195043, 195043, 37105),
  (195044, 195044, 37137), (195045, 195045, 165678), (195046, 195046, 37147),
  (195047, 195047, 37432), (195048, 195049, 37591), (195050, 195050, 37500),
  (195051, 195051, 37881), (195052, 195052, 37909), (195053, 195053, 166906),
  (195054, 195054, 38283), (195055, 195055, 18837), (195056, 195056, 38327),
  (195057, 195057, 167287), (195058, 195058, 18918), (195059, 195059, 38595),
  (195060, 195060, 23986), (195061, 195061, 38691), (195062, 195062, 168261),
  (195063, 195063, 168474), (195064, 195064, 19054), (195065, 195065, 19062),
  (195066, 195066, 38880), (195067, 195067, 168970), (195068, 195068, 19122),
  (195069, 195069, 169110), (195070, 195070, 38923), (195071, 195071, 38923),
  (195072, 195072, 38953), (195073, 195073, 169398), (195074, 195074, 39138),
  (195075, 195075, 19251), (195076, 195076, 39209), (195077, 195077, 39335),
  (195078, 195078, 39362), (195079, 195079, 39422), (195080, 195080, 19406),
  (195081, 195081, 170800), (195082, 195082, 39698), (195083, 195083, 40000),
  (195084, 195084, 40189), (195085, 195085, 19662), (195086, 195086, 19693),
  (195087, 195087, 40295), (195088, 195088, 172238), (195089, 195089, 19704),
  (195090, 195090, 172293), (195091, 195091, 172558), (195092, 195092, 172689),
  (195093, 195093, 40635), (195094, 195094, 19798), (195095, 195095, 40697),
  (195096, 195096, 40702), (195097, 195097, 40709), (195098, 195098, 40719),
  (195099, 195099, 40726), (195100, 195100, 40763), (195101, 195101, 173568)]

def decompositionRuns : List (Nat × Nat × Nat) :=
  basicRuns ++ symbolRuns ++ ideographRuns ++ presentationRuns ++ supplementaryRuns ++
    supplementaryIdeographRuns

def decompositionLists : List (Nat × List Nat) := [
  (306, [73, 74]), (307, [105, 106]), (319, [76, 183]), (320, [108, 183]), (329, [700, 110]),
  (452, [68, 381]), (453, [68, 382]), (454, [100, 382]), (455, [76, 74]), (456, [76, 106]),
  (457, [108, 106]), (458, [78, 74]), (459, [78, 106]), (460, [110, 106]), (497, [68, 90]),
  (498, [68, 122]), (499, [100, 122]), (836, [776, 769]), (1415, [1381, 1410]),
  (1653, [1575, 1652]), (1654, [1608, 1652]), (1655, [1735, 1652]), (1656, [1610, 1652]),
  (2392, [2325, 2364]), (2393, [2326, 2364]), (2394, [2327, 2364]), (2395, [2332, 2364]),
  (2396, [2337, 2364]), (2397, [2338, 2364]), (2398, [2347, 2364]), (2399, [2351, 2364]),
  (2524, [2465, 2492]), (2525, [2466, 2492]), (2527, [2479, 2492]), (2611, [2610, 2620]),
  (2614, [2616, 2620]), (2649, [2582, 2620]), (2650, [2583, 2620]), (2651, [2588, 2620]),
  (2654, [2603, 2620]), (2908, [2849, 2876]), (2909, [2850, 2876]), (3635, [3661, 3634]),
  (3763, [3789, 3762]), (3804, [3755, 3737]), (3805, [3755, 3745]), (3907, [3906, 4023]),
  (3917, [3916, 4023]), (3922, [3921, 4023]), (3927, [3926, 4023]), (3932, [3931, 4023]),
  (3945, [3904, 4021]), (3955, [3953, 3954]), (3957, [3953, 3956]), (3958, [4018, 3968]),
  (3959, [4018, 3969]), (3960, [4019, 3968]), (3961, [4019, 3969]), (3969, [3953, 3968]),
  (3987, [3986, 4023]), (3997, [3996, 4023]), (4002, [4001, 4023]), (4007, [4006, 4023]),
  (4012, [4011, 4023]), (4025, [3984, 4021]), (7834, [97, 702]), (8545, [73, 73]),
  (8546, [73, 73, 73]), (8547, [73, 86]), (8549, [86, 73]), (8550, [86, 73, 73]),
  (8551, [86, 73, 73, 73]), (8552, [73, 88]), (8554, [88, 73]), (8555, [88, 73, 73]),
  (8561, [105, 105]), (8562, [105, 105, 105]), (8563, [105, 118]), (8565, [118, 105]),
  (8566, [118, 105, 105]), (8567, [118, 105, 105, 105]), (8568, [105, 120]), (8570, [120, 105]),
  (8571, [120, 105, 105]), (12447, [12424, 12426]), (12543, [12467, 12488]), (64256, [102, 102]),
  (64257, [102, 105]), (64258, [102, 108]), (64259, [102, 102, 105]), (64260, [102, 102, 108]),
  (64261, [383, 116]), (64262, [115, 116]), (64275, [1396, 1398]), (64276, [1396, 1381]),
  (64277, [1396, 1387]), (64278, [1406, 1398]), (64279, [1396, 1389]), (64285, [1497, 1460]),
  (64287, [1522, 1463]), (64298, [1513, 1473]), (64299, [1513, 1474]), (64300, [64329, 1473]),
  (64301, [64329, 1474]), (64302, [1488, 1463]), (64303, [1488, 1464]), (64304, [1488, 1468]),
  (64305, [1489, 1468]), (64306, [1490, 1468]), (64307, [1491, 1468]), (64308, [1492, 1468]),
  (64309, [1493, 1468]), (64310, [1494, 1468]), (64312, [1496, 1468]), (64313, [1497, 1468]),
  (64314, [1498, 1468]), (64315, [1499, 1468]), (64316, [1500, 1468]), (64318, [1502, 1468]),
  (64320, [1504, 1468]), (64321, [1505, 1468]), (64323, [1507, 1468]), (64324, [1508, 1468]),
  (64326, [1510, 1468]), (64327, [1511, 1468]), (64328, [1512, 1468]), (64329, [1513, 1468]),
  (64330, [1514, 1468]), (64331, [1493, 1465]), (64332, [1489, 1471]), (64333, [1499, 1471]),
  (64334, [1508, 1471]), (64335, [1488, 1500]), (64490, [1574, 1575]), (64491, [1574, 1575]),
  (64492, [1574, 1749]), (64493, [1574, 1749]), (64494, [1574, 1608]), (64495, [1574, 1608]),
  (64496, [1574, 1735]), (64497, [1574, 1735]), (64498, [1574, 1734]), (64499, [1574, 1734]),
  (64500, [1574, 1736]), (64501, [1574, 1736]), (64502, [1574, 1744]), (64503, [1574, 1744]),
  (64504, [1574, 1744]), (64505, [1574, 1609]), (64506, [1574, 1609]), (64507, [1574, 1609]),
  (64512, [1574, 1580]), (64513, [1574, 1581]), (64514, [1574, 1605]), (64515, [1574, 1609]),
  (64516, [1574, 1610]), (64517, [1576, 1580]), (64518, [1576, 1581]), (64519, [1576, 1582]),
  (64520, [1576, 1605]), (64521, [1576, 1609]), (64522, [1576, 1610]), (64523, [1578, 1580]),
  (64524, [1578, 1581]), (64525, [1578, 1582]), (64526, [1578, 1605]), (64527, [1578, 1609]),
  (64528, [1578, 1610]), (64529, [1579, 1580]), (64530, [1579, 1605]), (64531, [1579, 1609]),
  (64532, [1579, 1610]), (64533, [1580, 1581]), (64534, [1580, 1605]), (64535, [1581, 1580]),
  (64536, [1581, 1605]), (64537, [1582, 1580]), (64538, [1582, 1581]), (64539, [1582, 1605]),
  (64540, [1587, 1580]), (64541, [1587, 1581]), (64542, [1587, 1582]), (64543, [1587, 1605]),
  (64544, [1589, 1581]), (64545, [1589, 1605]), (64546, [1590, 1580]), (64547, [1590, 1581]),
  (64548, [1590, 1582]), (64549, [1590, 1605]), (64550, [1591, 1581]), (64551, [1591, 1605]),
  (64552, [1592, 1605]), (64553, [1593, 1580]), (64554, [1593, 1605]), (64555, [1594, 1580]),
  (64556, [1594, 1605]), (64557, [1601, 1580]), (64558, [1601, 1581]), (64559, [1601, 1582]),
  (64560, [1601, 1605]), (64561, [1601, 1609]), (64562, [1601, 1610]), (64563, [1602, 1581]),
  (64564, [1602, 1605]), (64565, [1602, 1609]), (64566, [1602, 1610]), (64567, [1603, 1575]),
  (64568, [1603, 1580]), (64569, [1603, 1581]), (64570, [1603, 1582]), (64571, [1603, 1604]),
  (64572, [1603, 1605]), (64573, [1603, 1609]), (64574, [1603, 1610]), (64575, [1604, 1580]),
  (64576, [1604, 1581]), (64577, [1604, 1582]), (64578, [1604, 1605]), (64579, [1604, 1609]),
  (64580, [1604, 1610]), (64581, [1605, 1580]), (64582, [1605, 1581]), (64583, [1605, 1582]),
  (64584, [1605, 1605]), (64585, [1605, 1609]), (64586, [1605, 1610]), (64587, [1606, 1580]),
  (64588, [1606, 1581]), (64589, [1606, 1582]), (64590, [1606, 1605]), (64591, [1606, 1609]),
  (64592, [1606, 1610]), (64593, [1607, 1580]), (64594, [1607, 1605]), (64595, [1607, 1609]),
  (64596, [1607, 1610]), (64597, [1610, 1580]), (64598, [1610, 1581]), (64599, [1610, 1582]),
  (64600, [1610, 1605]), (64601, [1610, 1609]), (64602, [1610, 1610]), (64603, [1584, 1648]),
  (64604, [1585, 1648]), (64605, [1609, 1648]), (64612, [1574, 1585]), (64613, [1574, 1586]),
  (64614, [1574, 1605]), (64615, [1574, 1606]), (64616, [1574, 1609]), (64617, [1574, 1610]),
  (64618, [1576, 1585]), (64619, [1576, 1586]), (64620, [1576, 1605]), (64621, [1576, 1606]),
  (64622, [1576, 1609]), (64623, [1576, 1610]), (64624, [1578, 1585]), (64625, [1578, 1586]),
  (64626, [1578, 1605]), (64627, [1578, 1606]), (64628, [1578, 1609]), (64629, [1578, 1610]),
  (64630, [1579, 1585]), (64631, [1579, 1586]), (64632, [1579, 1605]), (64633, [1579, 1606]),
  (64634, [1579, 1609]), (64635, [1579, 1610]), (64636, [1601, 1609]), (64637, [1601, 1610]),
  (64638, [1602, 1609]), (64639, [1602, 1610]), (64640, [1603, 1575]), (64641, [1603, 1604]),
  (64642, [1603, 1605]), (64643, [1603, 1609]), (64644, [1603, 1610]), (64645, [1604, 1605]),
  (64646, [1604, 1609]), (64647, [1604, 1610]), (64648, [1605, 1575]), (64649, [1605, 1605]),
  (64650, [1606, 1585]), (64651, [1606, 1586]), (64652, [1606, 1605]), (64653, [1606, 1606]),
  (64654, [1606, 1609]), (64655, [1606, 1610]), (64656, [1609, 1648]), (64657, [1610, 1585]),
  (64658, [1610, 1586]), (64659, [1610, 1605]), (64660, [1610, 1606]), (64661, [1610, 1609]),
  (64662, [1610, 1610]), (64663, [1574, 1580]), (64664, [1574, 1581]), (64665, [1574, 1582]),
  (64666, [1574, 1605]), (64667, [1574, 1607]), (64668, [1576, 1580]), (64669, [1576, 1581]),
  (64670, [1576, 1582]), (64671, [1576, 1605]), (64672, [1576, 1607]), (64673, [1578, 1580]),
  (64674, [1578, 1581]), (64675, [1578, 1582]), (64676, [1578, 1605]), (64677, [1578, 1607]),
  (64678, [1579, 1605]), (64679, [1580, 1581]), (64680, [1580, 1605]), (64681, [1581, 1580]),
  (64682, [1581, 1605]), (64683, [1582, 1580]), (64684, [1582, 1605]), (64685, [1587, 1580]),
  (64686, [1587, 1581]), (64687, [1587, 1582]), (64688, [1587, 1605]), (64689, [1589, 1581]),
  (64690, [1589, 1582]), (64691, [1589, 1605]), (64692, [1590, 1580]), (64693, [1590, 1581]),
  (64694, [1590, 1582]), (64695, [1590, 1605]), (64696, [1591, 1581]), (64697, [1592, 1605]),
  (64698, [1593, 1580]), (64699, [1593, 1605]), (64700, [1594, 1580]), (64701, [1594, 1605]),
  (64702, [1601, 1580]), (64703, [1601, 1581]), (64704, [1601, 1582]), (64705, [1601, 1605]),
  (64706, [1602, 1581]), (64707, [1602, 1605]), (64708, [1603, 1580]), (64709, [1603, 1581]),
  (64710, [1603, 1582]), (64711, [1603, 1604]), (64712, [1603, 1605]), (64713, [1604, 1580]),
  (64714, [1604, 1581]), (64715, [1604, 1582]), (64716, [1604, 1605]), (64717, [1604, 1607]),
  (64718, [1605, 1580]), (64719, [1605, 1581]), (64720, [1605, 1582]), (64721, [1605, 1605]),
  (64722, [1606, 1580]), (64723, [1606, 1581]), (64724, [1606, 1582]), (64725, [1606, 1605]),
  (64726, [1606, 1607]), (64727, [1607, 1580]), (64728, [1607, 1605]), (64729, [1607, 1648]),
  (64730, [1610, 1580]), (64731, [1610, 1581]), (64732, [1610, 1582]), (64733, [1610, 1605]),
  (64734, [1610, 1607]), (64735, [1574, 1605]), (64736, [1574, 1607]), (64737, [1576, 1605]),
  (64738, [1576, 1607]), (64739, [1578, 1605]), (64740, [1578, 1607]), (64741, [1579, 1605]),
  (64742, [1579, 1607]), (64743, [1587, 1605]), (64744, [1587, 1607]), (64745, [1588, 1605]),
  (64746, [1588, 1607]), (64747, [1603, 1604]), (64748, [1603, 1605]), (64749, [1604, 1605]),
  (64750, [1606, 1605]), (64751, [1606, 1607]), (64752, [1610, 1605]), (64753, [1610, 1607]),
  (64754, [1600, 1614, 1617]), (64755, [1600, 1615, 1617]), (64756, [1600, 1616, 1617]),
  (64757, [1591, 1609]), (64758, [1591, 1610]), (64759, [1593, 1609]), (64760, [1593, 1610]),
  (64761, [1594, 1609]), (64762, [1594, 1610]), (64763, [1587, 1609]), (64764, [1587, 1610]),
  (64765, [1588, 1609]), (64766, [1588, 1610]), (64767, [1581, 1609]), (64768, [1581, 1610]),
  (64769, [1580, 1609]), (64770, [1580, 1610]), (64771, [1582, 1609]), (64772, [1582, 1610]),
  (64773, [1589, 1609]), (64774, [1589, 1610]), (64775, [1590, 1609]), (64776, [1590, 1610]),
  (64777, [1588, 1580]), (64778, [1588, 1581]), (64779, [1588, 1582]), (64780, [1588, 1605]),
  (64781, [1588, 1585]), (64782, [1587, 1585]), (64783, [1589, 1585]), (64784, [1590, 1585]),
  (64785, [1591, 1609]), (64786, [1591, 1610]), (64787, [1593, 1609]), (64788, [1593, 1610]),
  (64789, [1594, 1609]), (64790, [1594, 1610]), (64791, [1587, 1609]), (64792, [1587, 1610]),
  (64793, [1588, 1609]), (64794, [1588, 1610]), (64795, [1581, 1609]), (64796, [1581, 1610]),
  (64797, [1580, 1609]), (64798, [1580, 1610]), (64799, [1582, 1609]), (64800, [1582, 1610]),
  (64801, [1589, 1609]), (64802, [1589, 1610]), (64803, [1590, 1609]), (64804, [1590, 1610]),
  (64805, [1588, 1580]), (64806, [1588, 1581]), (64807, [1588, 1582]), (64808, [1588, 1605]),
  (64809, [1588, 1585]), (64810, [1587, 1585]), (64811, [1589, 1585]), (64812, [1590, 1585]),
  (64813, [1588, 1580]), (64814, [1588, 1581]), (64815, [1588, 1582]), (64816, [1588, 1605]),
  (64817, [1587, 1607]), (64818, [1588, 1607]), (64819, [1591, 1605]), (64820, [1587, 1580]),
  (64821, [1587, 1581]), (64822, [1587, 1582]), (64823, [1588, 1580]), (64824, [1588, 1581]),
  (64825, [1588, 1582]), (64826, [1591, 1605]), (64827, [1592, 1605]), (64828, [1575, 1611]),
  (64829, [1575, 1611]), (64848, [1578, 1580, 1605]), (64849, [1578, 1581, 1580]),
  (64850, [1578, 1581, 1580]), (64851, [1578, 1581, 1605]), (64852, [1578, 1582, 1605]),
  (64853, [1578, 1605, 1580]), (64854, [1578, 1605, 1581]), (64855, [1578, 1605, 1582]),
  (64856, [1580, 1605, 1581]), (64857, [1580, 1605, 1581]), (64858, [1581, 1605, 1610]),
  (64859, [1581, 1605, 1609]), (64860, [1587, 1581, 1580]), (64861, [1587, 1580, 1581]),
  (64862, [1587, 1580, 1609]), (64863, [1587, 1605, 1581]), (64864, [1587, 1605, 1581]),
  (64865, [1587, 1605, 1580]), (64866, [1587, 1605, 1605]), (64867, [1587, 1605, 1605]),
  (64868, [1589, 1581, 1581]), (64869, [1589, 1581, 1581]), (64870, [1589, 1605, 1605]),
  (64871, [1588, 1581, 1605]), (64872, [1588, 1581, 1605]), (64873, [1588, 1580, 1610]),
  (64874, [1588, 1605, 1582]), (64875, [1588, 1605, 1582]), (64876, [1588, 1605, 1605]),
  (64877, [1588, 1605, 1605]), (64878, [1590, 1581, 1609]), (64879, [1590, 1582, 1605]),
  (64880, [1590, 1582, 1605]), (64881, [1591, 1605, 1581]), (64882, [1591, 1605, 1581]),
  (64883, [1591, 1605, 1605]), (64884, [1591, 1605, 1610]), (64885, [1593, 1580, 1605]),
  (64886, [1593, 1605, 1605]), (64887, [1593, 1605, 1605]), (64888, [1593, 1605, 1609]),
  (64889, [1594, 1605, 1605]), (64890, [1594, 1605, 1610]), (64891, [1594, 1605, 1609]),
  (64892, [1601, 1582, 1605]), (64893, [1601, 1582, 1605]), (64894, [1602, 1605, 1581]),
  (64895, [1602, 1605, 1605]), (64896, [1604, 1581, 1605]), (64897, [1604, 1581, 1610]),
  (64898, [1604, 1581, 1609]), (64899, [1604, 1580, 1580]), (64900, [1604, 1580, 1580]),
  (64901, [1604, 1582, 1605]), (64902, [1604, 1582, 1605]), (64903, [1604, 1605, 1581]),
  (64904, [1604, 1605, 1581]), (64905, [1605, 1581, 1580]), (64906, [1605, 1581, 1605]),
  (64907, [1605, 1581, 1610]), (64908, [1605, 1580, 1581]), (64909, [1605, 1580, 1605]),
  (64910, [1605, 1582, 1580]), (64911, [1605, 1582, 1605]), (64914, [1605, 1580, 1582]),
  (64915, [1607, 1605, 1580]), (64916, [1607, 1605, 1605]), (64917, [1606, 1581, 1605]),
  (64918, [1606, 1581, 1609]), (64919, [1606, 1580, 1605]), (64920, [1606, 1580, 1605]),
  (64921, [1606, 1580, 1609]), (64922, [1606, 1605, 1610]), (64923, [1606, 1605, 1609]),
  (64924, [1610, 1605, 1605]), (64925, [1610, 1605, 1605]), (64926, [1576, 1582, 1610]),
  (64927, [1578, 1580, 1610]), (64928, [1578, 1580, 1609]), (64929, [1578, 1582, 1610]),
  (64930, [1578, 1582, 1609]), (64931, [1578, 1605, 1610]), (64932, [1578, 1605, 1609]),
  (64933, [1580, 1605, 1610]), (64934, [1580, 1581, 1609]), (64935, [1580, 1605, 1609]),
  (64936, [1587, 1582, 1609]), (64937, [1589, 1581, 1610]), (64938, [1588, 1581, 1610]),
  (64939, [1590, 1581, 1610]), (64940, [1604, 1580, 1610]), (64941, [1604, 1605, 1610]),
  (64942, [1610, 1581, 1610]), (64943, [1610, 1580, 1610]), (64944, [1610, 1605, 1610]),
  (64945, [1605, 1605, 1610]), (64946, [1602, 1605, 1610]), (64947, [1606, 1581, 1610]),
  (64948, [1602, 1605, 1581]), (64949, [1604, 1581, 1605]), (64950, [1593, 1605, 1610]),
  (64951, [1603, 1605, 1610]), (64952, [1606, 1580, 1581]), (64953, [1605, 1582, 1610]),
  (64954, [1604, 1580, 1605]), (64955, [1603, 1605, 1605]), (64956, [1604, 1580, 1605]),
  (64957, [1606, 1580, 1581]), (64958, [1580, 1581, 1610]), (64959, [1581, 1580, 1610]),
  (64960, [1605, 1580, 1610]), (64961, [1601, 1605, 1610]), (64962, [1576, 1581, 1610]),
  (64963, [1603, 1605, 1605]), (64964, [1593, 1580, 1605]), (64965, [1589, 1605, 1605]),
  (64966, [1587, 1582, 1610]), (64967, [1606, 1580, 1610]), (65008, [1589, 1604, 1746]),
  (65009, [1602, 1604, 1746]), (65010, [1575, 1604, 1604, 1607]),
  (65011, [1575, 1603, 1576, 1585]), (65012, [1605, 1581, 1605, 1583]),
  (65013, [1589, 1604, 1593, 1605]), (65014, [1585, 1587, 1608, 1604]),
  (65015, [1593, 1604, 1610, 1607]), (65016, [1608, 1587, 1604, 1605]),
  (65017, [1589, 1604, 1609]), (65137, [1600, 1611]), (65143, [1600, 1614]),
  (65145, [1600, 1615]), (65147, [1600, 1616]), (65149, [1600, 1617]), (65151, [1600, 1618]),
  (65269, [1604, 1570]), (65270, [1604, 1570]), (65271, [1604, 1571]), (65272, [1604, 1571]),
  (65273, [1604, 1573]), (65274, [1604, 1573]), (65275, [1604, 1575]), (65276, [1604, 1575])]

/-- Runs of characters with a combining class other than zero: first, last, class. -/
def combiningClasses : List (Nat × Nat × Nat) := [
  (768, 788, 230), (789, 789, 232), (790, 793, 220), (794, 794, 232), (795, 795, 216),
  (796, 800, 220), (801, 802, 202), (803, 806, 220), (807, 808, 202), (809, 819, 220),
  (820, 824, 1), (825, 828, 220), (829, 836, 230), (837, 837, 240), (838, 838, 230),
  (839, 841, 220), (842, 844, 230), (845, 846, 220), (848, 850, 230), (851, 854, 220),
  (855, 855, 230), (856, 856, 232), (857, 858, 220), (859, 859, 230), (860, 860, 233),
  (861, 862, 234), (863, 863, 233), (864, 865, 234), (866, 866, 233), (867, 879, 230),
  (1155, 1159, 230), (1425, 1425, 220), (1426, 1429, 230), (1430, 1430, 220), (1431, 1433, 230),
  (1434, 1434, 222), (1435, 1435, 220), (1436, 1441, 230), (1442, 1447, 220), (1448, 1449, 230),
  (1450, 1450, 220), (1451, 1452, 230), (1453, 1453, 222), (1454, 1454, 228), (1455, 1455, 230),
  (1456, 1456, 10), (1457, 1457, 11), (1458, 1458, 12), (1459, 1459, 13), (1460, 1460, 14),
  (1461, 1461, 15), (1462, 1462, 16), (1463, 1463, 17), (1464, 1464, 18), (1465, 1466, 19),
  (1467, 1467, 20), (1468, 1468, 21), (1469, 1469, 22), (1471, 1471, 23), (1473, 1473, 24),
  (1474, 1474, 25), (1476, 1476, 230), (1477, 1477, 220), (1479, 1479, 18), (1552, 1559, 230),
  (1560, 1560, 30), (1561, 1561, 31), (1562, 1562, 32), (1611, 1611, 27), (1612, 1612, 28),
  (1613, 1613, 29), (1614, 1614, 30), (1615, 1615, 31), (1616, 1616, 32), (1617, 1617, 33),
  (1618, 1618, 34), (1619, 1620, 230), (1621, 1622, 220), (1623, 1627, 230), (1628, 1628, 220),
  (1629, 1630, 230), (1631, 1631, 220), (1648, 1648, 35), (1750, 1756, 230), (1759, 1762, 230),
  (1763, 1763, 220), (1764, 1764, 230), (1767, 1768, 230), (1770, 1770, 220), (1771, 1772, 230),
  (1773, 1773, 220), (1809, 1809, 36), (1840, 1840, 230), (1841, 1841, 220), (1842, 1843, 230),
  (1844, 1844, 220), (1845, 1846, 230), (1847, 1849, 220), (1850, 1850, 230), (1851, 1852, 220),
  (1853, 1853, 230), (1854, 1854, 220), (1855, 1857, 230), (1858, 1858, 220), (1859, 1859, 230),
  (1860, 1860, 220), (1861, 1861, 230), (1862, 1862, 220), (1863, 1863, 230), (1864, 1864, 220),
  (1865, 1866, 230), (2027, 2033, 230), (2034, 2034, 220), (2035, 2035, 230), (2045, 2045, 220),
  (2070, 2073, 230), (2075, 2083, 230), (2085, 2087, 230), (2089, 2093, 230), (2137, 2139, 220),
  (2200, 2200, 230), (2201, 2203, 220), (2204, 2207, 230), (2250, 2254, 230), (2255, 2259, 220),
  (2260, 2273, 230), (2275, 2275, 220), (2276, 2277, 230), (2278, 2278, 220), (2279, 2280, 230),
  (2281, 2281, 220), (2282, 2284, 230), (2285, 2287, 220), (2288, 2288, 27), (2289, 2289, 28),
  (2290, 2290, 29), (2291, 2293, 230), (2294, 2294, 220), (2295, 2296, 230), (2297, 2298, 220),
  (2299, 2303, 230), (2364, 2364, 7), (2381, 2381, 9), (2385, 2385, 230), (2386, 2386, 220),
  (2387, 2388, 230), (2492, 2492, 7), (2509, 2509, 9), (2558, 2558, 230), (2620, 2620, 7),
  (2637, 2637, 9), (2748, 2748, 7), (2765, 2765, 9), (2876, 2876, 7), (2893, 2893, 9),
  (3021, 3021, 9), (3132, 3132, 7), (3149, 3149, 9), (3157, 3157, 84), (3158, 3158, 91),
  (3260, 3260, 7), (3277, 3277, 9), (3387, 3388, 9), (3405, 3405, 9), (3530, 3530, 9),
  (3640, 3641, 103), (3642, 3642, 9), (3656, 3659, 107), (3768, 3769, 118), (3770, 3770, 9),
  (3784, 3787, 122), (3864, 3865, 220), (3893, 3893, 220), (3895, 3895, 220), (3897, 3897, 216),
  (3953, 3953, 129), (3954, 3954, 130), (3956, 3956, 132), (3962, 3965, 130), (3968, 3968, 130),
  (3970, 3971, 230), (3972, 3972, 9), (3974, 3975, 230), (4038, 4038, 220), (4151, 4151, 7),
  (4153, 4154, 9), (4237, 4237, 220), (4957, 4959, 230), (5908, 5909, 9), (5940, 5940, 9),
  (6098, 6098, 9), (6109, 6109, 230), (6313, 6313, 228), (6457, 6457, 222), (6458, 6458, 230),
  (6459, 6459, 220), (6679, 6679, 230), (6680, 6680, 220), (6752, 6752, 9), (6773, 6780, 230),
  (6783, 6783, 220), (6832, 6836, 230), (6837, 6842, 220), (6843, 6844, 230), (6845, 6845, 220),
  (6847, 6848, 220), (6849, 6850, 230), (6851, 6852, 220), (6853, 6857, 230), (6858, 6858, 220),
  (6859, 6862, 230), (6964, 6964, 7), (6980, 6980, 9), (7019, 7019, 230), (7020, 7020, 220),
  (7021, 7027, 230), (7082, 7083, 9), (7142, 7142, 7), (7154, 7155, 9), (7223, 7223, 7),
  (7376, 7378, 230), (7380, 7380, 1), (7381, 7385, 220), (7386, 7387, 230), (7388, 7391, 220),
  (7392, 7392, 230), (7394, 7400, 1), (7405, 7405, 220), (7412, 7412, 230), (7416, 7417, 230),
  (7616, 7617, 230), (7618, 7618, 220), (7619, 7625, 230), (7626, 7626, 220), (7627, 7628, 230),
  (7629, 7629, 234), (7630, 7630, 214), (7631, 7631, 220), (7632, 7632, 202), (7633, 7669, 230),
  (7670, 7670, 232), (7671, 7672, 228), (7673, 7673, 220), (7674, 7674, 218), (7675, 7675, 230),
  (7676, 7676, 233), (7677, 7677, 220), (7678, 7678, 230), (7679, 7679, 220), (8400, 8401, 230),
  (8402, 8403, 1), (8404, 8407, 230), (8408, 8410, 1), (8411, 8412, 230), (8417, 8417, 230),
  (8421, 8422, 1), (8423, 8423, 230), (8424, 8424, 220), (8425, 8425, 230), (8426, 8427, 1),
  (8428, 8431, 220), (8432, 8432, 230), (11503, 11505, 230), (11647, 11647, 9),
  (11744, 11775, 230), (12330, 12330, 218), (12331, 12331, 228), (12332, 12332, 232),
  (12333, 12333, 222), (12334, 12335, 224), (12441, 12442, 8), (42607, 42607, 230),
  (42612, 42621, 230), (42654, 42655, 230), (42736, 42737, 230), (43014, 43014, 9),
  (43052, 43052, 9), (43204, 43204, 9), (43232, 43249, 230), (43307, 43309, 220),
  (43347, 43347, 9), (43443, 43443, 7), (43456, 43456, 9), (43696, 43696, 230),
  (43698, 43699, 230), (43700, 43700, 220), (43703, 43704, 230), (43710, 43711, 230),
  (43713, 43713, 230), (43766, 43766, 9), (44013, 44013, 9), (64286, 64286, 26),
  (65056, 65062, 230), (65063, 65069, 220), (65070, 65071, 230), (66045, 66045, 220),
  (66272, 66272, 220), (66422, 66426, 230), (68109, 68109, 220), (68111, 68111, 230),
  (68152, 68152, 230), (68153, 68153, 1), (68154, 68154, 220), (68159, 68159, 9),
  (68325, 68325, 230), (68326, 68326, 220), (68900, 68903, 230), (69291, 69292, 230),
  (69446, 69447, 220), (69448, 69450, 230), (69451, 69451, 220), (69452, 69452, 230),
  (69453, 69456, 220), (69506, 69506, 230), (69507, 69507, 220), (69508, 69508, 230),
  (69509, 69509, 220), (69702, 69702, 9), (69744, 69744, 9), (69759, 69759, 9),
  (69817, 69817, 9), (69818, 69818, 7), (69888, 69890, 230), (69939, 69940, 9),
  (70003, 70003, 7), (70080, 70080, 9), (70090, 70090, 7), (70197, 70197, 9), (70198, 70198, 7),
  (70377, 70377, 7), (70378, 70378, 9), (70459, 70460, 7), (70477, 70477, 9),
  (70502, 70508, 230), (70512, 70516, 230), (70722, 70722, 9), (70726, 70726, 7),
  (70750, 70750, 230), (70850, 70850, 9), (70851, 70851, 7), (71103, 71103, 9),
  (71104, 71104, 7), (71231, 71231, 9), (71350, 71350, 9), (71351, 71351, 7), (71467, 71467, 9),
  (71737, 71737, 9), (71738, 71738, 7), (71997, 71998, 9), (72003, 72003, 7), (72160, 72160, 9),
  (72244, 72244, 9), (72263, 72263, 9), (72345, 72345, 9), (72767, 72767, 9), (73026, 73026, 7),
  (73028, 73029, 9), (73111, 73111, 9), (92912, 92916, 1), (92976, 92982, 230),
  (94192, 94193, 6), (113822, 113822, 1), (119141, 119142, 216), (119143, 119145, 1),
  (119149, 119149, 226), (119150, 119154, 216), (119163, 119170, 220), (119173, 119177, 230),
  (119178, 119179, 220), (119210, 119213, 230), (119362, 119364, 230), (122880, 122886, 230),
  (122888, 122904, 230), (122907, 122913, 230), (122915, 122916, 230), (122918, 122922, 230),
  (123184, 123190, 230), (123566, 123566, 230), (123628, 123631, 230), (125136, 125142, 220),
  (125252, 125257, 230), (125258, 125258, 7)]

/-- Composing pairs that begin below U+0250: first, second, composite. -/
def latinPairs : List (Nat × Nat × Nat) := [
  (60, 824, 8814), (61, 824, 8800), (62, 824, 8815), (65, 768, 192), (65, 769, 193),
  (65, 770, 194), (65, 771, 195), (65, 772, 256), (65, 774, 258), (65, 775, 550), (65, 776, 196),
  (65, 777, 7842), (65, 778, 197), (65, 780, 461), (65, 783, 512), (65, 785, 514),
  (65, 803, 7840), (65, 805, 7680), (65, 808, 260), (66, 775, 7682), (66, 803, 7684),
  (66, 817, 7686), (67, 769, 262), (67, 770, 264), (67, 775, 266), (67, 780, 268),
  (67, 807, 199), (68, 775, 7690), (68, 780, 270), (68, 803, 7692), (68, 807, 7696),
  (68, 813, 7698), (68, 817, 7694), (69, 768, 200), (69, 769, 201), (69, 770, 202),
  (69, 771, 7868), (69, 772, 274), (69, 774, 276), (69, 775, 278), (69, 776, 203),
  (69, 777, 7866), (69, 780, 282), (69, 783, 516), (69, 785, 518), (69, 803, 7864),
  (69, 807, 552), (69, 808, 280), (69, 813, 7704), (69, 816, 7706), (70, 775, 7710),
  (71, 769, 500), (71, 770, 284), (71, 772, 7712), (71, 774, 286), (71, 775, 288),
  (71, 780, 486), (71, 807, 290), (72, 770, 292), (72, 775, 7714), (72, 776, 7718),
  (72, 780, 542), (72, 803, 7716), (72, 807, 7720), (72, 814, 7722), (73, 768, 204),
  (73, 769, 205), (73, 770, 206), (73, 771, 296), (73, 772, 298), (73, 774, 300), (73, 775, 304),
  (73, 776, 207), (73, 777, 7880), (73, 780, 463), (73, 783, 520), (73, 785, 522),
  (73, 803, 7882), (73, 808, 302), (73, 816, 7724), (74, 770, 308), (75, 769, 7728),
  (75, 780, 488), (75, 803, 7730), (75, 807, 310), (75, 817, 7732), (76, 769, 313),
  (76, 780, 317), (76, 803, 7734), (76, 807, 315), (76, 813, 7740), (76, 817, 7738),
  (77, 769, 7742), (77, 775, 7744), (77, 803, 7746), (78, 768, 504), (78, 769, 323),
  (78, 771, 209), (78, 775, 7748), (78, 780, 327), (78, 803, 7750), (78, 807, 325),
  (78, 813, 7754), (78, 817, 7752), (79, 768, 210), (79, 769, 211), (79, 770, 212),
  (79, 771, 213), (79, 772, 332), (79, 774, 334), (79, 775, 558), (79, 776, 214),
  (79, 777, 7886), (79, 779, 336), (79, 780, 465), (79, 783, 524), (79, 785, 526),
  (79, 795, 416), (79, 803, 7884), (79, 808, 490), (80, 769, 7764), (80, 775, 7766),
  (82, 769, 340), (82, 775, 7768), (82, 780, 344), (82, 783, 528), (82, 785, 530),
  (82, 803, 7770), (82, 807, 342), (82, 817, 7774), (83, 769, 346), (83, 770, 348),
  (83, 775, 7776), (83, 780, 352), (83, 803, 7778), (83, 806, 536), (83, 807, 350),
  (84, 775, 7786), (84, 780, 356), (84, 803, 7788), (84, 806, 538), (84, 807, 354),
  (84, 813, 7792), (84, 817, 7790), (85, 768, 217), (85, 769, 218), (85, 770, 219),
  (85, 771, 360), (85, 772, 362), (85, 774, 364), (85, 776, 220), (85, 777, 7910),
  (85, 778, 366), (85, 779, 368), (85, 780, 467), (85, 783, 532), (85, 785, 534), (85, 795, 431),
  (85, 803, 7908), (85, 804, 7794), (85, 808, 370), (85, 813, 7798), (85, 816, 7796),
  (86, 771, 7804), (86, 803, 7806), (87, 768, 7808), (87, 769, 7810), (87, 770, 372),
  (87, 775, 7814), (87, 776, 7812), (87, 803, 7816), (88, 775, 7818), (88, 776, 7820),
  (89, 768, 7922), (89, 769, 221), (89, 770, 374), (89, 771, 7928), (89, 772, 562),
  (89, 775, 7822), (89, 776, 376), (89, 777, 7926), (89, 803, 7924), (90, 769, 377),
  (90, 770, 7824), (90, 775, 379), (90, 780, 381), (90, 803, 7826), (90, 817, 7828),
  (97, 768, 224), (97, 769, 225), (97, 770, 226), (97, 771, 227), (97, 772, 257), (97, 774, 259),
  (97, 775, 551), (97, 776, 228), (97, 777, 7843), (97, 778, 229), (97, 780, 462),
  (97, 783, 513), (97, 785, 515), (97, 803, 7841), (97, 805, 7681), (97, 808, 261),
  (98, 775, 7683), (98, 803, 7685), (98, 817, 7687), (99, 769, 263), (99, 770, 265),
  (99, 775, 267), (99, 780, 269), (99, 807, 231), (100, 775, 7691), (100, 780, 271),
  (100, 803, 7693), (100, 807, 7697), (100, 813, 7699), (100, 817, 7695), (101, 768, 232),
  (101, 769, 233), (101, 770, 234), (101, 771, 7869), (101, 772, 275), (101, 774, 277),
  (101, 775, 279), (101, 776, 235), (101, 777, 7867), (101, 780, 283), (101, 783, 517),
  (101, 785, 519), (101, 803, 7865), (101, 807, 553), (101, 808, 281), (101, 813, 7705),
  (101, 816, 7707), (102, 775, 7711), (103, 769, 501), (103, 770, 285), (103, 772, 7713),
  (103, 774, 287), (103, 775, 289), (103, 780, 487), (103, 807, 291), (104, 770, 293),
  (104, 775, 7715), (104, 776, 7719), (104, 780, 543), (104, 803, 7717), (104, 807, 7721),
  (104, 814, 7723), (104, 817, 7830), (105, 768, 236), (105, 769, 237), (105, 770, 238),
  (105, 771, 297), (105, 772, 299), (105, 774, 301), (105, 776, 239), (105, 777, 7881),
  (105, 780, 464), (105, 783, 521), (105, 785, 523), (105, 803, 7883), (105, 808, 303),
  (105, 816, 7725), (106, 770, 309), (106, 780, 496), (107, 769, 7729), (107, 780, 489),
  (107, 803, 7731), (107, 807, 311), (107, 817, 7733), (108, 769, 314), (108, 780, 318),
  (108, 803, 7735), (108, 807, 316), (108, 813, 7741), (108, 817, 7739), (109, 769, 7743),
  (109, 775, 7745), (109, 803, 7747), (110, 768, 505), (110, 769, 324), (110, 771, 241),
  (110, 775, 7749), (110, 780, 328), (110, 803, 7751), (110, 807, 326), (110, 813, 7755),
  (110, 817, 7753), (111, 768, 242), (111, 769, 243), (111, 770, 244), (111, 771, 245),
  (111, 772, 333), (111, 774, 335), (111, 775, 559), (111, 776, 246), (111, 777, 7887),
  (111, 779, 337), (111, 780, 466), (111, 783, 525), (111, 785, 527), (111, 795, 417),
  (111, 803, 7885), (111, 808, 491), (112, 769, 7765), (112, 775, 7767), (114, 769, 341),
  (114, 775, 7769), (114, 780, 345), (114, 783, 529), (114, 785, 531), (114, 803, 7771),
  (114, 807, 343), (114, 817, 7775), (115, 769, 347), (115, 770, 349), (115, 775, 7777),
  (115, 780, 353), (115, 803, 7779), (115, 806, 537), (115, 807, 351), (116, 775, 7787),
  (116, 776, 7831), (116, 780, 357), (116, 803, 7789), (116, 806, 539), (116, 807, 355),
  (116, 813, 7793), (116, 817, 7791), (117, 768, 249), (117, 769, 250), (117, 770, 251),
  (117, 771, 361), (117, 772, 363), (117, 774, 365), (117, 776, 252), (117, 777, 7911),
  (117, 778, 367), (117, 779, 369), (117, 780, 468), (117, 783, 533), (117, 785, 535),
  (117, 795, 432), (117, 803, 7909), (117, 804, 7795), (117, 808, 371), (117, 813, 7799),
  (117, 816, 7797), (118, 771, 7805), (118, 803, 7807), (119, 768, 7809), (119, 769, 7811),
  (119, 770, 373), (119, 775, 7815), (119, 776, 7813), (119, 778, 7832), (119, 803, 7817),
  (120, 775, 7819), (120, 776, 7821), (121, 768, 7923), (121, 769, 253), (121, 770, 375),
  (121, 771, 7929), (121, 772, 563), (121, 775, 7823), (121, 776, 255), (121, 777, 7927),
  (121, 778, 7833), (121, 803, 7925), (122, 769, 378), (122, 770, 7825), (122, 775, 380),
  (122, 780, 382), (122, 803, 7827), (122, 817, 7829), (168, 768, 8173), (168, 769, 901),
  (168, 834, 8129), (194, 768, 7846), (194, 769, 7844), (194, 771, 7850), (194, 777, 7848),
  (196, 772, 478), (197, 769, 506), (198, 769, 508), (198, 772, 482), (199, 769, 7688),
  (202, 768, 7872), (202, 769, 7870), (202, 771, 7876), (202, 777, 7874), (207, 769, 7726),
  (212, 768, 7890), (212, 769, 7888), (212, 771, 7894), (212, 777, 7892), (213, 769, 7756),
  (213, 772, 556), (213, 776, 7758), (214, 772, 554), (216, 769, 510), (220, 768, 475),
  (220, 769, 471), (220, 772, 469), (220, 780, 473), (226, 768, 7847), (226, 769, 7845),
  (226, 771, 7851), (226, 777, 7849), (228, 772, 479), (229, 769, 507), (230, 769, 509),
  (230, 772, 483), (231, 769, 7689), (234, 768, 7873), (234, 769, 7871), (234, 771, 7877),
  (234, 777, 7875), (239, 769, 7727), (244, 768, 7891), (244, 769, 7889), (244, 771, 7895),
  (244, 777, 7893), (245, 769, 7757), (245, 772, 557), (245, 776, 7759), (246, 772, 555),
  (248, 769, 511), (252, 768, 476), (252, 769, 472), (252, 772, 470), (252, 780, 474),
  (258, 768, 7856), (258, 769, 7854), (258, 771, 7860), (258, 777, 7858), (259, 768, 7857),
  (259, 769, 7855), (259, 771, 7861), (259, 777, 7859), (274, 768, 7700), (274, 769, 7702),
  (275, 768, 7701), (275, 769, 7703), (332, 768, 7760), (332, 769, 7762), (333, 768, 7761),
  (333, 769, 7763), (346, 775, 7780), (347, 775, 7781), (352, 775, 7782), (353, 775, 7783),
  (360, 769, 7800), (361, 769, 7801), (362, 776, 7802), (363, 776, 7803), (383, 775, 7835),
  (416, 768, 7900), (416, 769, 7898), (416, 771, 7904), (416, 777, 7902), (416, 803, 7906),
  (417, 768, 7901), (417, 769, 7899), (417, 771, 7905), (417, 777, 7903), (417, 803, 7907),
  (431, 768, 7914), (431, 769, 7912), (431, 771, 7918), (431, 777, 7916), (431, 803, 7920),
  (432, 768, 7915), (432, 769, 7913), (432, 771, 7919), (432, 777, 7917), (432, 803, 7921),
  (439, 780, 494), (490, 772, 492), (491, 772, 493), (550, 772, 480), (551, 772, 481),
  (552, 774, 7708), (553, 774, 7709), (558, 772, 560), (559, 772, 561)]

def otherPairs : List (Nat × Nat × Nat) := [
  (658, 780, 495), (913, 768, 8122), (913, 769, 902), (913, 772, 8121), (913, 774, 8120),
  (913, 787, 7944), (913, 788, 7945), (913, 837, 8124), (917, 768, 8136), (917, 769, 904),
  (917, 787, 7960), (917, 788, 7961), (919, 768, 8138), (919, 769, 905), (919, 787, 7976),
  (919, 788, 7977), (919, 837, 8140), (921, 768, 8154), (921, 769, 906), (921, 772, 8153),
  (921, 774, 8152), (921, 776, 938), (921, 787, 7992), (921, 788, 7993), (927, 768, 8184),
  (927, 769, 908), (927, 787, 8008), (927, 788, 8009), (929, 788, 8172), (933, 768, 8170),
  (933, 769, 910), (933, 772, 8169), (933, 774, 8168), (933, 776, 939), (933, 788, 8025),
  (937, 768, 8186), (937, 769, 911), (937, 787, 8040), (937, 788, 8041), (937, 837, 8188),
  (940, 837, 8116), (942, 837, 8132), (945, 768, 8048), (945, 769, 940), (945, 772, 8113),
  (945, 774, 8112), (945, 787, 7936), (945, 788, 7937), (945, 834, 8118), (945, 837, 8115),
  (949, 768, 8050), (949, 769, 941), (949, 787, 7952), (949, 788, 7953), (951, 768, 8052),
  (951, 769, 942), (951, 787, 7968), (951, 788, 7969), (951, 834, 8134), (951, 837, 8131),
  (953, 768, 8054), (953, 769, 943), (953, 772, 8145), (953, 774, 8144), (953, 776, 970),
  (953, 787, 7984), (953, 788, 7985), (953, 834, 8150), (959, 768, 8056), (959, 769, 972),
  (959, 787, 8000), (959, 788, 8001), (961, 787, 8164), (961, 788, 8165), (965, 768, 8058),
  (965, 769, 973), (965, 772, 8161), (965, 774, 8160), (965, 776, 971), (965, 787, 8016),
  (965, 788, 8017), (965, 834, 8166), (969, 768, 8060), (969, 769, 974), (969, 787, 8032),
  (969, 788, 8033), (969, 834, 8182), (969, 837, 8179), (970, 768, 8146), (970, 769, 912),
  (970, 834, 8151), (971, 768, 8162), (971, 769, 944), (971, 834, 8167), (974, 837, 8180),
  (978, 769, 979), (978, 776, 980), (1030, 776, 1031), (1040, 774, 1232), (1040, 776, 1234),
  (1043, 769, 1027), (1045, 768, 1024), (1045, 774, 1238), (1045, 776, 1025), (1046, 774, 1217),
  (1046, 776, 1244), (1047, 776, 1246), (1048, 768, 1037), (1048, 772, 1250), (1048, 774, 1049),
  (1048, 776, 1252), (1050, 769, 1036), (1054, 776, 1254), (1059, 772, 1262), (1059, 774, 1038),
  (1059, 776, 1264), (1059, 779, 1266), (1063, 776, 1268), (1067, 776, 1272), (1069, 776, 1260),
  (1072, 774, 1233), (1072, 776, 1235), (1075, 769, 1107), (1077, 768, 1104), (1077, 774, 1239),
  (1077, 776, 1105), (1078, 774, 1218), (1078, 776, 1245), (1079, 776, 1247), (1080, 768, 1117),
  (1080, 772, 1251), (1080, 774, 1081), (1080, 776, 1253), (1082, 769, 1116), (1086, 776, 1255),
  (1091, 772, 1263), (1091, 774, 1118), (1091, 776, 1265), (1091, 779, 1267), (1095, 776, 1269),
  (1099, 776, 1273), (1101, 776, 1261), (1110, 776, 1111), (1140, 783, 1142), (1141, 783, 1143),
  (1240, 776, 1242), (1241, 776, 1243), (1256, 776, 1258), (1257, 776, 1259), (1575, 1619, 1570),
  (1575, 1620, 1571), (1575, 1621, 1573), (1608, 1620, 1572), (1610, 1620, 1574),
  (1729, 1620, 1730), (1746, 1620, 1747), (1749, 1620, 1728), (2344, 2364, 2345),
  (2352, 2364, 2353), (2355, 2364, 2356), (2503, 2494, 2507), (2503, 2519, 2508),
  (2887, 2878, 2891), (2887, 2902, 2888), (2887, 2903, 2892), (2962, 3031, 2964),
  (3014, 3006, 3018), (3014, 3031, 3020), (3015, 3006, 3019), (3142, 3158, 3144),
  (3263, 3285, 3264), (3270, 3266, 3274), (3270, 3285, 3271), (3270, 3286, 3272),
  (3274, 3285, 3275), (3398, 3390, 3402), (3398, 3415, 3404), (3399, 3390, 3403),
  (3545, 3530, 3546), (3545, 3535, 3548), (3545, 3551, 3550), (3548, 3530, 3549),
  (4133, 4142, 4134), (6917, 6965, 6918), (6919, 6965, 6920), (6921, 6965, 6922),
  (6923, 6965, 6924), (6925, 6965, 6926), (6929, 6965, 6930), (6970, 6965, 6971),
  (6972, 6965, 6973), (6974, 6965, 6976), (6975, 6965, 6977), (6978, 6965, 6979),
  (7734, 772, 7736), (7735, 772, 7737), (7770, 772, 7772), (7771, 772, 7773), (7778, 775, 7784),
  (7779, 775, 7785), (7840, 770, 7852), (7840, 774, 7862), (7841, 770, 7853), (7841, 774, 7863),
  (7864, 770, 7878), (7865, 770, 7879), (7884, 770, 7896), (7885, 770, 7897), (7936, 768, 7938),
  (7936, 769, 7940), (7936, 834, 7942), (7936, 837, 8064), (7937, 768, 7939), (7937, 769, 7941),
  (7937, 834, 7943), (7937, 837, 8065), (7938, 837, 8066), (7939, 837, 8067), (7940, 837, 8068),
  (7941, 837, 8069), (7942, 837, 8070), (7943, 837, 8071), (7944, 768, 7946), (7944, 769, 7948),
  (7944, 834, 7950), (7944, 837, 8072), (7945, 768, 7947), (7945, 769, 7949), (7945, 834, 7951),
  (7945, 837, 8073), (7946, 837, 8074), (7947, 837, 8075), (7948, 837, 8076), (7949, 837, 8077),
  (7950, 837, 8078), (7951, 837, 8079), (7952, 768, 7954), (7952, 769, 7956), (7953, 768, 7955),
  (7953, 769, 7957), (7960, 768, 7962), (7960, 769, 7964), (7961, 768, 7963), (7961, 769, 7965),
  (7968, 768, 7970), (7968, 769, 7972), (7968, 834, 7974), (7968, 837, 8080), (7969, 768, 7971),
  (7969, 769, 7973), (7969, 834, 7975), (7969, 837, 8081), (7970, 837, 8082), (7971, 837, 8083),
  (7972, 837, 8084), (7973, 837, 8085), (7974, 837, 8086), (7975, 837, 8087), (7976, 768, 7978),
  (7976, 769, 7980), (7976, 834, 7982), (7976, 837, 8088), (7977, 768, 7979), (7977, 769, 7981),
  (7977, 834, 7983), (7977, 837, 8089), (7978, 837, 8090), (7979, 837, 8091), (7980, 837, 8092),
  (7981, 837, 8093), (7982, 837, 8094), (7983, 837, 8095), (7984, 768, 7986), (7984, 769, 7988),
  (7984, 834, 7990), (7985, 768, 7987), (7985, 769, 7989), (7985, 834, 7991), (7992, 768, 7994),
  (7992, 769, 7996), (7992, 834, 7998), (7993, 768, 7995), (7993, 769, 7997), (7993, 834, 7999),
  (8000, 768, 8002), (8000, 769, 8004), (8001, 768, 8003), (8001, 769, 8005), (8008, 768, 8010),
  (8008, 769, 8012), (8009, 768, 8011), (8009, 769, 8013), (8016, 768, 8018), (8016, 769, 8020),
  (8016, 834, 8022), (8017, 768, 8019), (8017, 769, 8021), (8017, 834, 8023), (8025, 768, 8027),
  (8025, 769, 8029), (8025, 834, 8031), (8032, 768, 8034), (8032, 769, 8036), (8032, 834, 8038),
  (8032, 837, 8096), (8033, 768, 8035), (8033, 769, 8037), (8033, 834, 8039), (8033, 837, 8097),
  (8034, 837, 8098), (8035, 837, 8099), (8036, 837, 8100), (8037, 837, 8101), (8038, 837, 8102),
  (8039, 837, 8103), (8040, 768, 8042), (8040, 769, 8044), (8040, 834, 8046), (8040, 837, 8104),
  (8041, 768, 8043), (8041, 769, 8045), (8041, 834, 8047), (8041, 837, 8105), (8042, 837, 8106),
  (8043, 837, 8107), (8044, 837, 8108), (8045, 837, 8109), (8046, 837, 8110), (8047, 837, 8111),
  (8048, 837, 8114), (8052, 837, 8130), (8060, 837, 8178), (8118, 837, 8119), (8127, 768, 8141),
  (8127, 769, 8142), (8127, 834, 8143), (8134, 837, 8135), (8182, 837, 8183), (8190, 768, 8157),
  (8190, 769, 8158), (8190, 834, 8159), (8592, 824, 8602), (8594, 824, 8603), (8596, 824, 8622),
  (8656, 824, 8653), (8658, 824, 8655), (8660, 824, 8654), (8707, 824, 8708), (8712, 824, 8713),
  (8715, 824, 8716), (8739, 824, 8740), (8741, 824, 8742), (8764, 824, 8769), (8771, 824, 8772),
  (8773, 824, 8775), (8776, 824, 8777), (8781, 824, 8813), (8801, 824, 8802), (8804, 824, 8816),
  (8805, 824, 8817), (8818, 824, 8820), (8819, 824, 8821), (8822, 824, 8824), (8823, 824, 8825),
  (8826, 824, 8832), (8827, 824, 8833), (8828, 824, 8928), (8829, 824, 8929), (8834, 824, 8836),
  (8835, 824, 8837), (8838, 824, 8840), (8839, 824, 8841), (8849, 824, 8930), (8850, 824, 8931),
  (8866, 824, 8876), (8872, 824, 8877), (8873, 824, 8878), (8875, 824, 8879), (8882, 824, 8938),
  (8883, 824, 8939), (8884, 824, 8940), (8885, 824, 8941), (12358, 12441, 12436),
  (12363, 12441, 12364), (12365, 12441, 12366), (12367, 12441, 12368), (12369, 12441, 12370),
  (12371, 12441, 12372), (12373, 12441, 12374), (12375, 12441, 12376), (12377, 12441, 12378),
  (12379, 12441, 12380), (12381, 12441, 12382), (12383, 12441, 12384), (12385, 12441, 12386),
  (12388, 12441, 12389), (12390, 12441, 12391), (12392, 12441, 12393), (12399, 12441, 12400),
  (12399, 12442, 12401), (12402, 12441, 12403), (12402, 12442, 12404), (12405, 12441, 12406),
  (12405, 12442, 12407), (12408, 12441, 12409), (12408, 12442, 12410), (12411, 12441, 12412),
  (12411, 12442, 12413), (12445, 12441, 12446), (12454, 12441, 12532), (12459, 12441, 12460),
  (12461, 12441, 12462), (12463, 12441, 12464), (12465, 12441, 12466), (12467, 12441, 12468),
  (12469, 12441, 12470), (12471, 12441, 12472), (12473, 12441, 12474), (12475, 12441, 12476),
  (12477, 12441, 12478), (12479, 12441, 12480), (12481, 12441, 12482), (12484, 12441, 12485),
  (12486, 12441, 12487), (12488, 12441, 12489), (12495, 12441, 12496), (12495, 12442, 12497),
  (12498, 12441, 12499), (12498, 12442, 12500), (12501, 12441, 12502), (12501, 12442, 12503),
  (12504, 12441, 12505), (12504, 12442, 12506), (12507, 12441, 12508), (12507, 12442, 12509),
  (12527, 12441, 12535), (12528, 12441, 12536), (12529, 12441, 12537), (12530, 12441, 12538),
  (12541, 12441, 12542), (69785, 69818, 69786), (69787, 69818, 69788), (69797, 69818, 69803),
  (69937, 69927, 69934), (69938, 69927, 69935), (70471, 70462, 70475), (70471, 70487, 70476),
  (70841, 70832, 70844), (70841, 70842, 70843), (70841, 70845, 70846), (71096, 71087, 71098),
  (71097, 71087, 71099), (71989, 71984, 71992)]

def compositionPairs : List (Nat × Nat × Nat) := latinPairs ++ otherPairs

end CircuitConsole.Text

/-!
The script of every code point, and the code points that are in use in other scripts than their own,
version 16 of the standard.
-/
namespace RequestBinding.Unicode

/-- The scripts from code point zero on: the four letters of a script and how many code points in a
row have it, where the number one is left out. -/
def scriptRuns : String := String.join [
  "Zyyy65Latn26Zyyy6Latn26Zyyy47LatnZyyy15LatnZyyy5Latn23ZyyyLatn31ZyyyLatn449Zyyy39Latn5Zyyy5",
  "Bopo2Zyyy20Zinh112Grek4ZyyyGrek3Zzzz2Grek4ZyyyGrekZzzz4GrekZyyyGrekZyyyGrek3ZzzzGrekZzzzGrek20",
  "ZzzzGrek63Copt14Grek16Cyrl133Zinh2Cyrl169ZzzzArmn38Zzzz2Armn50Zzzz2Armn3ZzzzHebr55Zzzz8Hebr27",
  "Zzzz4Hebr6Zzzz11Arab5ZyyyArab6ZyyyArab14ZyyyArab3ZyyyArab32ZyyyArab10Zinh11Arab26ZinhArab108",
  "ZyyyArab34Syrc14ZzzzSyrc60Zzzz2Syrc3Arab48Thaa50Zzzz14Nkoo59Zzzz2Nkoo3Samr46Zzzz2Samr15Zzzz",
  "Mand28Zzzz2MandZzzzSyrc11Zzzz5Arab31ZzzzArab2Zzzz5Arab75ZyyyArab29Deva81Zinh4Deva15Zyyy2Deva26",
  "Beng4ZzzzBeng8Zzzz2Beng2Zzzz2Beng22ZzzzBeng7ZzzzBengZzzz3Beng4Zzzz2Beng9Zzzz2Beng2Zzzz2Beng4",
  "Zzzz8BengZzzz4Beng2ZzzzBeng5Zzzz2Beng25Zzzz2Guru3ZzzzGuru6Zzzz4Guru2Zzzz2Guru22ZzzzGuru7Zzzz",
  "Guru2ZzzzGuru2ZzzzGuru2Zzzz2GuruZzzzGuru5Zzzz4Guru2Zzzz2Guru3Zzzz3GuruZzzz7Guru4ZzzzGuruZzzz7",
  "Guru17Zzzz10Gujr3ZzzzGujr9ZzzzGujr3ZzzzGujr22ZzzzGujr7ZzzzGujr2ZzzzGujr5Zzzz2Gujr10ZzzzGujr3",
  "ZzzzGujr3Zzzz2GujrZzzz15Gujr4Zzzz2Gujr12Zzzz7Gujr7ZzzzOrya3ZzzzOrya8Zzzz2Orya2Zzzz2Orya22Zzzz",
  "Orya7ZzzzOrya2ZzzzOrya5Zzzz2Orya9Zzzz2Orya2Zzzz2Orya3Zzzz7Orya3Zzzz4Orya2ZzzzOrya5Zzzz2Orya18",
  "Zzzz10Taml2ZzzzTaml6Zzzz3Taml3ZzzzTaml4Zzzz3Taml2ZzzzTamlZzzzTaml2Zzzz3Taml2Zzzz3Taml3Zzzz3",
  "Taml12Zzzz4Taml5Zzzz3Taml3ZzzzTaml4Zzzz2TamlZzzz6TamlZzzz14Taml21Zzzz5Telu13ZzzzTelu3Zzzz",
  "Telu23ZzzzTelu16Zzzz2Telu9ZzzzTelu3ZzzzTelu4Zzzz7Telu2ZzzzTelu3Zzzz2TeluZzzz2Telu4Zzzz2Telu10",
  "Zzzz7Telu9Knda13ZzzzKnda3ZzzzKnda23ZzzzKnda10ZzzzKnda5Zzzz2Knda9ZzzzKnda3ZzzzKnda4Zzzz7Knda2",
  "Zzzz6Knda2ZzzzKnda4Zzzz2Knda10ZzzzKnda3Zzzz12Mlym13ZzzzMlym3ZzzzMlym51ZzzzMlym3ZzzzMlym6Zzzz4",
  "Mlym16Zzzz2Mlym26ZzzzSinh3ZzzzSinh18Zzzz3Sinh24ZzzzSinh9ZzzzSinhZzzz2Sinh7Zzzz3SinhZzzz4Sinh6",
  "ZzzzSinhZzzzSinh8Zzzz6Sinh10Zzzz2Sinh3Zzzz12Thai58Zzzz4ZyyyThai28Zzzz37Laoo2ZzzzLaooZzzzLaoo5",
  "ZzzzLaoo24ZzzzLaooZzzzLaoo23Zzzz2Laoo5ZzzzLaooZzzzLaoo7ZzzzLaoo10Zzzz2Laoo4Zzzz32Tibt72Zzzz",
  "Tibt36Zzzz4Tibt39ZzzzTibt36ZzzzTibt15ZzzzTibt7Zyyy4Tibt2Zzzz37Mymr160Geor38ZzzzGeorZzzz5Geor",
  "Zzzz2Geor43ZyyyGeor4Hang256Ethi73ZzzzEthi4Zzzz2Ethi7ZzzzEthiZzzzEthi4Zzzz2Ethi41ZzzzEthi4Zzzz2",
  "Ethi33ZzzzEthi4Zzzz2Ethi7ZzzzEthiZzzzEthi4Zzzz2Ethi15ZzzzEthi57ZzzzEthi4Zzzz2Ethi67Zzzz2Ethi32",
  "Zzzz3Ethi26Zzzz6Cher86Zzzz2Cher6Zzzz2Cans640Ogam29Zzzz3Runr75Zyyy3Runr11Zzzz7Tglg22Zzzz9Tglg",
  "Hano21Zyyy2Zzzz9Buhd20Zzzz12Tagb13ZzzzTagb3ZzzzTagb2Zzzz12Khmr94Zzzz2Khmr10Zzzz6Khmr10Zzzz6",
  "Mong2Zyyy2MongZyyyMong20Zzzz6Mong89Zzzz7Mong43Zzzz5Cans70Zzzz10Limb31ZzzzLimb12Zzzz4Limb12",
  "Zzzz4LimbZzzz3Limb12Tale30Zzzz2Tale5Zzzz11Talu44Zzzz4Talu26Zzzz6Talu11Zzzz3Talu2Khmr32Bugi28",
  "Zzzz2Bugi2Lana63ZzzzLana29Zzzz2Lana11Zzzz6Lana10Zzzz6Lana14Zzzz2Zinh31Zzzz49Bali77ZzzzBali50",
  "Sund64Batk52Zzzz8Batk4Lepc56Zzzz3Lepc15Zzzz3Lepc3Olck48Cyrl11Zzzz5Geor43Zzzz2Geor3Sund8Zzzz8",
  "Zinh3ZyyyZinh13ZyyyZinh7Zyyy4ZinhZyyy6ZinhZyyy3Zinh2ZyyyZzzz5Latn38Grek5CyrlLatn49Grek5Latn4",
  "Grek5Latn13CyrlLatn70GrekZinh64Latn256Grek22Zzzz2Grek6Zzzz2Grek38Zzzz2Grek6Zzzz2Grek8ZzzzGrek",
  "ZzzzGrekZzzzGrekZzzzGrek31Zzzz2Grek53ZzzzGrek15ZzzzGrek14Zzzz2Grek6ZzzzGrek19Zzzz2Grek3Zzzz",
  "Grek9ZzzzZyyy12Zinh2Zyyy87ZzzzZyyy11LatnZzzz2Zyyy11LatnZyyy15ZzzzLatn13Zzzz3Zyyy33Zzzz15Zinh33",
  "Zzzz15Zyyy38GrekZyyy3Latn2Zyyy6LatnZyyy27LatnZyyy17Latn41Zyyy3Zzzz4Zyyy666Zzzz22Zyyy11Zzzz21",
  "Zyyy928Brai256Zyyy628Zzzz2Zyyy32ZzzzZyyy105Glag96Latn32Copt116Zzzz5Copt7Geor38ZzzzGeorZzzz5",
  "GeorZzzz2Tfng56Zzzz7Tfng2Zzzz14TfngEthi23Zzzz9Ethi7ZzzzEthi7ZzzzEthi7ZzzzEthi7ZzzzEthi7Zzzz",
  "Ethi7ZzzzEthi7ZzzzEthi7ZzzzCyrl32Zyyy94Zzzz34Hani26ZzzzHani89Zzzz12Hani214Zzzz26Zyyy21HaniZyyy",
  "HaniZyyy25Hani9Zinh4Hang2Zyyy8Hani4Zyyy4ZzzzHira86Zzzz2Zinh2Zyyy2Hira3ZyyyKana90Zyyy2Kana3",
  "Zzzz5Bopo43ZzzzHang94ZzzzZyyy16Bopo32Zyyy38Zzzz9ZyyyKana16Hang31ZzzzZyyy64Hang31Zyyy81Kana47",
  "ZyyyKana88Zyyy168Hani6592Zyyy64Hani20992Yiii1165Zzzz3Yiii55Zzzz9Lisu48Vaii300Zzzz20Cyrl96",
  "Bamu88Zzzz8Zyyy34Latn102Zyyy3Latn67Zzzz2Latn2ZzzzLatnZzzzLatn8Zzzz21Latn14Sylo45Zzzz3Zyyy10",
  "Zzzz6Phag56Zzzz8Saur70Zzzz8Saur12Zzzz6Deva32Kali46ZyyyKaliRjng36Zzzz11RjngHang29Zzzz3Java78",
  "ZzzzZyyyJava10Zzzz4Java2Mymr31ZzzzCham55Zzzz9Cham14Zzzz2Cham10Zzzz2Cham4Mymr32Tavt67Zzzz24",
  "Tavt5Mtei23Zzzz10Ethi6Zzzz2Ethi6Zzzz2Ethi6Zzzz9Ethi7ZzzzEthi7ZzzzLatn43ZyyyLatn9GrekLatn4Zyyy2",
  "Zzzz4Cher80Mtei46Zzzz2Mtei10Zzzz6Hang11172Zzzz12Hang23Zzzz4Hang49Zzzz8452Hani366Zzzz2Hani106",
  "Zzzz38Latn7Zzzz12Armn5Zzzz5Hebr26ZzzzHebr5ZzzzHebrZzzzHebr2ZzzzHebr2ZzzzHebr10Arab115Zzzz16",
  "Arab363Zyyy2Arab80Zzzz2Arab54Zzzz7ArabZzzz32Arab16Zinh16Zyyy10Zzzz6Zinh14Cyrl2Zyyy35ZzzzZyyy19",
  "ZzzzZyyy4Zzzz4Arab5ZzzzArab135Zzzz2ZyyyZzzzZyyy32Latn26Zyyy6Latn26Zyyy11Kana10ZyyyKana45Zyyy2",
  "Hang31Zzzz3Hang6Zzzz2Hang6Zzzz2Hang6Zzzz2Hang3Zzzz3Zyyy7ZzzzZyyy7Zzzz10Zyyy5Zzzz2Linb12Zzzz",
  "Linb26ZzzzLinb19ZzzzLinb2ZzzzLinb15Zzzz2Linb14Zzzz34Linb123Zzzz5Zyyy3Zzzz4Zyyy45Zzzz3Zyyy9",
  "Grek79ZzzzZyyy13Zzzz3GrekZzzz47Zyyy45ZinhZzzz130Lyci29Zzzz3Cari49Zzzz15ZinhZyyy27Zzzz4Ital36",
  "Zzzz9Ital3Goth27Zzzz5Perm43Zzzz5Ugar30ZzzzUgarXpeo36Zzzz4Xpeo14Zzzz42Dsrt80Shaw48Osma30Zzzz2",
  "Osma10Zzzz6Osge36Zzzz4Osge36Zzzz4Elba40Zzzz8Aghb52Zzzz11AghbVith11ZzzzVith15ZzzzVith7ZzzzVith2",
  "ZzzzVith11ZzzzVith15ZzzzVith7ZzzzVith2Zzzz3Todr52Zzzz12Lina311Zzzz9Lina22Zzzz10Lina8Zzzz24",
  "Latn6ZzzzLatn42ZzzzLatn9Zzzz69Cprt6Zzzz2CprtZzzzCprt44ZzzzCprt2Zzzz3CprtZzzz2CprtArmi22Zzzz",
  "Armi9Palm32Nbat31Zzzz8Nbat9Zzzz48Hatr19ZzzzHatr2Zzzz5Hatr5Phnx28Zzzz3PhnxLydi26Zzzz5LydiZzzz64",
  "Mero32Merc24Zzzz4Merc20Zzzz2Merc46Khar4ZzzzKhar2Zzzz5Khar8ZzzzKhar3ZzzzKhar29Zzzz2Khar3Zzzz4",
  "Khar10Zzzz7Khar9Zzzz7Sarb32Narb32Zzzz32Mani39Zzzz4Mani12Zzzz9Avst54Zzzz3Avst7Prti22Zzzz2Prti8",
  "Phli19Zzzz5Phli8Phlp18Zzzz7Phlp4Zzzz12Phlp7Zzzz80Orkh73Zzzz55Hung51Zzzz13Hung51Zzzz7Hung6",
  "Rohg40Zzzz8Rohg10Zzzz6Gara38Zzzz3Gara29Zzzz8Gara2Zzzz208Arab31ZzzzYezi42ZzzzYezi3Zzzz2Yezi2",
  "Zzzz16Arab3Zzzz55Arab4Sogo40Zzzz8Sogd42Zzzz22Ougr26Zzzz38Chrs28Zzzz20Elym23Zzzz9Brah78Zzzz4",
  "Brah36Zzzz9BrahKthi67Zzzz10KthiZzzz2Sora25Zzzz7Sora10Zzzz6Cakm53ZzzzCakm18Zzzz8Mahj39Zzzz9",
  "Shrd96ZzzzSinh20Zzzz11Khoj18ZzzzKhoj47Zzzz62Mult7ZzzzMultZzzzMult4ZzzzMult15ZzzzMult11Zzzz6",
  "Sind59Zzzz5Sind10Zzzz6Gran4ZzzzGran8Zzzz2Gran2Zzzz2Gran22ZzzzGran7ZzzzGran2ZzzzGran5ZzzzZinh",
  "Gran9Zzzz2Gran2Zzzz2Gran3Zzzz2GranZzzz6GranZzzz5Gran7Zzzz2Gran7Zzzz3Gran5Zzzz11Tutg10ZzzzTutg",
  "Zzzz2TutgZzzzTutg38ZzzzTutg10ZzzzTutgZzzz2TutgZzzzTutg4ZzzzTutg10ZzzzTutg2Zzzz8Tutg2Zzzz29",
  "Newa92ZzzzNewa5Zzzz30Tirh72Zzzz8Tirh10Zzzz166Sidd54Zzzz2Sidd38Zzzz34Modi69Zzzz11Modi10Zzzz6",
  "Mong13Zzzz19Takr58Zzzz6Takr10Zzzz6Mymr20Zzzz28Ahom27Zzzz2Ahom15Zzzz4Ahom23Zzzz185Dogr60Zzzz100",
  "Wara83Zzzz12WaraDiak7Zzzz2DiakZzzz2Diak8ZzzzDiak2ZzzzDiak30ZzzzDiak2Zzzz2Diak12Zzzz9Diak10",
  "Zzzz70Nand8Zzzz2Nand46Zzzz2Nand11Zzzz27Zanb72Zzzz8Soyo83Zzzz13Cans16Pauc57Zzzz7Deva10Zzzz182",
  "Sunu34Zzzz14Sunu10Zzzz6Bhks9ZzzzBhks45ZzzzBhks14Zzzz10Bhks29Zzzz3Marc32Zzzz2Marc22ZzzzMarc14",
  "Zzzz73Gonm7ZzzzGonm2ZzzzGonm44Zzzz3GonmZzzzGonm2ZzzzGonm9Zzzz8Gonm10Zzzz6Gong6ZzzzGong2Zzzz",
  "Gong37ZzzzGong2ZzzzGong6Zzzz7Gong10Zzzz310Maka25Zzzz7Kawi17ZzzzKawi41Zzzz3Kawi29Zzzz85Lisu",
  "Zzzz15Taml50Zzzz13TamlXsux922Zzzz102Xsux111ZzzzXsux5Zzzz11Xsux196Zzzz2636Cpmn99Zzzz13Egyp1110",
  "Zzzz10Egyp3995Zzzz5Hluw583Zzzz6841Gukh58Zzzz1734Bamu569Zzzz7Mroo31ZzzzMroo10Zzzz4Mroo2Tnsa79",
  "ZzzzTnsa10Zzzz6Bass30Zzzz2Bass6Zzzz10Hmng70Zzzz10Hmng10ZzzzHmng7ZzzzHmng21Zzzz5Hmng19Zzzz432",
  "Krai58Zzzz198Medf91Zzzz101Plrd75Zzzz4Plrd57Zzzz7Plrd17Zzzz64TangNshuHani2KitsZzzz11Hani2Zzzz14",
  "Tang6136Zzzz8Tang768Kits470Zzzz41KitsTang9Zzzz8935Kana4ZzzzKana7ZzzzKana2ZzzzKanaHira287Kana3",
  "Zzzz15HiraZzzz29Hira3Zzzz2KanaZzzz14Kana4Zzzz8Nshu396Zzzz2308Dupl107Zzzz5Dupl13Zzzz3Dupl9Zzzz7",
  "Dupl10Zzzz2Dupl4Zyyy4Zzzz3932Zyyy250Zzzz6Zyyy436Zzzz76Zinh46Zzzz2Zinh23Zzzz9Zyyy116Zzzz60",
  "Zyyy246Zzzz10Zyyy39Zzzz2Zyyy62Zinh3Zyyy17Zinh8Zyyy2Zinh7Zyyy30Zinh4Zyyy61Zzzz21Grek70Zzzz122",
  "Zyyy20Zzzz12Zyyy20Zzzz12Zyyy87Zzzz9Zyyy25Zzzz135Zyyy85ZzzzZyyy71ZzzzZyyy2Zzzz2ZyyyZzzz2Zyyy2",
  "Zzzz2Zyyy4ZzzzZyyy12ZzzzZyyyZzzzZyyy7ZzzzZyyy65ZzzzZyyy4Zzzz2Zyyy8ZzzzZyyy7ZzzzZyyy28ZzzzZyyy4",
  "ZzzzZyyy5ZzzzZyyyZzzz3Zyyy7ZzzzZyyy340Zzzz2Zyyy292Zzzz2Zyyy50Sgnw652Zzzz15Sgnw5ZzzzSgnw15",
  "Zzzz1104Latn31Zzzz6Latn6Zzzz213Glag7ZzzzGlag17Zzzz2Glag7ZzzzGlag2ZzzzGlag5Zzzz5Cyrl62Zzzz33",
  "CyrlZzzz112Hmnp45Zzzz3Hmnp14Zzzz2Hmnp10Zzzz4Hmnp2Zzzz320Toto31Zzzz17Wcho58Zzzz5WchoZzzz464",
  "Nagm42Zzzz214Onao43Zzzz4OnaoZzzz480Ethi7ZzzzEthi4ZzzzEthi2ZzzzEthi15ZzzzMend197Zzzz2Mend16",
  "Zzzz41Adlm76Zzzz4Adlm10Zzzz4Adlm2Zzzz785Zyyy68Zzzz76Zyyy61Zzzz194Arab4ZzzzArab27ZzzzArab2Zzzz",
  "ArabZzzz2ArabZzzzArab10ZzzzArab4ZzzzArabZzzzArabZzzz6ArabZzzz4ArabZzzzArabZzzzArabZzzzArab3",
  "ZzzzArab2ZzzzArabZzzz2ArabZzzzArabZzzzArabZzzzArabZzzzArabZzzzArab2ZzzzArabZzzz2Arab4ZzzzArab7",
  "ZzzzArab4ZzzzArab4ZzzzArabZzzzArab10ZzzzArab17Zzzz5Arab3ZzzzArab5ZzzzArab17Zzzz52Arab2Zzzz270",
  "Zyyy44Zzzz4Zyyy100Zzzz12Zyyy15Zzzz2Zyyy15ZzzzZyyy15ZzzzZyyy37Zzzz10Zyyy174Zzzz56Zyyy26Hira",
  "Zyyy2Zzzz13Zyyy44Zzzz4Zyyy9Zzzz7Zyyy2Zzzz14Zyyy6Zzzz154Zyyy984Zzzz4Zyyy17Zzzz3Zyyy13Zzzz3",
  "Zyyy119Zzzz4Zyyy95Zzzz6Zyyy12Zzzz4ZyyyZzzz15Zyyy12Zzzz4Zyyy56Zzzz8Zyyy10Zzzz6Zyyy40Zzzz8Zyyy30",
  "Zzzz2Zyyy12Zzzz4Zyyy2Zzzz62Zyyy340Zzzz12Zyyy14Zzzz2Zyyy13Zzzz3Zyyy10Zzzz5Zyyy56Zzzz7Zyyy15",
  "Zzzz2Zyyy11Zzzz6Zyyy9Zzzz7Zyyy147ZzzzZyyy102Zzzz1030Hani42720Zzzz32Hani4154Zzzz6Hani222Zzzz2",
  "Hani5762Zzzz14Hani7473Zzzz15Hani622Zzzz2466Hani542Zzzz1506Hani4939Zzzz5Hani4192Zzzz711761Zyyy",
  "Zzzz30Zyyy96Zzzz128Zinh240Zzzz196112"]

/-- First and last code point and the scripts in which they are in use. -/
def sharedScripts : List (Nat × Nat × String) := [
    (0xb7, 0xb7, String.join [
      "Avst Cari Copt Dupl Elba Geor Glag Gong Goth Grek Hani Latn Lydi Mahj Perm ",
      "Shaw"]), (0x2bc, 0x2bc, "Beng Cyrl Deva Latn Lisu Thai Toto"), (0x2c7, 0x2c7, "Bopo Latn"),
    (0x2c9, 0x2cb, "Bopo Latn"), (0x2cd, 0x2cd, "Latn Lisu"), (0x2d7, 0x2d7, "Latn Thai"),
    (0x2d9, 0x2d9, "Bopo Latn"), (0x300, 0x300, "Cher Copt Cyrl Grek Latn Perm Sunu Tale"),
    (0x301, 0x301, "Cher Cyrl Grek Latn Osge Sunu Tale Todr"),
    (0x302, 0x302, "Cher Cyrl Latn Tfng"), (0x303, 0x303, "Glag Latn Sunu Syrc Thai"),
    (0x304, 0x304, "Aghb Cher Copt Cyrl Goth Grek Latn Osge Syrc Tfng Todr"),
    (0x305, 0x305, "Copt Elba Glag Goth Kana Latn"), (0x306, 0x306, "Cyrl Grek Latn Perm Tfng"),
    (0x307, 0x307, "Copt Dupl Hebr Latn Perm Syrc Tale Tfng Todr"),
    (0x308, 0x308, "Armn Cyrl Dupl Goth Grek Hebr Latn Perm Syrc Tale Tfng"),
    (0x309, 0x309, "Latn Tfng"), (0x30a, 0x30a, "Dupl Latn Syrc"),
    (0x30b, 0x30b, "Cher Cyrl Latn Osge"), (0x30c, 0x30c, "Cher Latn Tale"),
    (0x30d, 0x30d, "Latn Sunu"), (0x30e, 0x30e, "Ethi Latn"), (0x310, 0x310, "Latn Sunu"),
    (0x311, 0x311, "Cyrl Latn Todr"), (0x313, 0x313, "Grek Latn Perm Todr"),
    (0x323, 0x323, "Cher Dupl Kana Latn Syrc Tfng"), (0x324, 0x324, "Cher Dupl Latn Syrc"),
    (0x325, 0x325, "Latn Syrc"), (0x32d, 0x32d, "Latn Sunu Syrc"), (0x32e, 0x32e, "Latn Syrc"),
    (0x330, 0x330, "Cher Latn Syrc"), (0x331, 0x331, "Aghb Cher Goth Latn Sunu Syrc Thai"),
    (0x342, 0x342, "Grek"), (0x345, 0x345, "Grek"), (0x358, 0x358, "Latn Osge"),
    (0x35e, 0x35e, "Aghb Latn Todr"), (0x363, 0x36f, "Latn"), (0x374, 0x375, "Copt Grek"),
    (0x483, 0x483, "Cyrl Perm"), (0x484, 0x484, "Cyrl Glag"), (0x485, 0x486, "Cyrl Latn"),
    (0x487, 0x487, "Cyrl Glag"), (0x589, 0x589, "Armn Geor Glag"),
    (0x60c, 0x60c, "Arab Gara Nkoo Rohg Syrc Thaa Yezi"),
    (0x61b, 0x61b, "Arab Gara Nkoo Rohg Syrc Thaa Yezi"), (0x61c, 0x61c, "Arab Syrc Thaa"),
    (0x61f, 0x61f, "Adlm Arab Gara Nkoo Rohg Syrc Thaa Yezi"),
    (0x640, 0x640, "Adlm Arab Mand Mani Ougr Phlp Rohg Sogd Syrc"), (0x64b, 0x655, "Arab Syrc"),
    (0x660, 0x669, "Arab Thaa Yezi"), (0x670, 0x670, "Arab Syrc"), (0x6d4, 0x6d4, "Arab Rohg"),
    (0x951, 0x951, "Beng Deva Gran Gujr Guru Knda Latn Mlym Nand Newa Orya Shrd Taml Telu Tirh"),
    (0x952, 0x952, "Beng Deva Gran Gujr Guru Knda Latn Mlym Newa Orya Taml Telu Tirh"),
    (0x964, 0x964, String.join [
      "Beng Deva Dogr Gong Gonm Gran Gujr Guru Knda Mahj Mlym Nand Onao Orya Sind ",
      "Sinh Sylo Takr Taml Telu Tirh"]),
    (0x965, 0x965, String.join [
      "Beng Deva Dogr Gong Gonm Gran Gujr Gukh Guru Knda Limb Mahj Mlym Nand Onao ",
      "Orya Sind Sinh Sylo Takr Taml Telu Tirh"]), (0x966, 0x96f, "Deva Dogr Kthi Mahj"),
    (0x9e6, 0x9ef, "Beng Cakm Sylo"), (0xa66, 0xa6f, "Guru Mult"), (0xae6, 0xaef, "Gujr Khoj"),
    (0xbe6, 0xbf3, "Gran Taml"), (0xce6, 0xcef, "Knda Nand Tutg"),
    (0x1040, 0x1049, "Cakm Mymr Tale"), (0x10fb, 0x10fb, "Geor Glag Latn"),
    (0x16eb, 0x16ed, "Runr"), (0x1735, 0x1736, "Buhd Hano Tagb Tglg"),
    (0x1802, 0x1803, "Mong Phag"), (0x1805, 0x1805, "Mong Phag"),
    (0x1cd0, 0x1cd0, "Beng Deva Gran Knda"), (0x1cd1, 0x1cd1, "Deva"),
    (0x1cd2, 0x1cd2, "Beng Deva Gran Knda"), (0x1cd3, 0x1cd3, "Deva Gran Knda"),
    (0x1cd4, 0x1cd4, "Deva"), (0x1cd5, 0x1cd5, "Beng Deva Newa Telu Tirh"),
    (0x1cd6, 0x1cd6, "Beng Deva Telu"), (0x1cd7, 0x1cd7, "Deva Newa Shrd"),
    (0x1cd8, 0x1cd8, "Beng Deva Newa Telu"), (0x1cd9, 0x1cd9, "Deva Shrd"),
    (0x1cda, 0x1cda, "Deva Knda Mlym Orya Taml Telu"), (0x1cdb, 0x1cdb, "Deva"),
    (0x1cdc, 0x1cdd, "Deva Shrd"), (0x1cde, 0x1cdf, "Deva"), (0x1ce0, 0x1ce0, "Deva Shrd"),
    (0x1ce1, 0x1ce1, "Beng Deva"), (0x1ce2, 0x1ce2, "Deva Newa Tirh"), (0x1ce3, 0x1ce8, "Deva"),
    (0x1ce9, 0x1ce9, "Deva Nand Newa"), (0x1cea, 0x1cea, "Beng Deva Shrd"),
    (0x1ceb, 0x1ceb, "Deva Newa"), (0x1cec, 0x1cec, "Deva"),
    (0x1ced, 0x1ced, "Beng Deva Newa Shrd"), (0x1cee, 0x1cf1, "Deva"),
    (0x1cf2, 0x1cf2, "Beng Deva Gran Knda Mlym Nand Orya Sinh Telu Tirh Tutg"),
    (0x1cf3, 0x1cf3, "Deva Gran"), (0x1cf4, 0x1cf4, "Deva Gran Knda Tutg"),
    (0x1cf5, 0x1cf6, "Beng Deva"), (0x1cf7, 0x1cf7, "Beng"), (0x1cf8, 0x1cf9, "Deva Gran"),
    (0x1cfa, 0x1cfa, "Nand"), (0x1dc0, 0x1dc1, "Grek"), (0x1df8, 0x1df8, "Cyrl Latn Syrc"),
    (0x1dfa, 0x1dfa, "Syrc"), (0x202f, 0x202f, "Latn Mong Phag"), (0x204f, 0x204f, "Adlm Arab"),
    (0x205a, 0x205a, "Cari Geor Glag Hung Lyci Orkh"), (0x205d, 0x205d, "Cari Grek Hung Mero"),
    (0x20f0, 0x20f0, "Deva Gran Latn"), (0x2e17, 0x2e17, "Copt Latn"),
    (0x2e30, 0x2e30, "Avst Orkh"), (0x2e31, 0x2e31, "Avst Cari Geor Hung Kthi Lydi Samr"),
    (0x2e3c, 0x2e3c, "Dupl"), (0x2e41, 0x2e41, "Adlm Arab Hung"), (0x2e43, 0x2e43, "Cyrl Glag"),
    (0x2ff0, 0x2fff, "Hani Tang"), (0x3001, 0x3001, "Bopo Hang Hani Hira Kana Mong Yiii"),
    (0x3002, 0x3002, "Bopo Hang Hani Hira Kana Mong Phag Yiii"),
    (0x3003, 0x3003, "Bopo Hang Hani Hira Kana"), (0x3006, 0x3006, "Hani"),
    (0x3008, 0x3009, "Bopo Hang Hani Hira Kana Mong Tibt Yiii"),
    (0x300a, 0x300b, "Bopo Hang Hani Hira Kana Lisu Mong Tibt Yiii"),
    (0x300c, 0x3011, "Bopo Hang Hani Hira Kana Yiii"),
    (0x3013, 0x3013, "Bopo Hang Hani Hira Kana"),
    (0x3014, 0x301b, "Bopo Hang Hani Hira Kana Yiii"),
    (0x301c, 0x301f, "Bopo Hang Hani Hira Kana"), (0x302a, 0x302d, "Bopo Hani"),
    (0x3030, 0x3030, "Bopo Hang Hani Hira Kana"), (0x3031, 0x3035, "Hira Kana"),
    (0x3037, 0x3037, "Bopo Hang Hani Hira Kana"), (0x303c, 0x303d, "Hani Hira Kana"),
    (0x303e, 0x303f, "Hani"), (0x3099, 0x309c, "Hira Kana"), (0x30a0, 0x30a0, "Hira Kana"),
    (0x30fb, 0x30fb, "Bopo Hang Hani Hira Kana Yiii"), (0x30fc, 0x30fc, "Hira Kana"),
    (0x3190, 0x319f, "Hani"), (0x31c0, 0x31e5, "Hani"), (0x31ef, 0x31ef, "Hani Tang"),
    (0x3220, 0x3247, "Hani"), (0x3280, 0x32b0, "Hani"), (0x32c0, 0x32cb, "Hani"),
    (0x32ff, 0x32ff, "Hani"), (0x3358, 0x3370, "Hani"), (0x337b, 0x337f, "Hani"),
    (0x33e0, 0x33fe, "Hani"), (0xa66f, 0xa66f, "Cyrl Glag"), (0xa700, 0xa707, "Hani Latn"),
    (0xa830, 0xa832, String.join [
      "Deva Dogr Gujr Guru Khoj Knda Kthi Mahj Mlym Modi Nand Shrd Sind Takr ",
      "Tirh Tutg"]),
    (0xa833, 0xa835, "Deva Dogr Gujr Guru Khoj Knda Kthi Mahj Modi Nand Shrd Sind Takr Tirh Tutg"),
    (0xa836, 0xa837, "Deva Dogr Gujr Guru Khoj Kthi Mahj Modi Sind Takr Tirh"),
    (0xa838, 0xa838, "Deva Dogr Gujr Guru Khoj Kthi Mahj Modi Shrd Sind Takr Tirh"),
    (0xa839, 0xa839, "Deva Dogr Gujr Guru Khoj Kthi Mahj Modi Sind Takr Tirh"),
    (0xa8f1, 0xa8f1, "Beng Deva Tutg"), (0xa8f3, 0xa8f3, "Deva Taml"),
    (0xa92e, 0xa92e, "Kali Latn Mymr"), (0xa9cf, 0xa9cf, "Bugi Java"),
    (0xfd3e, 0xfd3f, "Arab Nkoo"), (0xfdf2, 0xfdf2, "Arab Thaa"), (0xfdfd, 0xfdfd, "Arab Thaa"),
    (0xfe45, 0xfe46, "Bopo Hang Hani Hira Kana"),
    (0xff61, 0xff65, "Bopo Hang Hani Hira Kana Yiii"), (0xff70, 0xff70, "Hira Kana"),
    (0xff9e, 0xff9f, "Hira Kana"), (0x10100, 0x10101, "Cpmn Cprt Linb"),
    (0x10102, 0x10102, "Cprt Linb"), (0x10107, 0x10133, "Cprt Lina Linb"),
    (0x10137, 0x1013f, "Cprt Linb"), (0x102e0, 0x102fb, "Arab Copt"),
    (0x10af2, 0x10af2, "Mani Ougr"), (0x11301, 0x11301, "Gran Taml"),
    (0x11303, 0x11303, "Gran Taml"), (0x1133b, 0x1133c, "Gran Taml"),
    (0x11fd0, 0x11fd1, "Gran Taml"), (0x11fd3, 0x11fd3, "Gran Taml"), (0x1bca0, 0x1bca3, "Dupl"),
    (0x1d360, 0x1d371, "Hani"), (0x1f250, 0x1f251, "Hani")]

end RequestBinding.Unicode

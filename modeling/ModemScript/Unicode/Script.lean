import ModemScript.Unicode.Runs

/-!
# Scripts

The script of every code point in Unicode 17, under the four letters of the
script, and for every script the code points that text in it uses, which may
belong to several scripts at once (the script extensions).
-/

namespace ModemScript.Unicode

/-- A script: its four letters, its other names, and the code points used in it. -/
structure Script where
  code : String
  names : List String
  extended : CodeSet

namespace Script

/-- The runs of scripts: the four letters of each with its length. `Zzzz` stands for no
script. -/
def runsText : String := "
Zyyy65 Latn26 Zyyy6 Latn26 Zyyy47 Latn1 Zyyy15 Latn1 Zyyy5 Latn23 Zyyy1 Latn31 Zyyy1 Latn449
Zyyy39 Latn5 Zyyy5 Bopo2 Zyyy20 Zinh112 Grek4 Zyyy1 Grek3 Zzzz2 Grek4 Zyyy1 Grek1 Zzzz4 Grek1
Zyyy1 Grek1 Zyyy1 Grek3 Zzzz1 Grek1 Zzzz1 Grek20 Zzzz1 Grek63 Copt14 Grek16 Cyrl133 Zinh2 Cyrl169
Zzzz1 Armn38 Zzzz2 Armn50 Zzzz2 Armn3 Zzzz1 Hebr55 Zzzz8 Hebr27 Zzzz4 Hebr6 Zzzz11 Arab5 Zyyy1
Arab6 Zyyy1 Arab14 Zyyy1 Arab3 Zyyy1 Arab32 Zyyy1 Arab10 Zinh11 Arab26 Zinh1 Arab108 Zyyy1 Arab34
Syrc14 Zzzz1 Syrc60 Zzzz2 Syrc3 Arab48 Thaa50 Zzzz14 Nkoo59 Zzzz2 Nkoo3 Samr46 Zzzz2 Samr15 Zzzz1
Mand28 Zzzz2 Mand1 Zzzz1 Syrc11 Zzzz5 Arab34 Zzzz5 Arab75 Zyyy1 Arab29 Deva81 Zinh4 Deva15 Zyyy2
Deva26 Beng4 Zzzz1 Beng8 Zzzz2 Beng2 Zzzz2 Beng22 Zzzz1 Beng7 Zzzz1 Beng1 Zzzz3 Beng4 Zzzz2 Beng9
Zzzz2 Beng2 Zzzz2 Beng4 Zzzz8 Beng1 Zzzz4 Beng2 Zzzz1 Beng5 Zzzz2 Beng25 Zzzz2 Guru3 Zzzz1 Guru6
Zzzz4 Guru2 Zzzz2 Guru22 Zzzz1 Guru7 Zzzz1 Guru2 Zzzz1 Guru2 Zzzz1 Guru2 Zzzz2 Guru1 Zzzz1 Guru5
Zzzz4 Guru2 Zzzz2 Guru3 Zzzz3 Guru1 Zzzz7 Guru4 Zzzz1 Guru1 Zzzz7 Guru17 Zzzz10 Gujr3 Zzzz1 Gujr9
Zzzz1 Gujr3 Zzzz1 Gujr22 Zzzz1 Gujr7 Zzzz1 Gujr2 Zzzz1 Gujr5 Zzzz2 Gujr10 Zzzz1 Gujr3 Zzzz1 Gujr3
Zzzz2 Gujr1 Zzzz15 Gujr4 Zzzz2 Gujr12 Zzzz7 Gujr7 Zzzz1 Orya3 Zzzz1 Orya8 Zzzz2 Orya2 Zzzz2 Orya22
Zzzz1 Orya7 Zzzz1 Orya2 Zzzz1 Orya5 Zzzz2 Orya9 Zzzz2 Orya2 Zzzz2 Orya3 Zzzz7 Orya3 Zzzz4 Orya2
Zzzz1 Orya5 Zzzz2 Orya18 Zzzz10 Taml2 Zzzz1 Taml6 Zzzz3 Taml3 Zzzz1 Taml4 Zzzz3 Taml2 Zzzz1 Taml1
Zzzz1 Taml2 Zzzz3 Taml2 Zzzz3 Taml3 Zzzz3 Taml12 Zzzz4 Taml5 Zzzz3 Taml3 Zzzz1 Taml4 Zzzz2 Taml1
Zzzz6 Taml1 Zzzz14 Taml21 Zzzz5 Telu13 Zzzz1 Telu3 Zzzz1 Telu23 Zzzz1 Telu16 Zzzz2 Telu9 Zzzz1
Telu3 Zzzz1 Telu4 Zzzz7 Telu2 Zzzz1 Telu3 Zzzz1 Telu2 Zzzz2 Telu4 Zzzz2 Telu10 Zzzz7 Telu9 Knda13
Zzzz1 Knda3 Zzzz1 Knda23 Zzzz1 Knda10 Zzzz1 Knda5 Zzzz2 Knda9 Zzzz1 Knda3 Zzzz1 Knda4 Zzzz7 Knda2
Zzzz5 Knda3 Zzzz1 Knda4 Zzzz2 Knda10 Zzzz1 Knda3 Zzzz12 Mlym13 Zzzz1 Mlym3 Zzzz1 Mlym51 Zzzz1
Mlym3 Zzzz1 Mlym6 Zzzz4 Mlym16 Zzzz2 Mlym26 Zzzz1 Sinh3 Zzzz1 Sinh18 Zzzz3 Sinh24 Zzzz1 Sinh9
Zzzz1 Sinh1 Zzzz2 Sinh7 Zzzz3 Sinh1 Zzzz4 Sinh6 Zzzz1 Sinh1 Zzzz1 Sinh8 Zzzz6 Sinh10 Zzzz2 Sinh3
Zzzz12 Thai58 Zzzz4 Zyyy1 Thai28 Zzzz37 Laoo2 Zzzz1 Laoo1 Zzzz1 Laoo5 Zzzz1 Laoo24 Zzzz1 Laoo1
Zzzz1 Laoo23 Zzzz2 Laoo5 Zzzz1 Laoo1 Zzzz1 Laoo7 Zzzz1 Laoo10 Zzzz2 Laoo4 Zzzz32 Tibt72 Zzzz1
Tibt36 Zzzz4 Tibt39 Zzzz1 Tibt36 Zzzz1 Tibt15 Zzzz1 Tibt7 Zyyy4 Tibt2 Zzzz37 Mymr160 Geor38 Zzzz1
Geor1 Zzzz5 Geor1 Zzzz2 Geor43 Zyyy1 Geor4 Hang256 Ethi73 Zzzz1 Ethi4 Zzzz2 Ethi7 Zzzz1 Ethi1
Zzzz1 Ethi4 Zzzz2 Ethi41 Zzzz1 Ethi4 Zzzz2 Ethi33 Zzzz1 Ethi4 Zzzz2 Ethi7 Zzzz1 Ethi1 Zzzz1 Ethi4
Zzzz2 Ethi15 Zzzz1 Ethi57 Zzzz1 Ethi4 Zzzz2 Ethi67 Zzzz2 Ethi32 Zzzz3 Ethi26 Zzzz6 Cher86 Zzzz2
Cher6 Zzzz2 Cans640 Ogam29 Zzzz3 Runr75 Zyyy3 Runr11 Zzzz7 Tglg22 Zzzz9 Tglg1 Hano21 Zyyy2 Zzzz9
Buhd20 Zzzz12 Tagb13 Zzzz1 Tagb3 Zzzz1 Tagb2 Zzzz12 Khmr94 Zzzz2 Khmr10 Zzzz6 Khmr10 Zzzz6 Mong2
Zyyy2 Mong1 Zyyy1 Mong20 Zzzz6 Mong89 Zzzz7 Mong43 Zzzz5 Cans70 Zzzz10 Limb31 Zzzz1 Limb12 Zzzz4
Limb12 Zzzz4 Limb1 Zzzz3 Limb12 Tale30 Zzzz2 Tale5 Zzzz11 Talu44 Zzzz4 Talu26 Zzzz6 Talu11 Zzzz3
Talu2 Khmr32 Bugi28 Zzzz2 Bugi2 Lana63 Zzzz1 Lana29 Zzzz2 Lana11 Zzzz6 Lana10 Zzzz6 Lana14 Zzzz2
Zinh46 Zzzz2 Zinh12 Zzzz20 Bali77 Zzzz1 Bali50 Sund64 Batk52 Zzzz8 Batk4 Lepc56 Zzzz3 Lepc15 Zzzz3
Lepc3 Olck48 Cyrl11 Zzzz5 Geor43 Zzzz2 Geor3 Sund8 Zzzz8 Zinh3 Zyyy1 Zinh13 Zyyy1 Zinh7 Zyyy4
Zinh1 Zyyy6 Zinh1 Zyyy3 Zinh2 Zyyy1 Zzzz5 Latn38 Grek5 Cyrl1 Latn49 Grek5 Latn4 Grek5 Latn13 Cyrl1
Latn70 Grek1 Zinh64 Latn256 Grek22 Zzzz2 Grek6 Zzzz2 Grek38 Zzzz2 Grek6 Zzzz2 Grek8 Zzzz1 Grek1
Zzzz1 Grek1 Zzzz1 Grek1 Zzzz1 Grek31 Zzzz2 Grek53 Zzzz1 Grek15 Zzzz1 Grek14 Zzzz2 Grek6 Zzzz1
Grek19 Zzzz2 Grek3 Zzzz1 Grek9 Zzzz1 Zyyy12 Zinh2 Zyyy87 Zzzz1 Zyyy11 Latn1 Zzzz2 Zyyy11 Latn1
Zyyy15 Zzzz1 Latn13 Zzzz3 Zyyy34 Zzzz14 Zinh33 Zzzz15 Zyyy38 Grek1 Zyyy3 Latn2 Zyyy6 Latn1 Zyyy27
Latn1 Zyyy17 Latn41 Zyyy3 Zzzz4 Zyyy666 Zzzz22 Zyyy11 Zzzz21 Zyyy928 Brai256 Zyyy628 Zzzz2 Zyyy138
Glag96 Latn32 Copt116 Zzzz5 Copt7 Geor38 Zzzz1 Geor1 Zzzz5 Geor1 Zzzz2 Tfng56 Zzzz7 Tfng2 Zzzz14
Tfng1 Ethi23 Zzzz9 Ethi7 Zzzz1 Ethi7 Zzzz1 Ethi7 Zzzz1 Ethi7 Zzzz1 Ethi7 Zzzz1 Ethi7 Zzzz1 Ethi7
Zzzz1 Ethi7 Zzzz1 Cyrl32 Zyyy94 Zzzz34 Hani26 Zzzz1 Hani89 Zzzz12 Hani214 Zzzz26 Zyyy21 Hani1
Zyyy1 Hani1 Zyyy25 Hani9 Zinh4 Hang2 Zyyy8 Hani4 Zyyy4 Zzzz1 Hira86 Zzzz2 Zinh2 Zyyy2 Hira3 Zyyy1
Kana90 Zyyy2 Kana3 Zzzz5 Bopo43 Zzzz1 Hang94 Zzzz1 Zyyy16 Bopo32 Zyyy38 Zzzz9 Zyyy1 Kana16 Hang31
Zzzz1 Zyyy64 Hang31 Zyyy81 Kana47 Zyyy1 Kana88 Zyyy168 Hani6592 Zyyy64 Hani20992 Yiii1165 Zzzz3
Yiii55 Zzzz9 Lisu48 Vaii300 Zzzz20 Cyrl96 Bamu88 Zzzz8 Zyyy34 Latn102 Zyyy3 Latn82 Zzzz20 Latn15
Sylo45 Zzzz3 Zyyy10 Zzzz6 Phag56 Zzzz8 Saur70 Zzzz8 Saur12 Zzzz6 Deva32 Kali46 Zyyy1 Kali1 Rjng36
Zzzz11 Rjng1 Hang29 Zzzz3 Java78 Zzzz1 Zyyy1 Java10 Zzzz4 Java2 Mymr31 Zzzz1 Cham55 Zzzz9 Cham14
Zzzz2 Cham10 Zzzz2 Cham4 Mymr32 Tavt67 Zzzz24 Tavt5 Mtei23 Zzzz10 Ethi6 Zzzz2 Ethi6 Zzzz2 Ethi6
Zzzz9 Ethi7 Zzzz1 Ethi7 Zzzz1 Latn43 Zyyy1 Latn9 Grek1 Latn4 Zyyy2 Zzzz4 Cher80 Mtei46 Zzzz2
Mtei10 Zzzz6 Hang11172 Zzzz12 Hang23 Zzzz4 Hang49 Zzzz8452 Hani366 Zzzz2 Hani106 Zzzz38 Latn7
Zzzz12 Armn5 Zzzz5 Hebr26 Zzzz1 Hebr5 Zzzz1 Hebr1 Zzzz1 Hebr2 Zzzz1 Hebr2 Zzzz1 Hebr10 Arab494
Zyyy2 Arab144 Zzzz32 Arab16 Zinh16 Zyyy10 Zzzz6 Zinh14 Cyrl2 Zyyy35 Zzzz1 Zyyy19 Zzzz1 Zyyy4 Zzzz4
Arab5 Zzzz1 Arab135 Zzzz2 Zyyy1 Zzzz1 Zyyy32 Latn26 Zyyy6 Latn26 Zyyy11 Kana10 Zyyy1 Kana45 Zyyy2
Hang31 Zzzz3 Hang6 Zzzz2 Hang6 Zzzz2 Hang6 Zzzz2 Hang3 Zzzz3 Zyyy7 Zzzz1 Zyyy7 Zzzz10 Zyyy5 Zzzz2
Linb12 Zzzz1 Linb26 Zzzz1 Linb19 Zzzz1 Linb2 Zzzz1 Linb15 Zzzz2 Linb14 Zzzz34 Linb123 Zzzz5 Zyyy3
Zzzz4 Zyyy45 Zzzz3 Zyyy9 Grek79 Zzzz1 Zyyy13 Zzzz3 Grek1 Zzzz47 Zyyy45 Zinh1 Zzzz130 Lyci29 Zzzz3
Cari49 Zzzz15 Zinh1 Zyyy27 Zzzz4 Ital36 Zzzz9 Ital3 Goth27 Zzzz5 Perm43 Zzzz5 Ugar30 Zzzz1 Ugar1
Xpeo36 Zzzz4 Xpeo14 Zzzz42 Dsrt80 Shaw48 Osma30 Zzzz2 Osma10 Zzzz6 Osge36 Zzzz4 Osge36 Zzzz4
Elba40 Zzzz8 Aghb52 Zzzz11 Aghb1 Vith11 Zzzz1 Vith15 Zzzz1 Vith7 Zzzz1 Vith2 Zzzz1 Vith11 Zzzz1
Vith15 Zzzz1 Vith7 Zzzz1 Vith2 Zzzz3 Todr52 Zzzz12 Lina311 Zzzz9 Lina22 Zzzz10 Lina8 Zzzz24 Latn6
Zzzz1 Latn42 Zzzz1 Latn9 Zzzz69 Cprt6 Zzzz2 Cprt1 Zzzz1 Cprt44 Zzzz1 Cprt2 Zzzz3 Cprt1 Zzzz2 Cprt1
Armi22 Zzzz1 Armi9 Palm32 Nbat31 Zzzz8 Nbat9 Zzzz48 Hatr19 Zzzz1 Hatr2 Zzzz5 Hatr5 Phnx28 Zzzz3
Phnx1 Lydi26 Zzzz5 Lydi1 Sidt26 Zzzz38 Mero32 Merc24 Zzzz4 Merc20 Zzzz2 Merc46 Khar4 Zzzz1 Khar2
Zzzz5 Khar8 Zzzz1 Khar3 Zzzz1 Khar29 Zzzz2 Khar3 Zzzz4 Khar10 Zzzz7 Khar9 Zzzz7 Sarb32 Narb32
Zzzz32 Mani39 Zzzz4 Mani12 Zzzz9 Avst54 Zzzz3 Avst7 Prti22 Zzzz2 Prti8 Phli19 Zzzz5 Phli8 Phlp18
Zzzz7 Phlp4 Zzzz12 Phlp7 Zzzz80 Orkh73 Zzzz55 Hung51 Zzzz13 Hung51 Zzzz7 Hung6 Rohg40 Zzzz8 Rohg10
Zzzz6 Gara38 Zzzz3 Gara29 Zzzz8 Gara2 Zzzz208 Arab31 Zzzz1 Yezi42 Zzzz1 Yezi3 Zzzz2 Yezi2 Zzzz16
Arab6 Zzzz8 Arab9 Zzzz33 Arab6 Sogo40 Zzzz8 Sogd42 Zzzz22 Ougr26 Zzzz38 Chrs28 Zzzz20 Elym23 Zzzz9
Brah78 Zzzz4 Brah36 Zzzz9 Brah1 Kthi67 Zzzz10 Kthi1 Zzzz2 Sora25 Zzzz7 Sora10 Zzzz6 Cakm53 Zzzz1
Cakm18 Zzzz8 Mahj39 Zzzz9 Shrd96 Zzzz1 Sinh20 Zzzz11 Khoj18 Zzzz1 Khoj47 Zzzz62 Mult7 Zzzz1 Mult1
Zzzz1 Mult4 Zzzz1 Mult15 Zzzz1 Mult11 Zzzz6 Sind59 Zzzz5 Sind10 Zzzz6 Gran4 Zzzz1 Gran8 Zzzz2
Gran2 Zzzz2 Gran22 Zzzz1 Gran7 Zzzz1 Gran2 Zzzz1 Gran5 Zzzz1 Zinh1 Gran9 Zzzz2 Gran2 Zzzz2 Gran3
Zzzz2 Gran1 Zzzz6 Gran1 Zzzz5 Gran7 Zzzz2 Gran7 Zzzz3 Gran5 Zzzz11 Tutg10 Zzzz1 Tutg1 Zzzz2 Tutg1
Zzzz1 Tutg38 Zzzz1 Tutg10 Zzzz1 Tutg1 Zzzz2 Tutg1 Zzzz1 Tutg4 Zzzz1 Tutg10 Zzzz1 Tutg2 Zzzz8 Tutg2
Zzzz29 Newa92 Zzzz1 Newa5 Zzzz30 Tirh72 Zzzz8 Tirh10 Zzzz166 Sidd54 Zzzz2 Sidd38 Zzzz34 Modi69
Zzzz11 Modi10 Zzzz6 Mong13 Zzzz19 Takr58 Zzzz6 Takr10 Zzzz6 Mymr20 Zzzz28 Ahom27 Zzzz2 Ahom15
Zzzz4 Ahom23 Zzzz185 Dogr60 Zzzz100 Wara83 Zzzz12 Wara1 Diak7 Zzzz2 Diak1 Zzzz2 Diak8 Zzzz1 Diak2
Zzzz1 Diak30 Zzzz1 Diak2 Zzzz2 Diak12 Zzzz9 Diak10 Zzzz70 Nand8 Zzzz2 Nand46 Zzzz2 Nand11 Zzzz27
Zanb72 Zzzz8 Soyo83 Zzzz13 Cans16 Pauc57 Zzzz7 Deva10 Zzzz86 Shrd8 Zzzz88 Sunu34 Zzzz14 Sunu10
Zzzz6 Bhks9 Zzzz1 Bhks45 Zzzz1 Bhks14 Zzzz10 Bhks29 Zzzz3 Marc32 Zzzz2 Marc22 Zzzz1 Marc14 Zzzz73
Gonm7 Zzzz1 Gonm2 Zzzz1 Gonm44 Zzzz3 Gonm1 Zzzz1 Gonm2 Zzzz1 Gonm9 Zzzz8 Gonm10 Zzzz6 Gong6 Zzzz1
Gong2 Zzzz1 Gong37 Zzzz1 Gong2 Zzzz1 Gong6 Zzzz7 Gong10 Zzzz6 Tols44 Zzzz4 Tols10 Zzzz246 Maka25
Zzzz7 Kawi17 Zzzz1 Kawi41 Zzzz3 Kawi29 Zzzz85 Lisu1 Zzzz15 Taml50 Zzzz13 Taml1 Xsux922 Zzzz102
Xsux111 Zzzz1 Xsux5 Zzzz11 Xsux196 Zzzz2636 Cpmn99 Zzzz13 Egyp1110 Zzzz10 Egyp3995 Zzzz5 Hluw583
Zzzz6841 Gukh58 Zzzz1734 Bamu569 Zzzz7 Mroo31 Zzzz1 Mroo10 Zzzz4 Mroo2 Tnsa79 Zzzz1 Tnsa10 Zzzz6
Bass30 Zzzz2 Bass6 Zzzz10 Hmng70 Zzzz10 Hmng10 Zzzz1 Hmng7 Zzzz1 Hmng21 Zzzz5 Hmng19 Zzzz432
Krai58 Zzzz198 Medf91 Zzzz5 Berf25 Zzzz2 Berf25 Zzzz44 Plrd75 Zzzz4 Plrd57 Zzzz7 Plrd17 Zzzz64
Tang1 Nshu1 Hani2 Kits1 Zzzz11 Hani7 Zzzz9 Tang6912 Kits470 Zzzz41 Kits1 Tang31 Zzzz97 Tang115
Zzzz8701 Kana4 Zzzz1 Kana7 Zzzz1 Kana2 Zzzz1 Kana1 Hira287 Kana3 Zzzz15 Hira1 Zzzz29 Hira3 Zzzz2
Kana1 Zzzz14 Kana4 Zzzz8 Nshu396 Zzzz2308 Dupl107 Zzzz5 Dupl13 Zzzz3 Dupl9 Zzzz7 Dupl10 Zzzz2
Dupl4 Zyyy4 Zzzz3932 Zyyy253 Zzzz3 Zyyy436 Zzzz6 Zyyy23 Zzzz15 Zyyy17 Zzzz15 Zinh46 Zzzz2 Zinh23
Zzzz9 Zyyy116 Zzzz60 Zyyy246 Zzzz10 Zyyy39 Zzzz2 Zyyy62 Zinh3 Zyyy17 Zinh8 Zyyy2 Zinh7 Zyyy30
Zinh4 Zyyy61 Zzzz21 Grek70 Zzzz122 Zyyy20 Zzzz12 Zyyy20 Zzzz12 Zyyy87 Zzzz9 Zyyy25 Zzzz135 Zyyy85
Zzzz1 Zyyy71 Zzzz1 Zyyy2 Zzzz2 Zyyy1 Zzzz2 Zyyy2 Zzzz2 Zyyy4 Zzzz1 Zyyy12 Zzzz1 Zyyy1 Zzzz1 Zyyy7
Zzzz1 Zyyy65 Zzzz1 Zyyy4 Zzzz2 Zyyy8 Zzzz1 Zyyy7 Zzzz1 Zyyy28 Zzzz1 Zyyy4 Zzzz1 Zyyy5 Zzzz1 Zyyy1
Zzzz3 Zyyy7 Zzzz1 Zyyy340 Zzzz2 Zyyy292 Zzzz2 Zyyy50 Sgnw652 Zzzz15 Sgnw5 Zzzz1 Sgnw15 Zzzz1104
Latn31 Zzzz6 Latn6 Zzzz213 Glag7 Zzzz1 Glag17 Zzzz2 Glag7 Zzzz1 Glag2 Zzzz1 Glag5 Zzzz5 Cyrl62
Zzzz33 Cyrl1 Zzzz112 Hmnp45 Zzzz3 Hmnp14 Zzzz2 Hmnp10 Zzzz4 Hmnp2 Zzzz320 Toto31 Zzzz17 Wcho58
Zzzz5 Wcho1 Zzzz464 Nagm42 Zzzz214 Onao43 Zzzz4 Onao1 Zzzz192 Tayo31 Zzzz1 Tayo22 Zzzz8 Tayo2
Zzzz224 Ethi7 Zzzz1 Ethi4 Zzzz1 Ethi2 Zzzz1 Ethi15 Zzzz1 Mend197 Zzzz2 Mend16 Zzzz41 Adlm76 Zzzz4
Adlm10 Zzzz4 Adlm2 Zzzz785 Zyyy68 Zzzz76 Zyyy61 Zzzz194 Arab4 Zzzz1 Arab27 Zzzz1 Arab2 Zzzz1 Arab1
Zzzz2 Arab1 Zzzz1 Arab10 Zzzz1 Arab4 Zzzz1 Arab1 Zzzz1 Arab1 Zzzz6 Arab1 Zzzz4 Arab1 Zzzz1 Arab1
Zzzz1 Arab1 Zzzz1 Arab3 Zzzz1 Arab2 Zzzz1 Arab1 Zzzz2 Arab1 Zzzz1 Arab1 Zzzz1 Arab1 Zzzz1 Arab1
Zzzz1 Arab1 Zzzz1 Arab2 Zzzz1 Arab1 Zzzz2 Arab4 Zzzz1 Arab7 Zzzz1 Arab4 Zzzz1 Arab4 Zzzz1 Arab1
Zzzz1 Arab10 Zzzz1 Arab17 Zzzz5 Arab3 Zzzz1 Arab5 Zzzz1 Arab17 Zzzz52 Arab2 Zzzz270 Zyyy44 Zzzz4
Zyyy100 Zzzz12 Zyyy15 Zzzz2 Zyyy15 Zzzz1 Zyyy15 Zzzz1 Zyyy37 Zzzz10 Zyyy174 Zzzz56 Zyyy26 Hira1
Zyyy2 Zzzz13 Zyyy44 Zzzz4 Zyyy9 Zzzz7 Zyyy2 Zzzz14 Zyyy6 Zzzz154 Zyyy985 Zzzz3 Zyyy17 Zzzz3 Zyyy13
Zzzz3 Zyyy218 Zzzz6 Zyyy12 Zzzz4 Zyyy1 Zzzz15 Zyyy12 Zzzz4 Zyyy56 Zzzz8 Zyyy10 Zzzz6 Zyyy40 Zzzz8
Zyyy30 Zzzz2 Zyyy12 Zzzz4 Zyyy2 Zzzz14 Zyyy9 Zzzz39 Zyyy344 Zzzz8 Zyyy14 Zzzz2 Zyyy13 Zzzz3 Zyyy11
Zzzz3 Zyyy57 Zzzz1 Zyyy1 Zzzz4 Zyyy16 Zzzz2 Zyyy12 Zzzz4 Zyyy10 Zzzz7 Zyyy147 Zzzz1 Zyyy103
Zzzz1029 Hani42720 Zzzz32 Hani4382 Zzzz2 Hani5774 Zzzz2 Hani7473 Zzzz15 Hani622 Zzzz2466 Hani542
Zzzz1506 Hani4939 Zzzz5 Hani8490 Zzzz707463 Zyyy1 Zzzz30 Zyyy96 Zzzz128 Zinh240 Zzzz196112"

/-- One run: four letters and then a length. -/
def run? (word : String) : Option (Nat × String) :=
  match CodeSet.numbers word with
  | [n] => some (n, String.ofList (word.toList.take 4))
  | _ => none

def table : Runs String :=
  Runs.ofLengths <|
    (runsText.split fun c => c == ' ' || c == '\n').toList.filterMap fun w => run? w.toString

/-- The script of a character, as its four letters. -/
def codeOf (c : Char) : String := (table.label? c.toNat).getD "Zzzz"

/-- The script of these names whose extended runs are written in `text`. -/
def ofText (code : String) (names : List String) (text : String) : Script :=
  ⟨code, names, CodeSet.ofText text⟩

def all : List Script := [
  ofText "Adlm" ["Adlam"] "
1567 1 32 1 6670 1 3569 1 113342 76 4 10 4 2",
  ofText "Aghb" ["Caucasian_Albanian"] "
772 1 44 1 44 1 66001 52 11 1",
  ofText "Ahom" ["Ahom"] "
71424 27 2 15 4 23",
  ofText "Arab" ["Arabic"] "
1536 5 1 215 1 34 80 48 240 34 5 75 1 29 5967 1 3569 1 52494 640 32 16 112 5 1 135 995 28 2916 31
67 6 8 9 33 6 57088 4 1 27 1 2 1 1 2 1 1 10 1 4 1 1 1 1 6 1 4 1 1 1 1 1 1 3 1 2 1 1 2 1 1 1 1 1 1
1 1 1 1 2 1 1 2 4 1 7 1 4 1 4 1 1 1 10 1 17 5 3 1 5 1 17 52 2",
  ofText "Armi" ["Imperial_Aramaic"] "
67648 22 1 9",
  ofText "Armn" ["Armenian"] "
776 1 552 38 2 50 2 3 62851 5",
  ofText "Avst" ["Avestan"] "
183 1 11640 2 56526 54 3 7",
  ofText "Bali" ["Balinese"] "
6912 77 1 50",
  ofText "Bamu" ["Bamum"] "
42656 88 49416 569",
  ofText "Bass" ["Bassa_Vah"] "
92880 30 2 6",
  ofText "Batk" ["Batak"] "
7104 52 8 4",
  ofText "Beng" ["Bengali"] "
700 1 1684 2 17 2 26 4 1 8 2 2 2 22 1 7 1 1 3 4 2 9 2 2 2 4 8 1 4 2 1 5 2 25 4817 1 1 1 2 2 1 1 8
1 8 1 2 1 4 1 2 3 35833 1",
  ofText "Bhks" ["Bhaiksuki"] "
72704 9 1 45 1 14 10 29",
  ofText "Bopo" ["Bopomofo"] "
711 1 1 3 13 1 16 2 11541 3 4 10 1 13 10 4 2 1 6 1 195 1 9 43 112 32 52357 2 282 5",
  ofText "Brah" ["Brahmi"] "
69632 78 4 36 9 1",
  ofText "Brai" ["Braille"] "
10240 256",
  ofText "Bugi" ["Buginese"] "
6656 28 2 2 36783 1",
  ofText "Buhd" ["Buhid"] "
5941 2 9 20",
  ofText "Cakm" ["Chakma"] "
2534 10 1616 10 65718 53 1 18",
  ofText "Cans" ["Canadian_Aboriginal"] "
5120 640 560 70 65978 16",
  ofText "Cari" ["Carian"] "
183 1 8098 1 2 1 3539 1 54382 49",
  ofText "Cham" ["Cham"] "
43520 55 9 14 2 10 2 4",
  ofText "Cher" ["Cherokee"] "
768 3 1 1 6 2 22 2 11 2 4206 86 2 6 38770 80",
  ofText "Chrs" ["Chorasmian"] "
69552 28",
  ofText "Copt" ["Coptic", "Qaac"] "
183 1 584 1 3 2 1 1 108 2 108 14 10384 116 5 7 279 1 54472 28",
  ofText "Cpmn" ["Cypro_Minoan"] "
65792 2 11918 99",
  ofText "Cprt" ["Cypriot"] "
65792 3 4 45 3 9 1728 6 2 1 1 44 1 2 3 1 2 1",
  ofText "Cyrl" ["Cyrillic"] "
700 1 67 3 1 1 1 1 1 1 2 1 5 1 238 304 5968 11 160 1 76 1 127 1 4071 32 67 1 30716 96 22414 2
57856 62 33 1",
  ofText "Deva" ["Devanagari"] "
700 1 1603 83 2 43 4944 39 1 2 1014 1 34623 10 166 32 29184 10",
  ofText "Diak" ["Dives_Akuru"] "
71936 7 2 1 2 8 1 2 1 30 1 2 2 12 9 10",
  ofText "Dogr" ["Dogra"] "
2404 12 40640 10 28614 60",
  ofText "Dsrt" ["Deseret"] "
66560 80",
  ofText "Dupl" ["Duployan"] "
183 1 591 2 1 1 24 2 11031 1 101827 107 5 13 3 9 7 10 2 8",
  ofText "Egyp" ["Egyptian_Hieroglyphs"] "
77824 1110 10 3995",
  ofText "Elba" ["Elbasan"] "
183 1 589 1 66042 40",
  ofText "Elym" ["Elymaic"] "
69600 23",
  ofText "Ethi" ["Ethiopic"] "
782 1 3825 73 1 4 2 7 1 1 1 4 2 41 1 4 2 33 1 4 2 7 1 1 1 4 2 15 1 57 1 4 2 67 2 32 3 26 6630 23 9
7 1 7 1 7 1 7 1 7 1 7 1 7 1 7 32034 6 2 6 2 6 9 7 1 7 81073 7 1 4 1 2 1 15",
  ofText "Geor" ["Georgian"] "
183 1 1233 1 2838 38 1 1 5 1 2 48 2960 43 2 3 922 1 3237 38 1 1 5 1 259 1",
  ofText "Glag" ["Glagolitic"] "
183 1 587 1 1 1 382 1 2 1 257 1 2929 1 3934 1 2981 96 483 1 30763 1 80272 7 1 17 2 7 1 2 1 5",
  ofText "Gong" ["Gunjala_Gondi"] "
183 1 2220 2 70650 6 1 2 1 37 1 2 1 6 7 10",
  ofText "Gonm" ["Masaram_Gondi"] "
2404 2 70554 7 1 2 1 44 3 1 1 2 1 9 8 10",
  ofText "Goth" ["Gothic"] "
183 1 588 2 2 1 40 1 65534 27",
  ofText "Gran" ["Grantha"] "
2385 2 17 2 640 14 4316 1 1 2 30 3 3 2 1014 1 61967 4 1 8 2 2 2 22 1 7 1 2 1 5 1 10 2 2 2 3 2 1 6
1 5 7 2 7 3 5 3163 2 1 1",
  ofText "Grek" ["Greek"] "
183 1 584 2 2 1 1 1 1 1 10 1 46 1 2 1 42 8 2 4 1 1 4 1 1 1 1 3 1 1 1 20 1 63 14 16 6438 5 50 5 4 5
84 3 318 22 2 6 2 38 2 6 2 8 1 1 1 1 1 1 1 31 2 53 1 15 1 14 2 6 1 19 2 3 1 9 94 1 200 1 35390 1
21978 79 17 1 53343 70",
  ofText "Gujr" ["Gujarati"] "
2385 2 17 2 283 3 1 9 1 3 1 22 1 7 1 2 1 5 2 10 1 3 1 3 2 1 15 4 2 12 7 7 40240 10",
  ofText "Guru" ["Gurmukhi"] "
2385 2 17 2 155 3 1 6 4 2 2 22 1 7 1 2 1 2 1 2 2 1 1 5 4 2 2 3 3 1 7 4 1 1 7 17 40377 10",
  ofText "Hang" ["Hangul"] "
4352 256 7681 3 4 10 1 13 14 3 6 1 195 1 53 94 113 31 65 31 30433 29 643 11172 12 23 4 49 9801 2
282 5 58 31 3 6 2 6 2 6 2 3",
  ofText "Hani" ["Han"] "
183 1 11720 26 1 89 12 214 26 16 1 3 1 13 1 13 1 13 2 1 6 9 187 1 148 16 32 38 9 1 48 40 56 49 15
12 51 1 88 25 10 5 96 31 1 6592 64 20992 1792 8 20984 366 2 106 875 2 282 5 28796 2 12 7 25449 18
7902 2 3502 42720 32 4382 2 5774 2 7473 15 622 2466 542 1506 4939 5 8490",
  ofText "Hano" ["Hanunoo"] "
5920 23",
  ofText "Hatr" ["Hatran"] "
67808 19 1 2 5 5",
  ofText "Hebr" ["Hebrew"] "
775 2 648 55 8 27 4 6 62760 26 1 5 1 1 1 2 1 2 1 10",
  ofText "Hira" ["Hiragana"] "
12289 3 4 10 1 13 16 6 1 1 4 2 3 86 2 8 90 2 52552 2 282 5 10 1 45 2 45153 287 18 1 29 3 16557 1",
  ofText "Hluw" ["Anatolian_Hieroglyphs"] "
82944 583",
  ofText "Hmng" ["Pahawh_Hmong"] "
92928 70 10 10 1 7 1 21 5 19",
  ofText "Hmnp" ["Nyiakeng_Puachue_Hmong"] "
123136 45 3 14 2 10 4 2",
  ofText "Hung" ["Old_Hungarian"] "
8282 1 2 1 3539 1 15 1 56894 51 13 51 7 6",
  ofText "Ital" ["Old_Italic"] "
66304 36 9 3",
  ofText "Java" ["Javanese"] "
43392 78 1 11 4 2",
  ofText "Kali" ["Kayah_Li"] "
43264 48",
  ofText "Kana" ["Katakana"] "
773 1 29 1 11485 3 4 10 1 13 16 6 1 1 4 2 91 4 3 96 240 16 208 47 1 88 51949 2 282 63 45136 4 1 7
1 2 1 1 287 3 50 1 14 4",
  ofText "Kawi" ["Kawi"] "
73472 17 1 41 3 29",
  ofText "Khar" ["Kharoshthi"] "
68096 4 1 2 5 8 1 3 1 29 2 3 4 10 7 9",
  ofText "Khmr" ["Khmer"] "
6016 94 2 10 6 10 486 32",
  ofText "Khoj" ["Khojki"] "
2790 10 40256 10 27078 18 1 47",
  ofText "Kits" ["Khitan_Small_Script"] "
94180 1 6939 470 41 1",
  ofText "Knda" ["Kannada"] "
2385 2 17 2 794 13 1 3 1 23 1 10 1 5 2 9 1 3 1 4 7 2 5 3 1 4 2 10 1 3 4060 1 1 2 6 1 23 1 1 1
35643 6",
  ofText "Kthi" ["Kaithi"] "
2406 10 9409 1 31230 10 26694 67 10 1",
  ofText "Lana" ["Tai_Tham"] "
6688 63 1 29 2 11 6 10 6 14",
  ofText "Laoo" ["Lao"] "
3713 2 1 1 1 5 1 24 1 1 1 23 2 5 1 1 1 7 1 10 2 4",
  ofText "Latn" ["Latin"] "
65 26 6 26 47 1 12 1 2 1 5 23 1 31 1 449 3 1 10 1 1 3 1 1 9 1 1 1 6 5 27 15 1 2 1 1 15 3 7 2 1 2
38 1 5 1 4 13 277 2 1226 2 1960 1 3076 38 6 49 5 4 5 13 1 70 57 1 7 256 303 1 65 1 13 1 16 13 83 1
57 2 6 1 27 1 17 41 2775 32 407 1 30952 8 26 102 3 82 20 15 302 1 513 43 1 9 1 4 20374 7 1050 26 6
26 2085 6 1 42 1 9 55109 31 6 6",
  ofText "Lepc" ["Lepcha"] "
7168 56 3 15 3 3",
  ofText "Limb" ["Limbu"] "
2405 1 3994 31 1 12 4 12 4 1 3 12",
  ofText "Lina" ["Linear_A"] "
65799 45 1228 311 9 22 10 8",
  ofText "Linb" ["Linear_B"] "
65536 12 1 26 1 19 1 2 1 15 2 14 34 123 5 3 4 45 3 9",
  ofText "Lisu" ["Lisu"] "
700 1 16 1 11580 2 29892 48 31408 1",
  ofText "Lyci" ["Lycian"] "
8282 1 57893 29",
  ofText "Lydi" ["Lydian"] "
183 1 11641 1 56046 26 5 1",
  ofText "Mahj" ["Mahajani"] "
183 1 2220 12 40640 10 26902 39",
  ofText "Maka" ["Makasar"] "
73440 25",
  ofText "Mand" ["Mandaic"] "
1600 1 511 28 2 1",
  ofText "Mani" ["Manichaean"] "
1600 1 66687 39 4 12",
  ofText "Marc" ["Marchen"] "
72816 32 2 22 1 14",
  ofText "Medf" ["Medefaidrin"] "
93760 91",
  ofText "Mend" ["Mende_Kikakui"] "
124928 197 2 16",
  ofText "Merc" ["Meroitic_Cursive"] "
68000 24 4 20 2 46",
  ofText "Mero" ["Meroitic_Hieroglyphs"] "
8285 1 59682 32",
  ofText "Mlym" ["Malayalam"] "
2385 2 17 2 922 13 1 3 1 51 1 3 1 6 4 16 2 26 3930 1 23 1 35645 3",
  ofText "Modi" ["Modi"] "
43056 10 28102 69 11 10",
  ofText "Mong" ["Mongolian"] "
6144 26 6 89 7 43 1924 1 4049 2 5 4 58964 13",
  ofText "Mroo" ["Mro"] "
92736 31 1 10 4 2",
  ofText "Mtei" ["Meetei_Mayek"] "
43744 23 201 46 2 10",
  ofText "Mult" ["Multani"] "
2662 10 67600 7 1 1 1 4 1 15 1 11",
  ofText "Mymr" ["Myanmar"] "
4096 160 39054 1 177 31 97 32 27728 20",
  ofText "Nagm" ["Nag_Mundari"] "
124112 42",
  ofText "Nand" ["Nandinagari"] "
2385 1 18 2 896 10 4089 1 8 1 7 1 35637 6 29034 8 2 46 2 11",
  ofText "Narb" ["Old_North_Arabian"] "
68224 32",
  ofText "Nbat" ["Nabataean"] "
67712 31 8 9",
  ofText "Newa" ["Newa"] "
2385 2 4994 1 1 2 9 1 6 1 1 1 1 1 63250 92 1 5",
  ofText "Nkoo" ["Nko"] "
1548 1 14 1 3 1 416 59 2 3 62782 2",
  ofText "Nshu" ["Nushu"] "
94177 1 16782 396",
  ofText "Ogam" ["Ogham"] "
5760 29",
  ofText "Olck" ["Ol_Chiki"] "
7248 48",
  ofText "Orkh" ["Old_Turkic"] "
8282 1 3541 1 56783 73",
  ofText "Orya" ["Oriya"] "
2385 2 17 2 411 3 1 8 2 2 2 22 1 7 1 2 1 5 2 9 2 2 2 3 7 3 4 2 1 5 2 18 4450 1 23 1",
  ofText "Osge" ["Osage"] "
769 1 2 1 6 1 76 1 65879 36 4 36",
  ofText "Osma" ["Osmanya"] "
66688 30 2 10",
  ofText "Ougr" ["Old_Uyghur"] "
1600 1 66737 1 1149 26",
  ofText "Palm" ["Palmyrene"] "
67680 32",
  ofText "Pauc" ["Pau_Cin_Hau"] "
72384 57",
  ofText "Perm" ["Old_Permic"] "
183 1 584 1 5 3 10 1 367 1 65228 43",
  ofText "Phag" ["Phags_Pa"] "
6146 2 1 1 2089 1 4050 1 30781 56",
  ofText "Phli" ["Inscriptional_Pahlavi"] "
68448 19 5 8",
  ofText "Phlp" ["Psalter_Pahlavi"] "
1600 1 66879 18 7 4 12 7",
  ofText "Phnx" ["Phoenician"] "
67840 28 3 1",
  ofText "Plrd" ["Miao"] "
93952 75 4 57 7 17",
  ofText "Prti" ["Inscriptional_Parthian"] "
68416 22 2 8",
  ofText "Rjng" ["Rejang"] "
43312 36 11 1",
  ofText "Rohg" ["Hanifi_Rohingya"] "
1548 1 14 1 3 1 32 1 147 1 67115 40 8 10",
  ofText "Runr" ["Runic"] "
5792 89",
  ofText "Samr" ["Samaritan"] "
2048 46 2 15 9714 1",
  ofText "Sarb" ["Old_South_Arabian"] "
68192 32",
  ofText "Saur" ["Saurashtra"] "
43136 70 8 12",
  ofText "Sgnw" ["SignWriting"] "
120832 652 15 5 1 15",
  ofText "Shaw" ["Shavian"] "
183 1 66456 48",
  ofText "Shrd" ["Sharada"] "
2385 1 4997 1 1 1 2 2 2 1 9 1 2 1 35650 6 2 1 26951 96 2432 8",
  ofText "Sidd" ["Siddham"] "
71040 54 2 38",
  ofText "Sind" ["Khudawadi"] "
2404 2 40650 10 27254 59 5 10",
  ofText "Sinh" ["Sinhala"] "
2404 2 1051 3 1 18 3 24 1 9 1 1 2 7 3 1 4 6 1 1 1 8 6 10 2 3 3837 1 62702 20",
  ofText "Sogd" ["Sogdian"] "
1600 1 67823 42",
  ofText "Sogo" ["Old_Sogdian"] "
69376 40",
  ofText "Sora" ["Sora_Sompeng"] "
69840 25 7 10",
  ofText "Soyo" ["Soyombo"] "
72272 83",
  ofText "Sund" ["Sundanese"] "
7040 64 256 8",
  ofText "Sylo" ["Syloti_Nagri"] "
2404 2 128 10 40464 45",
  ofText "Syrc" ["Syriac"] "
771 2 2 2 1 1 24 3 7 2 1 2 730 1 14 2 2 1 32 1 10 11 26 1 143 14 1 60 2 3 272 11 5517 1 1 1",
  ofText "Tagb" ["Tagbanwa"] "
5941 2 41 13 1 3 1 2",
  ofText "Takr" ["Takri"] "
2404 2 40650 10 28230 58 6 10",
  ofText "Tale" ["Tai_Le"] "
768 2 5 2 3 1 3379 10 2310 30 2 5",
  ofText "Talu" ["New_Tai_Lue"] "
6528 44 4 26 6 11 3 2",
  ofText "Taml" ["Tamil"] "
2385 2 17 2 540 2 1 6 3 3 1 4 3 2 1 1 1 2 3 2 3 3 3 12 4 5 3 3 1 4 2 1 6 1 14 21 4319 1 35864 1
27149 1 1 1 55 2 3203 50 13 1",
  ofText "Tang" ["Tangut"] "
12272 16 495 1 81392 1 31 6912 512 31 97 115",
  ofText "Tavt" ["Tai_Viet"] "
43648 67 24 5",
  ofText "Telu" ["Telugu"] "
2385 2 17 2 666 13 1 3 1 23 1 16 2 9 1 3 1 4 7 2 1 3 1 2 2 4 2 10 7 9 4181 2 1 1 1 1 23 1",
  ofText "Tfng" ["Tifinagh"] "
770 1 1 1 1 4 25 1 10764 56 7 2 14 1",
  ofText "Tglg" ["Tagalog"] "
5888 22 9 1 21 2",
  ofText "Thaa" ["Thaana"] "
1548 1 14 2 2 1 64 10 278 50 63040 1 10 1",
  ofText "Thai" ["Thai"] "
700 1 26 1 43 1 45 1 2767 58 5 28",
  ofText "Tibt" ["Tibetan"] "
3840 72 1 36 4 39 1 36 1 15 1 7 4 2 8237 4",
  ofText "Tirh" ["Tirhuta"] "
2385 2 17 2 4975 1 12 1 15 1 35645 10 27718 72 8 10",
  ofText "Tnsa" ["Tangsa"] "
92784 79 1 10",
  ofText "Toto" ["Toto"] "
700 1 122835 31",
  ofText "Ugar" ["Ugaritic"] "
66432 30 1 1",
  ofText "Vaii" ["Vai"] "
42240 300",
  ofText "Vith" ["Vithkuqi"] "
66928 11 1 15 1 7 1 2 1 11 1 15 1 7 1 2",
  ofText "Wara" ["Warang_Citi"] "
71840 83 12 1",
  ofText "Wcho" ["Wancho"] "
123584 58 5 1",
  ofText "Xpeo" ["Old_Persian"] "
66464 36 4 14",
  ofText "Xsux" ["Cuneiform"] "
73728 922 102 111 1 5 11 196",
  ofText "Yezi" ["Yezidi"] "
1548 1 14 1 3 1 64 10 67606 42 1 3 2 2",
  ofText "Yiii" ["Yi"] "
12289 2 5 10 2 8 223 1 28420 1165 3 55 23194 5",
  ofText "Zanb" ["Zanabazar_Square"] "
72192 72",
  ofText "Zinh" ["Inherited", "Qaai"] "
783 1 2 1 1 15 3 7 2 1 2 16 1 2 1 18 1 5 1 4 1520 2 4443 46 2 12 726 54 1 1 1 5 524 2 194 32 56592
16 16 14 975 1 52482 46 2 23 544 3 17 8 2 7 30 4 798546 240",
  ofText "Zyyy" ["Common"] "
0 65 26 6 26 47 1 12 1 2 1 5 23 1 31 1 449 3 1 10 1 1 3 1 1 9 1 1 1 6 5 5 2 20 126 1 6 1 1 1 637 1
215 1 516 1 1372 1 405 4 4135 12 2 33 1 31 1 10 1 2 1 7 1 11 3 11 1 15 17 34 62 38 1 3 2 6 1 27 1
17 41 3 4 666 22 11 21 928 256 628 2 138 512 23 1 24 2 10 1 4 1 1 1 26 418 1 3 1 13 1 13 1 21 1
529 24 31 1 49 15 12 4 161 10 5 96 31 1 6592 64 22792 26 102 3 976 1 14 2 21156 10 22 21 2 12 1 19
1 4 147 1 1 32 26 6 26 6 127 7 1 7 10 5 402 13 51 45 51715 253 3 436 6 23 15 17 95 116 60 246 10
39 2 62 3 17 8 2 7 30 4 61 213 20 12 20 12 87 27 7 135 85 1 71 1 2 2 1 2 2 2 4 1 12 1 1 1 7 1 65 1
4 2 8 1 7 1 28 1 4 1 5 1 1 3 7 1 340 2 292 2 50 5233 68 76 61 706 44 4 100 12 15 2 15 1 15 1 37 10
174 56 26 1 2 13 44 4 9 23 6 154 985 3 17 3 13 3 218 6 12 4 1 15 12 4 56 8 10 6 40 8 30 2 12 4 2
14 9 39 344 8 14 2 13 3 11 3 57 1 1 4 16 2 12 4 10 7 147 1 103 787462 1 30 96",
  ofText "Gara" ["Garay"] "
1548 1 14 1 3 1 67360 38 3 29 8 2",
  ofText "Gukh" ["Gurung_Khema"] "
2405 1 87962 58",
  ofText "Krai" ["Kirat_Rai"] "
93504 58",
  ofText "Onao" ["Ol_Onal"] "
2404 2 121962 43 4 1",
  ofText "Sunu" ["Sunuwar"] "
768 2 1 1 9 1 2 1 28 1 3 1 71822 34 14 10",
  ofText "Todr" ["Todhri"] "
769 1 2 1 2 1 9 1 1 1 74 1 66145 52",
  ofText "Tutg" ["Tulu_Tigalari"] "
3302 10 4098 1 1 1 35643 6 187 1 27278 10 1 1 2 1 1 38 1 10 1 1 2 1 1 4 1 10 1 2 8 2",
  ofText "Sidt" ["Sidetic"] "
67904 26",
  ofText "Tols" ["Tolong_Siki"] "
73136 44 4 10",
  ofText "Berf" ["Beria_Erfe"] "
93856 25 2 25",
  ofText "Tayo" ["Tai_Yo"] "
124608 31 1 22 8 2"]

/-- Whether a character belongs to the script. -/
def contains (s : Script) (c : Char) : Bool := codeOf c == s.code

end Script

end ModemScript.Unicode

import DatasetLint.Unicode.CharSet

/-!
# Scripts

Every code point belongs to one script, known by four letters, and may be used with others.
-/

namespace DatasetLint.Unicode

/-- The runs of one script. -/
def scripts : CharMap String := .ofPairs String.ofList [
  "0 Zyyy 1t Latn q Zyyy 6 Latn q Zyyy 1b Latn 1 Zyyy f Latn 1 Zyyy 5 Latn n Zyyy 1 Latn",
  "v Zyyy 1 Latn ch Zyyy 13 Latn 5 Zyyy 5 Bopo 2 Zyyy k Zinh 34 Grek 4 Zyyy 1 Grek 3 Zzzz",
  "2 Grek 4 Zyyy 1 Grek 1 Zzzz 4 Grek 1 Zyyy 1 Grek 1 Zyyy 1 Grek 3 Zzzz 1 Grek 1 Zzzz",
  "1 Grek k Zzzz 1 Grek 1r Copt e Grek g Cyrl 3p Zinh 2 Cyrl 4p Zzzz 1 Armn 12 Zzzz 2 Armn",
  "1e Zzzz 2 Armn 3 Zzzz 1 Hebr 1j Zzzz 8 Hebr r Zzzz 4 Hebr 6 Zzzz b Arab 5 Zyyy 1 Arab",
  "6 Zyyy 1 Arab e Zyyy 1 Arab 3 Zyyy 1 Arab w Zyyy 1 Arab a Zinh b Arab q Zinh 1 Arab",
  "30 Zyyy 1 Arab y Syrc e Zzzz 1 Syrc 1o Zzzz 2 Syrc 3 Arab 1c Thaa 1e Zzzz e Nkoo 1n Zzzz",
  "2 Nkoo 3 Samr 1a Zzzz 2 Samr f Zzzz 1 Mand s Zzzz 2 Mand 1 Zzzz 1 Syrc b Zzzz 5 Arab",
  "v Zzzz 1 Arab 2 Zzzz 6 Arab 22 Zyyy 1 Arab t Deva 29 Zinh 4 Deva f Zyyy 2 Deva q Beng",
  "4 Zzzz 1 Beng 8 Zzzz 2 Beng 2 Zzzz 2 Beng m Zzzz 1 Beng 7 Zzzz 1 Beng 1 Zzzz 3 Beng",
  "4 Zzzz 2 Beng 9 Zzzz 2 Beng 2 Zzzz 2 Beng 4 Zzzz 8 Beng 1 Zzzz 4 Beng 2 Zzzz 1 Beng",
  "5 Zzzz 2 Beng p Zzzz 2 Guru 3 Zzzz 1 Guru 6 Zzzz 4 Guru 2 Zzzz 2 Guru m Zzzz 1 Guru",
  "7 Zzzz 1 Guru 2 Zzzz 1 Guru 2 Zzzz 1 Guru 2 Zzzz 2 Guru 1 Zzzz 1 Guru 5 Zzzz 4 Guru",
  "2 Zzzz 2 Guru 3 Zzzz 3 Guru 1 Zzzz 7 Guru 4 Zzzz 1 Guru 1 Zzzz 7 Guru h Zzzz a Gujr",
  "3 Zzzz 1 Gujr 9 Zzzz 1 Gujr 3 Zzzz 1 Gujr m Zzzz 1 Gujr 7 Zzzz 1 Gujr 2 Zzzz 1 Gujr",
  "5 Zzzz 2 Gujr a Zzzz 1 Gujr 3 Zzzz 1 Gujr 3 Zzzz 2 Gujr 1 Zzzz f Gujr 4 Zzzz 2 Gujr",
  "c Zzzz 7 Gujr 7 Zzzz 1 Orya 3 Zzzz 1 Orya 8 Zzzz 2 Orya 2 Zzzz 2 Orya m Zzzz 1 Orya",
  "7 Zzzz 1 Orya 2 Zzzz 1 Orya 5 Zzzz 2 Orya 9 Zzzz 2 Orya 2 Zzzz 2 Orya 3 Zzzz 7 Orya",
  "3 Zzzz 4 Orya 2 Zzzz 1 Orya 5 Zzzz 2 Orya i Zzzz a Taml 2 Zzzz 1 Taml 6 Zzzz 3 Taml",
  "3 Zzzz 1 Taml 4 Zzzz 3 Taml 2 Zzzz 1 Taml 1 Zzzz 1 Taml 2 Zzzz 3 Taml 2 Zzzz 3 Taml",
  "3 Zzzz 3 Taml c Zzzz 4 Taml 5 Zzzz 3 Taml 3 Zzzz 1 Taml 4 Zzzz 2 Taml 1 Zzzz 6 Taml",
  "1 Zzzz e Taml l Zzzz 5 Telu d Zzzz 1 Telu 3 Zzzz 1 Telu n Zzzz 1 Telu g Zzzz 2 Telu",
  "9 Zzzz 1 Telu 3 Zzzz 1 Telu 4 Zzzz 7 Telu 2 Zzzz 1 Telu 3 Zzzz 2 Telu 1 Zzzz 2 Telu",
  "4 Zzzz 2 Telu a Zzzz 7 Telu 9 Knda d Zzzz 1 Knda 3 Zzzz 1 Knda n Zzzz 1 Knda a Zzzz",
  "1 Knda 5 Zzzz 2 Knda 9 Zzzz 1 Knda 3 Zzzz 1 Knda 4 Zzzz 7 Knda 2 Zzzz 6 Knda 2 Zzzz",
  "1 Knda 4 Zzzz 2 Knda a Zzzz 1 Knda 3 Zzzz c Mlym d Zzzz 1 Mlym 3 Zzzz 1 Mlym 1f Zzzz",
  "1 Mlym 3 Zzzz 1 Mlym 6 Zzzz 4 Mlym g Zzzz 2 Mlym q Zzzz 1 Sinh 3 Zzzz 1 Sinh i Zzzz",
  "3 Sinh o Zzzz 1 Sinh 9 Zzzz 1 Sinh 1 Zzzz 2 Sinh 7 Zzzz 3 Sinh 1 Zzzz 4 Sinh 6 Zzzz",
  "1 Sinh 1 Zzzz 1 Sinh 8 Zzzz 6 Sinh a Zzzz 2 Sinh 3 Zzzz c Thai 1m Zzzz 4 Zyyy 1 Thai",
  "s Zzzz 11 Laoo 2 Zzzz 1 Laoo 1 Zzzz 1 Laoo 5 Zzzz 1 Laoo o Zzzz 1 Laoo 1 Zzzz 1 Laoo",
  "n Zzzz 2 Laoo 5 Zzzz 1 Laoo 1 Zzzz 1 Laoo 7 Zzzz 1 Laoo a Zzzz 2 Laoo 4 Zzzz w Tibt",
  "20 Zzzz 1 Tibt 10 Zzzz 4 Tibt 13 Zzzz 1 Tibt 10 Zzzz 1 Tibt f Zzzz 1 Tibt 7 Zyyy 4 Tibt",
  "2 Zzzz 11 Mymr 4g Geor 12 Zzzz 1 Geor 1 Zzzz 5 Geor 1 Zzzz 2 Geor 17 Zyyy 1 Geor 4 Hang",
  "74 Ethi 21 Zzzz 1 Ethi 4 Zzzz 2 Ethi 7 Zzzz 1 Ethi 1 Zzzz 1 Ethi 4 Zzzz 2 Ethi 15 Zzzz",
  "1 Ethi 4 Zzzz 2 Ethi x Zzzz 1 Ethi 4 Zzzz 2 Ethi 7 Zzzz 1 Ethi 1 Zzzz 1 Ethi 4 Zzzz",
  "2 Ethi f Zzzz 1 Ethi 1l Zzzz 1 Ethi 4 Zzzz 2 Ethi 1v Zzzz 2 Ethi w Zzzz 3 Ethi q Zzzz",
  "6 Cher 2e Zzzz 2 Cher 6 Zzzz 2 Cans hs Ogam t Zzzz 3 Runr 23 Zyyy 3 Runr b Zzzz 7 Tglg",
  "m Zzzz 9 Tglg 1 Hano l Zyyy 2 Zzzz 9 Buhd k Zzzz c Tagb d Zzzz 1 Tagb 3 Zzzz 1 Tagb",
  "2 Zzzz c Khmr 2m Zzzz 2 Khmr a Zzzz 6 Khmr a Zzzz 6 Mong 2 Zyyy 2 Mong 1 Zyyy 1 Mong",
  "k Zzzz 6 Mong 2h Zzzz 7 Mong 17 Zzzz 5 Cans 1y Zzzz a Limb v Zzzz 1 Limb c Zzzz 4 Limb",
  "c Zzzz 4 Limb 1 Zzzz 3 Limb c Tale u Zzzz 2 Tale 5 Zzzz b Talu 18 Zzzz 4 Talu q Zzzz",
  "6 Talu b Zzzz 3 Talu 2 Khmr w Bugi s Zzzz 2 Bugi 2 Lana 1r Zzzz 1 Lana t Zzzz 2 Lana",
  "b Zzzz 6 Lana a Zzzz 6 Lana e Zzzz 2 Zinh v Zzzz 1d Bali 25 Zzzz 3 Bali 1b Zzzz 1 Sund",
  "1s Batk 1g Zzzz 8 Batk 4 Lepc 1k Zzzz 3 Lepc f Zzzz 3 Lepc 3 Olck 1c Cyrl 9 Zzzz 7 Geor",
  "17 Zzzz 2 Geor 3 Sund 8 Zzzz 8 Zinh 3 Zyyy 1 Zinh d Zyyy 1 Zinh 7 Zyyy 4 Zinh 1 Zyyy",
  "6 Zinh 1 Zyyy 3 Zinh 2 Zyyy 1 Zzzz 5 Latn 12 Grek 5 Cyrl 1 Latn 1d Grek 5 Latn 4 Grek",
  "5 Latn d Cyrl 1 Latn 1y Grek 1 Zinh 1s Latn 74 Grek m Zzzz 2 Grek 6 Zzzz 2 Grek 12 Zzzz",
  "2 Grek 6 Zzzz 2 Grek 8 Zzzz 1 Grek 1 Zzzz 1 Grek 1 Zzzz 1 Grek 1 Zzzz 1 Grek v Zzzz",
  "2 Grek 1h Zzzz 1 Grek f Zzzz 1 Grek e Zzzz 2 Grek 6 Zzzz 1 Grek j Zzzz 2 Grek 3 Zzzz",
  "1 Grek 9 Zzzz 1 Zyyy c Zinh 2 Zyyy 2f Zzzz 1 Zyyy b Latn 1 Zzzz 2 Zyyy b Latn 1 Zyyy",
  "f Zzzz 1 Latn d Zzzz 3 Zyyy x Zzzz f Zinh x Zzzz f Zyyy 12 Grek 1 Zyyy 3 Latn 2 Zyyy",
  "6 Latn 1 Zyyy r Latn 1 Zyyy h Latn 15 Zyyy 3 Zzzz 4 Zyyy if Zzzz p Zyyy b Zzzz l Zyyy",
  "ps Brai 74 Zyyy hg Zzzz 2 Zyyy w Zzzz 1 Zyyy 2x Glag 2o Latn w Copt 38 Zzzz 5 Copt",
  "7 Geor 12 Zzzz 1 Geor 1 Zzzz 5 Geor 1 Zzzz 2 Tfng 1k Zzzz 7 Tfng 2 Zzzz e Tfng 1 Ethi",
  "n Zzzz 9 Ethi 7 Zzzz 1 Ethi 7 Zzzz 1 Ethi 7 Zzzz 1 Ethi 7 Zzzz 1 Ethi 7 Zzzz 1 Ethi",
  "7 Zzzz 1 Ethi 7 Zzzz 1 Ethi 7 Zzzz 1 Cyrl w Zyyy 2m Zzzz y Hani q Zzzz 1 Hani 2h Zzzz",
  "c Hani 5y Zzzz q Zyyy c Zzzz 4 Zyyy 5 Hani 1 Zyyy 1 Hani 1 Zyyy p Hani 9 Zinh 4 Hang",
  "2 Zyyy 8 Hani 4 Zyyy 4 Zzzz 1 Hira 2e Zzzz 2 Zinh 2 Zyyy 2 Hira 3 Zyyy 1 Kana 2i Zyyy",
  "2 Kana 3 Zzzz 5 Bopo 17 Zzzz 1 Hang 2m Zzzz 1 Zyyy g Bopo w Zyyy 10 Zzzz c Kana g Hang",
  "v Zzzz 1 Zyyy 1s Hang v Zyyy 29 Kana 1b Zyyy 1 Kana 2g Zyyy 4o Hani 534 Zyyy 1s Hani",
  "g74 Yiii wd Zzzz 3 Yiii 1j Zzzz 9 Lisu 1c Vaii 8c Zzzz k Cyrl 2o Bamu 2g Zzzz 8 Zyyy",
  "y Latn 2u Zyyy 3 Latn 1s Zzzz 5 Latn 2 Zzzz 1 Latn 1 Zzzz 1 Latn 5 Zzzz o Latn e Sylo",
  "19 Zzzz 3 Zyyy a Zzzz 6 Phag 1k Zzzz 8 Saur 1y Zzzz 8 Saur c Zzzz 6 Deva w Kali 1a Zyyy",
  "1 Kali 1 Rjng 10 Zzzz b Rjng 1 Hang t Zzzz 3 Java 26 Zzzz 1 Zyyy 1 Java a Zzzz 4 Java",
  "2 Mymr v Zzzz 1 Cham 1j Zzzz 9 Cham e Zzzz 2 Cham a Zzzz 2 Cham 4 Mymr w Tavt 1v Zzzz",
  "o Tavt 5 Mtei n Zzzz a Ethi 6 Zzzz 2 Ethi 6 Zzzz 2 Ethi 6 Zzzz 9 Ethi 7 Zzzz 1 Ethi",
  "7 Zzzz 1 Latn 17 Zyyy 1 Latn 9 Grek 1 Latn 4 Zyyy 2 Zzzz 4 Cher 28 Mtei 1a Zzzz 2 Mtei",
  "a Zzzz 6 Hang 8mc Zzzz c Hang n Zzzz 4 Hang 1d Zzzz 6is Hani a6 Zzzz 2 Hani 2y Zzzz",
  "12 Latn 7 Zzzz c Armn 5 Zzzz 5 Hebr q Zzzz 1 Hebr 5 Zzzz 1 Hebr 1 Zzzz 1 Hebr 2 Zzzz",
  "1 Hebr 2 Zzzz 1 Hebr a Arab 37 Zzzz g Arab a3 Zyyy 2 Arab 28 Zzzz 2 Arab 1i Zzzz 7 Arab",
  "1 Zzzz w Arab g Zinh g Zyyy a Zzzz 6 Zinh e Cyrl 2 Zyyy z Zzzz 1 Zyyy j Zzzz 1 Zyyy",
  "4 Zzzz 4 Arab 5 Zzzz 1 Arab 3r Zzzz 2 Zyyy 1 Zzzz 1 Zyyy w Latn q Zyyy 6 Latn q Zyyy",
  "b Kana a Zyyy 1 Kana 19 Zyyy 2 Hang v Zzzz 3 Hang 6 Zzzz 2 Hang 6 Zzzz 2 Hang 6 Zzzz",
  "2 Hang 3 Zzzz 3 Zyyy 7 Zzzz 1 Zyyy 7 Zzzz a Zyyy 5 Zzzz 2 Linb c Zzzz 1 Linb q Zzzz",
  "1 Linb j Zzzz 1 Linb 2 Zzzz 1 Linb f Zzzz 2 Linb e Zzzz y Linb 3f Zzzz 5 Zyyy 3 Zzzz",
  "4 Zyyy 19 Zzzz 3 Zyyy 9 Grek 27 Zzzz 1 Zyyy d Zzzz 3 Grek 1 Zzzz 1b Zyyy 19 Zinh 1 Zzzz",
  "3m Lyci t Zzzz 3 Cari 1d Zzzz f Zinh 1 Zyyy r Zzzz 4 Ital 10 Zzzz 9 Ital 3 Goth r Zzzz",
  "5 Perm 17 Zzzz 5 Ugar u Zzzz 1 Ugar 1 Xpeo 10 Zzzz 4 Xpeo e Zzzz 16 Dsrt 28 Shaw 1c Osma",
  "u Zzzz 2 Osma a Zzzz 6 Osge 10 Zzzz 4 Osge 10 Zzzz 4 Elba 14 Zzzz 8 Aghb 1g Zzzz b Aghb",
  "1 Vith b Zzzz 1 Vith f Zzzz 1 Vith 7 Zzzz 1 Vith 2 Zzzz 1 Vith b Zzzz 1 Vith f Zzzz",
  "1 Vith 7 Zzzz 1 Vith 2 Zzzz 1v Lina 8n Zzzz 9 Lina m Zzzz a Lina 8 Zzzz o Latn 6 Zzzz",
  "1 Latn 16 Zzzz 1 Latn 9 Zzzz 1x Cprt 6 Zzzz 2 Cprt 1 Zzzz 1 Cprt 18 Zzzz 1 Cprt 2 Zzzz",
  "3 Cprt 1 Zzzz 2 Cprt 1 Armi m Zzzz 1 Armi 9 Palm w Nbat v Zzzz 8 Nbat 9 Zzzz 1c Hatr",
  "j Zzzz 1 Hatr 2 Zzzz 5 Hatr 5 Phnx s Zzzz 3 Phnx 1 Lydi q Zzzz 5 Lydi 1 Zzzz 1s Mero",
  "w Merc o Zzzz 4 Merc k Zzzz 2 Merc 1a Khar 4 Zzzz 1 Khar 2 Zzzz 5 Khar 8 Zzzz 1 Khar",
  "3 Zzzz 1 Khar t Zzzz 2 Khar 3 Zzzz 4 Khar a Zzzz 7 Khar 9 Zzzz 7 Sarb w Narb w Zzzz",
  "w Mani 13 Zzzz 4 Mani c Zzzz 9 Avst 1i Zzzz 3 Avst 7 Prti m Zzzz 2 Prti 8 Phli j Zzzz",
  "5 Phli 8 Phlp i Zzzz 7 Phlp 4 Zzzz c Phlp 7 Zzzz 28 Orkh 21 Zzzz 1j Hung 1f Zzzz d Hung",
  "1f Zzzz 7 Hung 6 Rohg 14 Zzzz 8 Rohg a Zzzz 86 Arab v Zzzz 1 Yezi 16 Zzzz 1 Yezi 3 Zzzz",
  "2 Yezi 2 Zzzz 23 Arab 3 Sogo 14 Zzzz 8 Sogd 16 Zzzz m Ougr q Zzzz 12 Chrs s Zzzz k Elym",
  "n Zzzz 9 Brah 26 Zzzz 4 Brah 10 Zzzz 9 Brah 1 Kthi 1v Zzzz a Kthi 1 Zzzz 2 Sora p Zzzz",
  "7 Sora a Zzzz 6 Cakm 1h Zzzz 1 Cakm i Zzzz 8 Mahj 13 Zzzz 9 Shrd 2o Zzzz 1 Sinh k Zzzz",
  "b Khoj i Zzzz 1 Khoj 1b Zzzz 1q Mult 7 Zzzz 1 Mult 1 Zzzz 1 Mult 4 Zzzz 1 Mult f Zzzz",
  "1 Mult b Zzzz 6 Sind 1n Zzzz 5 Sind a Zzzz 6 Gran 4 Zzzz 1 Gran 8 Zzzz 2 Gran 2 Zzzz",
  "2 Gran m Zzzz 1 Gran 7 Zzzz 1 Gran 2 Zzzz 1 Gran 5 Zzzz 1 Zinh 1 Gran 9 Zzzz 2 Gran",
  "2 Zzzz 2 Gran 3 Zzzz 2 Gran 1 Zzzz 6 Gran 1 Zzzz 5 Gran 7 Zzzz 2 Gran 7 Zzzz 3 Gran",
  "5 Zzzz 3v Newa 2k Zzzz 1 Newa 5 Zzzz u Tirh 20 Zzzz 8 Tirh a Zzzz 4m Sidd 1i Zzzz 2 Sidd",
  "12 Zzzz y Modi 1x Zzzz b Modi a Zzzz 6 Mong d Zzzz j Takr 1m Zzzz 6 Takr a Zzzz 1i Ahom",
  "r Zzzz 2 Ahom f Zzzz 4 Ahom n Zzzz 55 Dogr 1o Zzzz 2s Wara 2b Zzzz c Wara 1 Diak 7 Zzzz",
  "2 Diak 1 Zzzz 2 Diak 8 Zzzz 1 Diak 2 Zzzz 1 Diak u Zzzz 1 Diak 2 Zzzz 2 Diak c Zzzz",
  "9 Diak a Zzzz 1y Nand 8 Zzzz 2 Nand 1a Zzzz 2 Nand b Zzzz r Zanb 20 Zzzz 8 Soyo 2b Zzzz",
  "d Cans g Pauc 1l Zzzz 7 Deva a Zzzz 6u Bhks 9 Zzzz 1 Bhks 19 Zzzz 1 Bhks e Zzzz a Bhks",
  "t Zzzz 3 Marc w Zzzz 2 Marc m Zzzz 1 Marc e Zzzz 21 Gonm 7 Zzzz 1 Gonm 2 Zzzz 1 Gonm",
  "18 Zzzz 3 Gonm 1 Zzzz 1 Gonm 2 Zzzz 1 Gonm 9 Zzzz 8 Gonm a Zzzz 6 Gong 6 Zzzz 1 Gong",
  "2 Zzzz 1 Gong 11 Zzzz 1 Gong 2 Zzzz 1 Gong 6 Zzzz 7 Gong a Zzzz 8m Maka p Zzzz 7 Kawi",
  "h Zzzz 1 Kawi 15 Zzzz 3 Kawi s Zzzz 2e Lisu 1 Zzzz f Taml 1e Zzzz d Taml 1 Xsux pm Zzzz",
  "2u Xsux 33 Zzzz 1 Xsux 5 Zzzz b Xsux 5g Zzzz 218 Cpmn 2r Zzzz d Egyp uu Zzzz 33e Hluw",
  "g7 Zzzz 6nt Bamu ft Zzzz 7 Mroo v Zzzz 1 Mroo a Zzzz 4 Mroo 2 Tnsa 27 Zzzz 1 Tnsa a Zzzz",
  "6 Bass u Zzzz 2 Bass 6 Zzzz a Hmng 1y Zzzz a Hmng a Zzzz 1 Hmng 7 Zzzz 1 Hmng l Zzzz",
  "5 Hmng j Zzzz j4 Medf 2j Zzzz 2t Plrd 23 Zzzz 4 Plrd 1l Zzzz 7 Plrd h Zzzz 1s Tang",
  "1 Nshu 1 Hani 2 Kits 1 Zzzz b Hani 2 Zzzz e Tang 4qg Zzzz 8 Tang lc Kits d2 Zzzz 16 Tang",
  "9 Zzzz 6w7 Kana 4 Zzzz 1 Kana 7 Zzzz 1 Kana 2 Zzzz 1 Kana 1 Hira 7z Kana 3 Zzzz f Hira",
  "1 Zzzz t Hira 3 Zzzz 2 Kana 1 Zzzz e Kana 4 Zzzz 8 Nshu b0 Zzzz 1s4 Dupl 2z Zzzz 5 Dupl",
  "d Zzzz 3 Dupl 9 Zzzz 7 Dupl a Zzzz 2 Dupl 4 Zyyy 4 Zzzz 3mk Zinh 1a Zzzz 2 Zinh n Zzzz",
  "9 Zyyy 38 Zzzz 1o Zyyy 6u Zzzz a Zyyy 13 Zzzz 2 Zyyy 1q Zinh 3 Zyyy h Zinh 8 Zyyy 2 Zinh",
  "7 Zyyy u Zinh 4 Zyyy 1p Zzzz l Grek 1y Zzzz 3e Zyyy k Zzzz c Zyyy k Zzzz c Zyyy 2f Zzzz",
  "9 Zyyy p Zzzz 3r Zyyy 2d Zzzz 1 Zyyy 1z Zzzz 1 Zyyy 2 Zzzz 2 Zyyy 1 Zzzz 2 Zyyy 2 Zzzz",
  "2 Zyyy 4 Zzzz 1 Zyyy c Zzzz 1 Zyyy 1 Zzzz 1 Zyyy 7 Zzzz 1 Zyyy 1t Zzzz 1 Zyyy 4 Zzzz",
  "2 Zyyy 8 Zzzz 1 Zyyy 7 Zzzz 1 Zyyy s Zzzz 1 Zyyy 4 Zzzz 1 Zyyy 5 Zzzz 1 Zyyy 1 Zzzz",
  "3 Zyyy 7 Zzzz 1 Zyyy 9g Zzzz 2 Zyyy 84 Zzzz 2 Zyyy 1e Sgnw i4 Zzzz f Sgnw 5 Zzzz 1 Sgnw",
  "f Zzzz uo Latn v Zzzz 6 Latn 6 Zzzz 5x Glag 7 Zzzz 1 Glag h Zzzz 2 Glag 7 Zzzz 1 Glag",
  "2 Zzzz 1 Glag 5 Zzzz 5 Cyrl 1q Zzzz x Cyrl 1 Zzzz 34 Hmnp 19 Zzzz 3 Hmnp e Zzzz 2 Hmnp",
  "a Zzzz 4 Hmnp 2 Zzzz 8w Toto v Zzzz h Wcho 1m Zzzz 5 Wcho 1 Zzzz cw Nagm 16 Zzzz km Ethi",
  "7 Zzzz 1 Ethi 4 Zzzz 1 Ethi 2 Zzzz 1 Ethi f Zzzz 1 Mend 5h Zzzz 2 Mend g Zzzz 15 Adlm",
  "24 Zzzz 4 Adlm a Zzzz 4 Adlm 2 Zzzz lt Zyyy 1w Zzzz 24 Zyyy 1p Zzzz 5e Arab 4 Zzzz",
  "1 Arab r Zzzz 1 Arab 2 Zzzz 1 Arab 1 Zzzz 2 Arab 1 Zzzz 1 Arab a Zzzz 1 Arab 4 Zzzz",
  "1 Arab 1 Zzzz 1 Arab 1 Zzzz 6 Arab 1 Zzzz 4 Arab 1 Zzzz 1 Arab 1 Zzzz 1 Arab 1 Zzzz",
  "1 Arab 3 Zzzz 1 Arab 2 Zzzz 1 Arab 1 Zzzz 2 Arab 1 Zzzz 1 Arab 1 Zzzz 1 Arab 1 Zzzz",
  "1 Arab 1 Zzzz 1 Arab 1 Zzzz 1 Arab 2 Zzzz 1 Arab 1 Zzzz 2 Arab 4 Zzzz 1 Arab 7 Zzzz",
  "1 Arab 4 Zzzz 1 Arab 4 Zzzz 1 Arab 1 Zzzz 1 Arab a Zzzz 1 Arab h Zzzz 5 Arab 3 Zzzz",
  "1 Arab 5 Zzzz 1 Arab h Zzzz 1g Arab 2 Zzzz 7i Zyyy 18 Zzzz 4 Zyyy 2s Zzzz c Zyyy f Zzzz",
  "2 Zyyy f Zzzz 1 Zyyy f Zzzz 1 Zyyy 11 Zzzz a Zyyy 4u Zzzz 1k Zyyy q Hira 1 Zyyy 2 Zzzz",
  "d Zyyy 18 Zzzz 4 Zyyy 9 Zzzz 7 Zyyy 2 Zzzz e Zyyy 6 Zzzz 4a Zyyy rc Zzzz 4 Zyyy h Zzzz",
  "3 Zyyy d Zzzz 3 Zyyy 3b Zzzz 4 Zyyy 2n Zzzz 6 Zyyy c Zzzz 4 Zyyy 1 Zzzz f Zyyy c Zzzz",
  "4 Zyyy 1k Zzzz 8 Zyyy a Zzzz 6 Zyyy 14 Zzzz 8 Zyyy u Zzzz 2 Zyyy 2 Zzzz 26 Zyyy 9g Zzzz",
  "c Zyyy e Zzzz 2 Zyyy d Zzzz 3 Zyyy 9 Zzzz 7 Zyyy 1a Zzzz 1 Zyyy 7 Zzzz 8 Zyyy e Zzzz",
  "4 Zyyy 9 Zzzz 7 Zyyy 9 Zzzz 7 Zyyy 43 Zzzz 1 Zyyy 1j Zzzz 11 Zyyy a Zzzz sm Hani",
  "wyo Zzzz w Hani 37e Zzzz 6 Hani 66 Zzzz 2 Hani 4g2 Zzzz e Hani 5rl Zzzz 2e7 Hani f2 Zzzz",
  "15u Hani 3t7 Zzzz 5 Hani 38g Zzzz f975 Zyyy 1 Zzzz u Zyyy 2o Zzzz 3k Zinh 6o Zzzz",
  "47bk Zzzz"]

/-- The runs of one set of scripts that use a character; a point separates several. -/
def scriptExtensions : CharMap String := .ofPairs String.ofList [
  "0 Zyyy 1t Latn q Zyyy 6 Latn q Zyyy 1b Latn 1 Zyyy f Latn 1 Zyyy 5 Latn n Zyyy 1 Latn",
  "v Zyyy 1 Latn ch Zyyy 13 Latn 5 Zyyy 5 Bopo 2 Zyyy k Zinh 1u Grek 1 Zinh 2 Grek 1 Zinh",
  "t Latn d Grek 4 Zyyy 1 Grek 3 Zzzz 2 Grek 4 Zyyy 1 Grek 1 Zzzz 4 Grek 1 Zyyy 1 Grek",
  "1 Zyyy 1 Grek 3 Zzzz 1 Grek 1 Zzzz 1 Grek k Zzzz 1 Grek 1r Copt e Grek g Cyrl",
  "3n Cyrl.Perm 1 Cyrl.Glag 1 Cyrl.Latn 2 Cyrl.Glag 1 Cyrl 4o Zzzz 1 Armn 12 Zzzz 2 Armn",
  "1e Zzzz 2 Armn 3 Zzzz 1 Hebr 1j Zzzz 8 Hebr r Zzzz 4 Hebr 6 Zzzz b Arab 5 Zyyy 1 Arab",
  "6 Arab.Nkoo.Rohg.Syrc.Thaa.Yezi 1 Arab e Arab.Nkoo.Rohg.Syrc.Thaa.Yezi 1 Arab.Syrc.Thaa",
  "1 Arab 2 Adlm.Arab.Nkoo.Rohg.Syrc.Thaa.Yezi 1 Arab",
  "w Adlm.Arab.Mand.Mani.Ougr.Phlp.Rohg.Sogd.Syrc 1 Arab a Arab.Syrc b Arab",
  "a Arab.Thaa.Yezi a Arab 6 Arab.Syrc 1 Arab 2r Arab.Rohg 1 Arab 8 Zyyy 1 Arab y Syrc",
  "e Zzzz 1 Syrc 1o Zzzz 2 Syrc 3 Arab 1c Thaa 1e Zzzz e Nkoo 1n Zzzz 2 Nkoo 3 Samr 1a Zzzz",
  "2 Samr f Zzzz 1 Mand s Zzzz 2 Mand 1 Zzzz 1 Syrc b Zzzz 5 Arab v Zzzz 1 Arab 2 Zzzz",
  "6 Arab 22 Zyyy 1 Arab t Deva",
  "29 Beng.Deva.Gran.Gujr.Guru.Knda.Latn.Mlym.Orya.Shrd.Taml.Telu.Tirh",
  "1 Beng.Deva.Gran.Gujr.Guru.Knda.Latn.Mlym.Orya.Taml.Telu.Tirh 1 Zinh 2 Deva",
  "f Beng.Deva.Dogr.Gong.Gonm.Gran.Gujr.Guru.Knda.Mahj.Mlym.Nand.Orya.Sind.Sinh.Sylo.Takr.Taml.Telu.Tirh",
  "1 Beng.Deva.Dogr.Gong.Gonm.Gran.Gujr.Guru.Knda.Limb.Mahj.Mlym.Nand.Orya.Sind.Sinh.Sylo.Takr.Taml.Telu.Tirh",
  "1 Deva.Dogr.Kthi.Mahj a Deva g Beng 4 Zzzz 1 Beng 8 Zzzz 2 Beng 2 Zzzz 2 Beng m Zzzz",
  "1 Beng 7 Zzzz 1 Beng 1 Zzzz 3 Beng 4 Zzzz 2 Beng 9 Zzzz 2 Beng 2 Zzzz 2 Beng 4 Zzzz",
  "8 Beng 1 Zzzz 4 Beng 2 Zzzz 1 Beng 5 Zzzz 2 Beng.Cakm.Sylo a Beng f Zzzz 2 Guru 3 Zzzz",
  "1 Guru 6 Zzzz 4 Guru 2 Zzzz 2 Guru m Zzzz 1 Guru 7 Zzzz 1 Guru 2 Zzzz 1 Guru 2 Zzzz",
  "1 Guru 2 Zzzz 2 Guru 1 Zzzz 1 Guru 5 Zzzz 4 Guru 2 Zzzz 2 Guru 3 Zzzz 3 Guru 1 Zzzz",
  "7 Guru 4 Zzzz 1 Guru 1 Zzzz 7 Guru.Mult a Guru 7 Zzzz a Gujr 3 Zzzz 1 Gujr 9 Zzzz 1 Gujr",
  "3 Zzzz 1 Gujr m Zzzz 1 Gujr 7 Zzzz 1 Gujr 2 Zzzz 1 Gujr 5 Zzzz 2 Gujr a Zzzz 1 Gujr",
  "3 Zzzz 1 Gujr 3 Zzzz 2 Gujr 1 Zzzz f Gujr 4 Zzzz 2 Gujr.Khoj a Gujr 2 Zzzz 7 Gujr 7 Zzzz",
  "1 Orya 3 Zzzz 1 Orya 8 Zzzz 2 Orya 2 Zzzz 2 Orya m Zzzz 1 Orya 7 Zzzz 1 Orya 2 Zzzz",
  "1 Orya 5 Zzzz 2 Orya 9 Zzzz 2 Orya 2 Zzzz 2 Orya 3 Zzzz 7 Orya 3 Zzzz 4 Orya 2 Zzzz",
  "1 Orya 5 Zzzz 2 Orya i Zzzz a Taml 2 Zzzz 1 Taml 6 Zzzz 3 Taml 3 Zzzz 1 Taml 4 Zzzz",
  "3 Taml 2 Zzzz 1 Taml 1 Zzzz 1 Taml 2 Zzzz 3 Taml 2 Zzzz 3 Taml 3 Zzzz 3 Taml c Zzzz",
  "4 Taml 5 Zzzz 3 Taml 3 Zzzz 1 Taml 4 Zzzz 2 Taml 1 Zzzz 6 Taml 1 Zzzz e Gran.Taml e Taml",
  "7 Zzzz 5 Telu d Zzzz 1 Telu 3 Zzzz 1 Telu n Zzzz 1 Telu g Zzzz 2 Telu 9 Zzzz 1 Telu",
  "3 Zzzz 1 Telu 4 Zzzz 7 Telu 2 Zzzz 1 Telu 3 Zzzz 2 Telu 1 Zzzz 2 Telu 4 Zzzz 2 Telu",
  "a Zzzz 7 Telu 9 Knda d Zzzz 1 Knda 3 Zzzz 1 Knda n Zzzz 1 Knda a Zzzz 1 Knda 5 Zzzz",
  "2 Knda 9 Zzzz 1 Knda 3 Zzzz 1 Knda 4 Zzzz 7 Knda 2 Zzzz 6 Knda 2 Zzzz 1 Knda 4 Zzzz",
  "2 Knda.Nand a Zzzz 1 Knda 3 Zzzz c Mlym d Zzzz 1 Mlym 3 Zzzz 1 Mlym 1f Zzzz 1 Mlym",
  "3 Zzzz 1 Mlym 6 Zzzz 4 Mlym g Zzzz 2 Mlym q Zzzz 1 Sinh 3 Zzzz 1 Sinh i Zzzz 3 Sinh",
  "o Zzzz 1 Sinh 9 Zzzz 1 Sinh 1 Zzzz 2 Sinh 7 Zzzz 3 Sinh 1 Zzzz 4 Sinh 6 Zzzz 1 Sinh",
  "1 Zzzz 1 Sinh 8 Zzzz 6 Sinh a Zzzz 2 Sinh 3 Zzzz c Thai 1m Zzzz 4 Zyyy 1 Thai s Zzzz",
  "11 Laoo 2 Zzzz 1 Laoo 1 Zzzz 1 Laoo 5 Zzzz 1 Laoo o Zzzz 1 Laoo 1 Zzzz 1 Laoo n Zzzz",
  "2 Laoo 5 Zzzz 1 Laoo 1 Zzzz 1 Laoo 7 Zzzz 1 Laoo a Zzzz 2 Laoo 4 Zzzz w Tibt 20 Zzzz",
  "1 Tibt 10 Zzzz 4 Tibt 13 Zzzz 1 Tibt 10 Zzzz 1 Tibt f Zzzz 1 Tibt 7 Zyyy 4 Tibt 2 Zzzz",
  "11 Mymr 1s Cakm.Mymr.Tale a Mymr 2e Geor 12 Zzzz 1 Geor 1 Zzzz 5 Geor 1 Zzzz 2 Geor",
  "17 Geor.Latn 1 Geor 4 Hang 74 Ethi 21 Zzzz 1 Ethi 4 Zzzz 2 Ethi 7 Zzzz 1 Ethi 1 Zzzz",
  "1 Ethi 4 Zzzz 2 Ethi 15 Zzzz 1 Ethi 4 Zzzz 2 Ethi x Zzzz 1 Ethi 4 Zzzz 2 Ethi 7 Zzzz",
  "1 Ethi 1 Zzzz 1 Ethi 4 Zzzz 2 Ethi f Zzzz 1 Ethi 1l Zzzz 1 Ethi 4 Zzzz 2 Ethi 1v Zzzz",
  "2 Ethi w Zzzz 3 Ethi q Zzzz 6 Cher 2e Zzzz 2 Cher 6 Zzzz 2 Cans hs Ogam t Zzzz 3 Runr",
  "23 Zyyy 3 Runr b Zzzz 7 Tglg m Zzzz 9 Tglg 1 Hano l Buhd.Hano.Tagb.Tglg 2 Zzzz 9 Buhd",
  "k Zzzz c Tagb d Zzzz 1 Tagb 3 Zzzz 1 Tagb 2 Zzzz c Khmr 2m Zzzz 2 Khmr a Zzzz 6 Khmr",
  "a Zzzz 6 Mong 2 Mong.Phag 2 Mong 1 Mong.Phag 1 Mong k Zzzz 6 Mong 2h Zzzz 7 Mong 17 Zzzz",
  "5 Cans 1y Zzzz a Limb v Zzzz 1 Limb c Zzzz 4 Limb c Zzzz 4 Limb 1 Zzzz 3 Limb c Tale",
  "u Zzzz 2 Tale 5 Zzzz b Talu 18 Zzzz 4 Talu q Zzzz 6 Talu b Zzzz 3 Talu 2 Khmr w Bugi",
  "s Zzzz 2 Bugi 2 Lana 1r Zzzz 1 Lana t Zzzz 2 Lana b Zzzz 6 Lana a Zzzz 6 Lana e Zzzz",
  "2 Zinh v Zzzz 1d Bali 25 Zzzz 3 Bali 1b Zzzz 1 Sund 1s Batk 1g Zzzz 8 Batk 4 Lepc",
  "1k Zzzz 3 Lepc f Zzzz 3 Lepc 3 Olck 1c Cyrl 9 Zzzz 7 Geor 17 Zzzz 2 Geor 3 Sund 8 Zzzz",
  "8 Beng.Deva.Gran.Knda 1 Deva 1 Beng.Deva.Gran.Knda 1 Deva.Gran 1 Deva 1 Beng.Deva",
  "2 Deva.Shrd 1 Beng.Deva 1 Deva.Shrd 1 Deva.Knda.Mlym.Orya.Taml.Telu 1 Deva 1 Deva.Shrd",
  "2 Deva 2 Deva.Shrd 1 Beng.Deva 1 Deva 7 Deva.Nand 1 Beng.Deva 1 Deva 2 Beng.Deva 1 Deva",
  "4 Beng.Deva.Gran.Knda.Nand.Orya.Telu.Tirh 1 Deva.Gran 1 Deva.Gran.Knda 1 Beng.Deva",
  "2 Beng 1 Deva.Gran 2 Nand 1 Zzzz 5 Latn 12 Grek 5 Cyrl 1 Latn 1d Grek 5 Latn 4 Grek",
  "5 Latn d Cyrl 1 Latn 1y Grek 3 Zinh 1i Cyrl.Syrc 1 Zinh 1 Syrc 1 Zinh 5 Latn 74 Grek",
  "m Zzzz 2 Grek 6 Zzzz 2 Grek 12 Zzzz 2 Grek 6 Zzzz 2 Grek 8 Zzzz 1 Grek 1 Zzzz 1 Grek",
  "1 Zzzz 1 Grek 1 Zzzz 1 Grek v Zzzz 2 Grek 1h Zzzz 1 Grek f Zzzz 1 Grek e Zzzz 2 Grek",
  "6 Zzzz 1 Grek j Zzzz 2 Grek 3 Zzzz 1 Grek 9 Zzzz 1 Zyyy c Zinh 2 Zyyy x Latn.Mong 1 Zyyy",
  "1h Zzzz 1 Zyyy b Latn 1 Zzzz 2 Zyyy b Latn 1 Zyyy f Zzzz 1 Latn d Zzzz 3 Zyyy x Zzzz",
  "f Zinh w Deva.Gran.Latn 1 Zzzz f Zyyy 12 Grek 1 Zyyy 3 Latn 2 Zyyy 6 Latn 1 Zyyy r Latn",
  "1 Zyyy h Latn 15 Zyyy 3 Zzzz 4 Zyyy if Zzzz p Zyyy b Zzzz l Zyyy ps Brai 74 Zyyy hg Zzzz",
  "2 Zyyy w Zzzz 1 Zyyy 2x Glag 2o Latn w Copt 38 Zzzz 5 Copt 7 Geor 12 Zzzz 1 Geor 1 Zzzz",
  "5 Geor 1 Zzzz 2 Tfng 1k Zzzz 7 Tfng 2 Zzzz e Tfng 1 Ethi n Zzzz 9 Ethi 7 Zzzz 1 Ethi",
  "7 Zzzz 1 Ethi 7 Zzzz 1 Ethi 7 Zzzz 1 Ethi 7 Zzzz 1 Ethi 7 Zzzz 1 Ethi 7 Zzzz 1 Ethi",
  "7 Zzzz 1 Cyrl w Zyyy 1v Cyrl.Glag 1 Zyyy q Zzzz y Hani q Zzzz 1 Hani 2h Zzzz c Hani",
  "5y Zzzz q Zyyy c Zzzz 4 Zyyy 1 Bopo.Hang.Hani.Hira.Kana.Yiii 2 Bopo.Hang.Hani.Hira.Kana",
  "1 Zyyy 1 Hani 3 Bopo.Hang.Hani.Hira.Kana.Yiii a Zyyy 1 Bopo.Hang.Hani.Hira.Kana",
  "1 Bopo.Hang.Hani.Hira.Kana.Yiii 8 Bopo.Hang.Hani.Hira.Kana 4 Zyyy 1 Hani 9 Bopo.Hani",
  "4 Hang 2 Bopo.Hang.Hani.Hira.Kana 1 Hira.Kana 5 Zyyy 1 Bopo.Hang.Hani.Hira.Kana 1 Hani",
  "4 Hani.Hira.Kana 2 Hani 2 Zzzz 1 Hira 2e Zzzz 2 Hira.Kana 4 Hira 3 Hira.Kana 1 Kana",
  "2i Bopo.Hang.Hani.Hira.Kana.Yiii 1 Hira.Kana 1 Kana 3 Zzzz 5 Bopo 17 Zzzz 1 Hang 2m Zzzz",
  "1 Hani g Bopo w Hani 10 Zzzz c Kana g Hang v Zzzz 1 Hani 14 Zyyy o Hang v Zyyy 1 Hani",
  "1d Zyyy f Hani c Zyyy 4 Kana 1b Hani 1 Kana 2g Hani p Zyyy a Hani 5 Zyyy 2o Hani v Zyyy",
  "1 Hani 534 Zyyy 1s Hani g74 Yiii wd Zzzz 3 Yiii 1j Zzzz 9 Lisu 1c Vaii 8c Zzzz k Cyrl",
  "1b Cyrl.Glag 1 Cyrl 1c Bamu 2g Zzzz 8 Hani.Latn 8 Zyyy q Latn 2u Zyyy 3 Latn 1s Zzzz",
  "5 Latn 2 Zzzz 1 Latn 1 Zzzz 1 Latn 5 Zzzz o Latn e Sylo 19 Zzzz",
  "3 Deva.Dogr.Gujr.Guru.Khoj.Knda.Kthi.Mahj.Mlym.Modi.Nand.Sind.Takr.Tirh",
  "3 Deva.Dogr.Gujr.Guru.Khoj.Knda.Kthi.Mahj.Modi.Nand.Sind.Takr.Tirh",
  "3 Deva.Dogr.Gujr.Guru.Khoj.Kthi.Mahj.Modi.Sind.Takr.Tirh 4 Zzzz 6 Phag 1k Zzzz 8 Saur",
  "1y Zzzz 8 Saur c Zzzz 6 Deva h Beng.Deva 1 Deva 1 Deva.Taml 1 Deva c Kali",
  "1a Kali.Latn.Mymr 1 Kali 1 Rjng 10 Zzzz b Rjng 1 Hang t Zzzz 3 Java 26 Zzzz 1 Bugi.Java",
  "1 Java a Zzzz 4 Java 2 Mymr v Zzzz 1 Cham 1j Zzzz 9 Cham e Zzzz 2 Cham a Zzzz 2 Cham",
  "4 Mymr w Tavt 1v Zzzz o Tavt 5 Mtei n Zzzz a Ethi 6 Zzzz 2 Ethi 6 Zzzz 2 Ethi 6 Zzzz",
  "9 Ethi 7 Zzzz 1 Ethi 7 Zzzz 1 Latn 17 Zyyy 1 Latn 9 Grek 1 Latn 4 Zyyy 2 Zzzz 4 Cher",
  "28 Mtei 1a Zzzz 2 Mtei a Zzzz 6 Hang 8mc Zzzz c Hang n Zzzz 4 Hang 1d Zzzz 6is Hani",
  "a6 Zzzz 2 Hani 2y Zzzz 12 Latn 7 Zzzz c Armn 5 Zzzz 5 Hebr q Zzzz 1 Hebr 5 Zzzz 1 Hebr",
  "1 Zzzz 1 Hebr 2 Zzzz 1 Hebr 2 Zzzz 1 Hebr a Arab 37 Zzzz g Arab a3 Arab.Nkoo 2 Arab",
  "28 Zzzz 2 Arab 1i Zzzz 7 Arab 1 Zzzz w Arab 2 Arab.Thaa 1 Arab a Arab.Thaa 1 Arab 2 Zinh",
  "g Zyyy a Zzzz 6 Zinh e Cyrl 2 Zyyy l Bopo.Hang.Hani.Hira.Kana 2 Zyyy c Zzzz 1 Zyyy",
  "j Zzzz 1 Zyyy 4 Zzzz 4 Arab 5 Zzzz 1 Arab 3r Zzzz 2 Zyyy 1 Zzzz 1 Zyyy w Latn q Zyyy",
  "6 Latn q Zyyy 6 Bopo.Hang.Hani.Hira.Kana.Yiii 5 Kana a Hira.Kana 1 Kana 19 Hira.Kana",
  "2 Hang v Zzzz 3 Hang 6 Zzzz 2 Hang 6 Zzzz 2 Hang 6 Zzzz 2 Hang 3 Zzzz 3 Zyyy 7 Zzzz",
  "1 Zyyy 7 Zzzz a Zyyy 5 Zzzz 2 Linb c Zzzz 1 Linb q Zzzz 1 Linb j Zzzz 1 Linb 2 Zzzz",
  "1 Linb f Zzzz 2 Linb e Zzzz y Linb 3f Zzzz 5 Cpmn.Cprt.Linb 2 Cprt.Linb 1 Zzzz",
  "4 Cprt.Lina.Linb 19 Zzzz 3 Cprt.Linb 9 Grek 27 Zzzz 1 Zyyy d Zzzz 3 Grek 1 Zzzz 1b Zyyy",
  "19 Zinh 1 Zzzz 3m Lyci t Zzzz 3 Cari 1d Zzzz f Arab.Copt s Zzzz 4 Ital 10 Zzzz 9 Ital",
  "3 Goth r Zzzz 5 Perm 17 Zzzz 5 Ugar u Zzzz 1 Ugar 1 Xpeo 10 Zzzz 4 Xpeo e Zzzz 16 Dsrt",
  "28 Shaw 1c Osma u Zzzz 2 Osma a Zzzz 6 Osge 10 Zzzz 4 Osge 10 Zzzz 4 Elba 14 Zzzz 8 Aghb",
  "1g Zzzz b Aghb 1 Vith b Zzzz 1 Vith f Zzzz 1 Vith 7 Zzzz 1 Vith 2 Zzzz 1 Vith b Zzzz",
  "1 Vith f Zzzz 1 Vith 7 Zzzz 1 Vith 2 Zzzz 1v Lina 8n Zzzz 9 Lina m Zzzz a Lina 8 Zzzz",
  "o Latn 6 Zzzz 1 Latn 16 Zzzz 1 Latn 9 Zzzz 1x Cprt 6 Zzzz 2 Cprt 1 Zzzz 1 Cprt 18 Zzzz",
  "1 Cprt 2 Zzzz 3 Cprt 1 Zzzz 2 Cprt 1 Armi m Zzzz 1 Armi 9 Palm w Nbat v Zzzz 8 Nbat",
  "9 Zzzz 1c Hatr j Zzzz 1 Hatr 2 Zzzz 5 Hatr 5 Phnx s Zzzz 3 Phnx 1 Lydi q Zzzz 5 Lydi",
  "1 Zzzz 1s Mero w Merc o Zzzz 4 Merc k Zzzz 2 Merc 1a Khar 4 Zzzz 1 Khar 2 Zzzz 5 Khar",
  "8 Zzzz 1 Khar 3 Zzzz 1 Khar t Zzzz 2 Khar 3 Zzzz 4 Khar a Zzzz 7 Khar 9 Zzzz 7 Sarb",
  "w Narb w Zzzz w Mani 13 Zzzz 4 Mani 7 Mani.Ougr 1 Mani 4 Zzzz 9 Avst 1i Zzzz 3 Avst",
  "7 Prti m Zzzz 2 Prti 8 Phli j Zzzz 5 Phli 8 Phlp i Zzzz 7 Phlp 4 Zzzz c Phlp 7 Zzzz",
  "28 Orkh 21 Zzzz 1j Hung 1f Zzzz d Hung 1f Zzzz 7 Hung 6 Rohg 14 Zzzz 8 Rohg a Zzzz",
  "86 Arab v Zzzz 1 Yezi 16 Zzzz 1 Yezi 3 Zzzz 2 Yezi 2 Zzzz 23 Arab 3 Sogo 14 Zzzz 8 Sogd",
  "16 Zzzz m Ougr q Zzzz 12 Chrs s Zzzz k Elym n Zzzz 9 Brah 26 Zzzz 4 Brah 10 Zzzz 9 Brah",
  "1 Kthi 1v Zzzz a Kthi 1 Zzzz 2 Sora p Zzzz 7 Sora a Zzzz 6 Cakm 1h Zzzz 1 Cakm i Zzzz",
  "8 Mahj 13 Zzzz 9 Shrd 2o Zzzz 1 Sinh k Zzzz b Khoj i Zzzz 1 Khoj 1b Zzzz 1q Mult 7 Zzzz",
  "1 Mult 1 Zzzz 1 Mult 4 Zzzz 1 Mult f Zzzz 1 Mult b Zzzz 6 Sind 1n Zzzz 5 Sind a Zzzz",
  "6 Gran 1 Gran.Taml 1 Gran 1 Gran.Taml 1 Zzzz 1 Gran 8 Zzzz 2 Gran 2 Zzzz 2 Gran m Zzzz",
  "1 Gran 7 Zzzz 1 Gran 2 Zzzz 1 Gran 5 Zzzz 1 Gran.Taml 2 Gran 8 Zzzz 2 Gran 2 Zzzz 2 Gran",
  "3 Zzzz 2 Gran 1 Zzzz 6 Gran 1 Zzzz 5 Gran 7 Zzzz 2 Gran 7 Zzzz 3 Gran 5 Zzzz 3v Newa",
  "2k Zzzz 1 Newa 5 Zzzz u Tirh 20 Zzzz 8 Tirh a Zzzz 4m Sidd 1i Zzzz 2 Sidd 12 Zzzz y Modi",
  "1x Zzzz b Modi a Zzzz 6 Mong d Zzzz j Takr 1m Zzzz 6 Takr a Zzzz 1i Ahom r Zzzz 2 Ahom",
  "f Zzzz 4 Ahom n Zzzz 55 Dogr 1o Zzzz 2s Wara 2b Zzzz c Wara 1 Diak 7 Zzzz 2 Diak 1 Zzzz",
  "2 Diak 8 Zzzz 1 Diak 2 Zzzz 1 Diak u Zzzz 1 Diak 2 Zzzz 2 Diak c Zzzz 9 Diak a Zzzz",
  "1y Nand 8 Zzzz 2 Nand 1a Zzzz 2 Nand b Zzzz r Zanb 20 Zzzz 8 Soyo 2b Zzzz d Cans g Pauc",
  "1l Zzzz 7 Deva a Zzzz 6u Bhks 9 Zzzz 1 Bhks 19 Zzzz 1 Bhks e Zzzz a Bhks t Zzzz 3 Marc",
  "w Zzzz 2 Marc m Zzzz 1 Marc e Zzzz 21 Gonm 7 Zzzz 1 Gonm 2 Zzzz 1 Gonm 18 Zzzz 3 Gonm",
  "1 Zzzz 1 Gonm 2 Zzzz 1 Gonm 9 Zzzz 8 Gonm a Zzzz 6 Gong 6 Zzzz 1 Gong 2 Zzzz 1 Gong",
  "11 Zzzz 1 Gong 2 Zzzz 1 Gong 6 Zzzz 7 Gong a Zzzz 8m Maka p Zzzz 7 Kawi h Zzzz 1 Kawi",
  "15 Zzzz 3 Kawi s Zzzz 2e Lisu 1 Zzzz f Taml g Gran.Taml 2 Taml 1 Gran.Taml 1 Taml u Zzzz",
  "d Taml 1 Xsux pm Zzzz 2u Xsux 33 Zzzz 1 Xsux 5 Zzzz b Xsux 5g Zzzz 218 Cpmn 2r Zzzz",
  "d Egyp uu Zzzz 33e Hluw g7 Zzzz 6nt Bamu ft Zzzz 7 Mroo v Zzzz 1 Mroo a Zzzz 4 Mroo",
  "2 Tnsa 27 Zzzz 1 Tnsa a Zzzz 6 Bass u Zzzz 2 Bass 6 Zzzz a Hmng 1y Zzzz a Hmng a Zzzz",
  "1 Hmng 7 Zzzz 1 Hmng l Zzzz 5 Hmng j Zzzz j4 Medf 2j Zzzz 2t Plrd 23 Zzzz 4 Plrd 1l Zzzz",
  "7 Plrd h Zzzz 1s Tang 1 Nshu 1 Hani 2 Kits 1 Zzzz b Hani 2 Zzzz e Tang 4qg Zzzz 8 Tang",
  "lc Kits d2 Zzzz 16 Tang 9 Zzzz 6w7 Kana 4 Zzzz 1 Kana 7 Zzzz 1 Kana 2 Zzzz 1 Kana 1 Hira",
  "7z Kana 3 Zzzz f Hira 1 Zzzz t Hira 3 Zzzz 2 Kana 1 Zzzz e Kana 4 Zzzz 8 Nshu b0 Zzzz",
  "1s4 Dupl 2z Zzzz 5 Dupl d Zzzz 3 Dupl 9 Zzzz 7 Dupl a Zzzz 2 Dupl 8 Zzzz 3mk Zinh",
  "1a Zzzz 2 Zinh n Zzzz 9 Zyyy 38 Zzzz 1o Zyyy 6u Zzzz a Zyyy 13 Zzzz 2 Zyyy 1q Zinh",
  "3 Zyyy h Zinh 8 Zyyy 2 Zinh 7 Zyyy u Zinh 4 Zyyy 1p Zzzz l Grek 1y Zzzz 3e Zyyy k Zzzz",
  "c Zyyy k Zzzz c Zyyy 2f Zzzz 9 Hani i Zyyy 7 Zzzz 3r Zyyy 2d Zzzz 1 Zyyy 1z Zzzz 1 Zyyy",
  "2 Zzzz 2 Zyyy 1 Zzzz 2 Zyyy 2 Zzzz 2 Zyyy 4 Zzzz 1 Zyyy c Zzzz 1 Zyyy 1 Zzzz 1 Zyyy",
  "7 Zzzz 1 Zyyy 1t Zzzz 1 Zyyy 4 Zzzz 2 Zyyy 8 Zzzz 1 Zyyy 7 Zzzz 1 Zyyy s Zzzz 1 Zyyy",
  "4 Zzzz 1 Zyyy 5 Zzzz 1 Zyyy 1 Zzzz 3 Zyyy 7 Zzzz 1 Zyyy 9g Zzzz 2 Zyyy 84 Zzzz 2 Zyyy",
  "1e Sgnw i4 Zzzz f Sgnw 5 Zzzz 1 Sgnw f Zzzz uo Latn v Zzzz 6 Latn 6 Zzzz 5x Glag 7 Zzzz",
  "1 Glag h Zzzz 2 Glag 7 Zzzz 1 Glag 2 Zzzz 1 Glag 5 Zzzz 5 Cyrl 1q Zzzz x Cyrl 1 Zzzz",
  "34 Hmnp 19 Zzzz 3 Hmnp e Zzzz 2 Hmnp a Zzzz 4 Hmnp 2 Zzzz 8w Toto v Zzzz h Wcho 1m Zzzz",
  "5 Wcho 1 Zzzz cw Nagm 16 Zzzz km Ethi 7 Zzzz 1 Ethi 4 Zzzz 1 Ethi 2 Zzzz 1 Ethi f Zzzz",
  "1 Mend 5h Zzzz 2 Mend g Zzzz 15 Adlm 24 Zzzz 4 Adlm a Zzzz 4 Adlm 2 Zzzz lt Zyyy 1w Zzzz",
  "24 Zyyy 1p Zzzz 5e Arab 4 Zzzz 1 Arab r Zzzz 1 Arab 2 Zzzz 1 Arab 1 Zzzz 2 Arab 1 Zzzz",
  "1 Arab a Zzzz 1 Arab 4 Zzzz 1 Arab 1 Zzzz 1 Arab 1 Zzzz 6 Arab 1 Zzzz 4 Arab 1 Zzzz",
  "1 Arab 1 Zzzz 1 Arab 1 Zzzz 1 Arab 3 Zzzz 1 Arab 2 Zzzz 1 Arab 1 Zzzz 2 Arab 1 Zzzz",
  "1 Arab 1 Zzzz 1 Arab 1 Zzzz 1 Arab 1 Zzzz 1 Arab 1 Zzzz 1 Arab 2 Zzzz 1 Arab 1 Zzzz",
  "2 Arab 4 Zzzz 1 Arab 7 Zzzz 1 Arab 4 Zzzz 1 Arab 4 Zzzz 1 Arab 1 Zzzz 1 Arab a Zzzz",
  "1 Arab h Zzzz 5 Arab 3 Zzzz 1 Arab 5 Zzzz 1 Arab h Zzzz 1g Arab 2 Zzzz 7i Zyyy 18 Zzzz",
  "4 Zyyy 2s Zzzz c Zyyy f Zzzz 2 Zyyy f Zzzz 1 Zyyy f Zzzz 1 Zyyy 11 Zzzz a Zyyy 4u Zzzz",
  "1k Zyyy q Hira 1 Zyyy 2 Zzzz d Zyyy 18 Zzzz 4 Zyyy 9 Zzzz 7 Hani 2 Zzzz e Zyyy 6 Zzzz",
  "4a Zyyy rc Zzzz 4 Zyyy h Zzzz 3 Zyyy d Zzzz 3 Zyyy 3b Zzzz 4 Zyyy 2n Zzzz 6 Zyyy c Zzzz",
  "4 Zyyy 1 Zzzz f Zyyy c Zzzz 4 Zyyy 1k Zzzz 8 Zyyy a Zzzz 6 Zyyy 14 Zzzz 8 Zyyy u Zzzz",
  "2 Zyyy 2 Zzzz 26 Zyyy 9g Zzzz c Zyyy e Zzzz 2 Zyyy d Zzzz 3 Zyyy 9 Zzzz 7 Zyyy 1a Zzzz",
  "1 Zyyy 7 Zzzz 8 Zyyy e Zzzz 4 Zyyy 9 Zzzz 7 Zyyy 9 Zzzz 7 Zyyy 43 Zzzz 1 Zyyy 1j Zzzz",
  "11 Zyyy a Zzzz sm Hani wyo Zzzz w Hani 37e Zzzz 6 Hani 66 Zzzz 2 Hani 4g2 Zzzz e Hani",
  "5rl Zzzz 2e7 Hani f2 Zzzz 15u Hani 3t7 Zzzz 5 Hani 38g Zzzz f975 Zyyy 1 Zzzz u Zyyy",
  "2o Zzzz 3k Zinh 6o Zzzz 47bk Zzzz"]

/-- The names of the scripts: the four letters first, then the others. -/
def scriptNames : List (List String) := [
  ["Adlm", "Adlam"], ["Aghb", "Caucasian_Albanian"], ["Ahom"], ["Arab", "Arabic"],
  ["Armi", "Imperial_Aramaic"], ["Armn", "Armenian"], ["Avst", "Avestan"], ["Bali", "Balinese"],
  ["Bamu", "Bamum"], ["Bass", "Bassa_Vah"], ["Batk", "Batak"], ["Beng", "Bengali"], ["Bhks",
  "Bhaiksuki"], ["Bopo", "Bopomofo"], ["Brah", "Brahmi"], ["Brai", "Braille"], ["Bugi",
  "Buginese"], ["Buhd", "Buhid"], ["Cakm", "Chakma"], ["Cans", "Canadian_Aboriginal"], ["Cari",
  "Carian"], ["Cham"], ["Cher", "Cherokee"], ["Chrs", "Chorasmian"], ["Copt", "Coptic", "Qaac"],
  ["Cpmn", "Cypro_Minoan"], ["Cprt", "Cypriot"], ["Cyrl", "Cyrillic"], ["Deva", "Devanagari"],
  ["Diak", "Dives_Akuru"], ["Dogr", "Dogra"], ["Dsrt", "Deseret"], ["Dupl", "Duployan"],
  ["Egyp", "Egyptian_Hieroglyphs"], ["Elba", "Elbasan"], ["Elym", "Elymaic"], ["Ethi",
  "Ethiopic"], ["Geor", "Georgian"], ["Glag", "Glagolitic"], ["Gong", "Gunjala_Gondi"], ["Gonm",
  "Masaram_Gondi"], ["Goth", "Gothic"], ["Gran", "Grantha"], ["Grek", "Greek"], ["Gujr",
  "Gujarati"], ["Guru", "Gurmukhi"], ["Hang", "Hangul"], ["Hani", "Han"], ["Hano", "Hanunoo"],
  ["Hatr", "Hatran"], ["Hebr", "Hebrew"], ["Hira", "Hiragana"], ["Hluw",
  "Anatolian_Hieroglyphs"], ["Hmng", "Pahawh_Hmong"], ["Hmnp", "Nyiakeng_Puachue_Hmong"],
  ["Hung", "Old_Hungarian"], ["Ital", "Old_Italic"], ["Java", "Javanese"], ["Kali", "Kayah_Li"],
  ["Kana", "Katakana"], ["Kawi"], ["Khar", "Kharoshthi"], ["Khmr", "Khmer"], ["Khoj", "Khojki"],
  ["Kits", "Khitan_Small_Script"], ["Knda", "Kannada"], ["Kthi", "Kaithi"], ["Lana",
  "Tai_Tham"], ["Laoo", "Lao"], ["Latn", "Latin"], ["Lepc", "Lepcha"], ["Limb", "Limbu"],
  ["Lina", "Linear_A"], ["Linb", "Linear_B"], ["Lisu"], ["Lyci", "Lycian"], ["Lydi", "Lydian"],
  ["Mahj", "Mahajani"], ["Maka", "Makasar"], ["Mand", "Mandaic"], ["Mani", "Manichaean"],
  ["Marc", "Marchen"], ["Medf", "Medefaidrin"], ["Mend", "Mende_Kikakui"], ["Merc",
  "Meroitic_Cursive"], ["Mero", "Meroitic_Hieroglyphs"], ["Mlym", "Malayalam"], ["Modi"],
  ["Mong", "Mongolian"], ["Mroo", "Mro"], ["Mtei", "Meetei_Mayek"], ["Mult", "Multani"],
  ["Mymr", "Myanmar"], ["Nagm", "Nag_Mundari"], ["Nand", "Nandinagari"], ["Narb",
  "Old_North_Arabian"], ["Nbat", "Nabataean"], ["Newa"], ["Nkoo", "Nko"], ["Nshu", "Nushu"],
  ["Ogam", "Ogham"], ["Olck", "Ol_Chiki"], ["Orkh", "Old_Turkic"], ["Orya", "Oriya"], ["Osge",
  "Osage"], ["Osma", "Osmanya"], ["Ougr", "Old_Uyghur"], ["Palm", "Palmyrene"], ["Pauc",
  "Pau_Cin_Hau"], ["Perm", "Old_Permic"], ["Phag", "Phags_Pa"], ["Phli",
  "Inscriptional_Pahlavi"], ["Phlp", "Psalter_Pahlavi"], ["Phnx", "Phoenician"], ["Plrd",
  "Miao"], ["Prti", "Inscriptional_Parthian"], ["Rjng", "Rejang"], ["Rohg", "Hanifi_Rohingya"],
  ["Runr", "Runic"], ["Samr", "Samaritan"], ["Sarb", "Old_South_Arabian"], ["Saur",
  "Saurashtra"], ["Sgnw", "SignWriting"], ["Shaw", "Shavian"], ["Shrd", "Sharada"], ["Sidd",
  "Siddham"], ["Sind", "Khudawadi"], ["Sinh", "Sinhala"], ["Sogd", "Sogdian"], ["Sogo",
  "Old_Sogdian"], ["Sora", "Sora_Sompeng"], ["Soyo", "Soyombo"], ["Sund", "Sundanese"], ["Sylo",
  "Syloti_Nagri"], ["Syrc", "Syriac"], ["Tagb", "Tagbanwa"], ["Takr", "Takri"], ["Tale",
  "Tai_Le"], ["Talu", "New_Tai_Lue"], ["Taml", "Tamil"], ["Tang", "Tangut"], ["Tavt",
  "Tai_Viet"], ["Telu", "Telugu"], ["Tfng", "Tifinagh"], ["Tglg", "Tagalog"], ["Thaa",
  "Thaana"], ["Thai"], ["Tibt", "Tibetan"], ["Tirh", "Tirhuta"], ["Tnsa", "Tangsa"], ["Toto"],
  ["Ugar", "Ugaritic"], ["Vaii", "Vai"], ["Vith", "Vithkuqi"], ["Wara", "Warang_Citi"], ["Wcho",
  "Wancho"], ["Xpeo", "Old_Persian"], ["Xsux", "Cuneiform"], ["Yezi", "Yezidi"], ["Yiii", "Yi"],
  ["Zanb", "Zanabazar_Square"], ["Zinh", "Inherited", "Qaai"], ["Zyyy", "Common"]]

end DatasetLint.Unicode

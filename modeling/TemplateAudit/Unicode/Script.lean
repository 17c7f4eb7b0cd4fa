import TemplateAudit.Unicode.Runs

/-! # Scripts

Every code point has one script, written by four letters. Some are used by several scripts, or by
scripts other than their own.
-/

namespace TemplateAudit.Unicode

def scriptRuns : List (Nat × List Char) := labelled 4 [
  "41Zyyy1aLatn6Zyyy1aLatn2fZyyy1LatnfZyyy1Latn5Zyyy17Latn1Zyyy1fLatn1Zyyy1c1Latn27Zyyy5Latn",
  "5Zyyy2Bopo14Zyyy70Zinh4Grek1Zyyy3Grek2Zzzz4Grek1Zyyy1Grek4Zzzz1Grek1Zyyy1Grek1Zyyy3Grek",
  "1Zzzz1Grek1Zzzz14Grek1Zzzz3fGrekeCopt10Grek85Cyrl2Zinha9Cyrl1Zzzz26Armn2Zzzz32Armn2Zzzz",
  "3Armn1Zzzz37Hebr8Zzzz1bHebr4Zzzz6HebrbZzzz5Arab1Zyyy6Arab1ZyyyeArab1Zyyy3Arab1Zyyy20Arab",
  "1ZyyyaArabbZinh1aArab1Zinh6cArab1Zyyy22ArabeSyrc1Zzzz3cSyrc2Zzzz3Syrc30Arab32ThaaeZzzz",
  "3bNkoo2Zzzz3Nkoo2eSamr2ZzzzfSamr1Zzzz1cMand2Zzzz1Mand1ZzzzbSyrc5Zzzz1fArab1Zzzz2Arab6Zzzz",
  "4aArab1Zyyy1dArab51Deva4ZinhfDeva2Zyyy1aDeva4Beng1Zzzz8Beng2Zzzz2Beng2Zzzz16Beng1Zzzz7Beng",
  "1Zzzz1Beng3Zzzz4Beng2Zzzz9Beng2Zzzz2Beng2Zzzz4Beng8Zzzz1Beng4Zzzz2Beng1Zzzz5Beng2Zzzz",
  "19Beng2Zzzz3Guru1Zzzz6Guru4Zzzz2Guru2Zzzz16Guru1Zzzz7Guru1Zzzz2Guru1Zzzz2Guru1Zzzz2Guru",
  "2Zzzz1Guru1Zzzz5Guru4Zzzz2Guru2Zzzz3Guru3Zzzz1Guru7Zzzz4Guru1Zzzz1Guru7Zzzz11GuruaZzzz",
  "3Gujr1Zzzz9Gujr1Zzzz3Gujr1Zzzz16Gujr1Zzzz7Gujr1Zzzz2Gujr1Zzzz5Gujr2ZzzzaGujr1Zzzz3Gujr",
  "1Zzzz3Gujr2Zzzz1GujrfZzzz4Gujr2ZzzzcGujr7Zzzz7Gujr1Zzzz3Orya1Zzzz8Orya2Zzzz2Orya2Zzzz",
  "16Orya1Zzzz7Orya1Zzzz2Orya1Zzzz5Orya2Zzzz9Orya2Zzzz2Orya2Zzzz3Orya7Zzzz3Orya4Zzzz2Orya",
  "1Zzzz5Orya2Zzzz12OryaaZzzz2Taml1Zzzz6Taml3Zzzz3Taml1Zzzz4Taml3Zzzz2Taml1Zzzz1Taml1Zzzz",
  "2Taml3Zzzz2Taml3Zzzz3Taml3ZzzzcTaml4Zzzz5Taml3Zzzz3Taml1Zzzz4Taml2Zzzz1Taml6Zzzz1TamleZzzz",
  "15Taml5ZzzzdTelu1Zzzz3Telu1Zzzz17Telu1Zzzz10Telu2Zzzz9Telu1Zzzz3Telu1Zzzz4Telu7Zzzz2Telu",
  "1Zzzz3Telu2Zzzz1Telu2Zzzz4Telu2ZzzzaTelu7Zzzz9TeludKnda1Zzzz3Knda1Zzzz17Knda1ZzzzaKnda",
  "1Zzzz5Knda2Zzzz9Knda1Zzzz3Knda1Zzzz4Knda7Zzzz2Knda6Zzzz2Knda1Zzzz4Knda2ZzzzaKnda1Zzzz3Knda",
  "cZzzzdMlym1Zzzz3Mlym1Zzzz33Mlym1Zzzz3Mlym1Zzzz6Mlym4Zzzz10Mlym2Zzzz1aMlym1Zzzz3Sinh1Zzzz",
  "12Sinh3Zzzz18Sinh1Zzzz9Sinh1Zzzz1Sinh2Zzzz7Sinh3Zzzz1Sinh4Zzzz6Sinh1Zzzz1Sinh1Zzzz8Sinh",
  "6ZzzzaSinh2Zzzz3SinhcZzzz3aThai4Zzzz1Zyyy1cThai25Zzzz2Laoo1Zzzz1Laoo1Zzzz5Laoo1Zzzz18Laoo",
  "1Zzzz1Laoo1Zzzz17Laoo2Zzzz5Laoo1Zzzz1Laoo1Zzzz7Laoo1ZzzzaLaoo2Zzzz4Laoo20Zzzz48Tibt1Zzzz",
  "24Tibt4Zzzz27Tibt1Zzzz24Tibt1ZzzzfTibt1Zzzz7Tibt4Zyyy2Tibt25Zzzza0Mymr26Geor1Zzzz1Geor",
  "5Zzzz1Geor2Zzzz2bGeor1Zyyy4Geor100Hang49Ethi1Zzzz4Ethi2Zzzz7Ethi1Zzzz1Ethi1Zzzz4Ethi2Zzzz",
  "29Ethi1Zzzz4Ethi2Zzzz21Ethi1Zzzz4Ethi2Zzzz7Ethi1Zzzz1Ethi1Zzzz4Ethi2ZzzzfEthi1Zzzz39Ethi",
  "1Zzzz4Ethi2Zzzz43Ethi2Zzzz20Ethi3Zzzz1aEthi6Zzzz56Cher2Zzzz6Cher2Zzzz280Cans1dOgam3Zzzz",
  "4bRunr3ZyyybRunr7Zzzz16Tglg9Zzzz1Tglg15Hano2Zyyy9Zzzz14BuhdcZzzzdTagb1Zzzz3Tagb1Zzzz2Tagb",
  "cZzzz5eKhmr2ZzzzaKhmr6ZzzzaKhmr6Zzzz2Mong2Zyyy1Mong1Zyyy14Mong6Zzzz59Mong7Zzzz2bMong5Zzzz",
  "46CansaZzzz1fLimb1ZzzzcLimb4ZzzzcLimb4Zzzz1Limb3ZzzzcLimb1eTale2Zzzz5TalebZzzz2cTalu4Zzzz",
  "1aTalu6ZzzzbTalu3Zzzz2Talu20Khmr1cBugi2Zzzz2Bugi3fLana1Zzzz1dLana2ZzzzbLana6ZzzzaLana6Zzzz",
  "eLana2Zzzz1fZinh31Zzzz4dBali3Zzzz2fBali1Zzzz40Sund34Batk8Zzzz4Batk38Lepc3ZzzzfLepc3Zzzz",
  "3Lepc30Olck9Cyrl7Zzzz2bGeor2Zzzz3Geor8Sund8Zzzz3Zinh1ZyyydZinh1Zyyy7Zinh4Zyyy1Zinh6Zyyy",
  "1Zinh3Zyyy2Zinh1Zyyy5Zzzz26Latn5Grek1Cyrl31Latn5Grek4Latn5GrekdLatn1Cyrl46Latn1Grek40Zinh",
  "100Latn16Grek2Zzzz6Grek2Zzzz26Grek2Zzzz6Grek2Zzzz8Grek1Zzzz1Grek1Zzzz1Grek1Zzzz1Grek1Zzzz",
  "1fGrek2Zzzz35Grek1ZzzzfGrek1ZzzzeGrek2Zzzz6Grek1Zzzz13Grek2Zzzz3Grek1Zzzz9Grek1ZzzzcZyyy",
  "2Zinh57Zyyy1ZzzzbZyyy1Latn2ZzzzbZyyy1LatnfZyyy1ZzzzdLatn3Zzzz21ZyyyfZzzz21ZinhfZzzz26Zyyy",
  "1Grek3Zyyy2Latn6Zyyy1Latn1bZyyy1Latn11Zyyy29Latn3Zyyy4Zzzz297Zyyy19ZzzzbZyyy15Zzzz3a0Zyyy",
  "100Brai274Zyyy2Zzzz20Zyyy1Zzzz69Zyyy60Glag20Latn74Copt5Zzzz7Copt26Geor1Zzzz1Geor5Zzzz1Geor",
  "2Zzzz38Tfng7Zzzz2TfngeZzzz1Tfng17Ethi9Zzzz7Ethi1Zzzz7Ethi1Zzzz7Ethi1Zzzz7Ethi1Zzzz7Ethi",
  "1Zzzz7Ethi1Zzzz7Ethi1Zzzz7Ethi1Zzzz20Cyrl5eZyyy22Zzzz1aHani1Zzzz59HanicZzzzd6Hani1aZzzz",
  "cZyyy4Zzzz5Zyyy1Hani1Zyyy1Hani19Zyyy9Hani4Zinh2Hang8Zyyy4Hani4Zyyy1Zzzz56Hira2Zzzz2Zinh",
  "2Zyyy3Hira1Zyyy5aKana2Zyyy3Kana5Zzzz2bBopo1Zzzz5eHang1Zzzz10Zyyy20Bopo24ZyyycZzzz10Kana",
  "1fHang1Zzzz40Zyyy1fHang51Zyyy2fKana1Zyyy58Kanaa8Zyyy19c0Hani40Zyyy5200Hani48dYiii3Zzzz",
  "37Yiii9Zzzz30Lisu12cVaii14Zzzz60Cyrl58Bamu8Zzzz22Zyyy66Latn3Zyyy40Latn5Zzzz2Latn1Zzzz1Latn",
  "1Zzzz5Latn18ZzzzeLatn2dSylo3ZzzzaZyyy6Zzzz38Phag8Zzzz46Saur8ZzzzcSaur6Zzzz20Deva2eKali",
  "1Zyyy1Kali24RjngbZzzz1Rjng1dHang3Zzzz4eJava1Zzzz1ZyyyaJava4Zzzz2Java1fMymr1Zzzz37Cham9Zzzz",
  "eCham2ZzzzaCham2Zzzz4Cham20Mymr43Tavt18Zzzz5Tavt17MteiaZzzz6Ethi2Zzzz6Ethi2Zzzz6Ethi9Zzzz",
  "7Ethi1Zzzz7Ethi1Zzzz2bLatn1Zyyy9Latn1Grek4Latn2Zyyy4Zzzz50Cher2eMtei2ZzzzaMtei6Zzzz",
  "2ba4HangcZzzz17Hang4Zzzz31Hang2104Zzzz16eHani2Zzzz6aHani26Zzzz7LatncZzzz5Armn5Zzzz1aHebr",
  "1Zzzz5Hebr1Zzzz1Hebr1Zzzz2Hebr1Zzzz2Hebr1ZzzzaHebr73Arab10Zzzz16bArab2Zyyy50Arab2Zzzz",
  "36Arab7Zzzz1Arab20Zzzz10Arab10ZinhaZyyy6ZzzzeZinh2Cyrl23Zyyy1Zzzz13Zyyy1Zzzz4Zyyy4Zzzz",
  "5Arab1Zzzz87Arab2Zzzz1Zyyy1Zzzz20Zyyy1aLatn6Zyyy1aLatnbZyyyaKana1Zyyy2dKana2Zyyy1fHang",
  "3Zzzz6Hang2Zzzz6Hang2Zzzz6Hang2Zzzz3Hang3Zzzz7Zyyy1Zzzz7ZyyyaZzzz5Zyyy2ZzzzcLinb1Zzzz",
  "1aLinb1Zzzz13Linb1Zzzz2Linb1ZzzzfLinb2ZzzzeLinb22Zzzz7bLinb5Zzzz3Zyyy4Zzzz2dZyyy3Zzzz9Zyyy",
  "4fGrek1ZzzzdZyyy3Zzzz1Grek2fZzzz2dZyyy1Zinh82Zzzz1dLyci3Zzzz31CarifZzzz1Zinh1bZyyy4Zzzz",
  "24Ital9Zzzz3Ital1bGoth5Zzzz2bPerm5Zzzz1eUgar1Zzzz1Ugar24Xpeo4ZzzzeXpeo2aZzzz50Dsrt30Shaw",
  "1eOsma2ZzzzaOsma6Zzzz24Osge4Zzzz24Osge4Zzzz28Elba8Zzzz34AghbbZzzz1AghbbVith1ZzzzfVith1Zzzz",
  "7Vith1Zzzz2Vith1ZzzzbVith1ZzzzfVith1Zzzz7Vith1Zzzz2Vith43Zzzz137Lina9Zzzz16LinaaZzzz8Lina",
  "18Zzzz6Latn1Zzzz2aLatn1Zzzz9Latn45Zzzz6Cprt2Zzzz1Cprt1Zzzz2cCprt1Zzzz2Cprt3Zzzz1Cprt2Zzzz",
  "1Cprt16Armi1Zzzz9Armi20Palm1fNbat8Zzzz9Nbat30Zzzz13Hatr1Zzzz2Hatr5Zzzz5Hatr1cPhnx3Zzzz",
  "1Phnx1aLydi5Zzzz1Lydi40Zzzz20Mero18Merc4Zzzz14Merc2Zzzz2eMerc4Khar1Zzzz2Khar5Zzzz8Khar",
  "1Zzzz3Khar1Zzzz1dKhar2Zzzz3Khar4ZzzzaKhar7Zzzz9Khar7Zzzz20Sarb20Narb20Zzzz27Mani4ZzzzcMani",
  "9Zzzz36Avst3Zzzz7Avst16Prti2Zzzz8Prti13Phli5Zzzz8Phli12Phlp7Zzzz4PhlpcZzzz7Phlp50Zzzz",
  "49Orkh37Zzzz33HungdZzzz33Hung7Zzzz6Hung28Rohg8ZzzzaRohg126Zzzz1fArab1Zzzz2aYezi1Zzzz3Yezi",
  "2Zzzz2Yezi4bZzzz3Arab28Sogo8Zzzz2aSogd16Zzzz1aOugr26Zzzz1cChrs14Zzzz17Elym9Zzzz4eBrah4Zzzz",
  "24Brah9Zzzz1Brah43KthiaZzzz1Kthi2Zzzz19Sora7ZzzzaSora6Zzzz35Cakm1Zzzz12Cakm8Zzzz27Mahj",
  "9Zzzz60Shrd1Zzzz14SinhbZzzz12Khoj1Zzzz2fKhoj3eZzzz7Mult1Zzzz1Mult1Zzzz4Mult1ZzzzfMult1Zzzz",
  "bMult6Zzzz3bSind5ZzzzaSind6Zzzz4Gran1Zzzz8Gran2Zzzz2Gran2Zzzz16Gran1Zzzz7Gran1Zzzz2Gran",
  "1Zzzz5Gran1Zzzz1Zinh9Gran2Zzzz2Gran2Zzzz3Gran2Zzzz1Gran6Zzzz1Gran5Zzzz7Gran2Zzzz7Gran3Zzzz",
  "5Gran8bZzzz5cNewa1Zzzz5Newa1eZzzz48Tirh8ZzzzaTirha6Zzzz36Sidd2Zzzz26Sidd22Zzzz45ModibZzzz",
  "aModi6ZzzzdMong13Zzzz3aTakr6ZzzzaTakr36Zzzz1bAhom2ZzzzfAhom4Zzzz17Ahomb9Zzzz3cDogr64Zzzz",
  "53WaracZzzz1Wara7Diak2Zzzz1Diak2Zzzz8Diak1Zzzz2Diak1Zzzz1eDiak1Zzzz2Diak2ZzzzcDiak9Zzzz",
  "aDiak46Zzzz8Nand2Zzzz2eNand2ZzzzbNand1bZzzz48Zanb8Zzzz53SoyodZzzz10Cans39Pauc7ZzzzaDeva",
  "f6Zzzz9Bhks1Zzzz2dBhks1ZzzzeBhksaZzzz1dBhks3Zzzz20Marc2Zzzz16Marc1ZzzzeMarc49Zzzz7Gonm",
  "1Zzzz2Gonm1Zzzz2cGonm3Zzzz1Gonm1Zzzz2Gonm1Zzzz9Gonm8ZzzzaGonm6Zzzz6Gong1Zzzz2Gong1Zzzz",
  "25Gong1Zzzz2Gong1Zzzz6Gong7ZzzzaGong136Zzzz19Maka7Zzzz11Kawi1Zzzz29Kawi3Zzzz1cKawi56Zzzz",
  "1LisufZzzz32TamldZzzz1Taml39aXsux66Zzzz6fXsux1Zzzz5XsuxbZzzzc4Xsuxa4cZzzz63CpmndZzzz",
  "456EgypfaaZzzz247Hluw21b9Zzzz239Bamu7Zzzz1fMroo1ZzzzaMroo4Zzzz2Mroo4fTnsa1ZzzzaTnsa6Zzzz",
  "1eBass2Zzzz6BassaZzzz46HmngaZzzzaHmng1Zzzz7Hmng1Zzzz15Hmng5Zzzz13Hmng2b0Zzzz5bMedf65Zzzz",
  "4bPlrd4Zzzz39Plrd7Zzzz11Plrd40Zzzz1Tang1Nshu2Hani1KitsbZzzz2HanieZzzz17f8Tang8Zzzz300Tang",
  "1d6Kits2aZzzz9Tang22e7Zzzz4Kana1Zzzz7Kana1Zzzz2Kana1Zzzz1Kana11fHira3KanafZzzz1Hira1dZzzz",
  "3Hira2Zzzz1KanaeZzzz4Kana8Zzzz18cNshu904Zzzz6bDupl5ZzzzdDupl3Zzzz9Dupl7ZzzzaDupl2Zzzz4Dupl",
  "4Zyyy125cZzzz2eZinh2Zzzz17Zinh9Zzzz74Zyyy3cZzzzf6ZyyyaZzzz27Zyyy2Zzzz3eZyyy3Zinh11Zyyy",
  "8Zinh2Zyyy7Zinh1eZyyy4Zinh3dZyyy15Zzzz46Grek7aZzzz14ZyyycZzzz14ZyyycZzzz57Zyyy9Zzzz19Zyyy",
  "87Zzzz55Zyyy1Zzzz47Zyyy1Zzzz2Zyyy2Zzzz1Zyyy2Zzzz2Zyyy2Zzzz4Zyyy1ZzzzcZyyy1Zzzz1Zyyy1Zzzz",
  "7Zyyy1Zzzz41Zyyy1Zzzz4Zyyy2Zzzz8Zyyy1Zzzz7Zyyy1Zzzz1cZyyy1Zzzz4Zyyy1Zzzz5Zyyy1Zzzz1Zyyy",
  "3Zzzz7Zyyy1Zzzz154Zyyy2Zzzz124Zyyy2Zzzz32Zyyy28cSgnwfZzzz5Sgnw1ZzzzfSgnw450Zzzz1fLatn6Zzzz",
  "6Latnd5Zzzz7Glag1Zzzz11Glag2Zzzz7Glag1Zzzz2Glag1Zzzz5Glag5Zzzz3eCyrl21Zzzz1Cyrl70Zzzz",
  "2dHmnp3ZzzzeHmnp2ZzzzaHmnp4Zzzz2Hmnp140Zzzz1fToto11Zzzz3aWcho5Zzzz1Wcho1d0Zzzz2aNagm",
  "2e6Zzzz7Ethi1Zzzz4Ethi1Zzzz2Ethi1ZzzzfEthi1Zzzzc5Mend2Zzzz10Mend29Zzzz4cAdlm4ZzzzaAdlm",
  "4Zzzz2Adlm311Zzzz44Zyyy4cZzzz3dZyyyc2Zzzz4Arab1Zzzz1bArab1Zzzz2Arab1Zzzz1Arab2Zzzz1Arab",
  "1ZzzzaArab1Zzzz4Arab1Zzzz1Arab1Zzzz1Arab6Zzzz1Arab4Zzzz1Arab1Zzzz1Arab1Zzzz1Arab1Zzzz3Arab",
  "1Zzzz2Arab1Zzzz1Arab2Zzzz1Arab1Zzzz1Arab1Zzzz1Arab1Zzzz1Arab1Zzzz1Arab1Zzzz2Arab1Zzzz1Arab",
  "2Zzzz4Arab1Zzzz7Arab1Zzzz4Arab1Zzzz4Arab1Zzzz1Arab1ZzzzaArab1Zzzz11Arab5Zzzz3Arab1Zzzz",
  "5Arab1Zzzz11Arab34Zzzz2Arab10eZzzz2cZyyy4Zzzz64ZyyycZzzzfZyyy2ZzzzfZyyy1ZzzzfZyyy1Zzzz",
  "25ZyyyaZzzzaeZyyy38Zzzz1aZyyy1Hira2ZyyydZzzz2cZyyy4Zzzz9Zyyy7Zzzz2ZyyyeZzzz6Zyyy9aZzzz",
  "3d8Zyyy4Zzzz11Zyyy3ZzzzdZyyy3Zzzz77Zyyy4Zzzz5fZyyy6ZzzzcZyyy4Zzzz1ZyyyfZzzzcZyyy4Zzzz",
  "38Zyyy8ZzzzaZyyy6Zzzz28Zyyy8Zzzz1eZyyy2Zzzz2Zyyy4eZzzz154ZyyycZzzzeZyyy2ZzzzdZyyy3Zzzz",
  "9Zyyy7Zzzz2eZyyy1Zzzz7Zyyy8ZzzzeZyyy4Zzzz9Zyyy7Zzzz9Zyyy7Zzzz93Zyyy1Zzzz37Zyyy25ZzzzaZyyy",
  "406Zzzza6e0Hani20Zzzz103aHani6ZzzzdeHani2Zzzz1682HanieZzzz1d31Hanic1fZzzz21eHani5e2Zzzz",
  "134bHani5Zzzz1060Haniadc51Zzzz1Zyyy1eZzzz60Zyyy80Zzzzf0Zinh2fe10Zzzz"]

/-- The ranges of the code points of a script. -/
def scriptRanges (code : String) : List (Nat × Nat) :=
  labelledRangesFrom (fun label => String.ofList label == code) 0 scriptRuns

def scriptNames : List (String × List String) := [
  ("Adlm", ["adlm", "adlam"]),
  ("Aghb", ["aghb", "caucasianalbanian"]),
  ("Ahom", ["ahom"]),
  ("Arab", ["arab", "arabic"]),
  ("Armi", ["armi", "imperialaramaic"]),
  ("Armn", ["armn", "armenian"]),
  ("Avst", ["avst", "avestan"]),
  ("Bali", ["bali", "balinese"]),
  ("Bamu", ["bamu", "bamum"]),
  ("Bass", ["bass", "bassavah"]),
  ("Batk", ["batk", "batak"]),
  ("Beng", ["beng", "bengali"]),
  ("Bhks", ["bhks", "bhaiksuki"]),
  ("Bopo", ["bopo", "bopomofo"]),
  ("Brah", ["brah", "brahmi"]),
  ("Brai", ["brai", "braille"]),
  ("Bugi", ["bugi", "buginese"]),
  ("Buhd", ["buhd", "buhid"]),
  ("Cakm", ["cakm", "chakma"]),
  ("Cans", ["cans", "canadianaboriginal"]),
  ("Cari", ["cari", "carian"]),
  ("Cham", ["cham"]),
  ("Cher", ["cher", "cherokee"]),
  ("Chrs", ["chrs", "chorasmian"]),
  ("Copt", ["copt", "coptic", "qaac"]),
  ("Cpmn", ["cpmn", "cyprominoan"]),
  ("Cprt", ["cprt", "cypriot"]),
  ("Cyrl", ["cyrl", "cyrillic"]),
  ("Deva", ["deva", "devanagari"]),
  ("Diak", ["diak", "divesakuru"]),
  ("Dogr", ["dogr", "dogra"]),
  ("Dsrt", ["dsrt", "deseret"]),
  ("Dupl", ["dupl", "duployan"]),
  ("Egyp", ["egyp", "egyptianhieroglyphs"]),
  ("Elba", ["elba", "elbasan"]),
  ("Elym", ["elym", "elymaic"]),
  ("Ethi", ["ethi", "ethiopic"]),
  ("Geor", ["geor", "georgian"]),
  ("Glag", ["glag", "glagolitic"]),
  ("Gong", ["gong", "gunjalagondi"]),
  ("Gonm", ["gonm", "masaramgondi"]),
  ("Goth", ["goth", "gothic"]),
  ("Gran", ["gran", "grantha"]),
  ("Grek", ["grek", "greek"]),
  ("Gujr", ["gujr", "gujarati"]),
  ("Guru", ["guru", "gurmukhi"]),
  ("Hang", ["hang", "hangul"]),
  ("Hani", ["hani", "han"]),
  ("Hano", ["hano", "hanunoo"]),
  ("Hatr", ["hatr", "hatran"]),
  ("Hebr", ["hebr", "hebrew"]),
  ("Hira", ["hira", "hiragana"]),
  ("Hluw", ["hluw", "anatolianhieroglyphs"]),
  ("Hmng", ["hmng", "pahawhhmong"]),
  ("Hmnp", ["hmnp", "nyiakengpuachuehmong"]),
  ("Hung", ["hung", "oldhungarian"]),
  ("Ital", ["ital", "olditalic"]),
  ("Java", ["java", "javanese"]),
  ("Kali", ["kali", "kayahli"]),
  ("Kana", ["kana", "katakana"]),
  ("Kawi", ["kawi"]),
  ("Khar", ["khar", "kharoshthi"]),
  ("Khmr", ["khmr", "khmer"]),
  ("Khoj", ["khoj", "khojki"]),
  ("Kits", ["kits", "khitansmallscript"]),
  ("Knda", ["knda", "kannada"]),
  ("Kthi", ["kthi", "kaithi"]),
  ("Lana", ["lana", "taitham"]),
  ("Laoo", ["laoo", "lao"]),
  ("Latn", ["latn", "latin"]),
  ("Lepc", ["lepc", "lepcha"]),
  ("Limb", ["limb", "limbu"]),
  ("Lina", ["lina", "lineara"]),
  ("Linb", ["linb", "linearb"]),
  ("Lisu", ["lisu"]),
  ("Lyci", ["lyci", "lycian"]),
  ("Lydi", ["lydi", "lydian"]),
  ("Mahj", ["mahj", "mahajani"]),
  ("Maka", ["maka", "makasar"]),
  ("Mand", ["mand", "mandaic"]),
  ("Mani", ["mani", "manichaean"]),
  ("Marc", ["marc", "marchen"]),
  ("Medf", ["medf", "medefaidrin"]),
  ("Mend", ["mend", "mendekikakui"]),
  ("Merc", ["merc", "meroiticcursive"]),
  ("Mero", ["mero", "meroitichieroglyphs"]),
  ("Mlym", ["mlym", "malayalam"]),
  ("Modi", ["modi"]),
  ("Mong", ["mong", "mongolian"]),
  ("Mroo", ["mroo", "mro"]),
  ("Mtei", ["mtei", "meeteimayek"]),
  ("Mult", ["mult", "multani"]),
  ("Mymr", ["mymr", "myanmar"]),
  ("Nagm", ["nagm", "nagmundari"]),
  ("Nand", ["nand", "nandinagari"]),
  ("Narb", ["narb", "oldnortharabian"]),
  ("Nbat", ["nbat", "nabataean"]),
  ("Newa", ["newa"]),
  ("Nkoo", ["nkoo", "nko"]),
  ("Nshu", ["nshu", "nushu"]),
  ("Ogam", ["ogam", "ogham"]),
  ("Olck", ["olck", "olchiki"]),
  ("Orkh", ["orkh", "oldturkic"]),
  ("Orya", ["orya", "oriya"]),
  ("Osge", ["osge", "osage"]),
  ("Osma", ["osma", "osmanya"]),
  ("Ougr", ["ougr", "olduyghur"]),
  ("Palm", ["palm", "palmyrene"]),
  ("Pauc", ["pauc", "paucinhau"]),
  ("Perm", ["perm", "oldpermic"]),
  ("Phag", ["phag", "phagspa"]),
  ("Phli", ["phli", "inscriptionalpahlavi"]),
  ("Phlp", ["phlp", "psalterpahlavi"]),
  ("Phnx", ["phnx", "phoenician"]),
  ("Plrd", ["plrd", "miao"]),
  ("Prti", ["prti", "inscriptionalparthian"]),
  ("Rjng", ["rjng", "rejang"]),
  ("Rohg", ["rohg", "hanifirohingya"]),
  ("Runr", ["runr", "runic"]),
  ("Samr", ["samr", "samaritan"]),
  ("Sarb", ["sarb", "oldsoutharabian"]),
  ("Saur", ["saur", "saurashtra"]),
  ("Sgnw", ["sgnw", "signwriting"]),
  ("Shaw", ["shaw", "shavian"]),
  ("Shrd", ["shrd", "sharada"]),
  ("Sidd", ["sidd", "siddham"]),
  ("Sind", ["sind", "khudawadi"]),
  ("Sinh", ["sinh", "sinhala"]),
  ("Sogd", ["sogd", "sogdian"]),
  ("Sogo", ["sogo", "oldsogdian"]),
  ("Sora", ["sora", "sorasompeng"]),
  ("Soyo", ["soyo", "soyombo"]),
  ("Sund", ["sund", "sundanese"]),
  ("Sylo", ["sylo", "sylotinagri"]),
  ("Syrc", ["syrc", "syriac"]),
  ("Tagb", ["tagb", "tagbanwa"]),
  ("Takr", ["takr", "takri"]),
  ("Tale", ["tale", "taile"]),
  ("Talu", ["talu", "newtailue"]),
  ("Taml", ["taml", "tamil"]),
  ("Tang", ["tang", "tangut"]),
  ("Tavt", ["tavt", "taiviet"]),
  ("Telu", ["telu", "telugu"]),
  ("Tfng", ["tfng", "tifinagh"]),
  ("Tglg", ["tglg", "tagalog"]),
  ("Thaa", ["thaa", "thaana"]),
  ("Thai", ["thai"]),
  ("Tibt", ["tibt", "tibetan"]),
  ("Tirh", ["tirh", "tirhuta"]),
  ("Tnsa", ["tnsa", "tangsa"]),
  ("Toto", ["toto"]),
  ("Ugar", ["ugar", "ugaritic"]),
  ("Vaii", ["vaii", "vai"]),
  ("Vith", ["vith", "vithkuqi"]),
  ("Wara", ["wara", "warangciti"]),
  ("Wcho", ["wcho", "wancho"]),
  ("Xpeo", ["xpeo", "oldpersian"]),
  ("Xsux", ["xsux", "cuneiform"]),
  ("Yezi", ["yezi", "yezidi"]),
  ("Yiii", ["yiii", "yi"]),
  ("Zanb", ["zanb", "zanabazarsquare"]),
  ("Zinh", ["zinh", "inherited", "qaai"]),
  ("Zyyy", ["zyyy", "common"])]

/-- The script that a plain name stands for. -/
def script? (name : String) : Option String :=
  (scriptNames.find? fun entry => entry.2.contains name).map (·.1)

/-- The code points that are not used just by their own script, as ranges. -/
def sharedRanges : List (Nat × Nat × List String) := [
  (0x342, 0x342, ["Grek"]),
  (0x345, 0x345, ["Grek"]),
  (0x363, 0x36F, ["Latn"]),
  (0x483, 0x483, ["Cyrl", "Perm"]),
  (0x484, 0x484, ["Cyrl", "Glag"]),
  (0x485, 0x486, ["Cyrl", "Latn"]),
  (0x487, 0x487, ["Cyrl", "Glag"]),
  (0x60C, 0x60C, ["Arab", "Nkoo", "Rohg", "Syrc", "Thaa", "Yezi"]),
  (0x61B, 0x61B, ["Arab", "Nkoo", "Rohg", "Syrc", "Thaa", "Yezi"]),
  (0x61C, 0x61C, ["Arab", "Syrc", "Thaa"]),
  (0x61F, 0x61F, ["Adlm", "Arab", "Nkoo", "Rohg", "Syrc", "Thaa", "Yezi"]),
  (0x640, 0x640, ["Adlm", "Arab", "Mand", "Mani", "Ougr", "Phlp", "Rohg", "Sogd", "Syrc"]),
  (0x64B, 0x655, ["Arab", "Syrc"]),
  (0x660, 0x669, ["Arab", "Thaa", "Yezi"]),
  (0x670, 0x670, ["Arab", "Syrc"]),
  (0x6D4, 0x6D4, ["Arab", "Rohg"]),
  (0x951, 0x951, ["Beng", "Deva", "Gran", "Gujr", "Guru", "Knda", "Latn", "Mlym", "Orya", "Shrd",
    "Taml", "Telu", "Tirh"]),
  (0x952, 0x952, ["Beng", "Deva", "Gran", "Gujr", "Guru", "Knda", "Latn", "Mlym", "Orya", "Taml",
    "Telu", "Tirh"]),
  (0x964, 0x964, ["Beng", "Deva", "Dogr", "Gong", "Gonm", "Gran", "Gujr", "Guru", "Knda", "Mahj",
    "Mlym", "Nand", "Orya", "Sind", "Sinh", "Sylo", "Takr", "Taml", "Telu", "Tirh"]),
  (0x965, 0x965, ["Beng", "Deva", "Dogr", "Gong", "Gonm", "Gran", "Gujr", "Guru", "Knda", "Limb",
    "Mahj", "Mlym", "Nand", "Orya", "Sind", "Sinh", "Sylo", "Takr", "Taml", "Telu", "Tirh"]),
  (0x966, 0x96F, ["Deva", "Dogr", "Kthi", "Mahj"]),
  (0x9E6, 0x9EF, ["Beng", "Cakm", "Sylo"]),
  (0xA66, 0xA6F, ["Guru", "Mult"]),
  (0xAE6, 0xAEF, ["Gujr", "Khoj"]),
  (0xBE6, 0xBF3, ["Gran", "Taml"]),
  (0xCE6, 0xCEF, ["Knda", "Nand"]),
  (0x1040, 0x1049, ["Cakm", "Mymr", "Tale"]),
  (0x10FB, 0x10FB, ["Geor", "Latn"]),
  (0x1735, 0x1736, ["Buhd", "Hano", "Tagb", "Tglg"]),
  (0x1802, 0x1803, ["Mong", "Phag"]),
  (0x1805, 0x1805, ["Mong", "Phag"]),
  (0x1CD0, 0x1CD0, ["Beng", "Deva", "Gran", "Knda"]),
  (0x1CD1, 0x1CD1, ["Deva"]),
  (0x1CD2, 0x1CD2, ["Beng", "Deva", "Gran", "Knda"]),
  (0x1CD3, 0x1CD3, ["Deva", "Gran"]),
  (0x1CD4, 0x1CD4, ["Deva"]),
  (0x1CD5, 0x1CD6, ["Beng", "Deva"]),
  (0x1CD7, 0x1CD7, ["Deva", "Shrd"]),
  (0x1CD8, 0x1CD8, ["Beng", "Deva"]),
  (0x1CD9, 0x1CD9, ["Deva", "Shrd"]),
  (0x1CDA, 0x1CDA, ["Deva", "Knda", "Mlym", "Orya", "Taml", "Telu"]),
  (0x1CDB, 0x1CDB, ["Deva"]),
  (0x1CDC, 0x1CDD, ["Deva", "Shrd"]),
  (0x1CDE, 0x1CDF, ["Deva"]),
  (0x1CE0, 0x1CE0, ["Deva", "Shrd"]),
  (0x1CE1, 0x1CE1, ["Beng", "Deva"]),
  (0x1CE2, 0x1CE8, ["Deva"]),
  (0x1CE9, 0x1CE9, ["Deva", "Nand"]),
  (0x1CEA, 0x1CEA, ["Beng", "Deva"]),
  (0x1CEB, 0x1CEC, ["Deva"]),
  (0x1CED, 0x1CED, ["Beng", "Deva"]),
  (0x1CEE, 0x1CF1, ["Deva"]),
  (0x1CF2, 0x1CF2, ["Beng", "Deva", "Gran", "Knda", "Nand", "Orya", "Telu", "Tirh"]),
  (0x1CF3, 0x1CF3, ["Deva", "Gran"]),
  (0x1CF4, 0x1CF4, ["Deva", "Gran", "Knda"]),
  (0x1CF5, 0x1CF6, ["Beng", "Deva"]),
  (0x1CF7, 0x1CF7, ["Beng"]),
  (0x1CF8, 0x1CF9, ["Deva", "Gran"]),
  (0x1CFA, 0x1CFA, ["Nand"]),
  (0x1DC0, 0x1DC1, ["Grek"]),
  (0x1DF8, 0x1DF8, ["Cyrl", "Syrc"]),
  (0x1DFA, 0x1DFA, ["Syrc"]),
  (0x202F, 0x202F, ["Latn", "Mong"]),
  (0x20F0, 0x20F0, ["Deva", "Gran", "Latn"]),
  (0x2E43, 0x2E43, ["Cyrl", "Glag"]),
  (0x3001, 0x3002, ["Bopo", "Hang", "Hani", "Hira", "Kana", "Yiii"]),
  (0x3003, 0x3003, ["Bopo", "Hang", "Hani", "Hira", "Kana"]),
  (0x3006, 0x3006, ["Hani"]),
  (0x3008, 0x3011, ["Bopo", "Hang", "Hani", "Hira", "Kana", "Yiii"]),
  (0x3013, 0x3013, ["Bopo", "Hang", "Hani", "Hira", "Kana"]),
  (0x3014, 0x301B, ["Bopo", "Hang", "Hani", "Hira", "Kana", "Yiii"]),
  (0x301C, 0x301F, ["Bopo", "Hang", "Hani", "Hira", "Kana"]),
  (0x302A, 0x302D, ["Bopo", "Hani"]),
  (0x3030, 0x3030, ["Bopo", "Hang", "Hani", "Hira", "Kana"]),
  (0x3031, 0x3035, ["Hira", "Kana"]),
  (0x3037, 0x3037, ["Bopo", "Hang", "Hani", "Hira", "Kana"]),
  (0x303C, 0x303D, ["Hani", "Hira", "Kana"]),
  (0x303E, 0x303F, ["Hani"]),
  (0x3099, 0x309C, ["Hira", "Kana"]),
  (0x30A0, 0x30A0, ["Hira", "Kana"]),
  (0x30FB, 0x30FB, ["Bopo", "Hang", "Hani", "Hira", "Kana", "Yiii"]),
  (0x30FC, 0x30FC, ["Hira", "Kana"]),
  (0x3190, 0x319F, ["Hani"]),
  (0x31C0, 0x31E3, ["Hani"]),
  (0x3220, 0x3247, ["Hani"]),
  (0x3280, 0x32B0, ["Hani"]),
  (0x32C0, 0x32CB, ["Hani"]),
  (0x32FF, 0x32FF, ["Hani"]),
  (0x3358, 0x3370, ["Hani"]),
  (0x337B, 0x337F, ["Hani"]),
  (0x33E0, 0x33FE, ["Hani"]),
  (0xA66F, 0xA66F, ["Cyrl", "Glag"]),
  (0xA700, 0xA707, ["Hani", "Latn"]),
  (0xA830, 0xA832, ["Deva", "Dogr", "Gujr", "Guru", "Khoj", "Knda", "Kthi", "Mahj", "Mlym", "Modi",
    "Nand", "Sind", "Takr", "Tirh"]),
  (0xA833, 0xA835, ["Deva", "Dogr", "Gujr", "Guru", "Khoj", "Knda", "Kthi", "Mahj", "Modi", "Nand",
    "Sind", "Takr", "Tirh"]),
  (0xA836, 0xA839, ["Deva", "Dogr", "Gujr", "Guru", "Khoj", "Kthi", "Mahj", "Modi", "Sind", "Takr",
    "Tirh"]),
  (0xA8F1, 0xA8F1, ["Beng", "Deva"]),
  (0xA8F3, 0xA8F3, ["Deva", "Taml"]),
  (0xA92E, 0xA92E, ["Kali", "Latn", "Mymr"]),
  (0xA9CF, 0xA9CF, ["Bugi", "Java"]),
  (0xFD3E, 0xFD3F, ["Arab", "Nkoo"]),
  (0xFDF2, 0xFDF2, ["Arab", "Thaa"]),
  (0xFDFD, 0xFDFD, ["Arab", "Thaa"]),
  (0xFE45, 0xFE46, ["Bopo", "Hang", "Hani", "Hira", "Kana"]),
  (0xFF61, 0xFF65, ["Bopo", "Hang", "Hani", "Hira", "Kana", "Yiii"]),
  (0xFF70, 0xFF70, ["Hira", "Kana"]),
  (0xFF9E, 0xFF9F, ["Hira", "Kana"]),
  (0x10100, 0x10101, ["Cpmn", "Cprt", "Linb"]),
  (0x10102, 0x10102, ["Cprt", "Linb"]),
  (0x10107, 0x10133, ["Cprt", "Lina", "Linb"]),
  (0x10137, 0x1013F, ["Cprt", "Linb"]),
  (0x102E0, 0x102FB, ["Arab", "Copt"]),
  (0x10AF2, 0x10AF2, ["Mani", "Ougr"]),
  (0x11301, 0x11301, ["Gran", "Taml"]),
  (0x11303, 0x11303, ["Gran", "Taml"]),
  (0x1133B, 0x1133C, ["Gran", "Taml"]),
  (0x11FD0, 0x11FD1, ["Gran", "Taml"]),
  (0x11FD3, 0x11FD3, ["Gran", "Taml"]),
  (0x1BCA0, 0x1BCA3, ["Dupl"]),
  (0x1D360, 0x1D371, ["Hani"]),
  (0x1F250, 0x1F251, ["Hani"])]

end TemplateAudit.Unicode

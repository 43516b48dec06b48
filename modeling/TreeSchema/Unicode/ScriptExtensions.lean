import TreeSchema.Unicode.Coding

/-!
# Script extensions

The scripts in which each code point is used. A class of
`scriptExtensionRuns` is a list of short script names, separated by spaces.
-/

namespace TreeSchema.Unicode

def scriptExtensionLists : List String :=
  ["Zzzz", "Zyyy", "Arab", "Latn", "Grek", "Ethi", "Hani", "Zinh", "Taml", "Guru", "Gran", "Beng",
   "Deva", "Gujr", "Orya", "Hang", "Kana", "Telu", "Sinh", "Knda", "Cyrl", "Laoo", "Geor", "Hebr",
   "Vith", "Khar", "Diak", "Mlym", "Tibt", "Beng Deva", "Linb", "Gonm", "Gran Taml", "Mong",
   "Glag", "Bopo Hang Hani Hira Kana", "Hira Kana", "Hira", "Cprt", "Gong", "Syrc", "Limb",
   "Lana", "Bopo Hang Hani Hira Kana Yiii", "Mult", "Hmng", "Dupl", "Cyrl Glag", "Armn", "Mymr",
   "Khmr", "Talu", "Deva Shrd", "Nand", "Cham", "Bhks", "Xsux", "Tang", "Hmnp", "Bopo", "Copt",
   "Cher", "Cans", "Tagb", "Lepc", "Deva Gran", "Tfng", "Java", "Mtei", "Lina", "Hatr", "Merc",
   "Mani", "Phlp", "Hung", "Yezi", "Brah", "Ahom", "Marc", "Kawi", "Mroo", "Plrd", "Sgnw", "Adlm",
   "Arab Nkoo Rohg Syrc Thaa Yezi", "Arab Syrc", "Nkoo", "Samr", "Mand", "Thai", "Runr", "Tglg",
   "Mong Phag", "Tale", "Bugi", "Bali", "Sund", "Batk", "Beng Deva Gran Knda", "Yiii", "Lisu",
   "Bamu", "Saur", "Kali", "Rjng", "Tavt", "Arab Thaa", "Cprt Linb", "Ital", "Ugar", "Xpeo",
   "Osma", "Osge", "Aghb", "Armi", "Nbat", "Phnx", "Lydi", "Avst", "Prti", "Phli", "Rohg", "Kthi",
   "Sora", "Cakm", "Khoj", "Sind", "Newa", "Tirh", "Sidd", "Modi", "Takr", "Wara", "Tnsa", "Bass",
   "Nshu", "Kits", "Wcho", "Mend", "Cyrl Perm", "Cyrl Latn", "Arab Syrc Thaa",
   "Adlm Arab Nkoo Rohg Syrc Thaa Yezi", "Adlm Arab Mand Mani Ougr Phlp Rohg Sogd Syrc",
   "Arab Thaa Yezi", "Arab Rohg", "Thaa",
   "Beng Deva Gran Gujr Guru Knda Latn Mlym Orya Shrd Taml Telu Tirh",
   "Beng Deva Gran Gujr Guru Knda Latn Mlym Orya Taml Telu Tirh",
   "Beng Deva Dogr Gong Gonm Gran Gujr Guru Knda Mahj Mlym Nand Orya Sind Sinh Sylo Takr Taml Telu Tirh",
   "Beng Deva Dogr Gong Gonm Gran Gujr Guru Knda Limb Mahj Mlym Nand Orya Sind Sinh Sylo Takr Taml Telu Tirh",
   "Deva Dogr Kthi Mahj", "Beng Cakm Sylo", "Guru Mult", "Gujr Khoj", "Knda Nand",
   "Cakm Mymr Tale", "Geor Latn", "Ogam", "Hano", "Buhd Hano Tagb Tglg", "Buhd", "Olck",
   "Deva Knda Mlym Orya Taml Telu", "Deva Nand", "Beng Deva Gran Knda Nand Orya Telu Tirh",
   "Deva Gran Knda", "Cyrl Syrc", "Latn Mong", "Deva Gran Latn", "Brai", "Bopo Hani",
   "Hani Hira Kana", "Vaii", "Hani Latn", "Sylo",
   "Deva Dogr Gujr Guru Khoj Knda Kthi Mahj Mlym Modi Nand Sind Takr Tirh",
   "Deva Dogr Gujr Guru Khoj Knda Kthi Mahj Modi Nand Sind Takr Tirh",
   "Deva Dogr Gujr Guru Khoj Kthi Mahj Modi Sind Takr Tirh", "Phag", "Deva Taml",
   "Kali Latn Mymr", "Bugi Java", "Arab Nkoo", "Cpmn Cprt Linb", "Cprt Lina Linb", "Lyci", "Cari",
   "Arab Copt", "Goth", "Perm", "Dsrt", "Shaw", "Elba", "Palm", "Mero", "Sarb", "Narb",
   "Mani Ougr", "Orkh", "Sogo", "Sogd", "Ougr", "Chrs", "Elym", "Mahj", "Shrd", "Dogr", "Zanb",
   "Soyo", "Pauc", "Maka", "Cpmn", "Egyp", "Hluw", "Medf", "Toto", "Nagm"]

def scriptExtensionRuns : String :=
  "hCBaDGBaDvBBBDPBBDFBXDBBfDBBhODnBBFDFBC7BUBiCHBECHBEdHNDEEBBDECAEEBBBEEABEBBBEBBDEBABEBAUEBA_B
  EO8BQEjEUBrEBvBCsEBvBoFUBAmBwBCAyBwBCADwBBA3BXIAbXEAGXLAFCBBGCB0COCB0CBtECCBuEgBCBvEKCL1CKCKwE
  GCB1CjDCBxEICBBiBCOoBBA8BoBCADoBwBCyByEOA7B2CCAD2CuB3CCAP3CBAc4CCAB4CBALoBFAfCBACCGAqCCBBdCxCM
  BzEB0ECHPMB1EB2EK3EQMELBAILCACLCAWLBAHLBABLDAELCAJLCACLCAELIABLEACLBAFLCAK4EPLCADJBAGJEACJCAWJ
  BAHJBACJBACJBACJCABJBAFJEACJCADJDABJHAEJBABJHAK5EHJKADNBAJNBADNBAWNBAHNBACNBAFNCAKNBADNBADNCAB
  NPAENCAK6ECNHAHNBADOBAIOCACOCAWOBAHOBACOBAFOCAJOCACOCADOHADOEACOBAFOCASOKACIBAGIDADIBAEIDACIBA
  BIBACIDACIDADIDAMIEAFIDADIBAEICABIGABIOAOgBHIFANRBADRBAXRBAQRCAJRBADRBAERHACRBADRCABRCAERCAKRH
  AJRNTBADTBAXTBAKTBAFTCAJTBADTBAETHACTGACTBAETCAK7EBADTMANbBADbBAzBbBADbBAGbEAQbCAabBADSBASSDAY
  SBAJSBABSCAHSDABSEAGSBABSBAISGAKSCADSMA6B5CEABBc5ClBACVBABVBAFVBAYVBABVBAXVCAFVBABVBAHVBAKVCAE
  VgBAoCcBAkBcEAnBcBAkBcBAPcBAHcEBCclBAgCxBK8E2CxBmBWBABWFABWCArBWB9EEWgIPpCFBAEFCAHFBABFBAEFCAp
  BFBAEFCAhBFBAEFCAHFBABFBAEFCAPFBA5BFBAEFCAjCFCAgBFDAaFGA2C9BCAG9BCAgU-Bd-EDArC6CDBL6CHAW7CJAB7
  CV_ECgFJAUhFMAN_BBAD_BBAC_BMA-CyBCAKyBGAKyBGAChBC8CBhBB8CUhBGA5ChBHArBhBFAmC-BKAfpBBAMpBEAMpBE
  ABpBDAMpBe9CCAF9CLAsBzBEAazBGALzBDACzBgByBc-CCAC-C_BqBBAdqBCALqBGAKqBGAOqBCAfHxBAtC_CDAvB_CBAg
  CgD0BhDIAEhD4BgCDAPgCDADgCwBiFJUHArBWCADWIgDIABiDBMBiDBhCBMCdB0BBdB0BBjFBMC0BCMB0BBdHMBkFBdCMB
  dEMBlFBhCBmFCdBLChCB1BFAmBDFEBUxBDFEEDFENDBUmCDDE2BHBnFBHBoBFHgIDWECAGECAmBECAGECAIEBABEBABEBA
  BEBAfECA1BEBAPEBAOECAGEBATECADEBAJEBAMBCHhBBBoF1BBBALBBDCALBBDPBBANDDAhBBPAgBHBpFPAmBBBEDBCDGB
  BDbBBDRBpBDDBEA3UBZALBVAgdBgIqF0TBCAgBBBApDBgDiBgBD0D8BFAH8BmBWBABWFABWCA4BiCHACiCOABiCXFJAHFB
  AHFBAHFBAHFBAHFBAHFBAHFBAHFBAgBUjCBBvBaBiBAaGBA5CGMA2GGaAMBEABBCrBBjBBBDGKrBBBBjBIrBEjBBBJGErF
  CPBjBFkBBBBjBEGCsFCGBA2ClBCAEkBDlBBkB6CQBrBBkBDQFArB7BBA-CPBAQGgB7BkBGMAQQfPBAoBGYBfPBBxBGPBMG
  EBvBQBG4CQZGKBFGgDBfGBBguGGgCBgwUGtkBjDDA3BjDJAwBkDsJtFUAvBUBvBwBU4ClDIAIuFaBmDDDBgCDFACDBABDB
  AFDYAODtBvFDADwFDxFEyFGA4BzFIAmCmDIAMmDGARMBdBMB0FMMuBnDB1FBnDkBoDLABoDdPDAuCjCBAB2FKjCEACjCfx
  BBA3B2BJAO2BCAK2BCAE2BgBxBjCpDYAFpDXkCKAGFCAGFCAGFJAHFBAHFBArBDBBJDBEEDCBEAwC9BuBkCCAKkCGAk9KP
  MAXPEAxBPkoIAuLGCAqDGmBAHDMAFwBFAaXBAFXBABXBACXBACXBAKXzDCQArLCC3FwCCCA2BCHABCgBACCBqDKCBqDCCQ
  HKBGAOHCUVBCjBMBBATBBAEBEAFCBAnECCABBBAgBBaDGBaDGBFrBKQBkBtBQCkBfPDAGPCAGPCAGPCADPDAHBBAHBKAFB
  CAMeBAaeBATeBACeBAPeCAOeiBA7DeFAC4FBrDEAtB5FDAJrDvCEBANBDABEvBAtBBBHiEAd6FDAxB7FPAc8FEAkBsDJAD
  sDb9FFArB-FFAetDBABtDkBuDEAOuDqBAwC_FwBgGevDCAKvDGAkBwDEAkBwDEAoBhGIA0BxDLABxDLYBAPYBAHYBACYBA
  LYBAPYBAHYBACYjCA3JlCJAWlCKAIlCYAGDBAqBDBAJDlCAGmBCABmBBAsBmBBACmBDABmBCABmBWyDBAJyDgBiGfzDIAJ
  zDwBATmCBACmCFAFmCc0DDAB0Da1DFAB1DgCAgBjGYnCEAUnCCAuBnCEZBACZFAIZBADZBAdZCADZEAKZHAJZHAgBkGgBl
  GgBAnBoCEAHoCBmGEoCJA2B2DDAH2DW3DCAI3DT4DFAI4DSpCHAEpCMAHpCwCApCnG3BAzBqCNAzBqCHAGqCoB5DIAK5Dm
  JAfCBAqBrCBADrCCACrCrCADCoBoGIAqBpGWAaqGmBAcrGUAXsGJAuCsCEAkBsCJABsCjC6DKAB6DCAZ7DHAK7DGA1B8DB
  AS8DIAnBtGJAgDuGBAUSLAS9DBAvB9D-BAHsBBABsBBAEsBBAPsBBALsBGA7B-DFAK-DGABKBgBBKBgBBAIKCACKCAWKBA
  HKBACKBAFKBACgBIKCACKCADKCABKGABKFAHKCAHKDAFKrEA8C_DBAF_DeAoCgEIAKgEmFA2BhECAmBhEiBAlCiELAKiEG
  ANhBTA6BjEGAKjE2BAbtCCAPtCEAXtC5FA8BvGkDAzCkEMABkEHaCABaCAIaBACaBAeaBACaCAMaJAKamCAI1BCAuB1BCA
  L1BbAoCwGIAzCxGNAQ-B5ByGHAKM2HAJ3BBAtB3BBAO3BKAd3BDAgBuCCAWuCBAOuCpCAHfBACfBAsBfDABfBACfBAJfIA
  KfGAGnBBACnBBAlBnBBACnBBAGnBHAKnB2JAZzGHARvCBApBvCDAcvC2CABkDPAQICgBBIBgBeINABI6c4BmDAvD4BBAF4
  BLAkG4BsyCAjD0GNA2iB1Gq9DAnS2G5tIA5RlDHAfwCBAKwCEACwCvClEBAKlEGAemECAGmEKAmCtBKAKtBBAHtBBAVtBF
  ATtBwVA7C3GlDArCxCEA5BxCHARxCgCAB5BBnECGBoELACGOA4_F5BIAgY5B2OoEqBAJ5Bn3IAEQBAHQBACQBABQ_IlBDQ
  PABlBdADlBCABQOAEQIAsMnEkoCArDuBFANuBDAJuBHAKuBCAIuB8yEAuBHCAXHJA0DB8BA2HBKAnBBCA-BBDHRBIHCBHH
  eBEH9BBVAmCE6DAUBMAUBMA3CBJASGHBnEA1CBBAnCBBACBCABBCACBCAEBBAMBBABBBAHBBAhCBBAEBCAIBBAHBBAcBBA
  EBBAFBBABBDAHBBA0KBCAkJBCAyBBsUyCPAFyCBAPyCwiBAfDGAGD1GAHiBBARiBCAHiBBACiBBAFiBFA-BUhBABUwDAtB
  6BDAO6BCAK6BEAC6BgKAf4GRA6BpEFABpEwOAqB5GmXAHFBAEFBACFBAPFBAlGqECAQqEpBAsCzCEAKzCEACzCxYAkCBsC
  A9BBiGAECBAbCBACCBABCCABCBAKCBAECBABCBABCGABCEABCBABCBABCBADCBACCBABCCABCBABCBABCBABCBABCBACCB
  ABCCAECBAHCBAECBAECBABCBAKCBARCFADCBAFCBARC0BACCuIAsBBEAkDBMAPBCAPBBAPBBAlBBKAuFB4BAaBBlBCBNAs
  BBEAJBHACGOAGB6EA4eBEARBDANBDA3DBEA_CBGAMBEABBPAMBEA4BBIAKBGAoBBIAeBCACBuCA0KBMAOBCANBDAJBHAuB
  BBAHBIAOBEAJBHAJBHAzEBBA3BBlBAKBmgBAg3pBGgBA6hEGGA-GGCAi0FGOAxpHG_gDA-QGivBAr6EGFAgjEGxi3VABBe
  AgDBgEAwHHww_FA"

end TreeSchema.Unicode

import TreeSchema.Unicode.Coding

/-!
# Scripts

The script of each code point. Unassigned code points have the script
`Unknown`, which is not a name that a pattern can use.
-/

namespace TreeSchema.Unicode

def scriptNames : List (List String) :=
  [["Zzzz", "Unknown"], ["Zyyy", "Common"], ["Arab", "Arabic"], ["Latn", "Latin"],
   ["Grek", "Greek"], ["Ethi", "Ethiopic"], ["Zinh", "Inherited", "Qaai"], ["Hani", "Han"],
   ["Taml", "Tamil"], ["Guru", "Gurmukhi"], ["Gran", "Grantha"], ["Beng", "Bengali"],
   ["Gujr", "Gujarati"], ["Orya", "Oriya"], ["Hang", "Hangul"], ["Kana", "Katakana"],
   ["Telu", "Telugu"], ["Knda", "Kannada"], ["Sinh", "Sinhala"], ["Laoo", "Lao"],
   ["Cyrl", "Cyrillic"], ["Geor", "Georgian"], ["Hebr", "Hebrew"], ["Vith", "Vithkuqi"],
   ["Khar", "Kharoshthi"], ["Diak", "Dives_Akuru"], ["Mlym", "Malayalam"], ["Tibt", "Tibetan"],
   ["Linb", "Linear_B"], ["Gonm", "Masaram_Gondi"], ["Mong", "Mongolian"], ["Glag", "Glagolitic"],
   ["Hira", "Hiragana"], ["Cprt", "Cypriot"], ["Gong", "Gunjala_Gondi"], ["Deva", "Devanagari"],
   ["Limb", "Limbu"], ["Lana", "Tai_Tham"], ["Mult", "Multani"], ["Hmng", "Pahawh_Hmong"],
   ["Dupl", "Duployan"], ["Armn", "Armenian"], ["Syrc", "Syriac"], ["Khmr", "Khmer"],
   ["Talu", "New_Tai_Lue"], ["Cham"], ["Bhks", "Bhaiksuki"], ["Xsux", "Cuneiform"],
   ["Tang", "Tangut"], ["Hmnp", "Nyiakeng_Puachue_Hmong"], ["Bopo", "Bopomofo"],
   ["Copt", "Coptic", "Qaac"], ["Mymr", "Myanmar"], ["Cher", "Cherokee"],
   ["Cans", "Canadian_Aboriginal"], ["Tagb", "Tagbanwa"], ["Lepc", "Lepcha"],
   ["Tfng", "Tifinagh"], ["Java", "Javanese"], ["Mtei", "Meetei_Mayek"], ["Lina", "Linear_A"],
   ["Hatr", "Hatran"], ["Merc", "Meroitic_Cursive"], ["Phlp", "Psalter_Pahlavi"],
   ["Hung", "Old_Hungarian"], ["Yezi", "Yezidi"], ["Brah", "Brahmi"], ["Ahom"],
   ["Nand", "Nandinagari"], ["Marc", "Marchen"], ["Kawi"], ["Mroo", "Mro"], ["Plrd", "Miao"],
   ["Sgnw", "SignWriting"], ["Adlm", "Adlam"], ["Nkoo", "Nko"], ["Samr", "Samaritan"],
   ["Mand", "Mandaic"], ["Thai"], ["Runr", "Runic"], ["Tglg", "Tagalog"], ["Tale", "Tai_Le"],
   ["Bugi", "Buginese"], ["Bali", "Balinese"], ["Sund", "Sundanese"], ["Batk", "Batak"],
   ["Yiii", "Yi"], ["Lisu"], ["Bamu", "Bamum"], ["Saur", "Saurashtra"], ["Kali", "Kayah_Li"],
   ["Rjng", "Rejang"], ["Tavt", "Tai_Viet"], ["Ital", "Old_Italic"], ["Ugar", "Ugaritic"],
   ["Xpeo", "Old_Persian"], ["Osma", "Osmanya"], ["Osge", "Osage"],
   ["Aghb", "Caucasian_Albanian"], ["Armi", "Imperial_Aramaic"], ["Nbat", "Nabataean"],
   ["Phnx", "Phoenician"], ["Lydi", "Lydian"], ["Mani", "Manichaean"], ["Avst", "Avestan"],
   ["Prti", "Inscriptional_Parthian"], ["Phli", "Inscriptional_Pahlavi"],
   ["Rohg", "Hanifi_Rohingya"], ["Kthi", "Kaithi"], ["Sora", "Sora_Sompeng"], ["Cakm", "Chakma"],
   ["Khoj", "Khojki"], ["Sind", "Khudawadi"], ["Newa"], ["Tirh", "Tirhuta"], ["Sidd", "Siddham"],
   ["Modi"], ["Takr", "Takri"], ["Wara", "Warang_Citi"], ["Tnsa", "Tangsa"],
   ["Bass", "Bassa_Vah"], ["Nshu", "Nushu"], ["Kits", "Khitan_Small_Script"], ["Wcho", "Wancho"],
   ["Mend", "Mende_Kikakui"], ["Thaa", "Thaana"], ["Ogam", "Ogham"], ["Hano", "Hanunoo"],
   ["Buhd", "Buhid"], ["Olck", "Ol_Chiki"], ["Brai", "Braille"], ["Vaii", "Vai"],
   ["Sylo", "Syloti_Nagri"], ["Phag", "Phags_Pa"], ["Lyci", "Lycian"], ["Cari", "Carian"],
   ["Goth", "Gothic"], ["Perm", "Old_Permic"], ["Dsrt", "Deseret"], ["Shaw", "Shavian"],
   ["Elba", "Elbasan"], ["Palm", "Palmyrene"], ["Mero", "Meroitic_Hieroglyphs"],
   ["Sarb", "Old_South_Arabian"], ["Narb", "Old_North_Arabian"], ["Orkh", "Old_Turkic"],
   ["Sogo", "Old_Sogdian"], ["Sogd", "Sogdian"], ["Ougr", "Old_Uyghur"], ["Chrs", "Chorasmian"],
   ["Elym", "Elymaic"], ["Mahj", "Mahajani"], ["Shrd", "Sharada"], ["Dogr", "Dogra"],
   ["Zanb", "Zanabazar_Square"], ["Soyo", "Soyombo"], ["Pauc", "Pau_Cin_Hau"],
   ["Maka", "Makasar"], ["Cpmn", "Cypro_Minoan"], ["Egyp", "Egyptian_Hieroglyphs"],
   ["Hluw", "Anatolian_Hieroglyphs"], ["Medf", "Medefaidrin"], ["Toto"], ["Nagm", "Nag_Mundari"]]

def scriptRuns : String :=
  "hCBaDGBaDvBBBDPBBDFBXDBBfDBBhODnBBFDFBCyBUBwDGEEBBDECAEEBBBEEABEBBBEBBDEBABEBAUEBA_BEOzBQElEUC
  GpFUBAmBpBCAyBpBCADpBBA3BWIAbWEAGWLAFCBBGCBBOCBBDCBBgBCBBKCLGaCBGsDCBBiBCOqBBA8BqBCADqBwBCyB9D
  OA7BrCCADrCuBsCCAPsCBActCCABtCBALqBFAfCBACCGAqCCBBdCxCjBEGPjBCBajBELBAILCACLCAWLBAHLBABLDAELCA
  JLCACLCAELIABLEACLBAFLCAZLCADJBAGJEACJCAWJBAHJBACJBACJBACJCABJBAFJEACJCADJDABJHAEJBABJHARJKADM
  BAJMBADMBAWMBAHMBACMBAFMCAKMBADMBADMCABMPAEMCAMMHAHMBADNBAINCACNCAWNBAHNBACNBAFNCAJNCACNCADNHA
  DNEACNBAFNCASNKACIBAGIDADIBAEIDACIBABIBACIDACIDADIDAMIEAFIDADIBAEICABIGABIOAVIFANQBADQBAXQBAQQ
  CAJQBADQBAEQHACQBADQCABQCAEQCAKQHAJQNRBADRBAXRBAKRBAFRCAJRBADRBAERHACRGACRBAERCAKRBADRMANaBADa
  BAzBaBADaBAGaEAQaCAaaBADSBASSDAYSBAJSBABSCAHSDABSEAGSBABSBAISGAKSCADSMA6BuCEABBcuClBACTBABTBAF
  TBAYTBABTBAXTCAFTBABTBAHTBAKTCAETgBAoCbBAkBbEAnBbBAkBbBAPbBAHbEBCblBAgF0BmBVBABVFABVCArBVBBEVg
  IOpCFBAEFCAHFBABFBAEFCApBFBAEFCAhBFBAEFCAHFBABFBAEFCAPFBA5BFBAEFCAjCFCAgBFDAaFGA2C1BCAG1BCAgU2
  Bd-DDArCvCDBLvCHAWwCJABwCV_DCBJAUgEMAN3BBAD3BBAC3BMA-CrBCAKrBGAKrBGACeCBBeBBUeGA5CeHArBeFAmC2B
  KAfkBBAMkBEAMkBEABkBDAMkBexCCAFxCLAsBsBEAasBGALsBDACsBgBrBcyCCACyC_BlBBAdlBCALlBGAKlBGAOlBCAfG
  xBAtCzCDAvBzCBAgC0C0B1CIAE1C4B4BDAP4BDAD4BwBhEJUHArBVCADVI0CIADGBBNGBBHGEBBGGBBGDBCGBBFAmBDFEB
  UxBDFEEDFENDBUmCDBEgCGgIDWECAGECAmBECAGECAIEBABEBABEBABEBAfECA1BEBAPEBAOECAGEBATECADEBAJEBAMBC
  G3CBBALBBDCALBBDPBBANDDAhBBPAhBGPAmBBBEDBCDGBBDbBBDRBpBDDBEA3UBZALBVAgdBgIiE0TBCAgBBBApDBgDfgB
  D0DzBFAHzBmBVBABVFABVCA4B5BHAC5BOAB5BXFJAHFBAHFBAHFBAHFBAHFBAHFBAHFBAHFBAgBU-CBiBAaHBA5CHMA2GH
  aAMBEAFBBHBBBHZBJHEGCOIBEHEBBA2CgBCACGCBDgBBB6CPCBDPFArByBBA-COBAQBgByBkBBMAQPfOBAgCBfOxCBvBPB
  B4CPoFBguGHgCBgwUHtkB2CDA3B2CJAwB3CsJjEUAgDU4C4CIAiBBmDDDBgCDFACDBABDBAFDYAODtBkEDAKBGA4BlEIAm
  C5CIAM5CGAgBjBuB6CBBB6CkB7CLAB7CdODAuC6BBABBK6BEAC6Bf0BBA3BtBJAOtBCAKtBCAEtBgB0BjC8CYAF8CX7BKA
  GFCAGFCAGFJAHFBAHFBArBDBBJDBEEDCBEAwC1BuB7BCAK7BGAk9KOMAXOEAxBOkoIAuLHCAqDHmBAHDMAFpBFAaWBAFWB
  ABWBACWBACWBAKWzDCQArLCCBwCCCA2BCHABCgBAQCQGKBGAOGCUjBBBATBBAEBEAFCBAnECCABBBAgBBaDGBaDLBKPBBt
  BPCBfODAGOCAGOCAGOCADODAHBBAHBKAFBCAMcBAacBATcBACcBAPcCAOciBA7DcFADBEAtBBDAJBvCEBANBDABEvBAtBB
  BGiEAdmEDAxBnEPABGbBEAkB9CJAD9CboEFArBpEFAe-CBAB-CkB_CEAO_CqBAwCqEwBrEegDCAKgDGAkBhDEAkBhDEAoB
  sEIA0BiDLABiDLXBAPXBAHXBACXBALXBAPXBAHXBACXjCA3J8BJAW8BKAI8BYAGDBAqBDBAJDlCAGhBCABhBBAsBhBBACh
  BDABhBCABhBWjDBAJjDgBtEfkDIAJkDwBAT9BBAC9BFAF9BclDDABlDamDFABmDgCAgBuEY-BEAU-BCAuB-BEYBACYFAIY
  BADYBAdYCADYEAKYHAJYHAgBvEgBwEgBAnBnDEAMnDJA2BoDDAHoDWpDCAIpDTqDFAIqDS_BHAE_BMAH_BwCApCxE3BAzB
  gCNAzBgCHAGgCoBrDIAKrDmJAfCBAqBhCBADhCCAChCrCADCoByEIAqBzEWAa0EmBAc1EUAX2EJAuCiCEAkBiCJABiCjCs
  DKABsDCAZtDHAKtDGA1BuDBASuDIAnB3EJAgD4EBAUSLASvDBAvBvD-BAHmBBABmBBAEmBBAPmBBALmBGA7BwDFAKwDGAE
  KBAIKCACKCAWKBAHKBACKBAFKBABGJKCACKCADKCABKGABKFAHKCAHKDAFKrEA8CxDBAFxDeAoCyDIAKyDmFA2BzDCAmBz
  DiBAlC0DLAK0DGANeTA6B1DGAK1D2BAbjCCAPjCEAXjC5FA8B5EkDAzC2DMAB2DHZCABZCAIZBACZBAeZBACZCAMZJAKZm
  CAIkCCAuBkCCALkCbAoC6EIAzC7ENAQ2B5B8EHAKjB2HAJuBBAtBuBBAOuBKAduBDAgBlCCAWlCBAOlCpCAHdBACdBAsBd
  DABdBACdBAJdIAKdGAGiBBACiBBAlBiBBACiBBAGiBHAKiB2JAZ9EHARmCBApBmCDAcmC2CAB3CPAyBINABI6cvBmDAvDv
  BBAFvBLAkGvBsyCAjD-ENA2iB_Eq9DAnSgF5tIA5R4CHAfnCBAKnCEACnCvC3DBAK3DGAe4DCAG4DKAmCnBKAKnBBAHnBB
  AVnBFATnBwVA7ChFlDArCoCEA5BoCHARoCgCABwBB5DCHB6DLACHOA4_FwBIAgYwB2O6DqBAJwBn3IAEPBAHPBACPBABP_
  IgBDPPABgBdADgBCABPOAEPIAsM5DkoCArDoBFANoBDAJoBHAKoBCAEoBEB8yEAuBGCAXGJA0DB8BA2HBKAnBBCA-BBDGR
  BIGCBHGeBEG9BBVAmCE6DAUBMAUBMA3CBJAZBnEA1CBBAnCBBACBCABBCACBCAEBBAMBBABBBAHBBAhCBBAEBCAIBBAHBB
  AcBBAEBBAFBBABBDAHBBA0KBCAkJBCAyBBsUpCPAFpCBAPpCwiBAfDGAGD1GAHfBARfCAHfBACfBAFfFA-BUhBABUwDAtB
  xBDAOxBCAKxBEACxBgKAfiFRA6B7DFAB7DwOAqBjFmXAHFBAEFBACFBAPFBAlG8DCAQ8DpBAsCqCEAKqCEACqCxYAkCBsC
  A9BBiGAECBAbCBACCBABCCABCBAKCBAECBABCBABCGABCEABCBABCBABCBADCBACCBABCCABCBABCBABCBABCBABCBACCB
  ABCCAECBAHCBAECBAECBABCBAKCBARCFADCBAFCBARC0BACCuIAsBBEAkDBMAPBCAPBBAPBBAlBBKAuFB4BAaBBgBCBNAs
  BBEAJBHACBOAGB6EA4eBEARBDANBDA3DBEA_CBGAMBEABBPAMBEA4BBIAKBGAoBBIAeBCACBuCA0KBMAOBCANBDAJBHAuB
  BBAHBIAOBEAJBHAJBHAzEBBA3BBlBAKBmgBAg3pBHgBA6hEHGA-GHCAi0FHOAxpHH_gDA-QHivBAr6EHFAgjEHxi3VABBe
  AgDBgEAwHGww_FA"

end TreeSchema.Unicode

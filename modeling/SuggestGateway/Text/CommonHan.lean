import SuggestGateway.Text.RunTable
/-!
# Common Han characters

The ideographs of everyday Chinese text: the 3755 characters of the first level of GB 2312,
which orders them as the most frequent. Text whose ideographs are mostly outside this set is
more likely bytes read in the wrong code than real writing.
-/
namespace SuggestGateway

def commonHanTable : RunTable := RunTable.ofRanges <| String.join [
    "4E00:4E01,4E03:4E03,4E07:4E0B,4E0D:4E0E,4E11:4E11,4E13:4E14,4E16:4E16,4E18:4E1D,4E22:4E22,",
    "4E24:4E25,4E27:4E27,4E2A:4E2B,4E2D:4E2D,4E30:4E30,4E32:4E32,4E34:4E34,4E38:4E3B,4E3D:4E3E,",
    "4E43:4E43,4E45:4E45,4E48:4E49,4E4B:4E50,4E52:4E54,4E56:4E56,4E58:4E59,4E5D:4E61,4E66:4E66,",
    "4E70:4E71,4E73:4E73,4E7E:4E7E,4E86:4E86,4E88:4E89,4E8B:4E8C,4E8E:4E8F,4E91:4E92,4E94:4E95,",
    "4E9A:4E9B,4EA1:4EA2,4EA4:4EA9,4EAB:4EAE,4EB2:4EB2,4EBA:4EBA,4EBF:4EC1,4EC5:4EC7,4ECA:4ECB,",
    "4ECD:4ECE,4ED1:4ED1,4ED3:4ED9,4EDF:4EDF,4EE3:4EE5,4EEA:4EEA,4EEC:4EEC,4EF0:4EF0,4EF2:4EF2,",
    "4EF6:4EF7,4EFB:4EFB,4EFD:4EFD,4EFF:4EFF,4F01:4F01,4F0A:4F0A,4F0D:4F11,4F17:4F1A,4F1E:4F20,",
    "4F24:4F24,4F26:4F26,4F2A:4F2A,4F2F:4F30,4F34:4F34,4F36:4F36,4F38:4F38,4F3A:4F3A,4F3C:4F3C,",
    "4F43:4F43,4F46:4F46,4F4D:4F51,4F53:4F53,4F55:4F55,4F59:4F59,4F5B:4F5C,4F60:4F60,4F63:4F63,",
    "4F69:4F69,4F6C:4F6C,4F6F:4F70,4F73:4F73,4F7F:4F7F,4F84:4F84,4F88:4F88,4F8B:4F8B,4F8D:4F8D,",
    "4F97:4F97,4F9B:4F9B,4F9D:4F9D,4FA0:4FA0,4FA3:4FA3,4FA5:4FA9,4FAE:4FAF,4FB5:4FB5,4FBF:4FBF,",
    "4FC3:4FC4,4FCA:4FCA,4FCF:4FD0,4FD7:4FD8,4FDD:4FDE,4FE1:4FE1,4FE9:4FE9,4FED:4FEF,4FF1:4FF1,",
    "4FFA:4FFA,500D:500D,5012:5012,5014:5014,5018:501A,501F:501F,5021:5021,5026:5026,502A:502A,",
    "503A:503A,503C:503C,503E:503E,5047:5047,504F:504F,505A:505A,505C:505C,5065:5065,5076:5077,",
    "507F:5080,5085:5085,5088:5088,508D:508D,50A3:50A3,50A8:50A8,50AC:50AC,50B2:50B2,50BB:50BB,",
    "50CF:50CF,50DA:50DA,50E7:50E7,50F3:50F3,50F5:50F5,50FB:50FB,5112:5112,5121:5121,513F:513F,",
    "5141:5141,5143:5146,5148:5149,514B:514B,514D:514D,5151:5151,5154:5154,515A:515A,515C:515C,",
    "5162:5162,5165:5165,5168:5168,516B:516D,5170:5171,5173:5179,517B:517D,5180:5180,5185:5185,",
    "5188:5189,518C:518D,5192:5192,5195:5195,5197:5197,5199:5199,519B:519C,51A0:51A0,51A4:51A4,",
    "51AC:51AC,51AF:51B0,51B2:51B3,51B5:51B7,51BB:51BB,51C0:51C0,51C4:51C4,51C6:51C6,51C9:51C9,",
    "51CB:51CC,51CF:51CF,51D1:51D1,51DB:51DB,51DD:51DD,51E0:51E1,51E4:51E4,51ED:51ED,51EF:51F0,",
    "51F3:51F3,51F6:51F6,51F8:51FB,51FD:51FD,51FF:5201,5203:5203,5206:5207,520A:520A,5211:5212,",
    "5217:521B,521D:521D,5220:5220,5224:5224,5228:5229,522B:522B,522E:522E,5230:5230,5236:523B,",
    "523D:523D,5241:5243,524A:524A,524D:524D,5250:5251,5254:5254,5256:5256,5265:5265,5267:5267,",
    "5269:526A,526F:526F,5272:5272,527F:527F,5288:5288,529B:529B,529D:52A1,52A3:52A3,52A8:52AB,",
    "52B1:52B3,52BF:52BF,52C3:52C3,52C7:52C7,52C9:52C9,52CB:52CB,52D2:52D2,52D8:52D8,52DF:52DF,",
    "52E4:52E4,52FA:52FA,52FE:5300,5305:5306,5308:5308,5316:5317,5319:5319,531D:531D,5320:5321,",
    "5323:5323,532A:532A,5339:533B,533F:533F,5341:5341,5343:5343,5347:534A,534E:534F,5351:5353,",
    "5355:5357,535A:535A,535C:535C,535E:535E,5360:5362,5364:5364,5367:5367,536B:536B,536F:5371,",
    "5373:5375,5377:5378,537F:537F,5382:5382,5384:5386,5389:5389,538B:538C,5395:5395,5398:5398,",
    "539A:539A,539F:539F,53A2:53A2,53A6:53A6,53A8:53A9,53BB:53BB,53BF:53BF,53C1:53C2,53C8:53CD,",
    "53D1:53D1,53D4:53D4,53D6:53D9,53DB:53DB,53E0:53E0,53E3:53E6,53EA:53F0,53F2:53F3,53F6:53F9,",
    "53FC:53FC,5401:5401,5403:5404,5408:540A,540C:5411,5413:5413,5415:5415,5417:5417,541B:541B,",
    "541D:5420,5426:5429,542B:542F,5431:5431,5434:5435,5438:5439,543B:543C,543E:543E,5440:5440,",
    "5446:5446,5448:5448,544A:544A,5450:5450,5455:5455,5458:5458,545B:545C,5462:5462,5468:5468,",
    "5473:5473,5475:5475,5478:5478,547B:547D,5480:5480,5486:5486,548B:548C,548E:5490,5492:5492,",
    "5495:5496,5499:5499,54A8:54A8,54AC:54AC,54AF:54AF,54B1:54B1,54B3:54B3,54B8:54B8,54BD:54BD,",
    "54C0:54C1,54C4:54C4,54C6:54C9,54CD:54CE,54D1:54D1,54D7:54D7,54DF:54DF,54E5:54E6,54E8:54EA,",
    "54ED:54EE,54F2:54F2,54FA:54FA,54FC:54FC,5501:5501,5506:5507,5509:5509,5510:5510,5524:5524,",
    "552C:552C,552E:552F,5531:5531,553E:553E,5543:5544,5546:5546,554A:554A,5561:5561,5564:5566,",
    "556A:556A,556E:556E,5578:5578,557C:557C,5580:5580,5582:5582,5584:5584,5587:5587,5589:558A,",
    "5598:5598,559C:559D,55A7:55A7,55B3:55B3,55B7:55B7,55BB:55BB,55C5:55C5,55D3:55D3,55DC:55DC,",
    "55E1:55E1,55E3:55E3,55FD:55FD,5609:5609,560E:560E,5618:5618,561B:561B,5631:5632,5634:5634,",
    "5636:5636,563B:563B,563F:563F,564E:564E,5668:5668,566A:566A,566C:566C,5676:5676,568E:568F,",
    "56A3:56A3,56B7:56B7,56BC:56BC,56CA:56CA,56DA:56DB,56DE:56DE,56E0:56E0,56E2:56E2,56E4:56E4,",
    "56ED:56ED,56F0:56F1,56F4:56F4,56FA:56FA,56FD:56FE,5703:5703,5706:5706,5708:5708,571F:571F,",
    "5723:5723,5728:5728,572D:572D,5730:5730,573A:573A,573E:573E,5740:5740,5747:5747,574A:574A,",
    "574D:5751,5757:5757,575A:575B,575D:5761,5764:5764,5766:5766,576A:576A,576F:576F,5777:5777,",
    "5782:5784,578B:578B,5792:5792,579B:579B,57A2:57A3,57A6:57A6,57AB:57AB,57AE:57AE,57C2:57C3,",
    "57CB:57CB,57CE:57CE,57D4:57D4,57DF:57E0,57F9:57FA,5802:5802,5806:5806,5811:5811,5815:5815,",
    "5821:5821,5824:5824,582A:582A,5830:5830,5835:5835,584C:584C,5851:5851,5854:5854,5858:5858,",
    "585E:585E,586B:586B,5883:5883,5885:5885,5892:5893,5899:5899,589E:589F,58A8:58A9,58C1:58C1,",
    "58D5:58D5,58E4:58E4,58EB:58EC,58EE:58EE,58F0:58F0,58F3:58F3,58F6:58F6,58F9:58F9,5904:5904,",
    "5907:5907,590D:590D,590F:590F,5915:5916,591A:591A,591C:591C,591F:591F,5927:5927,5929:592B,",
    "592E:592F,5931:5931,5934:5934,5937:593A,5944:5944,5947:5949,594B:594B,594E:594F,5951:5951,",
    "5954:5954,5956:5957,5960:5960,5962:5962,5965:5965,5973:5974,5976:5976,5978:5979,597D:597D,",
    "5982:5982,5984:5984,5986:5988,598A:598A,5992:5993,5996:5996,5999:5999,59A5:59A5,59A8:59A8,",
    "59AE:59AE,59B9:59B9,59BB:59BB,59C6:59C6,59CB:59CB,59D0:59D1,59D3:59D4,59DA:59DA,59DC:59DC,",
    "59E5:59E5,59E8:59E8,59EC:59EC,59FB:59FB,59FF:59FF,5A01:5A01,5A03:5A04,5A07:5A07,5A18:5A18,",
    "5A1C:5A1C,5A1F:5A20,5A25:5A25,5A29:5A29,5A31:5A31,5A36:5A36,5A46:5A46,5A49:5A49,5A5A:5A5A,",
    "5A6A:5A6A,5A74:5A74,5A76:5A76,5A7F:5A7F,5A92:5A92,5A9A:5A9A,5AB3:5AB3,5AC1:5AC2,5AC9:5AC9,",
    "5ACC:5ACC,5AE1:5AE1,5AE9:5AE9,5B50:5B50,5B54:5B55,5B57:5B59,5B5C:5B5D,5B5F:5B5F,5B63:5B64,",
    "5B66:5B66,5B69:5B6A,5B70:5B70,5B75:5B75,5B7A:5B7A,5B7D:5B7D,5B81:5B81,5B83:5B83,5B85:5B85,",
    "5B87:5B89,5B8B:5B8C,5B8F:5B8F,5B97:5B9E,5BA0:5BA4,5BA6:5BA6,5BAA:5BAB,5BB0:5BB0,5BB3:5BB6,",
    "5BB9:5BB9,5BBD:5BBF,5BC2:5BC2,5BC4:5BC7,5BCC:5BCC,5BD0:5BD0,5BD2:5BD3,5BDD:5BDF,5BE1:5BE1,",
    "5BE5:5BE5,5BE8:5BE8,5BF8:5BFC,5BFF:5BFF,5C01:5C01,5C04:5C04,5C06:5C06,5C09:5C0A,5C0F:5C0F,",
    "5C11:5C11,5C14:5C14,5C16:5C16,5C18:5C18,5C1A:5C1A,5C1D:5C1D,5C24:5C24,5C27:5C27,5C31:5C31,",
    "5C38:5C3A,5C3C:5C42,5C45:5C45,5C48:5C4B,5C4E:5C4F,5C51:5C51,5C55:5C55,5C5E:5C5E,5C60:5C61,",
    "5C65:5C65,5C6F:5C6F,5C71:5C71,5C79:5C79,5C7F:5C7F,5C81:5C82,5C94:5C94,5C97:5C97,5C9B:5C9B,",
    "5CA9:5CA9,5CAD:5CAD,5CB3:5CB3,5CB8:5CB8,5CBF:5CBF,5CD9:5CD9,5CE1:5CE1,5CE6:5CE6,5CE8:5CE8,",
    "5CEA:5CEA,5CED:5CED,5CF0:5CF0,5CFB:5CFB,5D07:5D07,5D0E:5D0E,5D14:5D14,5D16:5D16,5D29:5D29,",
    "5D2D:5D2D,5D4C:5D4C,5DCD:5DCD,5DDD:5DDE,5DE1:5DE2,5DE5:5DE9,5DEB:5DEB,5DEE:5DEE,5DF1:5DF4,",
    "5DF7:5DF7,5DFE:5DFE,5E01:5E03,5E05:5E06,5E08:5E08,5E0C:5E0C,5E10:5E10,5E15:5E16,5E18:5E18,",
    "5E1A:5E1D,5E26:5E27,5E2D:5E2E,5E38:5E38,5E3D:5E3D,5E42:5E42,5E45:5E45,5E4C:5E4C,5E55:5E55,",
    "5E62:5E62,5E72:5E74,5E76:5E76,5E78:5E78,5E7B:5E7D,5E7F:5E7F,5E84:5E84,5E86:5E87,5E8A:5E8A,",
    "5E8F:5E90,5E93:5E95,5E97:5E97,5E99:5E9A,5E9C:5E9C,5E9E:5E9F,5EA6:5EA7,5EAD:5EAD,5EB6:5EB8,",
    "5EC9:5ECA,5ED3:5ED3,5ED6:5ED6,5EF6:5EF7,5EFA:5EFA,5F00:5F00,5F02:5F04,5F0A:5F0A,5F0F:5F0F,",
    "5F13:5F13,5F15:5F15,5F17:5F18,5F1B:5F1B,5F1F:5F20,5F25:5F27,5F2F:5F2F,5F31:5F31,5F39:5F3A,",
    "5F52:5F53,5F55:5F55,5F5D:5F5D,5F62:5F62,5F64:5F64,5F66:5F66,5F69:5F6A,5F6C:5F6D,5F70:5F71,",
    "5F79:5F79,5F7B:5F7C,5F80:5F81,5F84:5F85,5F88:5F88,5F8A:5F8B,5F90:5F90,5F92:5F92,5F97:5F98,",
    "5FA1:5FA1,5FAA:5FAA,5FAE:5FAE,5FB7:5FB7,5FBD:5FBD,5FC3:5FC3,5FC5:5FC6,5FCC:5FCD,5FD7:5FD9,",
    "5FE0:5FE0,5FE7:5FE7,5FEB:5FEB,5FF1:5FF1,5FF5:5FF5,5FFB:5FFB,5FFD:5FFD,5FFF:6002,600E:600E,",
    "6012:6012,6014:6016,601C:601D,6020:6020,6025:6025,6027:6028,602A:602A,602F:602F,603B:603B,",
    "6043:6043,604B:604B,604D:604D,6050:6050,6052:6052,6055:6055,6062:6062,6064:6064,6068:6069,",
    "606B:606D,606F:6070,6073:6073,6076:6076,607C:607C,607F:607F,6084:6084,6089:6089,608D:608D,",
    "6094:6094,609F:60A0,60A3:60A3,60A6:60A6,60A8:60A8,60AC:60AC,60AF:60AF,60B2:60B2,60B8:60B8,",
    "60BC:60BC,60C5:60C5,60CA:60CB,60D1:60D1,60D5:60D5,60DC:60DC,60DF:60E0,60E6:60E9,60EB:60EB,",
    "60ED:60F0,60F3:60F3,60F6:60F6,60F9:60FA,6101:6101,6108:6109,610F:610F,611A:611A,611F:611F,",
    "6124:6124,6127:6127,613F:613F,6148:6148,614C:614C,614E:614E,6151:6151,6155:6155,6162:6162,",
    "6167:6168,6170:6170,6177:6177,618B:618B,618E:618E,61A8:61A8,61BE:61BE,61C2:61C2,61C8:61C8,",
    "61CA:61CA,61D2:61D2,61E6:61E6,6208:6208,620A:620A,620C:6212,6216:6216,6218:6218,621A:621A,",
    "622A:622A,622E:622E,6233:6234,6237:6237,623F:6241,6247:6247,624B:624B,624D:624E,6251:6254,",
    "6258:6258,625B:625B,6263:6263,6266:6267,6269:6269,626B:6270,6273:6273,6276:6276,6279:6279,",
    "627C:627C,627E:6280,6284:6284,6289:628A,6291:6293,6295:6298,629A:629B,62A0:62A2,62A4:62A5,",
    "62A8:62A8,62AB:62AC,62B1:62B1,62B5:62B5,62B9:62B9,62BC:62BD,62BF:62BF,62C2:62C2,62C4:62C9,",
    "62CC:62CE,62D0:62D0,62D2:62D4,62D6:62D6,62D8:62D9,62DB:62DC,62DF:62DF,62E2:62E3,62E5:62E9,",
    "62EC:62ED,62EF:62EF,62F1:62F1,62F3:62F4,62F7:62F7,62FC:62FF,6301:6302,6307:6307,6309:6309,",
    "630E:630E,6311:6311,6316:6316,631A:631B,631D:6321,6323:6325,6328:6328,632A:632B,632F:632F,",
    "633A:633A,633D:633D,6342:6342,6345:6346,6349:6349,634C:6350,6355:6355,635E:635F,6361:6363,",
    "6367:6367,636E:636E,6376:6377,637B:637B,6380:6380,6382:6382,6387:6389,638C:638C,638F:6390,",
    "6392:6392,6396:6396,6398:6398,63A0:63A0,63A2:63A3,63A5:63A5,63A7:63AA,63B3:63B3,63B7:63B8,",
    "63BA:63BA,63C9:63C9,63CD:63CD,63CF:63D0,63D2:63D2,63D6:63D6,63E1:63E1,63E3:63E3,63E9:63EA,",
    "63ED:63ED,63F4:63F4,63FD:63FD,6400:6402,6405:6405,640F:6410,6413:6414,641C:641C,641E:641E,",
    "642A:642A,642C:642D,643A:643A,643D:643D,6444:6444,6446:6448,644A:644A,6454:6454,6458:6458,",
    "6467:6467,6469:6469,6478:6479,6482:6482,6485:6485,6487:6487,6491:6492,6495:6495,649E:649E,",
    "64A4:64A4,64A9:64A9,64AC:64AE,64B0:64B0,64B5:64B5,64BC:64BC,64C2:64C2,64C5:64C5,64CD:64CE,",
    "64D2:64D2,64DE:64DE,64E6:64E6,6500:6500,6512:6512,6518:6518,652B:652B,652F:652F,6536:6536,",
    "6539:6539,653B:653B,653E:653F,6545:6545,6548:6548,654C:654C,654F:654F,6551:6551,6556:6556,",
    "6559:6559,655B:655B,655D:655E,6562:6563,6566:6566,656C:656C,6570:6570,6572:6572,6574:6574,",
    "6577:6577,6587:6587,658B:658C,6591:6591,6597:6597,6599:6599,659C:659C,659F:659F,65A1:65A1,",
    "65A4:65A5,65A7:65A7,65A9:65A9,65AD:65AD,65AF:65B0,65B9:65B9,65BD:65BD,65C1:65C1,65C5:65C5,",
    "65CB:65CB,65CF:65CF,65D7:65D7,65E0:65E0,65E2:65E2,65E5:65E9,65EC:65ED,65F1:65F1,65F6:65F7,",
    "65FA:65FA,6602:6602,6606:6606,660C:660C,660E:660F,6613:6614,661F:6620,6625:6625,6627:6628,",
    "662D:662D,662F:662F,663C:663C,663E:663E,6643:6643,664B:664C,6652:6653,6655:6655,665A:665A,",
    "6664:6664,6666:6666,6668:6668,666E:6670,6674:6674,6676:6676,667A:667A,667E:667E,6682:6682,",
    "6687:6687,6691:6691,6696:6697,66AE:66AE,66B4:66B4,66D9:66D9,66DD:66DD,66F0:66F0,66F2:66F4,",
    "66F9:66F9,66FC:66FC,66FE:6700,6708:6709,670B:670B,670D:670D,6714:6714,6717:6717,671B:671B,",
    "671D:671D,671F:671F,6728:6728,672A:672D,672F:672F,6731:6731,6734:6735,673A:673A,673D:673D,",
    "6740:6740,6742:6743,6746:6746,6749:6749,674E:6751,6756:6756,675C:675C,675F:6761,6765:6765,",
    "6768:6768,676D:676D,676F:6770,677E:677F,6781:6781,6784:6784,6789:6789,6790:6790,6795:6795,",
    "6797:6797,679A:679A,679C:679D,67A2:67A3,67AA:67AB,67AF:67AF,67B6:67B7,67C4:67C4,67CF:67D4,",
    "67DC:67DC,67DE:67DE,67E0:67E0,67E5:67E5,67EC:67EC,67EF:67EF,67F1:67F1,67F3:67F4,67FF:67FF,",
    "6805:6805,6807:6808,680B:680B,680F:680F,6811:6811,6813:6813,6816:6817,6821:6821,682A:682A,",
    "6837:6839,683C:683D,6842:6843,6845:6846,6848:6848,684C:684C,6850:6851,6853:6854,6863:6863,",
    "6865:6865,6868:6869,6876:6876,6881:6881,6885:6886,6897:6897,68A2:68A2,68A6:68A8,68AD:68AD,",
    "68AF:68B0,68B3:68B3,68C0:68C0,68C9:68C9,68CB:68CB,68CD:68CD,68D2:68D2,68D5:68D5,68D8:68D8,",
    "68DA:68DA,68E0:68E0,68EE:68EE,68F1:68F1,68F5:68F5,68FA:68FA,6905:6905,690D:690E,6912:6912,",
    "692D:692D,6930:6930,693D:693D,693F:693F,6954:6954,695A:695A,695E:695E,6977:6977,697C:697C,",
    "6982:6982,6986:6986,6994:6994,699C:699C,69A8:69A8,69B4:69B4,69B7:69B7,69D0:69D0,69DB:69DB,",
    "69FD:69FD,6A0A:6A0A,6A1F:6A1F,6A21:6A21,6A2A:6A2A,6A31:6A31,6A47:6A47,6A59:6A59,6A61:6A61,",
    "6A71:6A71,6A80:6A80,6A84:6A84,6AAC:6AAC,6B20:6B23,6B27:6B27,6B32:6B32,6B3A:6B3A,6B3E:6B3E,",
    "6B47:6B47,6B49:6B49,6B4C:6B4C,6B62:6B67,6B6A:6B6A,6B79:6B79,6B7B:6B7C,6B83:6B83,6B86:6B86,",
    "6B89:6B8B,6B96:6B96,6BB4:6BB5,6BB7:6BB7,6BBF:6BBF,6BC1:6BC1,6BC5:6BC5,6BCB:6BCB,6BCD:6BCD,",
    "6BCF:6BCF,6BD2:6BD2,6BD4:6BD7,6BD9:6BD9,6BDB:6BDB,6BE1:6BE1,6BEB:6BEB,6BEF:6BEF,6C0F:6C0F,",
    "6C11:6C11,6C13:6C14,6C16:6C16,6C1B:6C1B,6C1F:6C1F,6C22:6C22,6C26:6C28,6C2E:6C30,6C34:6C34,",
    "6C38:6C38,6C40:6C42,6C47:6C47,6C49:6C49,6C50:6C50,6C55:6C55,6C57:6C57,6C5B:6C5B,6C5D:6C61,",
    "6C64:6C64,6C6A:6C6A,6C70:6C70,6C72:6C72,6C79:6C79,6C7D:6C7E,6C81:6C83,6C88:6C89,6C8F:6C8F,",
    "6C99:6C99,6C9B:6C9B,6C9F:6C9F,6CA1:6CA1,6CA4:6CA7,6CAA:6CAB,6CAE:6CAE,6CB3:6CB3,6CB8:6CB9,",
    "6CBB:6CBF,6CC4:6CC5,6CC9:6CCA,6CCC:6CCC,6CD5:6CD5,6CDB:6CDB,6CDE:6CDE,6CE1:6CE3,6CE5:6CE5,",
    "6CE8:6CE8,6CEA:6CEA,6CF0:6CF0,6CF3:6CF3,6CF5:6CF5,6CFB:6CFD,6D01:6D01,6D0B:6D0B,6D12:6D12,",
    "6D17:6D17,6D1B:6D1B,6D1E:6D1E,6D25:6D25,6D2A:6D2A,6D31:6D32,6D3B:6D3E,6D41:6D41,6D45:6D47,",
    "6D4A:6D4B,6D4E:6D4E,6D51:6D51,6D53:6D53,6D59:6D5A,6D66:6D66,6D69:6D6A,6D6E:6D6E,6D74:6D74,",
    "6D77:6D78,6D82:6D82,6D85:6D85,6D88:6D89,6D8C:6D8C,6D8E:6D8E,6D95:6D95,6D9B:6D9B,6D9D:6D9D,",
    "6D9F:6D9F,6DA1:6DA1,6DA3:6DA4,6DA6:6DAA,6DAF:6DAF,6DB2:6DB2,6DB5:6DB5,6DB8:6DB8,6DC0:6DC0,",
    "6DC4:6DC4,6DC6:6DC6,6DCB:6DCC,6DD1:6DD1,6DD6:6DD6,6DD8:6DD8,6DE1:6DE1,6DE4:6DE4,6DEB:6DEC,",
    "6DEE:6DEE,6DF1:6DF1,6DF3:6DF3,6DF7:6DF7,6DF9:6DF9,6DFB:6DFB,6E05:6E05,6E0A:6E0A,6E0D:6E0D,",
    "6E10:6E10,6E14:6E14,6E17:6E17,6E1D:6E1D,6E20:6E21,6E23:6E24,6E29:6E29,6E2D:6E2D,6E2F:6E2F,",
    "6E34:6E34,6E38:6E38,6E3A:6E3A,6E43:6E43,6E4D:6E4D,6E56:6E56,6E58:6E58,6E5B:6E5B,6E7E:6E7F,",
    "6E83:6E83,6E85:6E85,6E89:6E89,6E90:6E90,6E9C:6E9C,6EA2:6EA2,6EAA:6EAA,6EAF:6EAF,6EB6:6EB6,",
    "6EBA:6EBA,6EC1:6EC1,6EC7:6EC7,6ECB:6ECB,6ED1:6ED1,6ED3:6ED4,6EDA:6EDA,6EDE:6EDE,6EE1:6EE1,",
    "6EE4:6EE6,6EE8:6EE9,6EF4:6EF4,6F02:6F02,6F06:6F06,6F0F:6F0F,6F13:6F14,6F20:6F20,6F2B:6F2B,",
    "6F31:6F31,6F33:6F33,6F3E:6F3E,6F4D:6F4D,6F58:6F58,6F5C:6F5C,6F5E:6F5E,6F66:6F66,6F6D:6F6E,",
    "6F84:6F84,6F88:6F88,6F8E:6F8E,6F9C:6F9C,6FA1:6FA1,6FB3:6FB3,6FC0:6FC0,6FD2:6FD2,7011:7011,",
    "704C:704C,706B:706B,706D:706D,706F:7070,7075:7076,7078:7078,707C:707C,707E:707F,7089:708A,",
    "708E:708E,7092:7092,7094:7095,7099:7099,70AC:70AF,70B3:70B3,70B8:70B9,70BC:70BD,70C1:70C3,",
    "70C8:70C8,70D8:70D9,70DB:70DB,70DF:70DF,70E4:70E4,70E6:70E7,70E9:70E9,70EB:70ED,70EF:70EF,",
    "70F7:70F7,70F9:70F9,70FD:70FD,7109:710A,7115:7115,7119:711A,7126:7126,7130:7130,7136:7136,",
    "714C:714C,714E:714E,715E:715E,7164:7164,7167:7167,716E:716E,717D:717D,7184:7184,718A:718A,",
    "718F:718F,7194:7194,7199:7199,719F:719F,71AC:71AC,71C3:71C3,71CE:71CE,71D5:71D5,71E5:71E5,",
    "7206:7206,722A:722A,722C:722C,7231:7231,7235:7239,723D:723D,7247:7248,724C:724C,7259:7259,",
    "725B:725B,725F:725F,7261:7262,7267:7267,7269:7269,7272:7272,7275:7275,7279:727A,7280:7281,",
    "728A:728A,72AC:72AC,72AF:72AF,72B6:72B6,72B9:72B9,72C2:72C2,72C4:72C4,72C8:72C8,72D0:72D0,",
    "72D7:72D7,72D9:72D9,72DE:72DE,72E0:72E1,72EC:72EE,72F0:72F1,72F8:72F8,72FC:72FC,730E:730E,",
    "7316:7316,731B:731C,7329:732B,732E:732E,7334:7334,733E:733F,736D:736D,7384:7384,7387:7387,",
    "7389:7389,738B:738B,7396:7396,739B:739B,73A9:73A9,73AB:73AB,73AF:73B0,73B2:73B2,73BB:73BB,",
    "73CA:73CA,73CD:73CD,73D0:73D0,73E0:73E0,73ED:73ED,7403:7403,7405:7406,7409:7409,7410:7410,",
    "7422:7422,7433:7436,743C:743C,745A:745A,745E:745F,7470:7470,7476:7476,7483:7483,74DC:74DC,",
    "74E2:74E4,74E6:74E6,74EE:74EE,74F6:74F7,7504:7504,7518:7518,751A:751A,751C:751C,751F:751F,",
    "7525:7525,7528:7529,752B:752B,752D:752D,7530:7533,7535:7535,7537:7538,753B:753B,7545:7545,",
    "754C:754C,754F:754F,7554:7554,7559:7559,755C:755C,7565:7566,756A:756A,7574:7574,7578:7578,",
    "7586:7586,758F:758F,7591:7591,7597:7597,7599:759A,759F:759F,75A1:75A1,75A4:75A5,75AB:75AB,",
    "75AE:75AF,75B2:75B2,75B5:75B5,75B9:75B9,75BC:75BE,75C5:75C5,75C7:75CA,75D2:75D2,75D4:75D5,",
    "75D8:75D8,75DB:75DB,75DE:75DE,75E2:75E2,75EA:75EA,75F0:75F0,75F4:75F4,75F9:75F9,7601:7601,",
    "761F:761F,7624:7624,7626:7626,7629:762B,7634:7634,7638:7638,764C:764C,7663:7663,7678:7678,",
    "767B:767B,767D:767E,7682:7682,7684:7684,7686:7687,768B:768B,7691:7691,7696:7696,76AE:76AE,",
    "76B1:76B1,76BF:76BF,76C2:76C2,76C5:76C6,76C8:76C8,76CA:76CA,76CE:76D2,76D4:76D4,76D6:76D8,",
    "76DB:76DB,76DF:76DF,76EE:76EF,76F2:76F2,76F4:76F4,76F8:76F8,76FC:76FC,76FE:76FE,7701:7701,",
    "7709:7709,770B:770B,771F:7720,7728:7729,772F:772F,7736:7737,773A:773A,773C:773C,7740:7741,",
    "775B:775B,7761:7761,7763:7763,7766:7766,776B:776C,7779:7779,7784:7785,778E:778E,7792:7792,",
    "77A5:77A5,77A7:77A7,77A9:77AA,77AC:77AC,77B3:77B3,77BB:77BB,77D7:77D7,77DB:77DB,77E2:77E3,",
    "77E5:77E5,77E9:77E9,77EB:77EB,77ED:77EE,77F3:77F3,77FD:77FF,7801:7802,780C:780D,7812:7812,",
    "7814:7814,7816:7816,781A:781A,7827:7827,7830:7830,7834:7834,7837:7838,783E:783E,7840:7840,",
    "7845:7845,7852:7852,7855:7855,785D:785D,786B:786C,786E:786E,7877:7877,787C:787C,7889:7889,",
    "788C:788E,7891:7891,7897:7898,789F:789F,78A7:78A7,78B0:78B1,78B3:78B4,78BE:78BE,78C1:78C1,",
    "78C5:78C5,78CA:78CB,78D0:78D0,78D5:78D5,78E8:78E8,78F7:78F7,78FA:78FA,7901:7901,793A:793A,",
    "793C:793C,793E:793E,7941:7941,7948:7948,7956:7956,795D:795F,7965:7965,7968:7968,796D:796D,",
    "7977:7978,7981:7981,7984:7984,798F:798F,79B9:79B9,79BB:79BB,79BD:79BE,79C0:79C1,79C3:79C3,",
    "79C6:79C6,79C9:79C9,79CB:79CB,79CD:79CD,79D1:79D2,79D8:79D8,79DF:79DF,79E4:79E4,79E6:79E7,",
    "79E9:79E9,79EF:79F0,79F8:79F8,79FB:79FB,79FD:79FD,7A00:7A00,7A0B:7A0B,7A0D:7A0E,7A17:7A17,",
    "7A1A:7A1A,7A20:7A20,7A33:7A33,7A3B:7A3D,7A3F:7A3F,7A46:7A46,7A57:7A57,7A74:7A74,7A76:7A77,",
    "7A7A:7A7A,7A7F:7A7F,7A81:7A81,7A83:7A84,7A8D:7A8D,7A91:7A92,7A96:7A98,7A9C:7A9D,7A9F:7A9F,",
    "7AA5:7AA5,7ABF:7ABF,7ACB:7ACB,7AD6:7AD6,7AD9:7AD9,7ADE:7AE0,7AE3:7AE3,7AE5:7AE5,7AED:7AED,",
    "7AEF:7AEF,7AF9:7AF9,7AFF:7AFF,7B06:7B06,7B0B:7B0B,7B11:7B11,7B14:7B14,7B1B:7B1B,7B26:7B26,",
    "7B28:7B28,7B2C:7B2C,7B3A:7B3A,7B3C:7B3C,7B49:7B49,7B4B:7B4B,7B4F:7B52,7B54:7B54,7B56:7B56,",
    "7B5B:7B5B,7B77:7B77,7B79:7B79,7B7E:7B7E,7B80:7B80,7B8D:7B8D,7B94:7B95,7B97:7B97,7BA1:7BA1,",
    "7BA9:7BA9,7BAD:7BAD,7BB1:7BB1,7BC6:7BC7,7BD3:7BD3,7BD9:7BD9,7BE1:7BE1,7BEE:7BEE,7BF1:7BF1,",
    "7BF7:7BF7,7C07:7C07,7C27:7C27,7C3F:7C3F,7C4D:7C4D,7C73:7C73,7C7B:7C7B,7C7D:7C7D,7C89:7C89,",
    "7C92:7C92,7C95:7C95,7C97:7C98,7C9F:7C9F,7CA4:7CA5,7CAA:7CAA,7CAE:7CAE,7CB1:7CB1,7CB3:7CB3,",
    "7CB9:7CB9,7CBE:7CBE,7CCA:7CCA,7CD5:7CD6,7CD9:7CD9,7CDC:7CDC,7CDF:7CE0,7CEF:7CEF,7CFB:7CFB,",
    "7D0A:7D0A,7D20:7D20,7D22:7D22,7D27:7D27,7D2B:7D2B,7D2F:7D2F,7D6E:7D6E,7E41:7E41,7E82:7E82,",
    "7EA0:7EA0,7EA2:7EA2,7EA4:7EA4,7EA6:7EA7,7EAA:7EAC,7EAF:7EAF,7EB1:7EB3,7EB5:7EBA,7EBD:7EBD,",
    "7EBF:7EBF,7EC3:7EC8,7ECA:7ECA,7ECD:7ECF,7ED1:7ED3,7ED5:7ED5,7ED8:7EDA,7EDC:7EDF,7EE2:7EE3,",
    "7EE5:7EE7,7EE9:7EEA,7EED:7EED,7EF0:7EF0,7EF3:7EF5,7EF7:7EF8,7EFC:7EFD,7EFF:7F00,7F04:7F06,",
    "7F09:7F09,7F0E:7F0E,7F13:7F16,7F18:7F18,7F1A:7F1A,7F1D:7F1D,7F20:7F20,7F28:7F29,7F2E:7F2E,",
    "7F34:7F34,7F38:7F38,7F3A:7F3A,7F50:7F51,7F55:7F55,7F57:7F57,7F5A:7F5A,7F62:7F62,7F69:7F6A,",
    "7F6E:7F6E,7F72:7F72,7F8A:7F8A,7F8C:7F8C,7F8E:7F8E,7F94:7F94,7F9A:7F9A,7F9E:7F9E,7FA1:7FA1,",
    "7FA4:7FA4,7FB9:7FB9,7FBD:7FBD,7FC1:7FC1,7FC5:7FC5,7FCC:7FCC,7FD4:7FD4,7FD8:7FD8,7FDF:7FE0,",
    "7FF0:7FF1,7FFB:7FFC,8000:8001,8003:8003,8005:8005,800C:800D,8010:8010,8015:8015,8017:8019,",
    "802A:802A,8033:8033,8036:8036,8038:8038,803B:803B,803D:803D,803F:803F,8042:8042,804A:804C,",
    "8054:8054,8058:8058,805A:805A,806A:806A,8083:8084,8086:8087,8089:8089,808B:808C,8096:8096,",
    "8098:8098,809A:809B,809D:809D,80A0:80A2,80A4:80A5,80A9:80AA,80AE:80AF,80B2:80B2,80BA:80BA,",
    "80BE:80C1,80C3:80C3,80C6:80C6,80CC:80CC,80CE:80CE,80D6:80D6,80DA:80DA,80DC:80DC,80DE:80DE,",
    "80E1:80E1,80EF:80F0,80F3:80F3,80F6:80F6,80F8:80F8,80FA:80FA,80FD:80FD,8102:8102,8106:8106,",
    "8109:810A,810F:8111,8113:8113,8116:8116,811A:811A,812F:812F,8131:8131,8138:8138,813E:813E,",
    "8146:8146,814A:814B,8150:8151,8154:8155,8165:8165,816E:816E,8170:8170,8179:817B,817E:8180,",
    "818A:818A,818F:818F,8198:8198,819B:819D,81A8:81A8,81B3:81B3,81C0:81C0,81C2:81C3,81C6:81C6,",
    "81E3:81E3,81EA:81EA,81ED:81ED,81F3:81F4,81FB:81FC,8200:8200,8205:8206,820C:820D,8212:8212,",
    "8214:8214,821C:821C,821E:821F,822A:822A,822C:822C,8230:8231,8235:8237,8239:8239,8247:8247,",
    "8258:8258,826F:8270,8272:8273,827A:827A,827E:827E,8282:8282,828B:828B,828D:828D,8292:8292,",
    "829C:829D,82A5:82A6,82AC:82AD,82AF:82AF,82B1:82B1,82B3:82B3,82B9:82B9,82BD:82BD,82C7:82C7,",
    "82CD:82CD,82CF:82CF,82D1:82D1,82D4:82D4,82D7:82D7,82DB:82DB,82DE:82DF,82E5:82E6,82EB:82EB,",
    "82EF:82EF,82F1:82F1,82F9:82F9,8301:8305,830E:830E,8327:8328,832B:832C,8335:8336,8338:8339,",
    "8346:8346,8349:8349,8350:8350,8352:8352,8354:8354,835A:835A,8361:8361,8363:8364,8367:8367,",
    "836B:836B,836F:836F,8377:8377,8386:8386,8389:8389,838E:838E,83AB:83AB,83B1:83B2,83B7:83B7,",
    "83B9:83B9,83BD:83BD,83C7:83C7,83CA:83CA,83CC:83CC,83CF:83CF,83DC:83DC,83E0:83E0,83E9:83E9,",
    "83F1:83F2,8404:8404,840C:840E,841D:841D,8424:8425,8427:8428,843D:843D,8457:8457,845B:845B,",
    "8461:8461,8463:8463,846B:846C,8471:8471,8475:8475,8482:8482,848B:848B,8499:8499,849C:849C,",
    "84B2:84B2,84B8:84B8,84C4:84C4,84C9:84C9,84D1:84D1,84D6:84D6,84DD:84DD,84DF:84DF,84EC:84EC,",
    "8511:8511,8513:8513,8517:8517,851A:851A,8521:8521,852B:852C,8537:8537,853C:853D,8549:854A,",
    "8574:8574,857E:857E,8584:8584,859B:859B,85AA:85AA,85AF:85AF,85C9:85C9,85CF:85D0,85D5:85D5,",
    "85E4:85E4,85E9:85E9,85FB:85FB,8611:8611,8638:8638,864E:8651,865A:865A,865E:865E,866B:866B,",
    "8671:8671,8679:8679,867D:867E,8680:8682,868A:868A,868C:868C,8695:8695,869C:869C,86A4:86A4,",
    "86C0:86C0,86C6:86C7,86CA:86CB,86D4:86D4,86D9:86D9,86DB:86DB,86E4:86E4,86EE:86EE,86F0:86F0,",
    "86F9:86F9,86FE:86FE,8700:8700,8702:8702,8712:8712,8715:8715,8717:8718,871C:871C,8721:8721,",
    "8747:8747,8749:8749,874E:874E,8757:8757,8774:8774,8776:8776,878D:878D,879F:879F,87BA:87BA,",
    "87F9:87F9,8815:8815,8822:8822,8840:8840,8845:8845,884C:884D,8854:8854,8857:8857,8859:8859,",
    "8861:8861,8863:8863,8865:8865,8868:8868,886B:886C,8870:8870,8877:8877,8881:8881,8884:8884,",
    "888B:888B,888D:888D,8892:8892,8896:8896,889C:889C,88AB:88AB,88AD:88AD,88B1:88B1,88C1:88C2,",
    "88C5:88C5,88D4:88D5,88D9:88D9,88E4:88E4,88F3:88F4,88F8:88F9,8902:8902,8910:8910,8912:8912,",
    "8925:8925,892A:892A,8944:8944,895F:895F,897F:897F,8981:8981,8986:8986,89C1:89C2,89C4:89C6,",
    "89C8:89C9,89D2:89D2,89E3:89E3,89E6:89E6,8A00:8A00,8A79:8A79,8A89:8A8A,8A93:8A93,8B66:8B66,",
    "8B6C:8B6C,8BA1:8BA5,8BA8:8BA9,8BAB:8BAB,8BAD:8BB0,8BB2:8BB3,8BB6:8BB6,8BB8:8BBA,8BBC:8BC1,",
    "8BC4:8BC6,8BC8:8BCA,8BCC:8BCD,8BD1:8BD1,8BD5:8BD5,8BD7:8BD7,8BDA:8BDB,8BDD:8BDE,8BE1:8BE3,",
    "8BE5:8BE7,8BEB:8BED,8BEF:8BEF,8BF1:8BF2,8BF4:8BF5,8BF7:8BF8,8BFA:8BFB,8BFD:8BFE,8C01:8C01,",
    "8C03:8C03,8C05:8C06,8C08:8C08,8C0A:8C0B,8C0D:8C0E,8C10:8C10,8C13:8C13,8C17:8C17,8C1A:8C1A,",
    "8C1C:8C1C,8C22:8C24,8C26:8C26,8C28:8C29,8C2C:8C2D,8C30:8C31,8C34:8C34,8C37:8C37,8C41:8C41,",
    "8C46:8C46,8C4C:8C4C,8C61:8C62,8C6A:8C6B,8C79:8C7A,8C89:8C89,8C8C:8C8C,8D1D:8D1F,8D21:8D31,",
    "8D34:8D35,8D37:8D3A,8D3C:8D3C,8D3E:8D3F,8D41:8D44,8D4A:8D4C,8D4E:8D50,8D54:8D54,8D56:8D56,",
    "8D58:8D58,8D5A:8D5B,8D5E:8D5E,8D60:8D64,8D66:8D66,8D6B:8D6B,8D70:8D70,8D74:8D77,8D81:8D81,",
    "8D85:8D85,8D8A:8D8B,8D9F:8D9F,8DA3:8DA3,8DB3:8DB4,8DBE:8DBE,8DC3:8DC3,8DCB:8DCC,8DD1:8DD1,",
    "8DDD:8DDD,8DDF:8DDF,8DE8:8DE8,8DEA:8DEA,8DEF:8DEF,8DF3:8DF3,8DF5:8DF5,8DFA:8DFA,8E0A:8E0A,",
    "8E0C:8E0C,8E0F:8E0F,8E1E:8E1E,8E22:8E22,8E29:8E2A,8E44:8E44,8E48:8E48,8E4B:8E4B,8E66:8E66,",
    "8E6C:8E6D,8E72:8E72,8E7F:8E7F,8E81:8E81,8E87:8E87,8EAB:8EAC,8EAF:8EAF,8EB2:8EB2,8EBA:8EBA,",
    "8F66:8F69,8F6C:8F6C,8F6E:8F70,8F74:8F74,8F7B:8F7B,8F7D:8F7D,8F7F:8F7F,8F83:8F83,8F85:8F86,",
    "8F88:8F8A,8F90:8F91,8F93:8F93,8F95:8F97,8F99:8F99,8F9B:8F9C,8F9E:8F9F,8FA3:8FA3,8FA8:8FA9,",
    "8FAB:8FAB,8FB0:8FB1,8FB9:8FB9,8FBD:8FBE,8FC1:8FC2,8FC4:8FC5,8FC7:8FC8,8FCE:8FCE,8FD0:8FD1,",
    "8FD4:8FD4,8FD8:8FD9,8FDB:8FDF,8FE2:8FE2,8FEA:8FEB,8FED:8FED,8FF0:8FF0,8FF7:8FF9,8FFD:8FFD,",
    "9000:9003,9006:9006,9009:900A,900F:9010,9012:9012,9014:9014,9017:9017,901A:901B,901D:9020,",
    "9022:9022,902E:902E,9038:9038,903B:903C,903E:903E,9041:9042,9047:9047,904D:904D,904F:904F,",
    "9053:9053,9057:9057,9063:9063,9065:9065,906D:906E,9075:9075,907F:9080,9091:9091,9093:9093,",
    "90A2:90A3,90A6:90A6,90AA:90AA,90AE:90AF,90B1:90B1,90B5:90B5,90B9:90B9,90BB:90BB,90C1:90C1,",
    "90CA:90CA,90CE:90CE,90D1:90D1,90DD:90DD,90E1:90E1,90E7:90E8,90ED:90ED,90F4:90F4,90F8:90F8,",
    "90FD:90FD,9102:9102,9119:9119,9149:9149,914B:914D,9152:9152,9157:9157,915A:915A,915D:915E,",
    "9163:9163,9165:9165,916A:916A,916C:916C,916E:916E,9171:9171,9175:9178,917F:917F,9187:9187,",
    "9189:9189,918B:918B,9192:9192,919A:919B,91C7:91C7,91C9:91CA,91CC:91CF,91D1:91D1,91DC:91DC,",
    "9274:9274,9488:9489,948E:948E,9492:9493,9499:9499,949D:94A2,94A5:94A9,94AE:94AE,94B1:94B1,",
    "94B3:94B3,94B5:94B5,94BB:94BB,94BE:94BE,94C0:94C3,94C5:94C6,94DC:94DD,94E1:94E1,94E3:94E3,",
    "94EC:94ED,94F0:94F2,94F6:94F6,94F8:94F8,94FA:94FA,94FE:94FE,9500:9501,9504:9505,9508:9508,",
    "950B:950C,9510:9511,9517:9517,9519:951A,9521:9521,9523:9526,9528:9528,952D:9530,9539:9539,",
    "953B:953B,9540:9541,9547:9547,954A:954A,954D:954D,9550:9551,955C:955C,9563:9563,956D:956D,",
    "9570:9570,9576:9576,957F:957F,95E8:95E8,95EA:95EA,95ED:95F0,95F2:95F2,95F4:95F4,95F7:95FB,",
    "95FD:95FD,9600:9602,9605:9605,9609:9609,960E:960E,9610:9611,9614:9614,961C:961C,961F:961F,",
    "962E:962E,9632:9636,963B:963B,963F:9640,9644:9648,964B:964D,9650:9650,9655:9655,965B:965B,",
    "9661:9662,9664:9664,9668:966A,9675:9677,9685:9686,968B:968B,968F:9690,9694:9694,9698:9699,",
    "969C:969C,96A7:96A7,96B6:96B6,96BE:96BE,96C0:96C1,96C4:96C7,96CC:96CD,96CF:96CF,96D5:96D5,",
    "96E8:96E8,96EA:96EA,96F6:96F7,96F9:96F9,96FE:96FE,9700:9700,9704:9704,9707:9707,9709:9709,",
    "970D:970D,9713:9713,9716:9716,971C:971C,971E:971E,9732:9732,9738:9739,9752:9752,9756:9756,",
    "9759:9759,975B:975B,975E:975E,9760:9762,9769:9769,9773:9774,9776:9776,978B:978B,978D:978D,",
    "9798:9798,97A0:97A0,97AD:97AD,97E6:97E7,97E9:97E9,97ED:97ED,97F3:97F3,97F5:97F6,9875:9877,",
    "9879:987B,987D:987F,9881:9882,9884:9888,988A:988A,9890:9891,9893:9893,9896:9898,989C:989D,",
    "98A0:98A0,98A4:98A4,98A7:98A7,98CE:98CE,98D8:98D8,98DE:98DF,9910:9910,9965:9965,996D:9972,",
    "9975:9976,997A:997A,997C:997C,997F:997F,9981:9981,9985:9986,9988:9988,998B:998B,998F:998F,",
    "9992:9992,9996:9996,9999:9999,9A6C:9A71,9A73:9A74,9A76:9A76,9A79:9A79,9A7B:9A7C,9A7E:9A7E,",
    "9A82:9A82,9A84:9A84,9A86:9A87,9A8B:9A8C,9A8F:9A8F,9A91:9A91,9A97:9A97,9A9A:9A9A,9AA1:9AA1,",
    "9AA4:9AA4,9AA8:9AA8,9AB8:9AB8,9AD3:9AD3,9AD8:9AD8,9B03:9B03,9B3C:9B3C,9B41:9B42,9B44:9B44,",
    "9B4F:9B4F,9B54:9B54,9C7C:9C7C,9C81:9C81,9C8D:9C8D,9C9C:9C9C,9CA4:9CA4,9CB8:9CB8,9CC3:9CC3,",
    "9CD6:9CD6,9CDE:9CDE,9E1F:9E1F,9E21:9E21,9E23:9E23,9E25:9E26,9E2D:9E2D,9E2F:9E2F,9E33:9E33,",
    "9E35:9E35,9E3D:9E3D,9E3F:9E3F,9E43:9E43,9E45:9E45,9E4A:9E4A,9E4F:9E4F,9E64:9E64,9E70:9E70,",
    "9E7F:9E7F,9E93:9E93,9EA6:9EA6,9EBB:9EBB,9EC4:9EC4,9ECD:9ECE,9ED1:9ED1,9ED4:9ED4,9ED8:9ED8,",
    "9F0E:9F0E,9F13:9F13,9F20:9F20,9F3B:9F3B,9F50:9F50,9F7F:9F7F,9F84:9F84,9F8B:9F8B,9F99:9F9A,",
    "9F9F:9F9F,"]

def isCommonHan (c : Char) : Bool := commonHanTable.contains c.toNat

end SuggestGateway
